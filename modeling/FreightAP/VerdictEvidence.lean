import FreightAP.Assembly.Row

/-!
# The verdict is its evidence

The exception reasons are collected on a list of their own while the checks are
made, by `_check` and by the SLA policy, each in its own way.
`Evidence.Faithful` says that the two lists never part: the reasons are the
reason codes of the failed checks, in their order.  It holds of no check and
every check keeps it, so it holds of the evidence of every row and every set of
papers (`faithful_evidence`).

The status is then read off the outcomes alone, and `reconcile_shipment_exact`
says so of the row and the result that the service writes.
-/

namespace FreightAP

/-! ## Reasons and failed checks -/

/-- The reason codes of the checks that failed. -/
def failedReasons (checks : List Check) : List (Option String) :=
  (checks.filter fun c => c.outcome = .failed).map Check.reasonCode

@[simp] theorem failedReasons_nil : failedReasons [] = [] := rfl

@[simp] theorem failedReasons_append (checks checks' : List Check) :
    failedReasons (checks ++ checks') = failedReasons checks ++ failedReasons checks' := by
  simp [failedReasons]

@[simp] theorem failedReasons_cons (c : Check) (checks : List Check) :
    failedReasons (c :: checks) =
      if c.outcome = .failed then c.reasonCode :: failedReasons checks
      else failedReasons checks := by
  cases h : c.outcome <;> simp [failedReasons, h]

theorem failedReasons_eq_nil {checks : List Check} :
    failedReasons checks = [] ↔ ∀ c ∈ checks, c.outcome ≠ .failed := by
  simp [failedReasons, List.filter_eq_nil_iff]

/-- The exception reasons are the reason codes of the failed checks. -/
def Evidence.Faithful (e : Evidence) : Prop :=
  e.exceptionReasons.map some = failedReasons e.checks

theorem faithful_nil : Evidence.Faithful ⟨[], []⟩ := rfl

/-- A check made with a reason keeps the two lists together. -/
theorem Evidence.Faithful.check {e : Evidence} (h : e.Faithful) {checkName details reason : String}
    {outcome : CheckOutcome} (hr : reason ≠ "") :
    (e.check checkName outcome details (some reason)).Faithful := by
  rw [Evidence.Faithful] at h
  cases outcome <;> simp [Evidence.Faithful, Evidence.check, h, hr]

/-- So does a check that cannot fail. -/
theorem Evidence.Faithful.check_open {e : Evidence} (h : e.Faithful) {checkName details : String}
    {outcome : CheckOutcome} {reason : Option String} (ho : outcome ≠ .failed) :
    (e.check checkName outcome details reason).Faithful := by
  rw [Evidence.Faithful] at h
  simp [Evidence.Faithful, Evidence.check, h, ho]

section

variable [PyRuntime]

/-- The checks of the required documents fail where the policy gives a reason. -/
theorem failedReasons_required (s : Shipment) (overdue : Bool) (deadlineAt : Int)
    (ds : List Slot) :
    failedReasons (ds.map fun d => requiredDocumentCheck (s.has d) overdue deadlineAt d) =
      if overdue then (ds.filter fun d => !s.has d).map fun d => some d.overdueReason else [] := by
  induction ds with
  | nil => simp
  | cons d ds ih =>
      rw [List.map_cons, failedReasons_cons, ih]
      cases hd : s.has d <;> cases overdue <;> simp [requiredDocumentCheck, hd]

theorem Evidence.Faithful.policy {e : Evidence} (h : e.Faithful) (s : Shipment)
    (now slaDuration : Int) :
    (policyChecks (evaluateMissingDocumentPolicy s now slaDuration) e).Faithful := by
  rw [Evidence.Faithful] at h
  simp only [Evidence.Faithful, policyChecks, evaluateMissingDocumentPolicy, List.map_append,
    failedReasons_append, failedReasons_required, h]
  split
  · simp [Shipment.missingSlots]
  · simp

/-- The evidence of a row and its papers is faithful. -/
theorem faithful_evidence (s : Shipment) (p : Papers) (now slaDuration : Int) :
    (evidence s p (evaluateMissingDocumentPolicy s now slaDuration)).Faithful := by
  have hamount : (amountCheck p.invoice p.rateCon ⟨[], []⟩).Faithful := by
    unfold amountCheck
    split
    · exact faithful_nil.check (by simp)
    · exact faithful_nil.check_open (by simp)
  have hcarrier :
      (carrierCheck p.invoice p.rateCon (amountCheck p.invoice p.rateCon ⟨[], []⟩)).Faithful := by
    unfold carrierCheck
    split
    · exact hamount.check_open (by simp)
    · exact hamount.check (by simp)
  have hpickup : (pickupDateCheck p.rateCon p.bol (carrierCheck p.invoice p.rateCon
      (amountCheck p.invoice p.rateCon ⟨[], []⟩))).Faithful := by
    unfold pickupDateCheck
    split
    · exact hcarrier.check (by simp)
    · exact hcarrier.check_open (by simp)
  have hdelivery : (deliveryCheck s.hasPod p.pod (pickupDateCheck p.rateCon p.bol
      (carrierCheck p.invoice p.rateCon (amountCheck p.invoice p.rateCon ⟨[], []⟩)))).Faithful := by
    unfold deliveryCheck
    split
    · exact hpickup.check (by simp)
    · exact hpickup.check_open (by simp)
  exact (hdelivery.policy s now slaDuration).check_open (by split <;> simp)

end

/-! ## The status read off the outcomes -/

section

variable {e : Evidence}

/-- Faithful evidence gives a reason exactly when a check failed. -/
theorem Evidence.Faithful.reasons_eq_nil (h : e.Faithful) :
    e.exceptionReasons = [] ↔ ∀ c ∈ e.checks, c.outcome ≠ .failed := by
  rw [← failedReasons_eq_nil, ← h, List.map_eq_nil_iff]

/-- Faithful evidence is clean exactly when every check passed. -/
theorem Evidence.Faithful.clean (h : e.Faithful) :
    e.Clean ↔ ∀ c ∈ e.checks, c.outcome = .passed := by
  constructor
  · intro hclean c hc
    have hfailed := h.reasons_eq_nil.mp hclean.reasons c hc
    have hopen := hclean.evaluated c hc
    cases ho : c.outcome with
    | passed => rfl
    | failed => exact absurd ho hfailed
    | notEvaluated => exact absurd ho hopen
  · intro hpassed
    have hfailed : ∀ c ∈ e.checks, c.outcome ≠ .failed := fun c hc => by simp [hpassed c hc]
    exact ⟨h.reasons_eq_nil.mpr hfailed, fun c hc => by simp [hpassed c hc]⟩

theorem statusOfEvidence_eq_exception {missingDocs : List String} :
    statusOfEvidence missingDocs e = .exception ↔ e.exceptionReasons ≠ [] := by
  unfold statusOfEvidence
  cases he : e.exceptionReasons with
  | nil =>
      simp only [List.isEmpty_nil, not_true_eq_false, if_false, ne_eq, iff_false]
      split <;> simp
  | cons r rs => simp

/-- A status that is neither of the two decided ones is partial. -/
theorem statusOfEvidence_eq_partialSet {missingDocs : List String}
    (hexception : statusOfEvidence missingDocs e ≠ .exception)
    (hreconciled : statusOfEvidence missingDocs e ≠ .reconciled) :
    statusOfEvidence missingDocs e = .partialSet := by
  unfold statusOfEvidence at *
  split at hexception
  · exact absurd rfl hexception
  next hr =>
    rw [if_neg hr] at hreconciled ⊢
    split at hreconciled
    next hm => rw [if_pos hm]
    next => exact absurd rfl hreconciled

end

/-! ## The verdict of the service -/

section

variable [PyRuntime]

/-- What the row and the result of an evaluation of the papers `p` say. -/
structure ExactVerdict (s : Shipment) (p : Papers) (r : ReconciliationResult) : Prop where
  reasons : r.exceptionReasons.map some = failedReasons r.checks
  missing : r.missingDocs = (Slot.all.filter fun d => s.has d = false).map Slot.requiredName
  exception : s.reconciliationStatus = .exception ↔ ∃ c ∈ r.checks, c.outcome = .failed
  reconciled : s.reconciliationStatus = .reconciled ↔ ∀ c ∈ r.checks, c.outcome = .passed
  compared : s.reconciliationStatus = .reconciled → (∀ d, s.has d = true) ∧ p.Agree
  otherwise : s.reconciliationStatus ≠ .exception → s.reconciliationStatus ≠ .reconciled →
    s.reconciliationStatus = .partialSet

/-- A row with the status of its evidence and a result with its lists are an
exact verdict. -/
theorem exactVerdict_of_evidence {s : Shipment} {p : Papers} {now slaDuration : Int}
    {r : ReconciliationResult}
    (hchecks : r.checks = (evidence s p (evaluateMissingDocumentPolicy s now slaDuration)).checks)
    (hreasons : r.exceptionReasons =
      (evidence s p (evaluateMissingDocumentPolicy s now slaDuration)).exceptionReasons)
    (hmissing : r.missingDocs = (evaluateMissingDocumentPolicy s now slaDuration).missingDocs)
    {row : Shipment} (hhas : ∀ d, row.has d = s.has d)
    (hstatus : row.reconciliationStatus = reconciliationStatus s p now slaDuration) :
    ExactVerdict row p r := by
  have hfaithful := faithful_evidence s p now slaDuration
  have hreconciled : row.reconciliationStatus = .reconciled ↔
      ∀ c ∈ r.checks, c.outcome = .passed := by
    rw [hstatus, reconciliationStatus, statusOfEvidence_eq_reconciled, hchecks,
      ← hfaithful.clean]
    -- the last check is open while a document is missing
    exact and_iff_right_of_imp fun hclean => (clean_missingDocsCheck.mp hclean).2
  constructor
  case reasons => rw [hreasons, hchecks, hfaithful]
  case missing =>
    rw [hmissing]
    simp [evaluateMissingDocumentPolicy, Shipment.missingSlots, hhas]
  case exception =>
    rw [hstatus, reconciliationStatus, statusOfEvidence_eq_exception, hchecks, ne_eq,
      hfaithful.reasons_eq_nil]
    simp
  case reconciled => exact hreconciled
  case compared =>
    intro h
    obtain ⟨hall, hagree⟩ := reconciliationStatus_eq_reconciled.mp (hstatus ▸ h)
    exact ⟨fun d => (hhas d).trans (hall d), hagree⟩
  case otherwise =>
    rw [hstatus]
    exact statusOfEvidence_eq_partialSet

variable (ses : Session) (s : Shipment) (ev : Evaluation) (db : Database)

omit [PyRuntime] in
/-- The lists of the result row, found or new, are those of the evidence. -/
theorem resultRow_lists (e : Evidence) (missingDocs : List String)
    (found : Option ReconciliationResult) :
    (resultRow ses s ev e missingDocs found).checks = e.checks ∧
      (resultRow ses s ev e missingDocs found).exceptionReasons = e.exceptionReasons ∧
      (resultRow ses s ev e missingDocs found).missingDocs = missingDocs := by
  cases found <;> exact ⟨rfl, rfl, rfl⟩

/-- The row and the result of `reconcile_shipment` are an exact verdict on the
papers it read. -/
theorem reconcileShipment_exactVerdict :
    ExactVerdict (reconcileShipment ses s ev db).1 (shipmentPapers s db)
      (reconcileShipment ses s ev db).2.1 := by
  obtain ⟨hchecks, hreasons, hmissing⟩ := resultRow_lists ses (reconcileShipment ses s ev db).1 ev
    (evidence (noteRateConfirmation s db) (shipmentPapers (noteRateConfirmation s db) db)
      (evaluateMissingDocumentPolicy (noteRateConfirmation s db) (ev.now.getD ses.clock)
        (ev.slaDuration.getD ses.slaDuration)))
    (evaluateMissingDocumentPolicy (noteRateConfirmation s db) (ev.now.getD ses.clock)
      (ev.slaDuration.getD ses.slaDuration)).missingDocs
    (existingResult? ev db)
  rw [← reconcileShipment_result] at hchecks hreasons hmissing
  rw [← shipmentPapers_noteRateConfirmation]
  exact exactVerdict_of_evidence hchecks hreasons hmissing (fun d => reconcileShipment_has d) rfl

/-- After `reconcile_shipment` the verdict is exactly its evidence, on the row
and on the result, and these are the rows on file.  The result is the one found
for the run or the key, if there was one, and a new one otherwise. -/
theorem reconcile_shipment_exact :
    ExactVerdict (reconcileShipment ses s ev db).1 (shipmentPapers s db)
        (reconcileShipment ses s ev db).2.1 ∧
      Table.get? Shipment.id (reconcileShipment ses s ev db).1.id
          (db.apply (reconcileShipment ses s ev db).2.2).shipments =
        some (reconcileShipment ses s ev db).1 ∧
      Table.get? ReconciliationResult.id (reconcileShipment ses s ev db).2.1.id
          (db.apply (reconcileShipment ses s ev db).2.2).reconciliationResults =
        some (reconcileShipment ses s ev db).2.1 ∧
      (∀ found, existingResult? ev db = some found →
        (reconcileShipment ses s ev db).2.1.id = found.id) ∧
      (existingResult? ev db = none →
        (reconcileShipment ses s ev db).2.1.id = ses.resultUuid) := by
  obtain ⟨-, hshipments, -, hresults⟩ := reconcileShipment_writes ses s ev db
  refine ⟨reconcileShipment_exactVerdict ses s ev db, ?_, ?_, ?_, ?_⟩
  · rw [Database.shipments_apply, hshipments]
    exact Table.get?_put_self
  · rw [Database.results_apply, hresults]
    exact Table.get?_put_self
  · intro found hfound
    rw [reconcileShipment_result, hfound]
    rfl
  · intro hnone
    rw [reconcileShipment_result, hnone]
    rfl

end

end FreightAP
