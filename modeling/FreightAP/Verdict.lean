import FreightAP.Reconciliation

/-!
# What a verdict says

One lemma for each check, in two directions.  `Evidence.Clean` asks that nothing
failed and nothing was left open, and a check keeps evidence clean exactly when
it passed.  So a shipment is reconciled exactly when its four flags are up and
its papers agree (`reconciliationStatus_eq_reconciled`).  Papers of which only
some have arrived raise no reason either, before the deadline (`quiet_evidence`).
-/

namespace FreightAP

variable [PyRuntime]

/-! ## Papers that agree -/

/-- The invoice amount is within the tolerance of the agreed rate. -/
def AmountsAgree (invoice rateCon : Option Extraction) : Prop :=
  ∃ total rate, invoiceTotal invoice = some total ∧ agreedRate rateCon = some rate ∧
    |total - rate| ≤ |rate| * amountTolerance

/-- The two carriers are named and are the same once normalised. -/
def CarriersAgree (invoice rateCon : Option Extraction) : Prop :=
  carrierOf invoice ≠ "" ∧ carrierOf invoice = carrierOf rateCon

/-- The pickup date is within a day of the shipment date. -/
def DatesAgree (rateCon bol : Option Extraction) : Prop :=
  ∃ pickup ship, bolPickupDate bol = some pickup ∧ rateConShipDate rateCon = some ship ∧
    (pickup - ship).natAbs ≤ 1

/-- The proof of delivery names a delivery date and a condition. -/
def DeliveryConfirmed (pod : Option Extraction) : Prop :=
  (field pod "delivery_date").truthy = true ∧ (field pod "condition").truthy = true

/-- The papers agree on every check reconciliation makes on their content. -/
structure Papers.Agree (p : Papers) : Prop where
  amounts : AmountsAgree p.invoice p.rateCon
  carriers : CarriersAgree p.invoice p.rateCon
  dates : DatesAgree p.rateCon p.bol
  delivery : DeliveryConfirmed p.pod

/-! ## Clean evidence -/

/-- Nothing failed and nothing was left open. -/
structure Evidence.Clean (e : Evidence) : Prop where
  reasons : e.exceptionReasons = []
  evaluated : ∀ c ∈ e.checks, c.outcome ≠ .notEvaluated

omit [PyRuntime] in
theorem clean_nil : Evidence.Clean ⟨[], []⟩ := ⟨rfl, by simp⟩

omit [PyRuntime] in
theorem clean_check {e : Evidence} {checkName details : String} {outcome : CheckOutcome}
    {reason : Option String} :
    (e.check checkName outcome details reason).Clean ↔ e.Clean ∧ outcome = .passed := by
  constructor
  · rintro ⟨hr, he⟩
    cases outcome with
    | passed =>
        refine ⟨⟨by simpa [Evidence.check] using hr, fun c hc => he c ?_⟩, rfl⟩
        exact List.mem_append_left _ hc
    | failed => simp [Evidence.check] at hr
    | notEvaluated => exact absurd rfl (he _ (List.mem_append_right _ (List.mem_singleton_self _)))
  · rintro ⟨⟨hr, he⟩, rfl⟩
    refine ⟨by simpa [Evidence.check] using hr, fun c hc => ?_⟩
    rcases List.mem_append.mp hc with hc | hc
    · exact he c hc
    · rw [List.mem_singleton.mp hc]
      simp

omit [PyRuntime] in
@[simp] theorem outcomeOf_eq_passed (ok : Bool) : outcomeOf ok = .passed ↔ ok = true := by
  cases ok <;> simp [outcomeOf]

omit [PyRuntime] in
@[simp] theorem outcomeOf_eq_failed (ok : Bool) : outcomeOf ok = .failed ↔ ok = false := by
  cases ok <;> simp [outcomeOf]

theorem clean_amountCheck {invoice rateCon : Option Extraction} {e : Evidence} :
    (amountCheck invoice rateCon e).Clean ↔ e.Clean ∧ AmountsAgree invoice rateCon := by
  unfold amountCheck AmountsAgree
  cases invoiceTotal invoice with
  | none => simp [clean_check]
  | some total =>
      cases agreedRate rateCon with
      | none => simp [clean_check]
      | some rate => simp [clean_check, withinTolerance]

theorem clean_carrierCheck {invoice rateCon : Option Extraction} {e : Evidence} :
    (carrierCheck invoice rateCon e).Clean ↔ e.Clean ∧ CarriersAgree invoice rateCon := by
  unfold carrierCheck CarriersAgree
  split
  next h =>
    rw [clean_check]
    simp only [reduceCtorEq, and_false, false_iff, not_and]
    rintro - hi heq
    exact h.elim hi fun hr => hi (heq.trans hr)
  next h =>
    rw [clean_check, outcomeOf_eq_passed, decide_eq_true_iff]
    rw [not_or] at h
    simp [h.1]

theorem clean_pickupDateCheck {rateCon bol : Option Extraction} {e : Evidence} :
    (pickupDateCheck rateCon bol e).Clean ↔ e.Clean ∧ DatesAgree rateCon bol := by
  unfold pickupDateCheck DatesAgree
  cases bolPickupDate bol with
  | none => simp [clean_check]
  | some pickup =>
      cases rateConShipDate rateCon with
      | none => simp [clean_check]
      | some ship => simp [clean_check]

theorem clean_deliveryCheck {hasPod : Bool} {pod : Option Extraction} {e : Evidence} :
    (deliveryCheck hasPod pod e).Clean ↔ e.Clean ∧ hasPod = true ∧ DeliveryConfirmed pod := by
  unfold deliveryCheck DeliveryConfirmed
  cases hasPod with
  | false => simp [clean_check]
  | true => simp [clean_check]

theorem clean_policyChecks {s : Shipment} {now slaDuration : Int} {e : Evidence}
    (h : s.missingSlots = []) :
    (policyChecks (evaluateMissingDocumentPolicy s now slaDuration) e).Clean ↔ e.Clean := by
  have hall := (missingSlots_eq_nil s).mp h
  constructor
  · rintro ⟨hr, he⟩
    exact ⟨(List.append_eq_nil_iff.mp hr).1, fun c hc => he c (List.mem_append_left _ hc)⟩
  · rintro ⟨hr, he⟩
    refine ⟨by simp [policyChecks, evaluateMissingDocumentPolicy, hr, h], fun c hc => ?_⟩
    rcases List.mem_append.mp hc with hc | hc
    · exact he c hc
    · obtain ⟨d, -, rfl⟩ := List.mem_map.mp hc
      simp [requiredDocumentCheck, hall d]

omit [PyRuntime] in
theorem clean_missingDocsCheck {missingDocs : List String} {e : Evidence} :
    (missingDocsCheck missingDocs e).Clean ↔ e.Clean ∧ missingDocs = [] := by
  unfold missingDocsCheck
  rw [clean_check]
  cases missingDocs <;> simp

omit [PyRuntime] in
/-- A shipment is reconciled when nothing is missing and the evidence is clean. -/
theorem statusOfEvidence_eq_reconciled {missingDocs : List String} {e : Evidence} :
    statusOfEvidence missingDocs e = .reconciled ↔ missingDocs = [] ∧ e.Clean := by
  unfold statusOfEvidence
  constructor
  · intro h
    split at h
    · cases h
    next hr =>
      split at h
      · cases h
      next hm =>
        simp only [Bool.not_eq_true, List.isEmpty_iff, not_or, not_not, List.any_eq_false,
          decide_eq_true_eq] at hr hm
        exact ⟨hm.1, hr, hm.2⟩
  · rintro ⟨rfl, hr, he⟩
    have hany : e.checks.any (fun c => decide (c.outcome = .notEvaluated)) = false := by
      simpa [List.any_eq_false] using he
    simp [hr, hany]

/-- A shipment is reconciled exactly when its flags are up and its papers
agree. -/
theorem reconciliationStatus_eq_reconciled {s : Shipment} {p : Papers} {now slaDuration : Int} :
    reconciliationStatus s p now slaDuration = .reconciled ↔ (∀ d, s.has d = true) ∧ p.Agree := by
  have hmissing : (evaluateMissingDocumentPolicy s now slaDuration).missingDocs = [] ↔
      s.missingSlots = [] := by
    simp [evaluateMissingDocumentPolicy]
  unfold reconciliationStatus
  rw [statusOfEvidence_eq_reconciled, hmissing, missingSlots_eq_nil]
  refine and_congr_right fun hall => ?_
  have hm := (missingSlots_eq_nil s).mpr hall
  have hpod : s.hasPod = true := hall .pod
  unfold evidence
  rw [clean_missingDocsCheck, clean_policyChecks hm, clean_deliveryCheck, clean_pickupDateCheck,
    clean_carrierCheck, clean_amountCheck]
  constructor
  · rintro ⟨⟨⟨⟨⟨-, ha⟩, hc⟩, hd⟩, -, hp⟩, -⟩
    exact ⟨ha, hc, hd, hp⟩
  · rintro ⟨ha, hc, hd, hp⟩
    exact ⟨⟨⟨⟨⟨clean_nil, ha⟩, hc⟩, hd⟩, hpod, hp⟩, hmissing.mpr hm⟩

/-! ## Papers that are still arriving -/

/-- Every paper of `q` is the one of `p`, or has not arrived. -/
structure Papers.Within (q p : Papers) : Prop where
  invoice : q.invoice = none ∨ q.invoice = p.invoice
  rateCon : q.rateCon = none ∨ q.rateCon = p.rateCon
  bol : q.bol = none ∨ q.bol = p.bol
  pod : q.pod = none ∨ q.pod = p.pod

omit [PyRuntime] in
/-- A check that did not fail adds no reason. -/
theorem check_reasons {e : Evidence} {checkName details : String} {outcome : CheckOutcome}
    {reason : Option String} (ho : outcome ≠ .failed) :
    (e.check checkName outcome details reason).exceptionReasons = e.exceptionReasons := by
  simp [Evidence.check, ho]

theorem quiet_amountCheck {p q : Papers} {e : Evidence} (hp : AmountsAgree p.invoice p.rateCon)
    (hq : q.Within p) :
    (amountCheck q.invoice q.rateCon e).exceptionReasons = e.exceptionReasons := by
  obtain ⟨total, rate, ht, hr, hle⟩ := hp
  unfold amountCheck
  rcases hq.invoice with hi | hi
  · rw [hi]
    exact check_reasons (by decide)
  · rw [hi, ht]
    rcases hq.rateCon with hc | hc
    · rw [hc]
      exact check_reasons (by decide)
    · rw [hc, hr]
      refine check_reasons fun h => ?_
      rw [outcomeOf_eq_failed, withinTolerance, decide_eq_false_iff_not] at h
      exact h hle

/-- A document that has not arrived names no carrier. -/
theorem carrierOf_none : carrierOf none = "" := by
  have hstrip : strip "" = "" := by simp [strip]
  have hupper : upper "" = "" := by simp [upper]
  have hsplit : split "" = [] := by simp [split, List.splitOnP_nil]
  have htext : ((field none "carrier_name").or (.str "")).text = "" := rfl
  rw [carrierOf, normalizeCarrier, htext, hstrip, hupper, hsplit]
  rfl

theorem quiet_carrierCheck {p q : Papers} {e : Evidence} (hp : CarriersAgree p.invoice p.rateCon)
    (hq : q.Within p) :
    (carrierCheck q.invoice q.rateCon e).exceptionReasons = e.exceptionReasons := by
  unfold carrierCheck
  split
  · exact check_reasons (by decide)
  next h =>
    rw [not_or] at h
    rcases hq.invoice with hi | hi
    · exact absurd (hi ▸ carrierOf_none) h.1
    rcases hq.rateCon with hc | hc
    · exact absurd (hc ▸ carrierOf_none) h.2
    refine check_reasons fun ho => ?_
    rw [outcomeOf_eq_failed, decide_eq_false_iff_not] at ho
    exact ho (hi ▸ hc ▸ hp.2)

theorem quiet_pickupDateCheck {p q : Papers} {e : Evidence} (hp : DatesAgree p.rateCon p.bol)
    (hq : q.Within p) :
    (pickupDateCheck q.rateCon q.bol e).exceptionReasons = e.exceptionReasons := by
  obtain ⟨pickup, ship, hb, hr, hle⟩ := hp
  unfold pickupDateCheck
  rcases hq.bol with hi | hi
  · rw [hi]
    exact check_reasons (by decide)
  · rw [hi, hb]
    rcases hq.rateCon with hc | hc
    · rw [hc]
      exact check_reasons (by decide)
    · rw [hc, hr]
      refine check_reasons fun h => ?_
      rw [outcomeOf_eq_failed, decide_eq_false_iff_not] at h
      exact h hle

theorem quiet_deliveryCheck {p q : Papers} {e : Evidence} {hasPod : Bool}
    (hp : DeliveryConfirmed p.pod) (hpod : hasPod = true → q.pod = p.pod) :
    (deliveryCheck hasPod q.pod e).exceptionReasons = e.exceptionReasons := by
  unfold deliveryCheck
  cases hasPod with
  | false => exact check_reasons (by decide)
  | true =>
      rw [if_pos rfl, hpod rfl]
      refine check_reasons fun h => ?_
      rw [outcomeOf_eq_failed, hp.1, hp.2] at h
      cases h

/-- Papers that agree raise no reason while they arrive before the deadline. -/
theorem quiet_evidence {s : Shipment} {p q : Papers} {now slaDuration : Int} (hp : p.Agree)
    (hq : q.Within p) (hpod : s.hasPod = true → q.pod = p.pod)
    (ht : now < s.createdAt + slaDuration) :
    (evidence s q (evaluateMissingDocumentPolicy s now slaDuration)).exceptionReasons = [] := by
  unfold evidence missingDocsCheck
  rw [check_reasons (by split <;> decide), policyChecks, policy_reasonCodes_before ht,
    List.append_nil, quiet_deliveryCheck hp.delivery hpod, quiet_pickupDateCheck hp.dates hq,
    quiet_carrierCheck hp.carriers hq, quiet_amountCheck hp.amounts hq]

/-! ## Reasons -/

/-- The reasons that are not about the SLA. -/
def contentReasons : List String :=
  ["amount_variance", "carrier_mismatch", "bol_pickup_date_mismatch", "pod_incomplete"]

/-- Every reason is a content reason or an SLA reason. -/
def Evidence.Known (e : Evidence) : Prop :=
  ∀ r ∈ e.exceptionReasons, r ∈ contentReasons ∨ r ∈ slaReasonCodes

omit [PyRuntime] in
theorem Evidence.Known.check {e : Evidence} (h : e.Known) {checkName details reason : String}
    {outcome : CheckOutcome} (hr : reason ∈ contentReasons) :
    (e.check checkName outcome details (some reason)).Known := by
  have hne : reason ≠ "" := fun he => absurd hr (by rw [he]; decide)
  intro r hmem
  simp only [Evidence.check, Option.getD_some, if_neg hne] at hmem
  split at hmem
  · rcases List.mem_append.mp hmem with hmem | hmem
    · exact h r hmem
    · exact Or.inl (List.mem_singleton.mp hmem ▸ hr)
  · exact h r hmem

omit [PyRuntime] in
theorem Evidence.Known.check_open {e : Evidence} (h : e.Known) {checkName details : String}
    {outcome : CheckOutcome} {reason : Option String} (ho : outcome ≠ .failed) :
    (e.check checkName outcome details reason).Known := by
  simpa [Evidence.Known, Evidence.check, ho] using h

theorem known_evidence (s : Shipment) (p : Papers) (now slaDuration : Int) :
    (evidence s p (evaluateMissingDocumentPolicy s now slaDuration)).Known := by
  have h₁ : (amountCheck p.invoice p.rateCon ⟨[], []⟩).Known := by
    have h₀ : Evidence.Known ⟨[], []⟩ := by simp [Evidence.Known]
    unfold amountCheck
    split
    · exact h₀.check (by decide)
    · exact h₀.check_open (by decide)
  have h₂ : (carrierCheck p.invoice p.rateCon (amountCheck p.invoice p.rateCon ⟨[], []⟩)).Known := by
    unfold carrierCheck
    split
    · exact h₁.check_open (by decide)
    · exact h₁.check (by decide)
  have h₃ : (pickupDateCheck p.rateCon p.bol (carrierCheck p.invoice p.rateCon
      (amountCheck p.invoice p.rateCon ⟨[], []⟩))).Known := by
    unfold pickupDateCheck
    split
    · exact h₂.check (by decide)
    · exact h₂.check_open (by decide)
  have h₄ : (deliveryCheck s.hasPod p.pod (pickupDateCheck p.rateCon p.bol
      (carrierCheck p.invoice p.rateCon (amountCheck p.invoice p.rateCon ⟨[], []⟩)))).Known := by
    unfold deliveryCheck
    split
    · exact h₃.check (by decide)
    · exact h₃.check_open (by decide)
  unfold evidence missingDocsCheck
  refine Evidence.Known.check_open (fun r hr => ?_) (by split <;> decide)
  rcases List.mem_append.mp hr with hr | hr
  · exact h₄ r hr
  · exact Or.inr (policy_reasonCodes_sla hr)

end FreightAP
