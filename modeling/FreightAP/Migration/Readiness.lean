import FreightAP.Migration.Invariants

/-!
# What the business-state migration grants readiness on

The migration rewrites the checks of every result, but it grades a shipment by
its latest result only when the status of the shipment is none of the four
(`regraded_iff`).  A shipment that was reconciled before stays reconciled, and
the completed runs over its documents become ready for posting
(`upgrade_readiness`), whatever its latest result holds
(`trustedLegacy_ungrounded`).
-/

namespace FreightAP.Migration

/-! ## Evidence -/

/-- No check of a result was left out. -/
def Evaluated (rr : ReconciliationResult) : Prop :=
  ∀ item ∈ rr.checks, item.text? "outcome" ≠ some "not_evaluated"

/-- A result that holds nothing against its shipment. -/
structure Clean (rr : ReconciliationResult) : Prop where
  missingDocs : rr.missingDocs = []
  exceptionReasons : rr.exceptionReasons = []
  evaluated : Evaluated rr
  noneFailed : ∀ item ∈ rr.checks, item.text? "outcome" ≠ some "failed"

/-- The latest result of a shipment, if there is one, is clean. -/
def CleanAt (db : Database) (s : Shipment) : Prop :=
  ∀ latest, latestResult db.results s.id = some latest → Clean latest

/-- A run without a decision. -/
def Undecided (db : Database) (run : WorkflowRun) : Prop :=
  ∀ rd ∈ db.reviewDecisions, rd.runId ≠ run.runId

/-- A document of a run belongs to a shipment. -/
def OverShipment (db : Database) (run : WorkflowRun) (s : Shipment) : Prop :=
  ∃ d ∈ db.documents, d.id = run.documentId ∧ d.shipmentId = some s.id

/-- Every reconciled shipment is reconciled on evidence. -/
def ReconciledOnEvidence (db : Database) : Prop :=
  ∀ s ∈ db.shipments, s.reconciliationStatus = "reconciled" → CleanAt db s

/-- Every completed run that became ready for posting without a decision is
ready on evidence. -/
def ReadyOnEvidence (legacy : LegacyDatabase) (db : Database) : Prop :=
  ∀ wr ∈ legacy.workflowRuns, ∀ run ∈ db.workflowRuns, run.runId = wr.runId →
    wr.status = "complete" → run.postingStatus = "ready_for_posting" → Undecided db run →
      ∃ s ∈ db.shipments, OverShipment db run s ∧ s.reconciliationStatus = "reconciled" ∧
        CleanAt db s

/-! ## The latest result -/

section

variable {results : List ReconciliationResult} {latest : ReconciliationResult} {shipmentId : String}

/-- No result of the shipment is newer than the latest one. -/
theorem latestResult_newest (h : latestResult results shipmentId = some latest) :
    latest ∈ results ∧ latest.shipmentId = shipmentId ∧
      ∀ rr ∈ results, rr.shipmentId = shipmentId → rr.createdAt ≤ latest.createdAt := by
  obtain ⟨hmem, hid, hfirst⟩ := Sql.distinctOn_first
    (fun a b => by simpa using Int.le_total b.createdAt a.createdAt)
    (fun a b c => by simpa using fun hab hbc => Int.le_trans hbc hab) h
  exact ⟨hmem, hid, fun rr hrr hshipment => of_decide_eq_true (hfirst rr hrr hshipment)⟩

end

/-! ## Shipments -/

/-- A result that the migration grades as reconciled.  Whether a check failed is
left to the exception reasons. -/
structure Graded (rr : ReconciliationResult) : Prop where
  missingDocs : rr.missingDocs = []
  exceptionReasons : rr.exceptionReasons = []
  evaluated : Evaluated rr

/-- The status that the migration gives for a latest result. -/
def grade (latest : ReconciliationResult) : String :=
  if 0 < latest.exceptionReasons.length then "exception"
  else if 0 < latest.missingDocs.length ∨ 0 < notEvaluatedCount latest then "partial"
  else "reconciled"

theorem notEvaluatedCount_eq_zero {rr : ReconciliationResult} :
    notEvaluatedCount rr = 0 ↔ Evaluated rr := by
  simp [notEvaluatedCount, Evaluated]

theorem grade_mem (latest : ReconciliationResult) : grade latest ∈ reconciliationStatuses := by
  unfold grade reconciliationStatuses
  split
  · simp
  · split
    · simp
    · simp

theorem grade_eq_reconciled {latest : ReconciliationResult} :
    grade latest = "reconciled" ↔ Graded latest := by
  rw [grade]
  constructor
  · intro h
    split at h
    · simp at h
    next hreasons =>
      split at h
      · simp at h
      next hrest =>
        obtain ⟨hmissing, hcount⟩ := not_or.mp hrest
        exact ⟨by simpa using hmissing, by simpa using hreasons,
          notEvaluatedCount_eq_zero.mp (Nat.eq_zero_of_not_pos hcount)⟩
  · intro h
    simp [h.exceptionReasons, h.missingDocs, notEvaluatedCount_eq_zero.mpr h.evaluated]

section

variable {results : List ReconciliationResult} {s : Shipment}

theorem defaultShipment_of_mem (h : s.reconciliationStatus ∈ reconciliationStatuses) :
    defaultShipment s = s := if_pos h

/-- No shipment is reconciled by default. -/
theorem defaultShipment_of_not_mem (h : s.reconciliationStatus ∉ reconciliationStatuses) :
    (defaultShipment s).reconciliationStatus ≠ "reconciled" := by
  rw [defaultShipment, if_neg h]
  split
  · simp
  · simp

theorem recomputeShipment_of_mem (h : s.reconciliationStatus ∈ reconciliationStatuses) :
    recomputeShipment results s = s := if_pos h

theorem recomputeShipment_none (h : latestResult results s.id = none) :
    recomputeShipment results s = s := by
  simp [recomputeShipment, h]

theorem recomputeShipment_some (h : s.reconciliationStatus ∉ reconciliationStatuses)
    {latest : ReconciliationResult} (hlatest : latestResult results s.id = some latest) :
    recomputeShipment results s = { s with reconciliationStatus := grade latest } := by
  simp [recomputeShipment, h, hlatest, grade]

variable (results s)

/-- A shipment is reconciled after the migration when it was before, or when its
status was unknown and its latest result is graded so. -/
theorem regraded_iff :
    (defaultShipment (recomputeShipment results s)).reconciliationStatus = "reconciled" ↔
      s.reconciliationStatus = "reconciled" ∨
        s.reconciliationStatus ∉ reconciliationStatuses ∧
          ∃ latest, latestResult results s.id = some latest ∧ Graded latest := by
  by_cases hknown : s.reconciliationStatus ∈ reconciliationStatuses
  · simp [recomputeShipment_of_mem hknown, defaultShipment_of_mem hknown, hknown]
  · have hnot : s.reconciliationStatus ≠ "reconciled" := by
      intro h
      simp [h, reconciliationStatuses] at hknown
    cases hlatest : latestResult results s.id with
    | none =>
        rw [recomputeShipment_none hlatest]
        simp [defaultShipment_of_not_mem hknown, hnot]
    | some latest =>
        rw [recomputeShipment_some hknown hlatest, defaultShipment_of_mem (grade_mem latest)]
        simp [hknown, hnot, grade_eq_reconciled]

end

/-! ## Runs -/

section

variable {genRandomUuid : String → String} {legacy : LegacyDatabase} {wr : LegacyRun}

/-- Without a decision, a completed run is ready for posting when a document of
it belongs to a shipment that was reconciled before. -/
theorem upgradeRun_ready (hundecided : Undecided (upgraded genRandomUuid legacy)
      (upgradeRun genRandomUuid legacy wr)) (hcomplete : wr.status = "complete") :
    (upgradeRun genRandomUuid legacy wr).postingStatus = "ready_for_posting" ↔
      ∃ d ∈ legacy.documents, d.id = wr.documentId ∧
        ∃ s ∈ legacy.shipments, d.shipmentId = some s.id ∧
          s.reconciliationStatus = "reconciled" := by
  have hnone : ∀ disposition,
      decidedAs (backfillDecisions genRandomUuid legacy) wr disposition = false := by
    intro disposition
    rw [decidedAs, List.any_eq_false]
    intro rd hrd hdecided
    exact hundecided rd hrd (of_decide_eq_true hdecided).1
  have hready : (upgradeRun genRandomUuid legacy wr).postingStatus = "ready_for_posting" ↔
      shipmentReconciled legacy.documents legacy.shipments wr = true := by
    simp [upgradeRun, postingStatus, hnone, hcomplete]
  rw [hready]
  simp [shipmentReconciled, hcomplete]

end

/-! ## The migration -/

/-- A shipment before and after the migration. -/
structure Regraded (db : Database) (old new : Shipment) : Prop where
  sameShipment : new.id = old.id
  kept : old.reconciliationStatus ∈ reconciliationStatuses → new = old
  reconciled : new.reconciliationStatus = "reconciled" ↔
    old.reconciliationStatus = "reconciled" ∨
      old.reconciliationStatus ∉ reconciliationStatuses ∧
        ∃ latest, latestResult db.results new.id = some latest ∧ Graded latest

/-- A run before and after the migration, where it was completed and there is no
decision. -/
structure Readied (legacy : LegacyDatabase) (db : Database) (wr : LegacyRun)
    (run : WorkflowRun) : Prop where
  sameRun : run.runId = wr.runId
  ready : wr.status = "complete" → Undecided db run →
    (run.postingStatus = "ready_for_posting" ↔
      ∃ old ∈ legacy.shipments, old.reconciliationStatus = "reconciled" ∧
        OverShipment db run old ∧
          ∃ new ∈ db.shipments, new.id = old.id ∧ new.reconciliationStatus = "reconciled")

section

variable {genRandomUuid : String → String} {legacy : LegacyDatabase}

theorem upgraded_regraded (old : Shipment) :
    Regraded (upgraded genRandomUuid legacy) old
      (defaultShipment (recomputeShipment (legacy.results.map rewriteChecks) old)) where
  sameShipment := (defaultShipment_id _).trans (recomputeShipment_id ..)
  kept hknown := by rw [recomputeShipment_of_mem hknown, defaultShipment_of_mem hknown]
  reconciled := by
    rw [regraded_iff, defaultShipment_id, recomputeShipment_id]
    rfl

/-- A shipment that was reconciled before still is. -/
theorem still_reconciled {old : Shipment} (h : old ∈ legacy.shipments)
    (hreconciled : old.reconciliationStatus = "reconciled") :
    ∃ new ∈ (upgraded genRandomUuid legacy).shipments, new.id = old.id ∧
      new.reconciliationStatus = "reconciled" := by
  have hnew := @upgraded_regraded genRandomUuid legacy old
  refine ⟨_, List.mem_map_of_mem (List.mem_map_of_mem h), hnew.sameShipment, ?_⟩
  exact hnew.reconciled.mpr (.inl hreconciled)

theorem upgraded_readied (wr : LegacyRun) :
    Readied legacy (upgraded genRandomUuid legacy) wr (upgradeRun genRandomUuid legacy wr) where
  sameRun := rfl
  ready hcomplete hundecided := by
    rw [upgradeRun_ready hundecided hcomplete]
    constructor
    · rintro ⟨d, hd, hrun, old, hold, hshipment, hreconciled⟩
      exact ⟨old, hold, hreconciled, ⟨d, hd, hrun, hshipment⟩, still_reconciled hold hreconciled⟩
    · rintro ⟨old, hold, hreconciled, ⟨d, hd, hrun, hshipment⟩, -⟩
      exact ⟨d, hd, hrun, old, hold, hshipment, hreconciled⟩

end

/-- After a migration a shipment with one of the four statuses is as it was, and a
shipment is reconciled when it was before, or when its status was unknown and its
latest result is graded so.  A completed run without a decision is ready for
posting when its document belongs to a shipment that was reconciled before, and
that still is. -/
theorem upgrade_readiness {genRandomUuid : String → String} {legacy : LegacyDatabase}
    {db : Database} (h : upgrade genRandomUuid legacy = .ok db) :
    List.Forall₂ (Regraded db) legacy.shipments db.shipments ∧
      List.Forall₂ (Readied legacy db) legacy.workflowRuns db.workflowRuns := by
  rw [upgrade_eq] at h
  split at h
  case isTrue => cases h
  case isFalse =>
      obtain rfl := Except.ok.inj h
      constructor
      · show List.Forall₂ _ _ (upgradeShipments legacy)
        rw [upgradeShipments, List.map_map, List.forall₂_map_right_iff, List.forall₂_same]
        intro old _
        exact upgraded_regraded old
      · show List.Forall₂ _ _ (legacy.workflowRuns.map (upgradeRun genRandomUuid legacy))
        rw [List.forall₂_map_right_iff, List.forall₂_same]
        intro wr _
        exact upgraded_readied wr

/-! ## Readiness without evidence -/

/-- A completed run over a reconciled shipment whose POD date was never checked,
and a shipment of a legacy status with a failed check and no exception reason. -/
def trustedLegacy : LegacyDatabase where
  workflowRuns := [⟨"run-1", 1, "complete", none, 0⟩]
  auditLogs := []
  documents := [⟨1, some "s1"⟩]
  shipments := [⟨"s1", "reconciled"⟩, ⟨"s2", "complete"⟩]
  results :=
    [⟨"r1", "s1",
      [[("check_name", .string "pod_date"), ("passed", .bool true),
        ("details", .string "skipped: no POD")]], [], [], 0⟩,
     ⟨"r2", "s2",
      [[("check_name", .string "amount"), ("passed", .bool false),
        ("details", .string "mismatch")]], [], [], 0⟩]
  runsKeyed := by simp [Table.Keyed]
  documentsKeyed := by simp [Table.Keyed]
  shipmentsKeyed := by simp [Table.Keyed]
  resultsKeyed := by simp [Table.Keyed]

theorem trustedLegacy_upgrade :
    upgrade (fun runId => runId) trustedLegacy = .ok (upgraded (fun runId => runId) trustedLegacy) := by
  rw [upgrade_eq]
  exact if_neg (by decide +kernel)

theorem trustedLegacy_readiness :
    ∃ db, upgrade (fun runId => runId) trustedLegacy = .ok db ∧
      List.Forall₂ (Regraded db) trustedLegacy.shipments db.shipments ∧
      List.Forall₂ (Readied trustedLegacy db) trustedLegacy.workflowRuns db.workflowRuns :=
  ⟨_, trustedLegacy_upgrade, upgrade_readiness trustedLegacy_upgrade⟩

/-- Both shipments are left reconciled, and neither latest result is clean: the
one has a check that was not evaluated, the other one a check that failed. -/
theorem trustedLegacy_ungrounded :
    ∃ db, upgrade (fun runId => runId) trustedLegacy = .ok db ∧
      db.shipments.map (fun s => (s.id, s.reconciliationStatus)) =
        [("s1", "reconciled"), ("s2", "reconciled")] ∧
      (∀ s ∈ db.shipments, ¬CleanAt db s) ∧
      ¬ReconciledOnEvidence db ∧ ¬ReadyOnEvidence trustedLegacy db := by
  refine ⟨_, trustedLegacy_upgrade, ?_⟩
  have hshipments : (upgraded (fun runId => runId) trustedLegacy).shipments =
      [⟨"s1", "reconciled"⟩, ⟨"s2", "reconciled"⟩] := by rfl
  have hunchecked : ¬CleanAt (upgraded (fun runId => runId) trustedLegacy) ⟨"s1", "reconciled"⟩ := by
    intro hclean
    exact (hclean _ rfl).evaluated _ (List.mem_singleton.mpr rfl) rfl
  have hfailed : ¬CleanAt (upgraded (fun runId => runId) trustedLegacy) ⟨"s2", "reconciled"⟩ := by
    intro hclean
    exact (hclean _ rfl).noneFailed _ (List.mem_singleton.mpr rfl) rfl
  have hnone : ∀ s ∈ (upgraded (fun runId => runId) trustedLegacy).shipments,
      ¬CleanAt (upgraded (fun runId => runId) trustedLegacy) s := by
    rw [hshipments]
    intro s hs
    rcases List.mem_cons.mp hs with rfl | hs
    · exact hunchecked
    · rw [List.mem_singleton.mp hs]
      exact hfailed
  refine ⟨by rw [hshipments]; rfl, hnone, ?_, ?_⟩
  · intro hevidence
    exact hunchecked (hevidence ⟨"s1", "reconciled"⟩ (by simp [hshipments]) rfl)
  · intro hevidence
    obtain ⟨s, hs, -, -, hclean⟩ := hevidence ⟨"run-1", 1, "complete", none, 0⟩
      (List.mem_singleton.mpr rfl) _ (List.mem_singleton.mpr rfl) rfl rfl (by decide +kernel)
      (fun _ hrd => nomatch hrd)
    exact hnone s hs hclean

end FreightAP.Migration
