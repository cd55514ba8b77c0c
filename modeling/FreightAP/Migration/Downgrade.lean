import FreightAP.Migration.Invariants

/-!
# Downgrading the business state

`downgrade` of revision 202607190002: the checks back to booleans, the status of
a run from its decision or its processing status, and the new columns and
tables dropped.  What it leaves of an upgraded database has no conflicts, so it
can be upgraded again (`upgrade_downgrade`), and every result then holds its
checks after both rewritings (`reupgraded_results`).
-/

namespace FreightAP.Migration

/-! ## Keys -/

/-- The primary keys, the unique index of `workflow_runs.run_id` and
`uq_review_decisions_run_id`. -/
structure Database.Keyed (db : Database) : Prop where
  runs : Table.Keyed (fun wr : WorkflowRun => wr.runId) db.workflowRuns
  decisions : Table.Keyed ReviewDecision.runId db.reviewDecisions
  documents : Table.Keyed Document.id db.documents
  shipments : Table.Keyed Shipment.id db.shipments
  results : Table.Keyed ReconciliationResult.id db.results

/-! ## The statements -/

/-- A check with its boolean. -/
def restoreItem (item : Json.Members) : Json.Members :=
  (item.erase "outcome").set "passed"
    (.bool (if item.text? "outcome" = some "failed" then false else true))

/-- The update of the checks of a result. -/
def restoreChecks (rr : ReconciliationResult) : ReconciliationResult :=
  { rr with checks := rr.checks.map restoreItem }

/-- The update of `status`, and the row without the new columns. -/
def restoreRun (decisions : List ReviewDecision) (wr : WorkflowRun) : LegacyRun :=
  { wr.toLegacyRun with
    status := ((Table.get? ReviewDecision.runId wr.runId decisions).map (·.disposition)).getD
      wr.processingStatus }

/-- `downgrade`. -/
def downgrade (db : Database) (keyed : db.Keyed) : LegacyDatabase where
  workflowRuns := db.workflowRuns.map (restoreRun db.reviewDecisions)
  auditLogs := db.auditLogs
  documents := db.documents
  shipments := db.shipments
  results := db.results.map restoreChecks
  runsKeyed := by
    rw [Table.Keyed, List.map_map]
    exact keyed.runs
  documentsKeyed := keyed.documents
  shipmentsKeyed := keyed.shipments
  resultsKeyed := by
    rw [Table.Keyed, List.map_map]
    exact keyed.results

/-! ## The way back -/

section

variable {genRandomUuid : String → String} {legacy : LegacyDatabase} {db : Database}

theorem upgraded_keyed : (upgraded genRandomUuid legacy).Keyed where
  runs := by
    rw [upgraded, Table.Keyed, List.map_map]
    exact legacy.runsKeyed
  decisions := backfillDecisions_keyed
  documents := legacy.documentsKeyed
  shipments := by
    have hids : (upgraded genRandomUuid legacy).shipments.map Shipment.id =
        legacy.shipments.map Shipment.id := by
      simp [upgraded, upgradeShipments, defaultShipment_id, recomputeShipment_id]
    rw [Table.Keyed, hids]
    exact legacy.shipmentsKeyed
  results := by
    rw [upgraded, Table.Keyed, List.map_map]
    exact legacy.resultsKeyed

/-- Downgrading keeps the status of every run that the migration wrote. -/
theorem restoreRun_upgradeRun {wr : LegacyRun} (hwr : wr ∈ legacy.workflowRuns) :
    restoreRun (backfillDecisions genRandomUuid legacy) (upgradeRun genRandomUuid legacy wr) =
      (upgradeRun genRandomUuid legacy wr).toLegacyRun := by
  have hget : Table.get? ReviewDecision.runId (upgradeRun genRandomUuid legacy wr).runId
      (backfillDecisions genRandomUuid legacy) =
        auditDecision genRandomUuid legacy.auditLogs wr := get?_backfillDecisions hwr
  rw [restoreRun, hget]
  cases h : auditDisposition legacy.auditLogs wr with
  | none => simp [auditDecision, h, upgradeRun]
  | some disposition => simp [auditDecision, h, upgradeRun]

/-- A run of a recorded decision gets the status of a decision, so nothing
conflicts after a downgrade. -/
theorem downgrade_conflicts :
    conflicts (downgrade (upgraded genRandomUuid legacy) upgraded_keyed) = [] := by
  by_contra hne
  obtain ⟨restored, hrestored, hundecided, happroved, -⟩ := conflicts_ne_nil.mp hne
  obtain ⟨run, hrun, rfl⟩ := List.mem_map.mp hrestored
  obtain ⟨wr, hwr, rfl⟩ := List.mem_map.mp hrun
  have hstatus := @restoreRun_upgradeRun genRandomUuid legacy wr hwr
  rw [show (upgraded genRandomUuid legacy).reviewDecisions =
    backfillDecisions genRandomUuid legacy from rfl, hstatus] at hundecided happroved
  have hrecorded : Recorded legacy.auditLogs wr "approved" := happroved
  obtain ⟨disposition, hdisposition⟩ := Option.isSome_iff_exists.mp
    (auditDisposition_isSome.mpr (.inr (.inl hrecorded)))
  apply hundecided
  rcases auditDisposition_mem hdisposition with rfl | rfl
  · simp [upgradeRun, hdisposition, dispositions]
  · simp [upgradeRun, hdisposition, dispositions]

/-- An upgraded database can be downgraded and upgraded again. -/
theorem upgrade_downgrade :
    upgrade genRandomUuid (downgrade (upgraded genRandomUuid legacy) upgraded_keyed) =
      .ok (upgraded genRandomUuid (downgrade (upgraded genRandomUuid legacy) upgraded_keyed)) := by
  rw [upgrade_eq]
  exact if_neg (not_not_intro downgrade_conflicts)

/-- The results of a database that was downgraded and upgraded again. -/
theorem reupgraded_results (keyed : db.Keyed) {db' : Database}
    (h : upgrade genRandomUuid (downgrade db keyed) = .ok db') :
    db'.results = db.results.map fun rr => rewriteChecks (restoreChecks rr) := by
  rw [upgrade_eq] at h
  split at h
  case isTrue => cases h
  case isFalse =>
      obtain rfl := Except.ok.inj h
      simp [upgraded, downgrade]

end

end FreightAP.Migration
