import FreightAP.Migration.BusinessState

/-!
# What the business-state migration establishes

The decision backfilled for a run is a function of the run and the audit logs
(`auditDecision`), and the table of decisions holds no other row of the run
(`mem_backfillDecisions`).  So every later statement can be read off that
function, and `upgrade` succeeds on every database without conflicts
(`upgrade_eq`).
-/

namespace FreightAP.Migration

/-- The audit log of a run records an event. -/
def Recorded (logs : List AuditLog) (wr : LegacyRun) (eventType : String) : Prop :=
  ∃ wal ∈ logs, wal.runId = wr.runId ∧ wal.eventType = eventType

/-- A run whose history holds both decisions and whose status settles neither. -/
def Conflicting (logs : List AuditLog) (wr : LegacyRun) : Prop :=
  wr.status ∉ dispositions ∧ Recorded logs wr "approved" ∧ Recorded logs wr "rejected"

section

variable {logs : List AuditLog} {wr : LegacyRun} {eventType disposition : String}

/-! ## The decision of a run -/

theorem countOf_decisionEvents (h : eventType ∈ dispositions) :
    0 < countOf (decisionEvents logs wr) eventType ↔ Recorded logs wr eventType := by
  rw [countOf, List.countP_pos_iff]
  constructor
  · rintro ⟨wal, hwal, htype⟩
    obtain ⟨hmem, hrun⟩ := List.mem_filter.mp hwal
    exact ⟨wal, hmem, (of_decide_eq_true hrun).1, of_decide_eq_true htype⟩
  · rintro ⟨wal, hwal, hrun, rfl⟩
    exact ⟨wal, List.mem_filter.mpr ⟨hwal, decide_eq_true ⟨hrun, h⟩⟩, decide_eq_true rfl⟩

theorem countOf_approved :
    0 < countOf (decisionEvents logs wr) "approved" ↔ Recorded logs wr "approved" :=
  countOf_decisionEvents (by simp [dispositions])

theorem countOf_rejected :
    0 < countOf (decisionEvents logs wr) "rejected" ↔ Recorded logs wr "rejected" :=
  countOf_decisionEvents (by simp [dispositions])

theorem auditDisposition_of_status (h : wr.status ∈ dispositions) :
    auditDisposition logs wr = some wr.status := by
  rw [auditDisposition, if_pos h]

theorem auditDisposition_mem (h : auditDisposition logs wr = some disposition) :
    disposition = "approved" ∨ disposition = "rejected" := by
  rw [auditDisposition] at h
  split at h
  case isTrue hstatus =>
      obtain rfl := Option.some.inj h
      simpa [dispositions] using hstatus
  case isFalse =>
      split at h
      · exact .inl (Option.some.inj h).symm
      · split at h
        · exact .inr (Option.some.inj h).symm
        · cases h

/-- A decision is recorded by the status of the run or by its audit log. -/
theorem auditDisposition_isSome :
    (auditDisposition logs wr).isSome ↔
      wr.status ∈ dispositions ∨ Recorded logs wr "approved" ∨ Recorded logs wr "rejected" := by
  rw [← countOf_approved, ← countOf_rejected, auditDisposition]
  split
  case isTrue hstatus => simp [hstatus]
  case isFalse hstatus =>
      split
      case isTrue happroved => simp [happroved]
      case isFalse happroved =>
          split
          case isTrue hrejected => simp [hrejected]
          case isFalse hrejected => simp [hstatus, happroved, hrejected]

variable {genRandomUuid : String → String} {rd : ReviewDecision}

theorem auditDecision_some (h : auditDecision genRandomUuid logs wr = some rd) :
    rd.runId = wr.runId ∧ auditDisposition logs wr = some rd.disposition := by
  obtain ⟨disposition, hdisposition, rfl⟩ := Option.map_eq_some_iff.mp h
  exact ⟨rfl, hdisposition⟩

theorem auditDecision_isSome :
    (auditDecision genRandomUuid logs wr).isSome = (auditDisposition logs wr).isSome := by
  simp [auditDecision]

end

/-! ## The table of decisions -/

section

variable {genRandomUuid : String → String} {legacy : LegacyDatabase} {wr : LegacyRun}
  {rd : ReviewDecision}

theorem backfillDecisions_eq : backfillDecisions genRandomUuid legacy =
    legacy.workflowRuns.filterMap (auditDecision genRandomUuid legacy.auditLogs) := by
  have hkeyed : Table.Keyed ReviewDecision.runId
      (legacy.workflowRuns.filterMap (auditDecision genRandomUuid legacy.auditLogs)) :=
    Sql.keyed_filterMap (fun _ _ h => (auditDecision_some h).1) legacy.runsKeyed
  exact Sql.insertAll_eq_append hkeyed

theorem backfillDecisions_keyed :
    Table.Keyed ReviewDecision.runId (backfillDecisions genRandomUuid legacy) :=
  Sql.insertAll_keyed List.nodup_nil

/-- The decisions of a run are the one its history records. -/
theorem mem_backfillDecisions (hwr : wr ∈ legacy.workflowRuns) :
    rd ∈ backfillDecisions genRandomUuid legacy ∧ rd.runId = wr.runId ↔
      auditDecision genRandomUuid legacy.auditLogs wr = some rd := by
  rw [backfillDecisions_eq]
  exact Sql.mem_filterMap_key (fun _ _ h => (auditDecision_some h).1) legacy.runsKeyed hwr

theorem get?_backfillDecisions (hwr : wr ∈ legacy.workflowRuns) :
    Table.get? ReviewDecision.runId wr.runId (backfillDecisions genRandomUuid legacy) =
      auditDecision genRandomUuid legacy.auditLogs wr := by
  cases hget : Table.get? ReviewDecision.runId wr.runId (backfillDecisions genRandomUuid legacy)
  case some rd =>
      exact ((mem_backfillDecisions hwr).mp
        ⟨Table.get?_some_mem hget, Table.get?_some_key hget⟩).symm
  case none =>
      symm
      rw [Option.eq_none_iff_forall_ne_some]
      intro rd hrd
      obtain ⟨hmem, hkey⟩ := (mem_backfillDecisions hwr).mpr hrd
      have hfound := Table.get?_of_mem backfillDecisions_keyed hmem
      rw [hkey, hget] at hfound
      cases hfound

variable (genRandomUuid)

theorem any_backfillDecisions (hwr : wr ∈ legacy.workflowRuns) :
    (backfillDecisions genRandomUuid legacy).any (·.runId = wr.runId) =
      (auditDisposition legacy.auditLogs wr).isSome := by
  have hdecision : (auditDecision genRandomUuid legacy.auditLogs wr).isSome =
      (auditDisposition legacy.auditLogs wr).isSome := auditDecision_isSome
  rw [← hdecision, Bool.eq_iff_iff, List.any_eq_true, Option.isSome_iff_exists]
  simp [mem_backfillDecisions hwr]

theorem decidedAs_backfillDecisions (hwr : wr ∈ legacy.workflowRuns) (disposition : String) :
    decidedAs (backfillDecisions genRandomUuid legacy) wr disposition = true ↔
      auditDisposition legacy.auditLogs wr = some disposition := by
  rw [decidedAs, List.any_eq_true]
  constructor
  · rintro ⟨rd, hrd, h⟩
    obtain ⟨hrun, rfl⟩ := of_decide_eq_true h
    exact (auditDecision_some ((mem_backfillDecisions hwr).mp ⟨hrd, hrun⟩)).2
  · intro h
    obtain ⟨rd, hrd⟩ : ∃ rd, auditDecision genRandomUuid legacy.auditLogs wr = some rd := by
      rw [← Option.isSome_iff_exists, auditDecision_isSome, h]
      rfl
    obtain ⟨hmem, hrun⟩ := (mem_backfillDecisions hwr).mpr hrd
    have hdisposition := (auditDecision_some hrd).2
    exact ⟨rd, hmem, decide_eq_true ⟨hrun, Option.some.inj (hdisposition.symm.trans h)⟩⟩

end

/-! ## Runs after the migration -/

section

variable (genRandomUuid : String → String) (legacy : LegacyDatabase)

/-- The row that the migration leaves for a run. -/
def upgradeRun (wr : LegacyRun) : WorkflowRun :=
  let decisions := backfillDecisions genRandomUuid legacy
  { wr with
    status := (auditDisposition legacy.auditLogs wr).getD (processingStatus decisions wr)
    processingStatus := processingStatus decisions wr
    postingStatus := postingStatus decisions legacy.documents legacy.shipments wr }

/-- The shipments that the migration leaves. -/
def upgradeShipments : List Shipment :=
  (legacy.shipments.map (recomputeShipment (legacy.results.map rewriteChecks))).map defaultShipment

/-- The database that the migration leaves. -/
def upgraded : Database where
  workflowRuns := legacy.workflowRuns.map (upgradeRun genRandomUuid legacy)
  reviewDecisions := backfillDecisions genRandomUuid legacy
  auditLogs := legacy.auditLogs
  documents := legacy.documents
  shipments := upgradeShipments legacy
  results := legacy.results.map rewriteChecks

variable {genRandomUuid legacy} {wr : LegacyRun}

theorem processingStatus_mem (decisions : List ReviewDecision) (wr : LegacyRun) :
    processingStatus decisions wr ∈ processingStatuses := by
  unfold processingStatus processingStatuses
  split
  · simp
  · split
    · simp
    · split
      · simp
      · split
        · simp
        · split
          · simp
          · split
            case isTrue h =>
                simp only [List.mem_cons, List.not_mem_nil, or_false] at h
                rcases h with h | h | h <;> simp [h]
            case isFalse => simp

theorem postingStatus_mem (decisions : List ReviewDecision) (documents : List Document)
    (shipments : List Shipment) (wr : LegacyRun) :
    postingStatus decisions documents shipments wr ∈ postingStatuses := by
  unfold postingStatus postingStatuses
  split
  · simp
  · split
    · simp
    · split
      · simp
      · simp

theorem defaultShipment_mem (s : Shipment) :
    (defaultShipment s).reconciliationStatus ∈ reconciliationStatuses := by
  rw [defaultShipment]
  split
  case isTrue h => exact h
  case isFalse =>
      split
      · simp [reconciliationStatuses]
      · simp [reconciliationStatuses]

theorem recomputeShipment_id (results : List ReconciliationResult) (s : Shipment) :
    (recomputeShipment results s).id = s.id := by
  unfold recomputeShipment
  split
  · rfl
  · split
    · rfl
    · rfl

theorem defaultShipment_id (s : Shipment) : (defaultShipment s).id = s.id := by
  unfold defaultShipment
  split
  · rfl
  · rfl

theorem backfillDecisions_disposition {rd : ReviewDecision}
    (h : rd ∈ backfillDecisions genRandomUuid legacy) :
    rd.disposition = "approved" ∨ rd.disposition = "rejected" := by
  rw [backfillDecisions_eq] at h
  obtain ⟨wr, -, hwr⟩ := List.mem_filterMap.mp h
  exact auditDisposition_mem (auditDecision_some hwr).2

/-- The row under nullable columns. -/
def WorkflowRun.nullable (run : WorkflowRun) : BackfilledRun :=
  { run.toLegacyRun with
    processingStatus := some run.processingStatus
    postingStatus := some run.postingStatus }

theorem backfillStatus_eq (hwr : wr ∈ legacy.workflowRuns) :
    backfillStatus (backfillDecisions genRandomUuid legacy)
      (backfillColumns (backfillDecisions genRandomUuid legacy) legacy.documents legacy.shipments
        wr) = .ok (upgradeRun genRandomUuid legacy wr).nullable := by
  have hget : Table.get? ReviewDecision.runId
      (backfillColumns (backfillDecisions genRandomUuid legacy) legacy.documents legacy.shipments
        wr).runId (backfillDecisions genRandomUuid legacy) =
      auditDecision genRandomUuid legacy.auditLogs wr := get?_backfillDecisions hwr
  rw [backfillStatus, hget]
  cases h : auditDisposition legacy.auditLogs wr with
  | none => simp [auditDecision, h, backfillColumns, upgradeRun, WorkflowRun.nullable]
  | some disposition => simp [auditDecision, h, backfillColumns, upgradeRun, WorkflowRun.nullable]

/-- Without conflicts no statement of the migration fails. -/
theorem upgrade_eq (genRandomUuid : String → String) (legacy : LegacyDatabase) :
    upgrade genRandomUuid legacy =
      if conflicts legacy ≠ [] then
        .error (.runtimeError (conflictMessage (conflicts legacy)))
      else .ok (upgraded genRandomUuid legacy) := by
  have hdecisions : Sql.check (MigrationError.checkViolation "ck_review_decisions_disposition")
      (fun rd : ReviewDecision => rd.disposition ∈ dispositions)
      (backfillDecisions genRandomUuid legacy) = .ok () := by
    apply Sql.check_eq_ok
    intro rd hrd
    rcases backfillDecisions_disposition hrd with h | h <;> simp [h, dispositions]
  have hstatus : (legacy.workflowRuns.map (backfillColumns (backfillDecisions genRandomUuid legacy)
      legacy.documents legacy.shipments)).mapM
        (backfillStatus (backfillDecisions genRandomUuid legacy)) =
      .ok ((upgraded genRandomUuid legacy).workflowRuns.map WorkflowRun.nullable) := by
    rw [List.mapM_map, upgraded, List.map_map]
    exact Sql.mapM_eq_map fun wr hwr => backfillStatus_eq hwr
  have hcolumns : ((upgraded genRandomUuid legacy).workflowRuns.map WorkflowRun.nullable).mapM
      alterColumns = .ok (upgraded genRandomUuid legacy).workflowRuns := by
    have hrow : ∀ run ∈ (upgraded genRandomUuid legacy).workflowRuns,
        (alterColumns ∘ WorkflowRun.nullable) run = .ok (id run) := fun _ _ => rfl
    simpa using Sql.mapM_eq_map hrow
  have hprocessing : Sql.check
      (MigrationError.checkViolation "ck_workflow_runs_processing_status")
      (fun wr : WorkflowRun => wr.processingStatus ∈ processingStatuses)
      (upgraded genRandomUuid legacy).workflowRuns = .ok () := by
    apply Sql.check_eq_ok
    intro run hrun
    obtain ⟨wr, -, rfl⟩ := List.mem_map.mp hrun
    exact decide_eq_true (processingStatus_mem _ wr)
  have hposting : Sql.check (MigrationError.checkViolation "ck_workflow_runs_posting_status")
      (fun wr : WorkflowRun => wr.postingStatus ∈ postingStatuses)
      (upgraded genRandomUuid legacy).workflowRuns = .ok () := by
    apply Sql.check_eq_ok
    intro run hrun
    obtain ⟨wr, -, rfl⟩ := List.mem_map.mp hrun
    exact decide_eq_true (postingStatus_mem _ _ _ wr)
  have hshipments : Sql.check
      (MigrationError.checkViolation "ck_shipments_reconciliation_status")
      (fun s : Shipment => s.reconciliationStatus ∈ reconciliationStatuses)
      (upgradeShipments legacy) = .ok () := by
    apply Sql.check_eq_ok
    intro s hs
    obtain ⟨s, -, rfl⟩ := List.mem_map.mp hs
    exact decide_eq_true (defaultShipment_mem s)
  rw [upgrade]
  split
  case isTrue => rfl
  case isFalse =>
      simp only [hdecisions, hstatus, hcolumns, hprocessing, hposting, bind, Except.bind]
      rw [show (legacy.shipments.map (recomputeShipment (legacy.results.map rewriteChecks))).map
        defaultShipment = upgradeShipments legacy from rfl, hshipments]
      rfl

end

/-! ## The invariants of a run -/

/-- The check constraints that the migration adds hold of every row. -/
structure Database.Constrained (db : Database) : Prop where
  processingStatus : ∀ run ∈ db.workflowRuns, run.processingStatus ∈ processingStatuses
  postingStatus : ∀ run ∈ db.workflowRuns, run.postingStatus ∈ postingStatuses
  reconciliationStatus : ∀ s ∈ db.shipments, s.reconciliationStatus ∈ reconciliationStatuses

/-- A run and its decision after the migration, against the legacy row. -/
structure Backfilled (legacy : LegacyDatabase) (db : Database) (wr : LegacyRun)
    (run : WorkflowRun) : Prop where
  sameRun : run.runId = wr.runId
  atMostOne : (db.reviewDecisions.filter (·.runId = run.runId)).length ≤ 1
  hasDecision : (∃ rd ∈ db.reviewDecisions, rd.runId = run.runId) ↔
    wr.status ∈ dispositions ∨ Recorded legacy.auditLogs wr "approved" ∨
      Recorded legacy.auditLogs wr "rejected"
  statusWins : wr.status ∈ dispositions →
    ∀ rd ∈ db.reviewDecisions, rd.runId = run.runId → rd.disposition = wr.status
  decided : ∀ rd ∈ db.reviewDecisions, rd.runId = run.runId →
    run.processingStatus = "complete" ∧ run.status = rd.disposition ∧
      (rd.disposition = "approved" ∧ run.postingStatus = "ready_for_posting" ∨
        rd.disposition = "rejected" ∧ run.postingStatus = "blocked")
  undecided : (∀ rd ∈ db.reviewDecisions, rd.runId ≠ run.runId) →
    run.status = run.processingStatus

section

variable {genRandomUuid : String → String} {legacy : LegacyDatabase} {wr : LegacyRun}

theorem upgraded_constrained : (upgraded genRandomUuid legacy).Constrained where
  processingStatus run hrun := by
    obtain ⟨wr, -, rfl⟩ := List.mem_map.mp hrun
    exact processingStatus_mem _ wr
  postingStatus run hrun := by
    obtain ⟨wr, -, rfl⟩ := List.mem_map.mp hrun
    exact postingStatus_mem _ _ _ wr
  reconciliationStatus s hs := by
    obtain ⟨s, -, rfl⟩ := List.mem_map.mp hs
    exact defaultShipment_mem s

/-- The columns of a run whose history records a decision. -/
theorem upgradeRun_decided (hwr : wr ∈ legacy.workflowRuns) {disposition : String}
    (h : auditDisposition legacy.auditLogs wr = some disposition) :
    (upgradeRun genRandomUuid legacy wr).processingStatus = "complete" ∧
      (upgradeRun genRandomUuid legacy wr).status = disposition ∧
      (disposition = "approved" ∧
          (upgradeRun genRandomUuid legacy wr).postingStatus = "ready_for_posting" ∨
        disposition = "rejected" ∧
          (upgradeRun genRandomUuid legacy wr).postingStatus = "blocked") := by
  have hany := any_backfillDecisions genRandomUuid hwr
  have happroved := decidedAs_backfillDecisions genRandomUuid hwr "approved"
  have hrejected := decidedAs_backfillDecisions genRandomUuid hwr "rejected"
  rw [h] at hany happroved hrejected
  refine ⟨?_, ?_, ?_⟩
  · simp [upgradeRun, processingStatus, hany]
  · simp [upgradeRun, h]
  · rcases auditDisposition_mem h with rfl | rfl
    · simp [upgradeRun, postingStatus, happroved]
    · simp [upgradeRun, postingStatus, happroved, hrejected]

theorem upgraded_backfilled (hwr : wr ∈ legacy.workflowRuns) :
    Backfilled legacy (upgraded genRandomUuid legacy) wr (upgradeRun genRandomUuid legacy wr) where
  sameRun := rfl
  atMostOne := Sql.length_filter_key backfillDecisions_keyed wr.runId
  hasDecision := by
    rw [← auditDisposition_isSome, ← any_backfillDecisions genRandomUuid hwr]
    simp [upgraded, upgradeRun]
  statusWins hstatus rd hrd hrun := by
    have hdecision := (auditDecision_some ((mem_backfillDecisions hwr).mp ⟨hrd, hrun⟩)).2
    rw [auditDisposition_of_status hstatus] at hdecision
    exact (Option.some.inj hdecision).symm
  decided rd hrd hrun :=
    upgradeRun_decided hwr (auditDecision_some ((mem_backfillDecisions hwr).mp ⟨hrd, hrun⟩)).2
  undecided hnone := by
    have hsome : ¬(auditDisposition legacy.auditLogs wr).isSome := by
      rw [← any_backfillDecisions genRandomUuid hwr]
      simpa [upgraded, upgradeRun] using hnone
    rw [Option.not_isSome_iff_eq_none] at hsome
    simp [upgradeRun, hsome]

theorem conflicts_ne_nil :
    conflicts legacy ≠ [] ↔ ∃ wr ∈ legacy.workflowRuns, Conflicting legacy.auditLogs wr := by
  rw [conflicts, ne_eq, List.map_eq_nil_iff, List.filter_eq_nil_iff]
  simp [Conflicting, countOf_approved, countOf_rejected]

end

/-- `upgrade` raises exactly on conflicting histories.  Otherwise its
constraints hold, and every run keeps its place and has the decision and the
columns that its status and its audit log call for. -/
theorem upgrade_establishes_invariants (genRandomUuid : String → String)
    (legacy : LegacyDatabase) :
    ((∃ e, upgrade genRandomUuid legacy = .error e) ↔
        ∃ wr ∈ legacy.workflowRuns, Conflicting legacy.auditLogs wr) ∧
      ∀ db, upgrade genRandomUuid legacy = .ok db →
        db.Constrained ∧
          List.Forall₂ (Backfilled legacy db) legacy.workflowRuns db.workflowRuns := by
  rw [upgrade_eq, ← conflicts_ne_nil]
  split
  case isTrue h =>
      constructor
      · exact ⟨fun _ => h, fun _ => ⟨_, rfl⟩⟩
      · intro db hdb
        cases hdb
  case isFalse h =>
      constructor
      · constructor
        · rintro ⟨e, he⟩
          cases he
        · intro hconflict
          exact absurd hconflict h
      · intro db hdb
        obtain rfl := Except.ok.inj hdb
        refine ⟨upgraded_constrained, ?_⟩
        rw [upgraded, List.forall₂_map_right_iff, List.forall₂_same]
        intro wr hwr
        exact upgraded_backfilled hwr

end FreightAP.Migration
