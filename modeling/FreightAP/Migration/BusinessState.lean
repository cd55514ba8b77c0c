import FreightAP.Lib.Json
import FreightAP.Lib.Sql

/-!
# The business-state migration

`upgrade` of revision 202607190002, statement by statement: the conflicts it
refuses, the review decisions it backfills from legacy statuses and audit logs,
the two new columns of a run and the status derived from them, the checks
rewritten from booleans to outcomes, the shipments recomputed from their latest
results, and the constraints added at the end.

The columns are those that the statements read or write.  A table is the list
of its rows in the order in which a scan meets them, so that rows of equal
`created_at` are sorted in that order.  A timestamp is a number.  A statement
that fails ends the migration, whose transaction then leaves nothing.
-/

namespace FreightAP.Migration

/-! ## Tables -/

/-- A row of `workflow_runs` before the migration. -/
structure LegacyRun where
  runId : String
  documentId : Int
  status : String
  interruptPayload : Option Json
  updatedAt : Int

/-- A row of `workflow_runs` whose new columns are still nullable. -/
structure BackfilledRun extends LegacyRun where
  processingStatus : Option String
  postingStatus : Option String

/-- A row of `workflow_runs` after the migration. -/
structure WorkflowRun extends LegacyRun where
  processingStatus : String
  postingStatus : String

/-- A row of `workflow_audit_logs`. -/
structure AuditLog where
  runId : String
  eventType : String
  createdAt : Int

/-- A row of `review_decisions`. -/
structure ReviewDecision where
  id : String
  runId : String
  disposition : String
  decidedAt : Int
  reviewerId : Option String

/-- A row of `documents`. -/
structure Document where
  id : Int
  shipmentId : Option String

/-- A row of `shipments`. -/
structure Shipment where
  id : String
  reconciliationStatus : String

/-- A row of `reconciliation_results`. -/
structure ReconciliationResult where
  id : String
  shipmentId : String
  checks : List Json.Members
  missingDocs : List Json
  exceptionReasons : List Json
  createdAt : Int

/-- A database at revision 202607190001, under its primary keys and the unique
index of `workflow_runs.run_id`. -/
structure LegacyDatabase where
  workflowRuns : List LegacyRun
  auditLogs : List AuditLog
  documents : List Document
  shipments : List Shipment
  results : List ReconciliationResult
  runsKeyed : Table.Keyed LegacyRun.runId workflowRuns
  documentsKeyed : Table.Keyed Document.id documents
  shipmentsKeyed : Table.Keyed Shipment.id shipments
  resultsKeyed : Table.Keyed ReconciliationResult.id results

/-- A database at revision 202607190002. -/
structure Database where
  workflowRuns : List WorkflowRun
  reviewDecisions : List ReviewDecision
  auditLogs : List AuditLog
  documents : List Document
  shipments : List Shipment
  results : List ReconciliationResult

/-- What ends a migration. -/
inductive MigrationError where
  | runtimeError (message : String)
  | notNullViolation (column : String)
  | checkViolation (constraint : String)
deriving DecidableEq

/-! ## Values of the constraints -/

/-- `ck_review_decisions_disposition`. -/
def dispositions : List String := ["approved", "rejected"]

/-- `ck_workflow_runs_processing_status`. -/
def processingStatuses : List String :=
  ["pending", "running", "retrying", "awaiting_review", "complete", "failed"]

/-- `ck_workflow_runs_posting_status`. -/
def postingStatuses : List String :=
  ["not_ready", "ready_for_posting", "posting", "posted", "payment_scheduled", "paid", "blocked",
    "failed"]

/-- `ck_shipments_reconciliation_status`. -/
def reconciliationStatuses : List String := ["pending", "partial", "reconciled", "exception"]

/-! ## Conflicts -/

/-- The events of a run that record a decision. -/
def decisionEvents (logs : List AuditLog) (wr : LegacyRun) : List AuditLog :=
  logs.filter fun wal => wal.runId = wr.runId ∧ wal.eventType ∈ dispositions

/-- `COUNT(*) FILTER (WHERE wal.event_type = …)`. -/
def countOf (events : List AuditLog) (eventType : String) : Nat :=
  events.countP fun wal => wal.eventType = eventType

/-- The runs without a decided status whose audit log holds both decisions. -/
def conflicts (legacy : LegacyDatabase) : List String :=
  (legacy.workflowRuns.filter fun wr =>
    wr.status ∉ dispositions ∧
      0 < countOf (decisionEvents legacy.auditLogs wr) "approved" ∧
      0 < countOf (decisionEvents legacy.auditLogs wr) "rejected").map (·.runId)

/-- The message about conflicts. -/
def conflictMessage (runIds : List String) : String :=
  "Conflicting historical review decisions require resolution: " ++ ", ".intercalate runIds

/-! ## Decisions -/

/-- `audit_decisions.disposition`. -/
def auditDisposition (logs : List AuditLog) (wr : LegacyRun) : Option String :=
  if wr.status ∈ dispositions then some wr.status
  else if 0 < countOf (decisionEvents logs wr) "approved" then some "approved"
  else if 0 < countOf (decisionEvents logs wr) "rejected" then some "rejected"
  else none

/-- `audit_decisions.decided_at`. -/
def auditDecidedAt (logs : List AuditLog) (wr : LegacyRun) : Int :=
  let eventType :=
    if wr.status ∈ dispositions then wr.status
    else if logs.any fun wa => wa.runId = wr.runId ∧ wa.eventType = "approved" then "approved"
    else "rejected"
  let decided := (decisionEvents logs wr).filter fun wal => wal.eventType = eventType
  (decided.map (·.createdAt)).min?.getD wr.updatedAt

/-- The row of `review_decisions` selected for a run. -/
def auditDecision (genRandomUuid : String → String) (logs : List AuditLog) (wr : LegacyRun) :
    Option ReviewDecision :=
  (auditDisposition logs wr).map fun disposition =>
    { id := genRandomUuid wr.runId
      runId := wr.runId
      disposition
      decidedAt := auditDecidedAt logs wr
      reviewerId := none }

/-- The rows of `review_decisions`, which the migration creates empty. -/
def backfillDecisions (genRandomUuid : String → String) (legacy : LegacyDatabase) :
    List ReviewDecision :=
  Sql.insertAll ReviewDecision.runId []
    (legacy.workflowRuns.filterMap (auditDecision genRandomUuid legacy.auditLogs))

/-! ## Runs -/

/-- Whether a run has a decision of a kind. -/
def decidedAs (decisions : List ReviewDecision) (wr : LegacyRun) (disposition : String) : Bool :=
  decisions.any fun rd => rd.runId = wr.runId ∧ rd.disposition = disposition

/-- The new `processing_status` of a run. -/
def processingStatus (decisions : List ReviewDecision) (wr : LegacyRun) : String :=
  if decisions.any (·.runId = wr.runId) then "complete"
  else if wr.status ∈ ["complete", "approved", "rejected", "partial", "reconciled"] then "complete"
  else if wr.status = "awaiting_review" then "awaiting_review"
  else if wr.status = "exception" ∧ wr.interruptPayload.isSome then "awaiting_review"
  else if wr.status ∈ ["failed", "exception"] then "failed"
  else if wr.status ∈ ["pending", "running", "retrying"] then wr.status
  else "failed"

/-- Whether a run closed over a document of a reconciled shipment. -/
def shipmentReconciled (documents : List Document) (shipments : List Shipment) (wr : LegacyRun) :
    Bool :=
  documents.any fun d => d.id = wr.documentId ∧
    shipments.any fun s => d.shipmentId = some s.id ∧ s.reconciliationStatus = "reconciled" ∧
      wr.status ∈ ["complete", "reconciled"]

/-- The new `posting_status` of a run. -/
def postingStatus (decisions : List ReviewDecision) (documents : List Document)
    (shipments : List Shipment) (wr : LegacyRun) : String :=
  if decidedAs decisions wr "approved" then "ready_for_posting"
  else if decidedAs decisions wr "rejected" then "blocked"
  else if wr.status = "reconciled" ∨ shipmentReconciled documents shipments wr then
    "ready_for_posting"
  else "not_ready"

/-- The update of the two new columns. -/
def backfillColumns (decisions : List ReviewDecision) (documents : List Document)
    (shipments : List Shipment) (wr : LegacyRun) : BackfilledRun :=
  { wr with
    processingStatus := some (processingStatus decisions wr)
    postingStatus := some (postingStatus decisions documents shipments wr) }

/-- The update of `status`, which keeps no value when both sources are null. -/
def backfillStatus (decisions : List ReviewDecision) (wr : BackfilledRun) :
    Except MigrationError BackfilledRun :=
  match ((Table.get? ReviewDecision.runId wr.runId decisions).map (·.disposition)).or
      wr.processingStatus with
  | some status => .ok { wr with status }
  | none => .error (.notNullViolation "status")

/-- `ALTER COLUMN … SET NOT NULL` of the two new columns. -/
def alterColumns (wr : BackfilledRun) : Except MigrationError WorkflowRun :=
  match wr.processingStatus, wr.postingStatus with
  | some processingStatus, some postingStatus =>
      .ok { wr.toLegacyRun with processingStatus, postingStatus }
  | none, _ => .error (.notNullViolation "processing_status")
  | _, none => .error (.notNullViolation "posting_status")

/-! ## Checks -/

/-- The outcome of a legacy check. -/
def legacyOutcome (missingDocs : List Json) (item : Json.Members) : String :=
  if item.text? "passed" = some "false" then "failed"
  else if item.text? "passed" = none then "not_evaluated"
  else if item.text? "check_name" = some "missing_docs" ∧ 0 < missingDocs.length then
    "not_evaluated"
  else if Sql.startsWith "skipped:" ((item.text? "details").getD "") then "not_evaluated"
  else if Sql.contains "within 3-day grace period" ((item.text? "details").getD "") then
    "not_evaluated"
  else "passed"

example : legacyOutcome [] [("check_name", .string "pod_date"), ("passed", .bool true),
    ("details", .string "skipped: no POD")] = "not_evaluated" := by decide +kernel

/-- The update of the checks of a result. -/
def rewriteChecks (rr : ReconciliationResult) : ReconciliationResult :=
  { rr with
    checks := rr.checks.map fun item =>
      (item.erase "passed").set "outcome" (.string (legacyOutcome rr.missingDocs item)) }

/-! ## Shipments -/

/-- The row of `latest_results` for a shipment. -/
def latestResult (results : List ReconciliationResult) (shipmentId : String) :
    Option ReconciliationResult :=
  Sql.distinctOn ReconciliationResult.shipmentId (fun a b => b.createdAt ≤ a.createdAt) results
    shipmentId

/-- The number of checks of a result that were not evaluated. -/
def notEvaluatedCount (rr : ReconciliationResult) : Nat :=
  rr.checks.countP fun item => item.text? "outcome" = some "not_evaluated"

/-- The update of the shipments of unknown status that have a result.  The join
leaves the last two branches of its `CASE` without rows. -/
def recomputeShipment (results : List ReconciliationResult) (s : Shipment) : Shipment :=
  if s.reconciliationStatus ∈ reconciliationStatuses then s
  else
    match latestResult results s.id with
    | none => s
    | some latest =>
        { s with
          reconciliationStatus :=
            if 0 < latest.exceptionReasons.length then "exception"
            else if 0 < latest.missingDocs.length ∨ 0 < notEvaluatedCount latest then "partial"
            else "reconciled" }

/-- The update of the shipments whose status is still unknown. -/
def defaultShipment (s : Shipment) : Shipment :=
  if s.reconciliationStatus ∈ reconciliationStatuses then s
  else
    { s with
      reconciliationStatus :=
        if s.reconciliationStatus ∈ ["awaiting_review", "approved", "rejected", "failed"] then
          "exception"
        else "pending" }

/-! ## The migration -/

/-- `upgrade`.  The columns it adds to `notifications` hold their default and
are read by nothing here. -/
def upgrade (genRandomUuid : String → String) (legacy : LegacyDatabase) :
    Except MigrationError Database := do
  if conflicts legacy ≠ [] then
    throw (.runtimeError (conflictMessage (conflicts legacy)))
  let decisions := backfillDecisions genRandomUuid legacy
  Sql.check (.checkViolation "ck_review_decisions_disposition")
    (fun rd : ReviewDecision => rd.disposition ∈ dispositions) decisions
  let runs := legacy.workflowRuns.map
    (backfillColumns decisions legacy.documents legacy.shipments)
  let runs ← runs.mapM (backfillStatus decisions)
  let results := legacy.results.map rewriteChecks
  let shipments := (legacy.shipments.map (recomputeShipment results)).map defaultShipment
  let runs ← runs.mapM alterColumns
  Sql.check (.checkViolation "ck_workflow_runs_processing_status")
    (fun wr : WorkflowRun => wr.processingStatus ∈ processingStatuses) runs
  Sql.check (.checkViolation "ck_workflow_runs_posting_status")
    (fun wr : WorkflowRun => wr.postingStatus ∈ postingStatuses) runs
  Sql.check (.checkViolation "ck_shipments_reconciliation_status")
    (fun s : Shipment => s.reconciliationStatus ∈ reconciliationStatuses) shipments
  return ⟨runs, decisions, legacy.auditLogs, legacy.documents, shipments, results⟩

end FreightAP.Migration
