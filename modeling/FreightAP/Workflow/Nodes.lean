import FreightAP.Verdict

/-!
# Workflow nodes

The state of a workflow run and the seven nodes that update it.  A node reads
the merged state and the database and returns the state with its update merged
in, or raises, or interrupts.  What it gets from outside, the model's answers
and its database session, is its `NodeEnv`.

The file bytes are left out of the state.  Only the model call reads them.
-/

namespace FreightAP

/-! ## Statuses -/

/-- The values of the legacy `status`, of a run and of a workflow state. -/
inductive RunStatus where
  | pending
  | running
  | retrying
  | extracted
  | matched
  | exception
  | awaitingReview
  | approved
  | rejected
  | failed
  | complete
deriving DecidableEq, Repr, Inhabited

/-- `ProcessingStatus`. -/
inductive ProcessingStatus where
  | pending
  | running
  | retrying
  | awaitingReview
  | complete
  | failed
deriving DecidableEq, Repr, Inhabited

/-- `PostingStatus`. -/
inductive PostingStatus where
  | notReady
  | readyForPosting
  | posting
  | posted
  | paymentScheduled
  | paid
  | blocked
  | failed
deriving DecidableEq, Repr, Inhabited

/-! ## State -/

/-- `match_result`. -/
structure MatchResult where
  matched : Bool
  requiresReview : Bool
  reason : Option String
  shipmentId : Option Uuid
  reconciliationResultId : Option Uuid
  reconciliationStatus : Option ReconciliationStatus
  checks : List Check
  missingDocs : List String
  exceptionReasons : List String
  reviewableExceptionReasons : List String
deriving DecidableEq

/-- `TriageDecision.route`. -/
inductive TriageRoute where
  | autoResolve
  | escalateStandard
  | escalatePriority
deriving DecidableEq, Repr

/-- The text of a route. -/
def TriageRoute.text : TriageRoute → String
  | .autoResolve => "auto_resolve"
  | .escalateStandard => "escalate_standard"
  | .escalatePriority => "escalate_priority"

/-- `TriageDecision`. -/
structure TriageDecision where
  route : TriageRoute
  reasoning : String
  confidence : ℚ
deriving DecidableEq

/-- `WorkflowState`. -/
structure WorkflowState where
  runId : String
  documentId : Nat
  filename : String
  extraction : Option Extraction
  matchResult : Option MatchResult
  exceptionReason : Option String
  triageRoute : Option TriageRoute
  triageReasoning : Option String
  triageConfidence : Option ℚ
  humanDecision : Option String
  status : RunStatus
  processingStatus : ProcessingStatus
  postingStatus : PostingStatus
  reviewDisposition : Option String
  messages : List String
  iterationCount : Nat
deriving DecidableEq

/-- What `interrupt` hands to the caller. -/
structure InterruptPayload where
  reason : Option String
  extraction : Option Extraction
  triageRoute : Option TriageRoute
  triageReasoning : Option String
  triageConfidence : Option ℚ
deriving DecidableEq

/-- Append the update's message and count the iteration. -/
def WorkflowState.log (v : WorkflowState) (message : String) : WorkflowState :=
  { v with messages := v.messages ++ [message], iterationCount := v.iterationCount + 1 }

/-- `bool(state.get("exception_reason"))`. -/
def WorkflowState.hasException (v : WorkflowState) : Bool := v.exceptionReason.getD "" ≠ ""

/-- What a node gets from outside: the extraction the model's answers validate
to, or the error, the triage decision, or the error, the session, and the id that
the sequence of the documents gives next. -/
structure NodeEnv where
  extraction : Except String Extraction
  triage : Except String TriageDecision
  session : Session
  newDocumentId : Nat

/-- How a node ends. -/
inductive NodeOutcome where
  | update (v : WorkflowState) (db : Database)
  | interrupt (payload : InterruptPayload) (db : Database)
  | raised (message : String) (db : Database)
deriving DecidableEq

/-- `log_audit_event`: an insert on conflict do nothing. -/
def logAuditEvent (runId eventType : String) (db : Database) : Database :=
  db.write (.audit runId eventType)

section

variable [PyRuntime]

/-! ## Nodes -/

/-- The row of a document with a validated extraction.  For a document without a
row it is a new one, under an id of its own. -/
def extractedDocument (newId id : Nat) (filename : String) (extraction : Extraction)
    (db : Database) : Document :=
  { (db.document? id).getD
      { id := newId, filename := filename, docType := "", status := "", extractedData := none,
        shipmentId := none } with
    filename := filename, docType := (extraction.get "doc_type").text, status := "extracted",
    extractedData := some extraction }

/-- What `extract_document` stores. -/
def storeExtraction (newId id : Nat) (filename : String) (extraction : Extraction)
    (db : Database) : Database :=
  db.write (.document (extractedDocument newId id filename extraction db))

/-- `extract_node`. -/
def extractNode (env : NodeEnv) (v : WorkflowState) (db : Database) : NodeOutcome :=
  match env.extraction with
  | .error message => .raised message db
  | .ok extraction =>
      let db := storeExtraction env.newDocumentId v.documentId v.filename extraction db
      .update
        ({ v with
            extraction := some extraction, status := .extracted, processingStatus := .running }.log
          "Extracted document with Claude vision.")
        (logAuditEvent v.runId "extracted" db)

/-- `_reconciliation_exception_reason`. -/
def reconciliationExceptionReason (exceptionReasons : List String) (checks : List Check) :
    String :=
  let failedChecks := checks.filter (·.outcome = .failed)
  if failedChecks.isEmpty then ", ".intercalate exceptionReasons
  else
    ", ".intercalate exceptionReasons ++ ": " ++
      "; ".intercalate (failedChecks.map fun c => c.checkName ++ ": " ++ c.details)

/-- The match result of a document whose row is gone. -/
def documentNotFound : MatchResult where
  matched := false
  requiresReview := true
  reason := some "document_not_found"
  shipmentId := none
  reconciliationResultId := none
  reconciliationStatus := none
  checks := []
  missingDocs := []
  exceptionReasons := []
  reviewableExceptionReasons := []

/-- The match result of a document without a load number. -/
def noLoadNumber : MatchResult :=
  { documentNotFound with
    reason := some "no_load_number", exceptionReasons := ["no_load_number"] }

/-- The match result of a reconciled shipment. -/
def matchResultOf (s : Shipment) (r : ReconciliationResult) : MatchResult :=
  let reviewableReasons := r.exceptionReasons.filter fun reason => reason ∉ slaReasonCodes
  { matched := r.exceptionReasons.isEmpty
    requiresReview := !reviewableReasons.isEmpty
    reason := none
    shipmentId := some s.id
    reconciliationResultId := some r.id
    reconciliationStatus := some s.reconciliationStatus
    checks := r.checks
    missingDocs := r.missingDocs
    exceptionReasons := r.exceptionReasons
    reviewableExceptionReasons := reviewableReasons }

/-- The load number `match_node` passes on.  Only a string or `None` has a
`strip`. -/
def loadNumberOf (extraction : Option Extraction) : Except String (Option String) :=
  match field extraction "load_number" with
  | .none => .ok none
  | .str s => .ok (some s)
  | _ => .error "object has no attribute 'strip'"

/-- `upsert_shipment` and `reconcile_shipment` of one document in one
transaction, `none` without a load number. -/
def assemble (ses : Session) (loadNumber : Option String) (document : Document)
    (extraction : Extraction) (ev : Evaluation) (db : Database) :
    Except String (Option (Shipment × ReconciliationResult × List Write)) :=
  match upsertShipment ses loadNumber document extraction db with
  | .error message => .error message
  | .ok none => .ok none
  | .ok (some (s, attached)) =>
      let (s', r, reconciled) := reconcileShipment ses s ev (db.apply attached)
      .ok (some (s', r, attached ++ reconciled))

/-- The match result of a run, and the database after its transaction. -/
def matchDocument (ses : Session) (v : WorkflowState) (db : Database) :
    Except String (MatchResult × Database) :=
  match db.document? v.documentId with
  | none => .ok (documentNotFound, db)
  | some document =>
      match loadNumberOf v.extraction with
      | .error message => .error message
      | .ok loadNumber =>
          match assemble ses loadNumber document (v.extraction.getD []) (.ofRun v.runId) db with
          | .error message => .error message
          | .ok none => .ok (noLoadNumber, db)
          | .ok (some (s, r, ws)) => .ok (matchResultOf s r, db.apply ws)

/-- The reason `match_node` raises for a result that requires review. -/
def exceptionReasonOf (m : MatchResult) : String :=
  let exceptionReasons :=
    if m.reviewableExceptionReasons.isEmpty then m.reason.toList
    else m.reviewableExceptionReasons
  reconciliationExceptionReason (exceptionReasons.filter (· ≠ ""))
    (m.checks.filter fun c => c.reasonCode.all (· ∉ slaReasonCodes))

/-- The state update of `match_node`. -/
def matchUpdate (m : MatchResult) (v : WorkflowState) : WorkflowState :=
  if m.requiresReview then
    { v with
        matchResult := some m, exceptionReason := some (exceptionReasonOf m),
        status := .exception, processingStatus := .running }.log
      ("Shipment reconciliation failed: " ++ exceptionReasonOf m ++ ".")
  else
    { v with
        matchResult := some m, exceptionReason := none, status := .matched,
        processingStatus := .running }.log
      ("Reconciled shipment state for load number " ++ (field v.extraction "load_number").text ++
        ".")

/-- `match_node`. -/
def matchNode (env : NodeEnv) (v : WorkflowState) (db : Database) : NodeOutcome :=
  match matchDocument env.session v db with
  | .error message => .raised message db
  | .ok (m, db') => .update (matchUpdate m v) db'

/-- `supervisor_node`. -/
def supervisorNode (env : NodeEnv) (v : WorkflowState) (db : Database) : NodeOutcome :=
  match env.triage with
  | .error message => .raised message db
  | .ok decision =>
      .update
        ({ v with
            triageRoute := some decision.route, triageReasoning := some decision.reasoning,
            triageConfidence := some decision.confidence }.log
          ("Triage supervisor routed exception as " ++ decision.route.text ++ "."))
        (logAuditEvent v.runId "triaged" db)

/-- `_log_exception_raised_once`. -/
def logExceptionRaisedOnce (runId : String) (db : Database) : Database :=
  if (runId, "exception_raised") ∈ db.workflowAuditLogs then db
  else logAuditEvent runId "exception_raised" db

/-- `exception_node`.  Without a resume value `interrupt` pauses the run, and
with one it returns the value. -/
def exceptionNode (resume : Option String) (v : WorkflowState) (db : Database) : NodeOutcome :=
  let db := logExceptionRaisedOnce v.runId db
  match resume with
  | none =>
      .interrupt
        ⟨v.exceptionReason, v.extraction, v.triageRoute, v.triageReasoning, v.triageConfidence⟩ db
  | some decision =>
      .update
        ({ v with
            humanDecision := some decision, status := .awaitingReview,
            processingStatus := .awaitingReview, reviewDisposition := some decision }.log
          "Paused for human review.")
        db

/-- `approve_node`. -/
def approveNode (v : WorkflowState) (db : Database) : NodeOutcome :=
  .update
    ({ v with status := .approved, reviewDisposition := some "approved" }.log
      "Human reviewer approved the exception.")
    db

/-- `reject_node`. -/
def rejectNode (v : WorkflowState) (db : Database) : NodeOutcome :=
  .update
    ({ v with status := .rejected, reviewDisposition := some "rejected" }.log
      "Human reviewer rejected the exception.")
    db

/-- `decision in {"approved", "rejected"}`. -/
def isDisposition (decision : Option String) : Bool :=
  decision = some "approved" || decision = some "rejected"

/-- The posting status `complete_node` derives. -/
def postingStatusOf (decision : Option String) (reconciliation : Option ReconciliationStatus) :
    PostingStatus :=
  if decision = some "approved" ∨ decision = none ∧ reconciliation = some .reconciled then
    .readyForPosting
  else if decision = some "rejected" then .blocked
  else .notReady

/-- The legacy status of a completed run. -/
def legacyStatusOf (decision : Option String) : RunStatus :=
  if decision = some "approved" then .approved
  else if decision = some "rejected" then .rejected
  else .complete

/-- `complete_node`. -/
def completeNode (v : WorkflowState) (db : Database) : NodeOutcome :=
  if v.hasException && !isDisposition v.humanDecision then
    .update
      ({ v with status := .failed, processingStatus := .failed, postingStatus := .notReady }.log
        "Workflow failed because an exception was not resolved.")
      (logAuditEvent v.runId "failed" db)
  else
    .update
      ({ v with
          status := legacyStatusOf v.humanDecision, processingStatus := .complete,
          postingStatus :=
            postingStatusOf v.humanDecision (v.matchResult.bind (·.reconciliationStatus)) }.log
        "Workflow completed.")
      (if isDisposition v.humanDecision then db else logAuditEvent v.runId "completed" db)

end

end FreightAP
