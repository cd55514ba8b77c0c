import FreightAP.Workflow.Nodes

/-!
# The workflow graph

`build_state_graph` with its two routing functions, as one step function on
checkpoints.  A checkpoint is the state after a node and the node that comes
next, `none` at `END`.  The checkpointer stores one after every node, so a run
can be taken up from any of them by another process.
-/

namespace FreightAP

/-- The nodes of the graph. -/
inductive Node where
  | extractNode
  | matchNode
  | supervisorNode
  | exceptionNode
  | approveNode
  | rejectNode
  | completeNode
deriving DecidableEq, Repr, Inhabited

/-- `route_after_match`. -/
def routeAfterMatch (v : WorkflowState) : Node :=
  if v.iterationCount > 5 then .completeNode
  else if v.hasException then .supervisorNode
  else .completeNode

/-- `route_after_exception`. -/
def routeAfterException (v : WorkflowState) : Node :=
  if v.iterationCount > 5 then .completeNode
  else if v.humanDecision = some "approved" then .approveNode
  else if v.humanDecision = some "rejected" then .rejectNode
  else .exceptionNode

/-- The node after a node, on the state it left. -/
def nextNode : Node → WorkflowState → Option Node
  | .extractNode, _ => some .matchNode
  | .matchNode, v => some (routeAfterMatch v)
  | .supervisorNode, _ => some .exceptionNode
  | .exceptionNode, v => some (routeAfterException v)
  | .approveNode, _ => some .completeNode
  | .rejectNode, _ => some .completeNode
  | .completeNode, _ => none

/-- A checkpoint: the channel values and the next node. -/
structure Checkpoint where
  values : WorkflowState
  next : Option Node
deriving DecidableEq

/-- The input of a new run. -/
def initialState (runId : String) (documentId : Nat) (filename : String)
    (messages : List String) : WorkflowState where
  runId := runId
  documentId := documentId
  filename := filename
  extraction := none
  matchResult := none
  exceptionReason := none
  triageRoute := none
  triageReasoning := none
  triageConfidence := none
  humanDecision := none
  status := .running
  processingStatus := .running
  postingStatus := .notReady
  reviewDisposition := none
  messages := messages
  iterationCount := 0

/-- The checkpoint at the entry point. -/
def Checkpoint.start (v : WorkflowState) : Checkpoint := ⟨v, some .extractNode⟩

section

variable [PyRuntime]

/-- Run one node. -/
def runNode (env : NodeEnv) (resume : Option String) (n : Node) (v : WorkflowState)
    (db : Database) : NodeOutcome :=
  match n with
  | .extractNode => extractNode env v db
  | .matchNode => matchNode env v db
  | .supervisorNode => supervisorNode env v db
  | .exceptionNode => exceptionNode resume v db
  | .approveNode => approveNode v db
  | .rejectNode => rejectNode v db
  | .completeNode => completeNode v db

/-- How one step of the graph ends. -/
inductive GraphOutcome where
  | advanced (c : Checkpoint) (db : Database)
  | interrupted (payload : InterruptPayload) (db : Database)
  | raised (message : String) (db : Database)
  | finished
deriving DecidableEq

/-- Run the next node of a checkpoint. -/
def stepGraph (env : NodeEnv) (resume : Option String) (c : Checkpoint) (db : Database) :
    GraphOutcome :=
  match c.next with
  | none => .finished
  | some n =>
      match runNode env resume n c.values db with
      | .update v db' => .advanced ⟨v, nextNode n v⟩ db'
      | .interrupt payload db' => .interrupted payload db'
      | .raised message db' => .raised message db'

end

end FreightAP
