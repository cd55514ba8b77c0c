import FreightAP.Workflow.GraphSafety

/-!
# What the stores hold of a run

The row of a workflow run in PostgreSQL with its review decision, and the
checkpoints of its graph.  The two commit separately: a graph run puts a
checkpoint after every node, and the row changes with the transaction that
updates it.

The versions of the row and the checkpoints are kept oldest first.  The stores
show the last ones.
-/

namespace FreightAP

/-! ## The row of a run -/

/-- `ReviewDecision.disposition`. -/
inductive Disposition where
  | approved
  | rejected
deriving DecidableEq, Repr

namespace Disposition

/-- The text of a disposition, as the graph keeps it. -/
def text : Disposition → String
  | .approved => "approved"
  | .rejected => "rejected"

/-- The legacy status of a decided run. -/
def status : Disposition → RunStatus
  | .approved => .approved
  | .rejected => .rejected

/-- The posting status of a decided run. -/
def postingStatus : Disposition → PostingStatus
  | .approved => .readyForPosting
  | .rejected => .blocked

@[simp] theorem isDisposition_text (d : Disposition) : isDisposition (some d.text) = true := by
  cases d <;> rfl

theorem text_injective {d d' : Disposition} (h : d.text = d'.text) : d = d' := by
  cases d <;> cases d' <;> first | rfl | exact absurd h (by decide)

end Disposition

/-- A row of `workflow_runs`. -/
structure WorkflowRun where
  documentId : Nat
  status : RunStatus
  processingStatus : ProcessingStatus
  postingStatus : PostingStatus
deriving DecidableEq

namespace WorkflowRun

/-- The `UPDATE` of a session that loaded the row and has changed it since: only
the columns that differ from the loaded ones are set. -/
def flush (loaded new row : WorkflowRun) : WorkflowRun where
  documentId := row.documentId
  status := if new.status = loaded.status then row.status else new.status
  processingStatus :=
    if new.processingStatus = loaded.processingStatus then row.processingStatus
    else new.processingStatus
  postingStatus :=
    if new.postingStatus = loaded.postingStatus then row.postingStatus else new.postingStatus

/-- The row `decide_review` leaves. -/
def decided (run : WorkflowRun) (d : Disposition) : WorkflowRun :=
  { run with
    status := d.status, processingStatus := .complete, postingStatus := d.postingStatus }

/-- The row is that of a decided run. -/
def Decided (run : WorkflowRun) (d : Disposition) : Prop :=
  run.status = d.status ∧ run.processingStatus = .complete ∧ run.postingStatus = d.postingStatus

theorem decided_decided (run : WorkflowRun) (d : Disposition) : (run.decided d).Decided d :=
  ⟨rfl, rfl, rfl⟩

end WorkflowRun

/-! ## The record of a run -/

/-- What the stores hold of one run, and the call that has its row locked. -/
structure RunRecord where
  versions : List WorkflowRun
  decision : Option Disposition
  checkpoints : List Checkpoint
  lock : Option Nat

namespace RunRecord

/-- Nothing yet. -/
def empty : RunRecord := ⟨[], none, [], none⟩

/-- The committed row. -/
def row? (r : RunRecord) : Option WorkflowRun := r.versions.getLast?

/-- `aget_state`: the newest checkpoint. -/
def checkpoint? (r : RunRecord) : Option Checkpoint := r.checkpoints.getLast?

/-- Commit a new version of the row. -/
def commit (r : RunRecord) (run : WorkflowRun) : RunRecord :=
  { r with versions := r.versions ++ [run] }

/-- Put a checkpoint. -/
def put (r : RunRecord) (c : Checkpoint) : RunRecord :=
  { r with checkpoints := r.checkpoints ++ [c] }

/-- End the transaction that holds the row's lock. -/
def unlock (r : RunRecord) : RunRecord := { r with lock := none }

section

variable (r : RunRecord) (run : WorkflowRun) (c : Checkpoint)

@[simp] theorem row?_commit : (r.commit run).row? = some run := List.getLast?_concat

@[simp] theorem row?_put : (r.put c).row? = r.row? := rfl

@[simp] theorem row?_unlock : r.unlock.row? = r.row? := rfl

@[simp] theorem checkpoint?_put : (r.put c).checkpoint? = some c := List.getLast?_concat

@[simp] theorem checkpoint?_commit : (r.commit run).checkpoint? = r.checkpoint? := rfl

@[simp] theorem checkpoint?_unlock : r.unlock.checkpoint? = r.checkpoint? := rfl

@[simp] theorem decision_commit : (r.commit run).decision = r.decision := rfl

@[simp] theorem decision_put : (r.put c).decision = r.decision := rfl

@[simp] theorem decision_unlock : r.unlock.decision = r.decision := rfl

@[simp] theorem lock_commit : (r.commit run).lock = r.lock := rfl

@[simp] theorem lock_put : (r.put c).lock = r.lock := rfl

@[simp] theorem lock_unlock : r.unlock.lock = none := rfl

end

end RunRecord

end FreightAP
