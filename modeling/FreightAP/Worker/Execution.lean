import FreightAP.Review.Decision
import FreightAP.Worker.JobRecords

/-!
# Executions of a job

`_run_workflow_for_job` and `_mark_job_failed`, one step for each point where
they wait: the records of the job, the row in a session of its own, the snapshot
of the graph, its invocation, every node it runs, and the commits of the row.
An execution does not lock the row between its reads and its writes.

Any number of executions work on one run, next to the calls of `decide_review`.
`_get_or_create_job_records` is one step here, which finds the row or inserts
it.  An execution can fail at any wait, and the answer of a commit can be lost.
-/

namespace FreightAP

open Transition

/-! ## The row in a session -/

/-- `REDELIVERY_SHORT_CIRCUIT_PROCESSING_STATUSES`. -/
def redeliveryShortCircuitProcessingStatuses : List ProcessingStatus :=
  [.complete, .awaitingReview]

/-- `persist_run_state`, and the assignments of `_mark_job_failed`. -/
def persistRunState (run : WorkflowRun) (statusValue : RunStatus)
    (processingStatus : ProcessingStatus) (postingStatus : PostingStatus) : WorkflowRun :=
  { run with
    status := statusValue, processingStatus := processingStatus, postingStatus := postingStatus }

/-- The row of a run that is tried again. -/
def WorkflowRun.retrying (run : WorkflowRun) : WorkflowRun :=
  persistRunState run .retrying .retrying .notReady

/-- The row of a run that `_mark_job_failed` gives up. -/
def WorkflowRun.failed (run : WorkflowRun) : WorkflowRun :=
  persistRunState run .failed .failed .notReady

/-- What an execution gets of the graph: an interrupt, or the values of a
finished run. -/
inductive GraphResult where
  | interrupted
  | finished (values : WorkflowState)
deriving DecidableEq

/-- The row of a result. -/
def GraphResult.row (run : WorkflowRun) : GraphResult → WorkflowRun
  | .interrupted => persistRunState run .awaitingReview .awaitingReview .notReady
  | .finished values =>
      persistRunState run values.status values.processingStatus values.postingStatus

/-- The flush of a session that loaded one row and changed it into another.  It
waits for a call that has the row locked, unless nothing has changed. -/
def RunRecord.writeRow (r : RunRecord) (loaded new : WorkflowRun) : Option RunRecord :=
  if new = loaded then some r
  else if r.lock.isSome then none
  else r.row?.map fun row => r.commit (WorkflowRun.flush loaded new row)

namespace RunRecord

variable {r r' : RunRecord} {loaded new : WorkflowRun}

/-- A flush of an unchanged row does nothing, and one of a changed row needs the
row unlocked. -/
theorem writeRow_cases (h : r.writeRow loaded new = some r') :
    new = loaded ∧ r' = r ∨
      new ≠ loaded ∧ r.lock = none ∧ ∃ row, r.row? = some row ∧
        r' = r.commit (WorkflowRun.flush loaded new row) := by
  unfold writeRow at h
  split at h
  next heq =>
    cases h
    exact .inl ⟨heq, rfl⟩
  next hne =>
    split at h
    · cases h
    next hlock =>
      obtain ⟨row, hrow, h⟩ := Option.map_eq_some_iff.mp h
      exact .inr ⟨hne, Option.not_isSome_iff_eq_none.mp hlock, row, hrow, h.symm⟩

end RunRecord

/-! ## The execution -/

/-- Where an execution is, with the row as its session has it. -/
inductive ExecPhase where
  | opening
  | selecting
  | reopening (run : WorkflowRun)
  | snapshotting (run : WorkflowRun)
  | entering (run : WorkflowRun) (fresh : Bool)
  | invoking (run : WorkflowRun) (c : Checkpoint)
  | excepted (run : WorkflowRun)
  | resulted (run : WorkflowRun) (result : GraphResult)
  | returned (processingStatus : ProcessingStatus)
  | raised
  | condemning (run : WorkflowRun)
  | condemned
  | crashed
deriving DecidableEq

/-- A commit of the row: the row as loaded and as it is to be, and where the
execution goes on with and without the answer. -/
structure RowWrite where
  loaded : WorkflowRun
  new : WorkflowRun
  after : ExecPhase
  broken : ExecPhase

/-- How a commit ends: with its answer, with its answer lost, or without
effect. -/
inductive CommitEnd where
  | answered
  | lost
  | failed
deriving DecidableEq

/-- Where an execution goes on after a commit. -/
def RowWrite.next (w : RowWrite) : CommitEnd → ExecPhase
  | .answered => w.after
  | _ => w.broken

namespace ExecPhase

/-- The commit that is next. -/
def write? : ExecPhase → Option RowWrite
  | .reopening run => some ⟨run, run.retrying, .snapshotting run.retrying, .raised⟩
  | .excepted run => some ⟨run, run.retrying, .raised, .raised⟩
  | .resulted run result =>
      some ⟨run, result.row run, .returned (result.row run).processingStatus, .raised⟩
  | .condemning run => some ⟨run, run.failed, .condemned, .crashed⟩
  | _ => none

/-- The row as the session has it. -/
def loaded? : ExecPhase → Option WorkflowRun
  | .reopening run => some run
  | .snapshotting run => some run
  | .entering run _ => some run
  | .invoking run _ => some run
  | .excepted run => some run
  | .resulted run _ => some run
  | .condemning run => some run
  | _ => none

/-- The checkpoint that the graph is at, as the execution has it. -/
def checkpoint? : ExecPhase → Option Checkpoint
  | .invoking _ c => some c
  | .resulted _ (.finished values) => some ⟨values, none⟩
  | _ => none

/-- The processing status that the execution has returned. -/
def returned? : ExecPhase → Option ProcessingStatus
  | .returned processingStatus => some processingStatus
  | _ => none

/-- Whether the execution opens a failed run again. -/
def reopens : ExecPhase → Bool
  | .reopening _ => true
  | _ => false

/-- Whether the execution has no row at hand and has not returned. -/
def bare : ExecPhase → Bool
  | .opening => true
  | .selecting => true
  | .raised => true
  | .condemned => true
  | .crashed => true
  | _ => false

/-- Where an exception leads.  The graph is called inside the `try`. -/
def faulted? : ExecPhase → Option ExecPhase
  | .opening => some .raised
  | .selecting => some .raised
  | .snapshotting run => some (.excepted run)
  | .entering run _ => some (.excepted run)
  | .invoking run _ => some (.excepted run)
  | _ => none

/-- Whether the execution can still be stopped. -/
def active : ExecPhase → Bool
  | .returned _ => false
  | .condemned => false
  | .crashed => false
  | _ => true

end ExecPhase

/-- A step of an execution.  A node gets the resume value of a call that has
written it, or none. -/
inductive ExecAction where
  | open (documentId : Nat) (result : CommitEnd)
  | select
  | snapshot
  | invoke
  | node (env : NodeEnv) (db : Database) (resume : Option Nat)
  | commit (result : CommitEnd)
  | fault
  | markFailed
  | crash

/-- Whether the step commits the row. -/
def ExecAction.writes : ExecAction → Bool
  | .commit .answered => true
  | .commit .lost => true
  | _ => false

/-- An execution, of a delivery of a job. -/
structure Execution where
  job : InvoiceJobEnvelope
  operatorReplay : Bool
  phase : ExecPhase
deriving DecidableEq

section

variable (uuid5 : String → String)

/-- The checkpoint of an invocation with `initial_state`, merged into what the
thread has: the disposition stays, and the messages are appended. -/
def inputCheckpoint (job : InvoiceJobEnvelope) (documentId : Nat) (newest : Option Checkpoint) :
    Checkpoint :=
  let input := initialState (deterministicRunId uuid5 job.idempotencyKey) documentId job.filename
    ["Queued from Gmail message " ++ job.messageId ++ "."]
  .start
    { input with
      reviewDisposition := newest.bind (·.values.reviewDisposition),
      messages := (newest.elim [] (·.values.messages)) ++ input.messages }

/-- `_get_or_create_job_records` and the checks on the run it returns. -/
def openRecords (job : InvoiceJobEnvelope) (operatorReplay : Bool) (documentId : Nat)
    (result : CommitEnd) (r : RunRecord) : RunRecord × ExecPhase :=
  match r.row? with
  | none =>
      match result with
      | .answered => (r.commit (jobRun uuid5 job documentId).run, .selecting)
      | .lost => (r.commit (jobRun uuid5 job documentId).run, .raised)
      | .failed => (r, .raised)
  | some run =>
      if run.processingStatus = .failed ∧ operatorReplay = false then (r, .raised)
      else if run.processingStatus ∈ redeliveryShortCircuitProcessingStatuses then
        (r, .returned run.processingStatus)
      else (r, .selecting)

/-- The select of the row, and the check for a replay. -/
def selectRun (operatorReplay : Bool) (r : RunRecord) : RunRecord × ExecPhase :=
  match r.row? with
  | none => (r, .raised)
  | some run =>
      if operatorReplay = true ∧ run.processingStatus = .failed then (r, .reopening run)
      else (r, .snapshotting run)

/-- `aget_state`, and what is to be done with the snapshot. -/
def takeSnapshot (run : WorkflowRun) (r : RunRecord) : RunRecord × ExecPhase :=
  match r.checkpoint? with
  | none => (r, .entering run true)
  | some c =>
      if c.next.isNone then (r, .resulted run (.finished c.values))
      else (r, .entering run false)

/-- The start of `ainvoke`. -/
def enterGraph (job : InvoiceJobEnvelope) (run : WorkflowRun) (fresh : Bool) (r : RunRecord) :
    RunRecord × ExecPhase :=
  if fresh then
    let c := inputCheckpoint uuid5 job run.documentId r.checkpoint?
    (r.put c, .invoking run c)
  else
    match r.checkpoint? with
    | none => (r, .excepted run)
    | some c => (r, .invoking run c)

/-- The select of `_mark_job_failed`. -/
def selectFailed (r : RunRecord) : RunRecord × ExecPhase :=
  match r.row? with
  | none => (r, .condemned)
  | some run => (r, .condemning run)

/-- The resume value of a call, or none. -/
def resumeValue (call : Nat → Option ReviewCall) : Option Nat → Option (Option String)
  | none => some none
  | some i => (call i).map fun x => some x.requested.text

section

variable [PyRuntime]

/-- One node of the graph. -/
def executeNode (env : NodeEnv) (db : Database) (run : WorkflowRun) (c : Checkpoint)
    (resume : Option String) (r : RunRecord) : RunRecord × ExecPhase :=
  match stepGraph env resume c db with
  | .advanced c' _ => (r.put c', .invoking run c')
  | .interrupted _ _ => (r, .resulted run .interrupted)
  | .raised _ _ => (r, .excepted run)
  | .finished => (r, .resulted run (.finished c.values))

/-- `_run_workflow_for_job`, and `_mark_job_failed` after it. -/
def runWorkflowForJob (call : Nat → Option ReviewCall) (job : InvoiceJobEnvelope)
    (operatorReplay : Bool) (r : RunRecord) :
    ExecAction → ExecPhase → Option (RunRecord × ExecPhase)
  | .open documentId result, .opening =>
      some (openRecords uuid5 job operatorReplay documentId result r)
  | .select, .selecting => some (selectRun operatorReplay r)
  | .snapshot, .snapshotting run => some (takeSnapshot run r)
  | .invoke, .entering run fresh => some (enterGraph uuid5 job run fresh r)
  | .node env db resume, .invoking run c =>
      (resumeValue call resume).map fun v => executeNode env db run c v r
  | .commit result, p =>
      p.write?.bind fun w =>
        match result with
        | .failed => some (r, w.broken)
        | _ => (r.writeRow w.loaded w.new).map fun r => (r, w.next result)
  | .fault, p => p.faulted?.map fun p => (r, p)
  | .markFailed, .raised => some (selectFailed r)
  | .crash, p => if p.active then some (r, .crashed) else none
  | _, _ => none

/-! ## What a step of an execution does -/

/-- The steps of an execution, one constructor for each way a step goes. -/
inductive Executes (job : InvoiceJobEnvelope) (operatorReplay : Bool) (r : RunRecord) :
    ExecAction → ExecPhase → RunRecord → ExecPhase → Prop where
  | created {documentId : Nat} {result : CommitEnd} {p' : ExecPhase} : r.row? = none →
      p'.bare = true →
      Executes job operatorReplay r (.open documentId result) .opening
        (r.commit (jobRun uuid5 job documentId).run) p'
  | shortCircuit {documentId : Nat} {result : CommitEnd} {run : WorkflowRun} :
      r.row? = some run → run.processingStatus ∈ redeliveryShortCircuitProcessingStatuses →
      Executes job operatorReplay r (.open documentId result) .opening r
        (.returned run.processingStatus)
  | loaded {run : WorkflowRun} : r.row? = some run →
      Executes job operatorReplay r .select .selecting r (.snapshotting run)
  | loadedFailed {run : WorkflowRun} : r.row? = some run → operatorReplay = true →
      run.processingStatus = .failed →
      Executes job operatorReplay r .select .selecting r (.reopening run)
  | found {run : WorkflowRun} {c : Checkpoint} : r.checkpoint? = some c → c.next = none →
      Executes job operatorReplay r .snapshot (.snapshotting run) r
        (.resulted run (.finished c.values))
  | unfinished {run : WorkflowRun} {fresh : Bool} :
      Executes job operatorReplay r .snapshot (.snapshotting run) r (.entering run fresh)
  | input {run : WorkflowRun} {c : Checkpoint} :
      c = inputCheckpoint uuid5 job run.documentId r.checkpoint? →
      Executes job operatorReplay r .invoke (.entering run true) (r.put c) (.invoking run c)
  | resumed {run : WorkflowRun} {fresh : Bool} {c : Checkpoint} : r.checkpoint? = some c →
      Executes job operatorReplay r .invoke (.entering run fresh) r (.invoking run c)
  | node {run : WorkflowRun} {c c' : Checkpoint} {env : NodeEnv} {db db' : Database}
      {resume : Option Nat} {v : Option String} : stepGraph env v c db = .advanced c' db' →
      Executes job operatorReplay r (.node env db resume) (.invoking run c) (r.put c')
        (.invoking run c')
  | interrupted {run : WorkflowRun} {c : Checkpoint} {env : NodeEnv} {db : Database}
      {resume : Option Nat} :
      Executes job operatorReplay r (.node env db resume) (.invoking run c) r
        (.resulted run .interrupted)
  | ended {run : WorkflowRun} {c : Checkpoint} {env : NodeEnv} {db : Database}
      {resume : Option Nat} : c.next = none →
      Executes job operatorReplay r (.node env db resume) (.invoking run c) r
        (.resulted run (.finished c.values))
  | wrote {p : ExecPhase} {w : RowWrite} {result : CommitEnd} {r' : RunRecord} :
      p.write? = some w → result ≠ .failed → r.writeRow w.loaded w.new = some r' →
      Executes job operatorReplay r (.commit result) p r' (w.next result)
  | excepted {a : ExecAction} {p : ExecPhase} {run : WorkflowRun} : a.writes = false →
      p.loaded? = some run → Executes job operatorReplay r a p r (.excepted run)
  | condemning {run : WorkflowRun} : r.row? = some run →
      Executes job operatorReplay r .markFailed .raised r (.condemning run)
  | quiet {a : ExecAction} {p p' : ExecPhase} : a.writes = false → p.returned? = none →
      p'.bare = true → Executes job operatorReplay r a p r p'

omit [PyRuntime] in
/-- A commit that fails leaves no row at hand. -/
theorem bare_of_write {p : ExecPhase} {w : RowWrite} (h : p.write? = some w) :
    w.broken.bare = true := by
  cases p <;> cases h <;> rfl

omit [PyRuntime] in
theorem write_unreturned {p : ExecPhase} {w : RowWrite} (h : p.write? = some w) :
    p.returned? = none := by
  cases p <;> cases h <;> rfl

theorem runWorkflowForJob_executes {uuid5 : String → String} {call : Nat → Option ReviewCall}
    {job : InvoiceJobEnvelope} {operatorReplay : Bool} {r r' : RunRecord} {a : ExecAction}
    {p p' : ExecPhase}
    (h : runWorkflowForJob uuid5 call job operatorReplay r a p = some (r', p')) :
    Executes uuid5 job operatorReplay r a p r' p' := by
  cases a with
  | «open» documentId result =>
      cases p <;> simp only [runWorkflowForJob, reduceCtorEq, Option.some.injEq] at h
      unfold openRecords at h
      split at h
      next hrow =>
        cases result <;> cases h
        · exact .created hrow rfl
        · exact .created hrow rfl
        · exact .quiet rfl rfl rfl
      next run hrow =>
        split at h
        · cases h
          exact .quiet rfl rfl rfl
        · split at h
          next hshort =>
            cases h
            exact .shortCircuit hrow hshort
          · cases h
            exact .quiet rfl rfl rfl
  | select =>
      cases p <;> simp only [runWorkflowForJob, reduceCtorEq, Option.some.injEq] at h
      unfold selectRun at h
      split at h
      · cases h
        exact .quiet rfl rfl rfl
      next run hrow =>
        split at h
        next hfailed =>
          cases h
          exact .loadedFailed hrow hfailed.1 hfailed.2
        · cases h
          exact .loaded hrow
  | snapshot =>
      cases p <;> simp only [runWorkflowForJob, reduceCtorEq, Option.some.injEq] at h
      unfold takeSnapshot at h
      split at h
      · cases h
        exact .unfinished
      next c hc =>
        split at h
        next hn =>
          cases h
          exact .found hc (Option.isNone_iff_eq_none.mp hn)
        · cases h
          exact .unfinished
  | invoke =>
      cases p with
      | entering run fresh =>
          simp only [runWorkflowForJob, Option.some.injEq] at h
          unfold enterGraph at h
          split at h
          next hfresh =>
            subst hfresh
            cases h
            exact .input rfl
          · split at h
            · cases h
              exact .excepted rfl rfl
            next c hc =>
              cases h
              exact .resumed hc
      | _ => cases h
  | node env db resume =>
      cases p with
      | invoking run c =>
          simp only [runWorkflowForJob] at h
          obtain ⟨v, -, h⟩ := Option.map_eq_some_iff.mp h
          unfold executeNode at h
          cases hs : stepGraph env v c db with
          | advanced c' db' =>
              simp only [hs] at h
              cases h
              exact .node hs
          | interrupted payload db' =>
              simp only [hs] at h
              cases h
              exact .interrupted
          | raised message db' =>
              simp only [hs] at h
              cases h
              exact .excepted rfl rfl
          | finished =>
              simp only [hs] at h
              cases h
              exact .ended (stepGraph_finished hs)
      | _ => cases h
  | commit result =>
      simp only [runWorkflowForJob] at h
      obtain ⟨w, hw, h⟩ := Option.bind_eq_some_iff.mp h
      cases result with
      | failed =>
          cases h
          exact .quiet rfl (write_unreturned hw) (bare_of_write hw)
      | answered =>
          obtain ⟨r₁, hr, h⟩ := Option.map_eq_some_iff.mp h
          cases h
          exact .wrote hw (by decide) hr
      | lost =>
          obtain ⟨r₁, hr, h⟩ := Option.map_eq_some_iff.mp h
          cases h
          exact .wrote hw (by decide) hr
  | fault =>
      simp only [runWorkflowForJob] at h
      obtain ⟨q, hq, h⟩ := Option.map_eq_some_iff.mp h
      cases h
      cases p <;> cases hq
      · exact .quiet rfl rfl rfl
      · exact .quiet rfl rfl rfl
      · exact .excepted rfl rfl
      · exact .excepted rfl rfl
      · exact .excepted rfl rfl
  | markFailed =>
      cases p <;> simp only [runWorkflowForJob, reduceCtorEq, Option.some.injEq] at h
      unfold selectFailed at h
      split at h
      · cases h
        exact .quiet rfl rfl rfl
      next run hrow =>
        cases h
        exact .condemning hrow
  | crash =>
      simp only [runWorkflowForJob] at h
      split at h
      next hactive =>
        cases h
        refine .quiet rfl ?_ rfl
        cases p <;> first
          | rfl
          | cases hactive
      · cases h

/-- A call that has returned takes no more steps. -/
theorem Executes.unreturned {job : InvoiceJobEnvelope} {operatorReplay : Bool}
    {r r' : RunRecord} {a : ExecAction} {p p' : ExecPhase}
    (h : Executes uuid5 job operatorReplay r a p r' p') : p.returned? = none := by
  cases h with
  | wrote hw _ _ => exact write_unreturned hw
  | excepted _ hl =>
      cases p <;> first
        | rfl
        | cases hl
  | quiet _ hp _ => exact hp
  | _ => rfl

/-! ## The executions and the calls on one run -/

/-- A run with the calls of `decide_review` and the executions on it. -/
structure RunDesk where
  desk : Desk
  execution : Nat → Option Execution

/-- A step of a call, a new execution, or a step of one. -/
inductive RunLabel where
  | review (l : DeskLabel)
  | begin (id : Nat) (job : InvoiceJobEnvelope) (operatorReplay : Bool)
  | act (id : Nat) (a : ExecAction)

namespace RunDesk

/-- What the stores hold of the run. -/
abbrev record (s : RunDesk) : RunRecord := s.desk.record

/-- One execution moves on, and the record with it. -/
def update (s : RunDesk) (id : Nat) (r : RunRecord) (x : Execution) : RunDesk :=
  ⟨{ s.desk with record := r }, Function.update s.execution id (some x)⟩

/-- A new execution. -/
def begin (s : RunDesk) (id : Nat) (job : InvoiceJobEnvelope) (operatorReplay : Bool) : RunDesk :=
  s.update id s.record ⟨job, operatorReplay, .opening⟩

/-- One step on the run. -/
def step (s : RunDesk) : RunLabel → Option RunDesk
  | .review l => (s.desk.step l).map fun desk => { s with desk := desk }
  | .begin id job operatorReplay =>
      if (s.execution id).isSome then none else some (s.begin id job operatorReplay)
  | .act id a =>
      (s.execution id).bind fun x =>
        (runWorkflowForJob uuid5 s.desk.call x.job x.operatorReplay s.record a x.phase).map
          fun (r, p) => s.update id r ⟨x.job, x.operatorReplay, p⟩

/-- No row yet, and nobody on the run. -/
structure Start (s : RunDesk) : Prop where
  record : s.record = .empty
  call : ∀ id, s.desk.call id = none
  execution : ∀ id, s.execution id = none

/-- Nothing at all. -/
def empty : RunDesk := ⟨⟨.empty, fun _ => none⟩, fun _ => none⟩

omit [PyRuntime] in
theorem empty_start : empty.Start := ⟨rfl, fun _ => rfl, fun _ => rfl⟩

/-- The steps on a run, one constructor for each way a step goes. -/
inductive Stepped (s : RunDesk) : RunLabel → RunDesk → Prop where
  | requested {l : DeskLabel} {id : Nat} {d : Disposition} :
      Stepped s (.review l) { s with desk := s.desk.update id s.record ⟨d, .waiting⟩ }
  | reviewed {l : DeskLabel} {id : Nat} {x : ReviewCall} {r : RunRecord} {p : ReviewPhase} :
      s.desk.call id = some x → Reviews id x.requested s.record x.phase r p →
      Stepped s (.review l) { s with desk := s.desk.update id r ⟨x.requested, p⟩ }
  | begun {id : Nat} {job : InvoiceJobEnvelope} {operatorReplay : Bool} :
      Stepped s (.begin id job operatorReplay) (s.begin id job operatorReplay)
  | executed {id : Nat} {a : ExecAction} {x : Execution} {r : RunRecord} {p : ExecPhase} :
      s.execution id = some x → Executes uuid5 x.job x.operatorReplay s.record a x.phase r p →
      Stepped s (.act id a) (s.update id r ⟨x.job, x.operatorReplay, p⟩)

theorem step_cases {uuid5 : String → String} {s s' : RunDesk} {l : RunLabel}
    (h : s.step uuid5 l = some s') : Stepped uuid5 s l s' := by
  cases l with
  | review l =>
      obtain ⟨desk, hd, h⟩ := Option.map_eq_some_iff.mp h
      subst h
      rcases Desk.step_cases hd with ⟨id, d, -, rfl⟩ | ⟨id, x, r, p, hx, hr, rfl⟩
      · exact .requested
      · exact .reviewed hx hr
  | begin id job operatorReplay =>
      simp only [step] at h
      split at h
      · cases h
      · cases h
        exact .begun
  | act id a =>
      obtain ⟨x, hx, h⟩ := Option.bind_eq_some_iff.mp h
      obtain ⟨⟨r, p⟩, hr, h⟩ := Option.map_eq_some_iff.mp h
      subst h
      exact .executed hx (runWorkflowForJob_executes hr)

section

omit [PyRuntime]

variable {s : RunDesk} {id e : Nat} {r : RunRecord} {x : Execution}

@[simp] theorem update_record : (s.update id r x).record = r := rfl

@[simp] theorem update_call : (s.update id r x).desk.call = s.desk.call := rfl

@[simp] theorem update_self : (s.update id r x).execution id = some x := Function.update_self ..

theorem update_of_ne (h : e ≠ id) : (s.update id r x).execution e = s.execution e :=
  Function.update_of_ne h ..

/-- An execution after a step of another one, or of itself. -/
theorem update_cases {y : Execution} (h : (s.update id r x).execution e = some y) :
    e = id ∧ y = x ∨ e ≠ id ∧ s.execution e = some y := by
  by_cases he : e = id
  · subst he
    rw [update_self] at h
    exact .inl ⟨rfl, (Option.some.inj h).symm⟩
  · rw [update_of_ne he] at h
    exact .inr ⟨he, h⟩

end

/-- An execution that has returned stays as it is. -/
theorem Stepped.returned_stays {uuid5 : String → String} {s s' : RunDesk} {l : RunLabel}
    (h : Stepped uuid5 s l s')
    (hl : ∀ id job operatorReplay, l ≠ .begin id job operatorReplay) {e : Nat} {x : Execution}
    {processingStatus : ProcessingStatus} (hx : s.execution e = some x)
    (hr : x.phase = .returned processingStatus) : s'.execution e = some x := by
  cases h with
  | requested => exact hx
  | reviewed => exact hx
  | begun => exact absurd rfl (hl _ _ _)
  | @executed id a y r p hy he =>
      by_cases hid : e = id
      · subst hid
        cases hx.symm.trans hy
        have hno := he.unreturned
        rw [hr] at hno
        cases hno
      · rw [update_of_ne hid]
        exact hx

/-! ## A sample -/

/-- The environment of the nodes of a document that cannot be found. -/
def missingDocumentEnv : NodeEnv :=
  ⟨.ok [], .ok ⟨.escalateStandard, "", 0⟩, ⟨0, 0, 0, "", 0, "", "", ""⟩, 0⟩

/-- A node of an execution. -/
def workerNode (id : Nat) : RunLabel := .act id (.node missingDocumentEnv .empty none)

/-- An execution alone, from its records to the commit of its interrupt. -/
def interruptedExecution (id : Nat) : List RunLabel :=
  [.act id (.open 1 .answered), .act id .select, .act id .snapshot, .act id .invoke,
   workerNode id, workerNode id, workerNode id, workerNode id, .act id (.commit .answered)]

end RunDesk

end

end

end FreightAP
