import FreightAP.Worker.RunSafety
import FreightAP.Workflow.AuditLog

/-!
# A run with its audit log

The calls and the executions on a run, next to the request that uploads it when
it is not the run of a job, and the rows of `workflow_audit_logs` of the run.

A node commits its audit row in a session of its own, before the graph puts the
checkpoint, so an execution can stop in between.  The foreign key of an audit
row locks the row of the run for the insert.  An insert waits while a call of
`decide_review` has that row locked, and one that the call's own graph makes
waits for the call itself.
-/

namespace FreightAP

open Transition

variable [PyRuntime]

/-! ## The request that uploads a document -/

/-- The commits of `run_workflow`. -/
def uploadWrite? : ExecPhase → Option RowWrite
  | .excepted run =>
      some ⟨run, { run with status := .failed, processingStatus := .failed }, .raised, .raised⟩
  | .resulted run result =>
      some ⟨run, result.row run, .returned (result.row run).processingStatus, .raised⟩
  | _ => none

/-- The row that `run_workflow` inserts. -/
def uploadedRun (documentId : Nat) : WorkflowRun := ⟨documentId, .running, .running, .notReady⟩

/-- `run_workflow`, on a run of its own. -/
def runWorkflow (runId filename : String) (r : RunRecord) :
    ExecAction → ExecPhase → Option (RunRecord × ExecPhase)
  | .open documentId result, .opening =>
      match result with
      | .answered => some (r.commit (uploadedRun documentId), .entering (uploadedRun documentId) true)
      | .lost => some (r.commit (uploadedRun documentId), .raised)
      | .failed => some (r, .raised)
  | .invoke, .entering run true =>
      let c := Checkpoint.start (initialState runId run.documentId filename [])
      some (r.put c, .invoking run c)
  | .node env db none, .invoking run c => some (executeNode env db run c none r)
  | .commit result, p =>
      (uploadWrite? p).bind fun w =>
        match result with
        | .failed => some (r, w.broken)
        | _ => (r.writeRow w.loaded w.new).map fun r => (r, w.next result)
  | .fault, .entering run _ => some (r, .excepted run)
  | .fault, .invoking run _ => some (r, .excepted run)
  | .crash, p => if p.active then some (r, .crashed) else none
  | _, _ => none

/-- A request of `run_workflow`. -/
structure Upload where
  filename : String
  phase : ExecPhase

/-! ## The rows after a step -/

section

variable (runId : String) (events : List String)

/-- The action, on a database that has these audit rows of the run. -/
def ReviewAction.withAudit : ReviewAction → ReviewAction
  | .node env db => .node env (db.withAudit runId events)
  | a => a

@[inherit_doc ReviewAction.withAudit]
def ExecAction.withAudit : ExecAction → ExecAction
  | .node env db resume => .node env (db.withAudit runId events) resume
  | a => a

/-- The audit rows of the run after the sessions of the nodes. -/
def ReviewAction.eventsAfter : ReviewAction → ReviewPhase → List String
  | .node env db, .invoking _ c resume => ((stepGraph env resume c db).database db).auditOf runId
  | _, _ => events

@[inherit_doc ReviewAction.eventsAfter]
def ExecAction.eventsAfter (call : Nat → Option ReviewCall) : ExecAction → ExecPhase → List String
  | .node env db resume, .invoking _ c =>
      (resumeValue call resume).elim events fun v =>
        ((stepGraph env v c db).database db).auditOf runId
  | _, _ => events

end

/-- The event that `decide_review` logs in its own transaction. -/
def ReviewPhase.loggedEvent? : ReviewPhase → Option String
  | .returned decision false => some decision.text
  | _ => none

/-- Whether the call has just locked the row. -/
def ReviewPhase.locks : ReviewPhase → Bool
  | .locked _ => true
  | _ => false

/-- How a step of an execution ends: as it is, or with an exception or a crash
after the commit of the audit row. -/
inductive StepEnd where
  | whole
  | faulted
  | crashed
deriving DecidableEq

/-- What an execution does of an action that ends so. -/
def StepEnd.action (a : ExecAction) : StepEnd → ExecAction
  | .whole => a
  | .faulted => .fault
  | .crashed => .crash

/-! ## The run -/

/-- A run, its audit rows, the executions that began, the calls that locked the
row while no worker was executing, and the calls that wait for their own lock. -/
structure AuditedRun where
  desk : RunDesk
  begun : List Nat
  upload : Option Upload
  events : List String
  alone : List Nat
  waited : List Nat

/-- A step of a call, of an execution or of the upload, or a new one. -/
inductive AuditedLabel where
  | request (id : Nat) (requested : Disposition)
  | review (id : Nat) (a : ReviewAction)
  | begin (id : Nat) (job : InvoiceJobEnvelope) (operatorReplay : Bool)
  | execute (id : Nat) (a : ExecAction) (e : StepEnd)
  | receive (filename : String)
  | upload (a : ExecAction) (e : StepEnd)

namespace AuditedRun

variable (uuid5 : String → String) (runId : String)

/-- What the stores hold of the run. -/
abbrev record (s : AuditedRun) : RunRecord := s.desk.record

/-- The calls of `decide_review`. -/
abbrev call (s : AuditedRun) : Nat → Option ReviewCall := s.desk.desk.call

/-- No execution is under way. -/
def noWorker (s : AuditedRun) : Bool :=
  s.begun.all fun id => (s.desk.execution id).all fun x => !x.phase.active

/-- A call moves on. -/
def reviewed (s : AuditedRun) (id : Nat) (requested : Disposition) (r : RunRecord)
    (p : ReviewPhase) : AuditedRun :=
  { s with
    desk := { s.desk with desk := s.desk.desk.update id r ⟨requested, p⟩ },
    events := recordEvent s.events p.loggedEvent?,
    alone := if p.locks && s.noWorker then id :: s.alone else s.alone }

/-- An execution moves on. -/
def executed (s : AuditedRun) (id : Nat) (x : Execution) (events : List String) (r : RunRecord)
    (p : ExecPhase) : AuditedRun :=
  { s with desk := s.desk.update id r ⟨x.job, x.operatorReplay, p⟩, events := events }

/-- The upload moves on. -/
def uploaded (s : AuditedRun) (filename : String) (events : List String) (r : RunRecord)
    (p : ExecPhase) : AuditedRun :=
  { s with
    desk := { s.desk with desk := { s.desk.desk with record := r } },
    upload := some ⟨filename, p⟩, events := events }

/-- One step on the run. -/
def step (s : AuditedRun) : AuditedLabel → Option AuditedRun
  | .request id requested =>
      if (s.call id).isSome then none else some (s.reviewed id requested s.record .waiting)
  | .review id a =>
      (s.call id).bind fun x =>
        let a := a.withAudit runId s.events
        if a.eventsAfter runId s.events x.phase = s.events then
          (decideReview id x.requested s.record a x.phase).map fun (r, p) =>
            s.reviewed id x.requested r p
        else some { s with waited := id :: s.waited }
  | .begin id job operatorReplay =>
      if (s.desk.execution id).isSome ∨ s.upload.isSome ∨
          deterministicRunId uuid5 job.idempotencyKey ≠ runId then none
      else some { s with desk := s.desk.begin id job operatorReplay, begun := id :: s.begun }
  | .execute id a e =>
      (s.desk.execution id).bind fun x =>
        let a := a.withAudit runId s.events
        let events := a.eventsAfter runId s.events s.call x.phase
        if events ≠ s.events ∧ s.record.lock.isSome then none
        else
          (runWorkflowForJob uuid5 s.call x.job x.operatorReplay s.record (e.action a) x.phase).map
            fun (r, p) => s.executed id x events r p
  | .receive filename =>
      if s.upload.isSome ∨ s.begun ≠ [] ∨ s.record.row?.isSome then none
      else some { s with upload := some ⟨filename, .opening⟩ }
  | .upload a e =>
      s.upload.bind fun u =>
        let a := a.withAudit runId s.events
        let events := a.eventsAfter runId s.events s.call u.phase
        if events ≠ s.events ∧ s.record.lock.isSome then none
        else
          (runWorkflow runId u.filename s.record (e.action a) u.phase).map fun (r, p) =>
            s.uploaded u.filename events r p

/-- The steps on the run, one constructor for each way a step goes. -/
inductive Stepped (s : AuditedRun) : AuditedLabel → AuditedRun → Prop where
  | requested {id : Nat} {requested : Disposition} : s.call id = none →
      Stepped s (.request id requested) (s.reviewed id requested s.record .waiting)
  | reviewed {id : Nat} {a : ReviewAction} {x : ReviewCall} {r : RunRecord} {p : ReviewPhase} :
      s.call id = some x →
      (a.withAudit runId s.events).eventsAfter runId s.events x.phase = s.events →
      decideReview id x.requested s.record (a.withAudit runId s.events) x.phase = some (r, p) →
      Stepped s (.review id a) (s.reviewed id x.requested r p)
  | waits {id : Nat} {a : ReviewAction} {x : ReviewCall} : s.call id = some x →
      (a.withAudit runId s.events).eventsAfter runId s.events x.phase ≠ s.events →
      Stepped s (.review id a) { s with waited := id :: s.waited }
  | begun {id : Nat} {job : InvoiceJobEnvelope} {operatorReplay : Bool} :
      s.desk.execution id = none → s.upload = none →
      deterministicRunId uuid5 job.idempotencyKey = runId →
      Stepped s (.begin id job operatorReplay)
        { s with desk := s.desk.begin id job operatorReplay, begun := id :: s.begun }
  | executed {id : Nat} {a : ExecAction} {e : StepEnd} {x : Execution} {r : RunRecord}
      {p : ExecPhase} {events : List String} : s.desk.execution id = some x →
      (a.withAudit runId s.events).eventsAfter runId s.events s.call x.phase = events →
      ¬(events ≠ s.events ∧ s.record.lock.isSome) →
      runWorkflowForJob uuid5 s.call x.job x.operatorReplay s.record
        (e.action (a.withAudit runId s.events)) x.phase = some (r, p) →
      Stepped s (.execute id a e) (s.executed id x events r p)
  | received {filename : String} : s.upload = none → s.begun = [] → s.record.row? = none →
      Stepped s (.receive filename) { s with upload := some ⟨filename, .opening⟩ }
  | uploaded {a : ExecAction} {e : StepEnd} {u : Upload} {r : RunRecord} {p : ExecPhase}
      {events : List String} : s.upload = some u →
      (a.withAudit runId s.events).eventsAfter runId s.events s.call u.phase = events →
      ¬(events ≠ s.events ∧ s.record.lock.isSome) →
      runWorkflow runId u.filename s.record (e.action (a.withAudit runId s.events)) u.phase =
        some (r, p) →
      Stepped s (.upload a e) (s.uploaded u.filename events r p)

theorem step_cases {uuid5 : String → String} {runId : String} {s s' : AuditedRun}
    {l : AuditedLabel} (h : s.step uuid5 runId l = some s') : Stepped uuid5 runId s l s' := by
  cases l with
  | request id requested =>
      simp only [step] at h
      split at h
      · cases h
      next hnone =>
        cases h
        exact .requested (Option.not_isSome_iff_eq_none.mp hnone)
  | review id a =>
      obtain ⟨x, hx, h⟩ := Option.bind_eq_some_iff.mp h
      simp only at h
      split at h
      next heq =>
        obtain ⟨⟨r, p⟩, hr, h⟩ := Option.map_eq_some_iff.mp h
        cases h
        exact .reviewed hx heq hr
      next hne =>
        cases h
        exact .waits hx hne
  | begin id job operatorReplay =>
      simp only [step] at h
      split at h
      · cases h
      next hno =>
        cases h
        rw [not_or, not_or, not_not, Option.not_isSome_iff_eq_none,
          Option.not_isSome_iff_eq_none] at hno
        exact .begun hno.1 hno.2.1 hno.2.2
  | execute id a e =>
      obtain ⟨x, hx, h⟩ := Option.bind_eq_some_iff.mp h
      simp only at h
      split at h
      · cases h
      next hlock =>
        obtain ⟨⟨r, p⟩, hr, h⟩ := Option.map_eq_some_iff.mp h
        cases h
        exact .executed hx rfl hlock hr
  | receive filename =>
      simp only [step] at h
      split at h
      · cases h
      next hno =>
        cases h
        rw [not_or, not_or, not_not, Option.not_isSome_iff_eq_none,
          Option.not_isSome_iff_eq_none] at hno
        exact .received hno.1 hno.2.1 hno.2.2
  | upload a e =>
      obtain ⟨u, hu, h⟩ := Option.bind_eq_some_iff.mp h
      simp only at h
      split at h
      · cases h
      next hlock =>
        obtain ⟨⟨r, p⟩, hr, h⟩ := Option.map_eq_some_iff.mp h
        cases h
        exact .uploaded hu rfl hlock hr

/-- Nothing of the run yet. -/
structure Start (s : AuditedRun) : Prop where
  desk : s.desk.Start
  begun : s.begun = []
  upload : s.upload = none
  events : s.events = []
  alone : s.alone = []
  waited : s.waited = []

/-- Nothing at all. -/
def empty : AuditedRun := ⟨.empty, [], none, [], [], []⟩

omit [PyRuntime] in
theorem empty_start : empty.Start := ⟨RunDesk.empty_start, rfl, rfl, rfl, rfl, rfl⟩

end AuditedRun

end FreightAP
