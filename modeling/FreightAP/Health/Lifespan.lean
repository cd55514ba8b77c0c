import FreightAP.Health.Readiness
import FreightAP.Lib.Transition

/-!
# The life of the process

`lifespan` starts three tasks, the Gmail poll, the invoice worker and the SLA
scanner, and takes requests until it stops them.  Each task records how it goes
in `RuntimeHealth`, the scanner in its own `ScannerHealth` as well, and a task
that ends by itself is recorded by its done callback.  A request can poll the
inbox too, at any time and beside the task, and records it in the same outcome:
so the end of the poll task can be written over, that of the others cannot
(`not_ready_after_end`).

A step is what one of them does between two of its `await`s.  The state keeps
the histories beside the records: `polls`, `scans` and `notes` are the calls on
the three outcomes, `results` what the scans returned.

`Sound` ties the records to the histories and the worker's status to its task,
and every step keeps it (`Sound.step`).  The verdict of `Readiness` is then read
off the tasks and the histories (`Sound.ready_iff`, `Sound.status_ready_iff`), and
the two reports of the scanner are compared.
-/

namespace FreightAP

open Transition

/-! ## The scanner's own record -/

/-- `ScannerHealth`. -/
structure ScannerHealth where
  lastStartedAt : Option Int
  lastSucceededAt : Option Int
  lastError : Option String
  consecutiveFailures : Nat
  lastResultCount : Option Nat
deriving DecidableEq

namespace ScannerHealth

/-- A new one. -/
def new : ScannerHealth := ⟨none, none, none, 0, none⟩

/-- The start of `run_scanner_iteration`. -/
def begin (health : ScannerHealth) (now : Int) : ScannerHealth :=
  { health with lastStartedAt := some now }

/-- The end of `run_scanner_iteration`, with the count of the scan, `none` for
an exception. -/
def finish (health : ScannerHealth) (now : Int) : Option Nat → ScannerHealth
  | none =>
      { health with
        lastError := some "scan_failed", consecutiveFailures := health.consecutiveFailures + 1 }
  | some count =>
      { health with
        lastSucceededAt := some now, lastError := none, consecutiveFailures := 0,
        lastResultCount := some count }

/-- The `status` of `payload`. -/
def payloadStatus (health : ScannerHealth) : String :=
  if health.lastError.getD "" ≠ "" then "degraded" else "ok"

end ScannerHealth

/-! ## The tasks -/

/-- A background task: started, past its set-up, ended by an exception that its
callback has not seen yet, seen, cancelled. -/
inductive TaskState where
  | created
  | serving
  | raised
  | exited
  | cancelled
deriving DecidableEq

/-- The task has not ended. -/
def TaskState.alive : TaskState → Bool
  | .created => true
  | .serving => true
  | .raised => false
  | .exited => false
  | .cancelled => false

/-- `task.cancel()`, and the task's end by it. -/
def TaskState.cancel (task : TaskState) : TaskState := if task.alive then .cancelled else task

/-- Where `missing_document_sla_scheduler` waits. -/
inductive SlaPhase where
  | sleeping
  | scanning (now : Int)
  | dispatching
deriving DecidableEq

/-- The process, and the histories of its records; `requests` counts the requests
that poll the inbox at the moment. -/
structure Lifespan where
  runtime : RuntimeHealth
  scanner : ScannerHealth
  worker : TaskState
  gmailTask : TaskState
  slaTask : TaskState
  polling : Bool
  requests : Nat
  slaPhase : SlaPhase
  polls : List OutcomeEvent
  scans : List OutcomeEvent
  notes : List OutcomeEvent
  results : List (Option Nat)

/-- A step of a task, of a callback, or of `lifespan` itself.  An exception is
its message. -/
inductive LifespanAction where
  /-- `ensure_consumer_group` returns. -/
  | workerStart
  /-- `process_invoice_queue` ends by an exception. -/
  | workerRaise (message : String)
  | workerCallback
  | pollStart (now : Int)
  | pollEnd (now : Int) (result : Except String Nat)
  /-- A poll that cannot open its connection: nothing records the exception. -/
  | pollAbort (now : Int)
  /-- `gmail_poll`, a request, begins a poll. -/
  | requestStart (now : Int)
  | requestEnd (now : Int) (result : Except String Nat)
  | requestAbort (now : Int)
  /-- A request is cancelled: a `CancelledError` is not recorded. -/
  | requestCancel
  | gmailRaise
  | gmailCallback (now : Int)
  | scanStart (now : Int)
  | scanEnd (now : Int) (result : Option Nat)
  | dispatchEnd (now : Int) (result : Except String Nat)
  /-- What a flush of the worker or a mail of the dispatch records. -/
  | note (e : OutcomeEvent)
  | slaRaise
  | slaCallback (now : Int)
  /-- The `finally` of `lifespan`. -/
  | stop

/-- The event of an end. -/
def endEvent (now : Int) : Except String Nat → OutcomeEvent
  | .ok count => .succeeded now (some count)
  | .error message => .failed now (reasonCodeForException message)

namespace Lifespan

/-- `lifespan` up to its `yield`. -/
def start (startedAt : Int) : Lifespan where
  runtime := { RuntimeHealth.new startedAt with phase := .running }
  scanner := .new
  worker := .created
  gmailTask := .serving
  slaTask := .serving
  polling := false
  requests := 0
  slaPhase := .sleeping
  polls := []
  scans := []
  notes := []
  results := []

/-- A call on `runtime_health.gmail`. -/
def poll (st : Lifespan) (e : OutcomeEvent) : Lifespan :=
  { st with
    runtime := { st.runtime with gmail := st.runtime.gmail.apply e }, polls := st.polls ++ [e] }

/-- A call on `runtime_health.sla_scanner`. -/
def scan (st : Lifespan) (e : OutcomeEvent) : Lifespan :=
  { st with
    runtime := { st.runtime with slaScanner := st.runtime.slaScanner.apply e }
    scans := st.scans ++ [e] }

/-- A call on `runtime_health.notifications`. -/
def note (st : Lifespan) (e : OutcomeEvent) : Lifespan :=
  { st with
    runtime := { st.runtime with notifications := st.runtime.notifications.apply e }
    notes := st.notes ++ [e] }

/-- What the scheduler does when a scan returns: a success goes on to the
notifications. -/
def scanned (st : Lifespan) (startedAt now : Int) (result : Option Nat) : Lifespan :=
  let scanner := st.scanner.finish startedAt result
  let st := { st with scanner, results := st.results ++ [result] }
  match result with
  | some _ =>
      { (st.scan (.succeeded now scanner.lastResultCount)).note (.started now) with
        slaPhase := .dispatching }
  | none =>
      let reason := if scanner.lastError.getD "" ≠ "" then scanner.lastError.getD "" else "scan_failed"
      { st.scan (.failed now reason) with slaPhase := .sleeping }

/-- What the scheduler does when the dispatch returns: a failure that a mail has
recorded is left. -/
def dispatched (st : Lifespan) (now : Int) (result : Except String Nat) : Lifespan :=
  match result with
  | .ok _ => if st.runtime.notifications.inProgress then st.note (endEvent now result) else st
  | .error _ => st.note (endEvent now result)

/-- One step. -/
def step (st : Lifespan) : LifespanAction → Option Lifespan
  | .workerStart =>
      if st.worker = .created then
        some { st with runtime := st.runtime.workerStarted, worker := .serving }
      else none
  | .workerRaise message =>
      if st.worker.alive then
        some { st with
          runtime := st.runtime.workerFailed (reasonCodeForException message), worker := .raised }
      else none
  | .workerCallback =>
      if st.worker = .raised then
        some { st with
          runtime :=
            if st.runtime.phase = .running then st.runtime.workerFailed "background_task_exited"
            else st.runtime
          worker := .exited }
      else none
  | .pollStart now =>
      if st.gmailTask = .serving ∧ st.polling = false then
        some { st.poll (.started now) with polling := true }
      else none
  | .pollEnd now result =>
      if st.gmailTask = .serving ∧ st.polling = true then
        some { st.poll (endEvent now result) with polling := false }
      else none
  | .pollAbort now =>
      if st.gmailTask = .serving ∧ st.polling = false then some (st.poll (.started now)) else none
  | .requestStart now =>
      if st.runtime.phase = .running then
        some { st.poll (.started now) with requests := st.requests + 1 }
      else none
  | .requestEnd now result =>
      if 0 < st.requests then
        some { st.poll (endEvent now result) with requests := st.requests - 1 }
      else none
  | .requestAbort now =>
      if st.runtime.phase = .running then some (st.poll (.started now)) else none
  | .requestCancel =>
      if 0 < st.requests then some { st with requests := st.requests - 1 } else none
  | .gmailRaise =>
      if st.gmailTask = .serving then some { st with gmailTask := .raised } else none
  | .gmailCallback now =>
      if st.gmailTask = .raised then
        if st.runtime.phase = .running then
          some { st.poll (.failed now "background_task_exited") with gmailTask := .exited }
        else some { st with gmailTask := .exited }
      else none
  | .scanStart now =>
      if st.slaTask = .serving ∧ st.slaPhase = .sleeping then
        some { st.scan (.started now) with
          scanner := st.scanner.begin now, slaPhase := .scanning now }
      else none
  | .scanEnd now result =>
      match st.slaPhase with
      | .scanning startedAt =>
          if st.slaTask = .serving then some (st.scanned startedAt now result) else none
      | _ => none
  | .dispatchEnd now result =>
      if st.slaTask = .serving ∧ st.slaPhase = .dispatching then
        some { st.dispatched now result with slaPhase := .sleeping }
      else none
  | .note e =>
      if st.worker = .serving ∨ st.slaTask = .serving ∧ st.slaPhase = .dispatching then
        some (st.note e)
      else none
  | .slaRaise => if st.slaTask = .serving then some { st with slaTask := .raised } else none
  | .slaCallback now =>
      if st.slaTask = .raised then
        if st.runtime.phase = .running then
          some { st.scan (.failed now "background_task_exited") with slaTask := .exited }
        else some { st with slaTask := .exited }
      else none
  | .stop =>
      if st.runtime.phase = .running then
        some { st with
          runtime := { st.runtime with phase := .stopping }
          worker := st.worker.cancel
          gmailTask := st.gmailTask.cancel
          slaTask := st.slaTask.cancel }
      else none

/-! ## What a step does -/

/-- The steps, with what each of them needs and does. -/
inductive Stepped (st : Lifespan) : LifespanAction → Lifespan → Prop where
  | workerStart : st.worker = .created →
      Stepped st .workerStart { st with runtime := st.runtime.workerStarted, worker := .serving }
  | workerRaise {message : String} : st.worker.alive = true →
      Stepped st (.workerRaise message)
        { st with
          runtime := st.runtime.workerFailed (reasonCodeForException message), worker := .raised }
  | workerCallback : st.worker = .raised → st.runtime.phase = .running →
      Stepped st .workerCallback
        { st with
          runtime := st.runtime.workerFailed "background_task_exited", worker := .exited }
  | workerCallbackLate : st.worker = .raised → st.runtime.phase ≠ .running →
      Stepped st .workerCallback { st with worker := .exited }
  | pollStart {now : Int} : st.gmailTask = .serving →
      Stepped st (.pollStart now) { st.poll (.started now) with polling := true }
  | pollEnd {now : Int} {result : Except String Nat} : st.gmailTask = .serving →
      Stepped st (.pollEnd now result) { st.poll (endEvent now result) with polling := false }
  | pollAbort {now : Int} : st.gmailTask = .serving →
      Stepped st (.pollAbort now) (st.poll (.started now))
  | requestStart {now : Int} :
      Stepped st (.requestStart now)
        { st.poll (.started now) with requests := st.requests + 1 }
  | requestEnd {now : Int} {result : Except String Nat} :
      Stepped st (.requestEnd now result)
        { st.poll (endEvent now result) with requests := st.requests - 1 }
  | requestAbort {now : Int} : Stepped st (.requestAbort now) (st.poll (.started now))
  | requestCancel : Stepped st .requestCancel { st with requests := st.requests - 1 }
  | gmailRaise : st.gmailTask = .serving →
      Stepped st .gmailRaise { st with gmailTask := .raised }
  | gmailCallback {now : Int} : st.gmailTask = .raised → st.runtime.phase = .running →
      Stepped st (.gmailCallback now)
        { st.poll (.failed now "background_task_exited") with gmailTask := .exited }
  | gmailCallbackLate {now : Int} : st.gmailTask = .raised → st.runtime.phase ≠ .running →
      Stepped st (.gmailCallback now) { st with gmailTask := .exited }
  | scanStart {now : Int} : st.slaTask = .serving →
      Stepped st (.scanStart now)
        { st.scan (.started now) with scanner := st.scanner.begin now, slaPhase := .scanning now }
  | scanEnd {startedAt now : Int} {result : Option Nat} : st.slaTask = .serving →
      Stepped st (.scanEnd now result) (st.scanned startedAt now result)
  | dispatchEnd {now : Int} {result : Except String Nat} : st.slaTask = .serving →
      Stepped st (.dispatchEnd now result) { st.dispatched now result with slaPhase := .sleeping }
  | note {e : OutcomeEvent} : Stepped st (.note e) (st.note e)
  | slaRaise : st.slaTask = .serving → Stepped st .slaRaise { st with slaTask := .raised }
  | slaCallback {now : Int} : st.slaTask = .raised → st.runtime.phase = .running →
      Stepped st (.slaCallback now)
        { st.scan (.failed now "background_task_exited") with slaTask := .exited }
  | slaCallbackLate {now : Int} : st.slaTask = .raised → st.runtime.phase ≠ .running →
      Stepped st (.slaCallback now) { st with slaTask := .exited }
  | stop : st.runtime.phase = .running →
      Stepped st .stop
        { st with
          runtime := { st.runtime with phase := .stopping }
          worker := st.worker.cancel
          gmailTask := st.gmailTask.cancel
          slaTask := st.slaTask.cancel }

theorem step_cases {st st' : Lifespan} {a : LifespanAction} (h : st.step a = some st') :
    Stepped st a st' := by
  cases a with
  | workerStart =>
      simp only [step, Option.ite_none_right_eq_some] at h
      obtain ⟨hw, hst⟩ := h
      cases hst
      exact .workerStart hw
  | workerRaise message =>
      simp only [step, Option.ite_none_right_eq_some] at h
      obtain ⟨hw, hst⟩ := h
      cases hst
      exact .workerRaise hw
  | workerCallback =>
      simp only [step, Option.ite_none_right_eq_some] at h
      obtain ⟨hw, hst⟩ := h
      cases hst
      split
      case isTrue hphase => exact .workerCallback hw hphase
      case isFalse hphase => exact .workerCallbackLate hw hphase
  | pollStart now =>
      simp only [step, Option.ite_none_right_eq_some] at h
      obtain ⟨hw, hst⟩ := h
      cases hst
      exact .pollStart hw.1
  | pollEnd now result =>
      simp only [step, Option.ite_none_right_eq_some] at h
      obtain ⟨hw, hst⟩ := h
      cases hst
      exact .pollEnd hw.1
  | pollAbort now =>
      simp only [step, Option.ite_none_right_eq_some] at h
      obtain ⟨hw, hst⟩ := h
      cases hst
      exact .pollAbort hw.1
  | requestStart now =>
      simp only [step, Option.ite_none_right_eq_some] at h
      obtain ⟨_, hst⟩ := h
      cases hst
      exact .requestStart
  | requestEnd now result =>
      simp only [step, Option.ite_none_right_eq_some] at h
      obtain ⟨_, hst⟩ := h
      cases hst
      exact .requestEnd
  | requestAbort now =>
      simp only [step, Option.ite_none_right_eq_some] at h
      obtain ⟨_, hst⟩ := h
      cases hst
      exact .requestAbort
  | requestCancel =>
      simp only [step, Option.ite_none_right_eq_some] at h
      obtain ⟨_, hst⟩ := h
      cases hst
      exact .requestCancel
  | gmailRaise =>
      simp only [step, Option.ite_none_right_eq_some] at h
      obtain ⟨hw, hst⟩ := h
      cases hst
      exact .gmailRaise hw
  | gmailCallback now =>
      simp only [step, Option.ite_none_right_eq_some] at h
      obtain ⟨hw, hst⟩ := h
      split at hst
      case isTrue hphase =>
          cases hst
          exact .gmailCallback hw hphase
      case isFalse hphase =>
          cases hst
          exact .gmailCallbackLate hw hphase
  | scanStart now =>
      simp only [step, Option.ite_none_right_eq_some] at h
      obtain ⟨hw, hst⟩ := h
      cases hst
      exact .scanStart hw.1
  | scanEnd now result =>
      simp only [step] at h
      split at h
      next startedAt =>
        rw [Option.ite_none_right_eq_some] at h
        obtain ⟨hw, hst⟩ := h
        cases hst
        exact .scanEnd hw
      · cases h
  | dispatchEnd now result =>
      simp only [step, Option.ite_none_right_eq_some] at h
      obtain ⟨hw, hst⟩ := h
      cases hst
      exact .dispatchEnd hw.1
  | note e =>
      simp only [step, Option.ite_none_right_eq_some] at h
      obtain ⟨_, hst⟩ := h
      cases hst
      exact .note
  | slaRaise =>
      simp only [step, Option.ite_none_right_eq_some] at h
      obtain ⟨hw, hst⟩ := h
      cases hst
      exact .slaRaise hw
  | slaCallback now =>
      simp only [step, Option.ite_none_right_eq_some] at h
      obtain ⟨hw, hst⟩ := h
      split at hst
      case isTrue hphase =>
          cases hst
          exact .slaCallback hw hphase
      case isFalse hphase =>
          cases hst
          exact .slaCallbackLate hw hphase
  | stop =>
      simp only [step, Option.ite_none_right_eq_some] at h
      obtain ⟨hw, hst⟩ := h
      cases hst
      exact .stop hw

/-! ## The worker and the phase -/

/-- The worker's status is that of its task, and a process that stops has no
task left. -/
structure WorkerSound (st : Lifespan) : Prop where
  phase : st.runtime.phase ≠ .starting
  serving : st.runtime.phase = .running →
    (st.runtime.invoiceWorkerStatus = .available ↔ st.worker = .serving)
  reason : st.runtime.invoiceWorkerReason = none ↔ st.runtime.invoiceWorkerStatus ≠ .unavailable
  stopped : st.runtime.phase = .stopping →
    st.worker.alive = false ∧ st.gmailTask.alive = false ∧ st.slaTask.alive = false

theorem cancel_alive (task : TaskState) : task.cancel.alive = false := by
  cases task <;> rfl

/-- A step that leaves the worker and the phase alone, and starts no task. -/
theorem WorkerSound.frame {st st' : Lifespan} (h : st.WorkerSound) (hworker : st'.worker = st.worker)
    (hphase : st'.runtime.phase = st.runtime.phase)
    (hstatus : st'.runtime.invoiceWorkerStatus = st.runtime.invoiceWorkerStatus)
    (hreason : st'.runtime.invoiceWorkerReason = st.runtime.invoiceWorkerReason)
    (hgmail : st.gmailTask.alive = false → st'.gmailTask.alive = false)
    (hsla : st.slaTask.alive = false → st'.slaTask.alive = false) : st'.WorkerSound where
  phase := hphase ▸ h.phase
  serving hrunning := by
    rw [hstatus, hworker]
    exact h.serving (hphase ▸ hrunning)
  reason := by rw [hstatus, hreason]; exact h.reason
  stopped hstopping := by
    obtain ⟨hw, hg, hs⟩ := h.stopped (hphase ▸ hstopping)
    exact ⟨hworker ▸ hw, hgmail hg, hsla hs⟩

theorem WorkerSound.step {st st' : Lifespan} {a : LifespanAction} (h : st.WorkerSound)
    (hstep : st.step a = some st') : st'.WorkerSound := by
  cases step_cases hstep with
  | workerStart hw =>
      refine ⟨h.phase, fun _ => by simp [RuntimeHealth.workerStarted],
        by simp [RuntimeHealth.workerStarted], fun hstopping => ?_⟩
      have halive := (h.stopped hstopping).1
      rw [hw] at halive
      cases halive
  | workerRaise hw =>
      refine ⟨h.phase, fun _ => by simp [RuntimeHealth.workerFailed],
        by simp [RuntimeHealth.workerFailed], fun hstopping => ?_⟩
      have halive := (h.stopped hstopping).1
      rw [hw] at halive
      cases halive
  | workerCallback hw hphase =>
      refine ⟨h.phase, fun _ => by simp [RuntimeHealth.workerFailed],
        by simp [RuntimeHealth.workerFailed], fun hstopping => ?_⟩
      exact ⟨rfl, (h.stopped hstopping).2⟩
  | workerCallbackLate hw hphase =>
      exact ⟨h.phase, fun hrunning => absurd hrunning hphase, h.reason,
        fun hstopping => ⟨rfl, (h.stopped hstopping).2⟩⟩
  | pollStart _ => exact h.frame rfl rfl rfl rfl id id
  | pollEnd _ => exact h.frame rfl rfl rfl rfl id id
  | pollAbort _ => exact h.frame rfl rfl rfl rfl id id
  | requestStart => exact h.frame rfl rfl rfl rfl id id
  | requestEnd => exact h.frame rfl rfl rfl rfl id id
  | requestAbort => exact h.frame rfl rfl rfl rfl id id
  | requestCancel => exact h.frame rfl rfl rfl rfl id id
  | gmailRaise _ => exact h.frame rfl rfl rfl rfl (fun _ => rfl) id
  | gmailCallback _ _ => exact h.frame rfl rfl rfl rfl (fun _ => rfl) id
  | gmailCallbackLate _ _ => exact h.frame rfl rfl rfl rfl (fun _ => rfl) id
  | scanStart _ => exact h.frame rfl rfl rfl rfl id id
  | @scanEnd startedAt now result _ => cases result <;> exact h.frame rfl rfl rfl rfl id id
  | @dispatchEnd now result _ =>
      cases result with
      | error message => exact h.frame rfl rfl rfl rfl id id
      | ok count =>
          simp only [dispatched]
          split <;> exact h.frame rfl rfl rfl rfl id id
  | note => exact h.frame rfl rfl rfl rfl id id
  | slaRaise _ => exact h.frame rfl rfl rfl rfl id fun _ => rfl
  | slaCallback _ _ => exact h.frame rfl rfl rfl rfl id fun _ => rfl
  | slaCallbackLate _ _ => exact h.frame rfl rfl rfl rfl id fun _ => rfl
  | stop hphase =>
      exact ⟨nofun, nofun, h.reason,
        fun _ => ⟨cancel_alive _, cancel_alive _, cancel_alive _⟩⟩

/-! ## The histories -/

/-- The three outcomes are what their histories made of them. -/
structure Recorded (st : Lifespan) : Prop where
  gmail : st.runtime.gmail = .ofEvents st.polls
  sla : st.runtime.slaScanner = .ofEvents st.scans
  notifications : st.runtime.notifications = .ofEvents st.notes

theorem Recorded.poll {st : Lifespan} (h : st.Recorded) (e : OutcomeEvent) : (st.poll e).Recorded :=
  ⟨(congrArg (·.apply e) h.gmail).trans (BackgroundOutcome.ofEvents_concat ..).symm, h.sla,
    h.notifications⟩

theorem Recorded.scan {st : Lifespan} (h : st.Recorded) (e : OutcomeEvent) : (st.scan e).Recorded :=
  ⟨h.gmail, (congrArg (·.apply e) h.sla).trans (BackgroundOutcome.ofEvents_concat ..).symm,
    h.notifications⟩

theorem Recorded.note {st : Lifespan} (h : st.Recorded) (e : OutcomeEvent) : (st.note e).Recorded :=
  ⟨h.gmail, h.sla,
    (congrArg (·.apply e) h.notifications).trans (BackgroundOutcome.ofEvents_concat ..).symm⟩

/-- The records and the histories are all that matters. -/
theorem Recorded.frame {st st' : Lifespan} (h : st.Recorded)
    (hgmail : st'.runtime.gmail = st.runtime.gmail) (hpolls : st'.polls = st.polls)
    (hsla : st'.runtime.slaScanner = st.runtime.slaScanner) (hscans : st'.scans = st.scans)
    (hnotifications : st'.runtime.notifications = st.runtime.notifications)
    (hnotes : st'.notes = st.notes) : st'.Recorded :=
  ⟨by rw [hgmail, hpolls, h.gmail], by rw [hsla, hscans, h.sla],
    by rw [hnotifications, hnotes, h.notifications]⟩

theorem Recorded.step {st st' : Lifespan} {a : LifespanAction} (h : st.Recorded)
    (hstep : st.step a = some st') : st'.Recorded := by
  cases step_cases hstep with
  | workerStart _ => exact h.frame rfl rfl rfl rfl rfl rfl
  | workerRaise _ => exact h.frame rfl rfl rfl rfl rfl rfl
  | workerCallback _ _ => exact h.frame rfl rfl rfl rfl rfl rfl
  | workerCallbackLate _ _ => exact h.frame rfl rfl rfl rfl rfl rfl
  | pollStart _ => exact (h.poll _).frame rfl rfl rfl rfl rfl rfl
  | pollEnd _ => exact (h.poll _).frame rfl rfl rfl rfl rfl rfl
  | pollAbort _ => exact h.poll _
  | requestStart => exact (h.poll _).frame rfl rfl rfl rfl rfl rfl
  | requestEnd => exact (h.poll _).frame rfl rfl rfl rfl rfl rfl
  | requestAbort => exact h.poll _
  | requestCancel => exact h.frame rfl rfl rfl rfl rfl rfl
  | gmailRaise _ => exact h.frame rfl rfl rfl rfl rfl rfl
  | gmailCallback _ _ => exact (h.poll _).frame rfl rfl rfl rfl rfl rfl
  | gmailCallbackLate _ _ => exact h.frame rfl rfl rfl rfl rfl rfl
  | scanStart _ => exact (h.scan _).frame rfl rfl rfl rfl rfl rfl
  | @scanEnd startedAt now result _ =>
      cases result with
      | none => exact (h.scan _).frame rfl rfl rfl rfl rfl rfl
      | some count =>
          exact ((h.scan (.succeeded now (some count))).note (.started now)).frame
            rfl rfl rfl rfl rfl rfl
  | @dispatchEnd now result _ =>
      cases result with
      | error message => exact (h.note _).frame rfl rfl rfl rfl rfl rfl
      | ok count =>
          simp only [dispatched]
          split
          · exact (h.note _).frame rfl rfl rfl rfl rfl rfl
          · exact h.frame rfl rfl rfl rfl rfl rfl
  | note => exact h.note _
  | slaRaise _ => exact h.frame rfl rfl rfl rfl rfl rfl
  | slaCallback _ _ => exact (h.scan _).frame rfl rfl rfl rfl rfl rfl
  | slaCallbackLate _ _ => exact h.frame rfl rfl rfl rfl rfl rfl
  | stop _ => exact h.frame rfl rfl rfl rfl rfl rfl

/-! ## The two reports of the scanner -/

/-- The failures at the end of a list of results. -/
def trailingFailures (results : List (Option Nat)) : Nat :=
  (results.reverse.takeWhile Option.isNone).length

/-- The scanner's own record is that of its results, and the outcome agrees with
it until the task ends by itself, which the outcome alone reports. -/
structure ScannerSound (st : Lifespan) : Prop where
  failures : st.scanner.consecutiveFailures = trailingFailures st.results
  error : st.scanner.lastError = if st.results.getLast? = some none then some "scan_failed" else none
  count : st.scanner.lastResultCount = (st.results.filterMap id).getLast?
  counts : st.runtime.slaScanner.lastResultCount = st.scanner.lastResultCount
  agrees : st.slaTask ≠ .exited → st.runtime.slaScanner.reasonCode = st.scanner.lastError
  exited : st.slaTask = .exited → st.runtime.phase = .running →
    st.runtime.slaScanner.reasonCode = some "background_task_exited"

/-- A step that leaves the scanner and its records alone. -/
theorem ScannerSound.frame {st st' : Lifespan} (h : st.ScannerSound)
    (hscanner : st'.scanner = st.scanner) (hresults : st'.results = st.results)
    (hsla : st'.runtime.slaScanner = st.runtime.slaScanner) (htask : st'.slaTask = st.slaTask)
    (hphase : st'.runtime.phase = .running → st.runtime.phase = .running) : st'.ScannerSound where
  failures := by rw [hscanner, hresults]; exact h.failures
  error := by rw [hscanner, hresults]; exact h.error
  count := by rw [hscanner, hresults]; exact h.count
  counts := by rw [hscanner, hsla]; exact h.counts
  agrees hne := by rw [hscanner, hsla]; exact h.agrees (htask ▸ hne)
  exited he hrunning := by rw [hsla]; exact h.exited (htask ▸ he) (hphase hrunning)

theorem trailingFailures_concat (results : List (Option Nat)) (result : Option Nat) :
    trailingFailures (results ++ [result]) =
      if result = none then trailingFailures results + 1 else 0 := by
  rw [trailingFailures, List.reverse_append, List.reverse_singleton, List.singleton_append]
  cases result with
  | none => rfl
  | some count => rfl

theorem results_scanned (st : Lifespan) (startedAt now : Int) (result : Option Nat) :
    (st.scanned startedAt now result).results = st.results ++ [result] := by
  cases result <;> rfl

theorem ScannerSound.scanned {st : Lifespan} (h : st.ScannerSound) (hserving : st.slaTask = .serving)
    (startedAt now : Int) (result : Option Nat) : (st.scanned startedAt now result).ScannerSound := by
  have hnot : st.slaTask ≠ .exited := by
    rw [hserving]
    intro he
    cases he
  refine ⟨?_, ?_, ?_, ?_, ?_, ?_⟩
  · rw [results_scanned, trailingFailures_concat]
    cases result with
    | none => exact congrArg (· + 1) h.failures
    | some count => rfl
  · rw [results_scanned, List.getLast?_concat]
    cases result with
    | none => rfl
    | some count => rfl
  · rw [results_scanned, List.filterMap_append]
    cases result with
    | none => exact h.count.trans (congrArg List.getLast? (List.append_nil _)).symm
    | some count => exact (List.getLast?_concat ..).symm
  · cases result with
    | none => exact h.counts
    | some count => rfl
  · cases result with
    | none => exact fun _ => rfl
    | some count => exact fun _ => rfl
  · cases result with
    | none => exact fun he => absurd he hnot
    | some count => exact fun he => absurd he hnot

theorem ScannerSound.step {st st' : Lifespan} {a : LifespanAction} (h : st.ScannerSound)
    (hstep : st.step a = some st') : st'.ScannerSound := by
  cases step_cases hstep with
  | workerStart _ => exact h.frame rfl rfl rfl rfl id
  | workerRaise _ => exact h.frame rfl rfl rfl rfl id
  | workerCallback _ _ => exact h.frame rfl rfl rfl rfl id
  | workerCallbackLate _ _ => exact h.frame rfl rfl rfl rfl id
  | pollStart _ => exact h.frame rfl rfl rfl rfl id
  | pollEnd _ => exact h.frame rfl rfl rfl rfl id
  | pollAbort _ => exact h.frame rfl rfl rfl rfl id
  | requestStart => exact h.frame rfl rfl rfl rfl id
  | requestEnd => exact h.frame rfl rfl rfl rfl id
  | requestAbort => exact h.frame rfl rfl rfl rfl id
  | requestCancel => exact h.frame rfl rfl rfl rfl id
  | gmailRaise _ => exact h.frame rfl rfl rfl rfl id
  | gmailCallback _ _ => exact h.frame rfl rfl rfl rfl id
  | gmailCallbackLate _ _ => exact h.frame rfl rfl rfl rfl id
  | scanStart _ => exact ⟨h.failures, h.error, h.count, h.counts, h.agrees, h.exited⟩
  | scanEnd hserving => exact h.scanned hserving ..
  | @dispatchEnd now result _ =>
      cases result with
      | error message => exact h.frame rfl rfl rfl rfl id
      | ok count =>
          simp only [dispatched]
          split <;> exact h.frame rfl rfl rfl rfl id
  | note => exact h.frame rfl rfl rfl rfl id
  | slaRaise hserving =>
      refine ⟨h.failures, h.error, h.count, h.counts, fun _ => h.agrees ?_, nofun⟩
      rw [hserving]
      exact nofun
  | slaCallback _ hphase =>
      exact ⟨h.failures, h.error, h.count, h.counts, fun hne => absurd rfl hne, fun _ _ => rfl⟩
  | slaCallbackLate _ hphase =>
      exact ⟨h.failures, h.error, h.count, h.counts, fun hne => absurd rfl hne,
        fun _ hrunning => absurd hrunning hphase⟩
  | stop _ =>
      refine ⟨h.failures, h.error, h.count, h.counts, fun hne => h.agrees ?_, nofun⟩
      intro he
      exact hne (by simp only [he]; rfl)

/-! ## The poll task that ended -/

/-- A poll task that ended by itself is reported, until a poll of a request ends. -/
def GmailExitReported (as : List LifespanAction) (st : Lifespan) : Prop :=
  st.gmailTask = .exited → st.runtime.phase = .running →
    ∃ bs t cs, as = bs ++ .gmailCallback t :: cs ∧
      (lastEnd? st.polls = some (.failed t "background_task_exited") ∨
        ∃ now result, .requestEnd now result ∈ cs ∧
          lastEnd? st.polls = some (endEvent now result))

/-- A step that leaves the task and the last end of a poll alone. -/
theorem GmailExitReported.frame {st st' : Lifespan} {as : List LifespanAction}
    (h : st.GmailExitReported as) (a : LifespanAction)
    (htask : st'.gmailTask = .exited → st.gmailTask = .exited)
    (hphase : st'.runtime.phase = st.runtime.phase)
    (hpolls : lastEnd? st'.polls = lastEnd? st.polls) : st'.GmailExitReported (as ++ [a]) := by
  intro he hrunning
  obtain ⟨bs, t, cs, rfl, hend⟩ := h (htask he) (hphase ▸ hrunning)
  refine ⟨bs, t, cs ++ [a], by simp, ?_⟩
  rw [hpolls]
  exact hend.imp id fun ⟨now, result, hmem, hlast⟩ =>
    ⟨now, result, List.mem_append_left _ hmem, hlast⟩

/-- The end of a poll of a request is from then on the last one. -/
theorem GmailExitReported.requestEnd {st st' : Lifespan} {as : List LifespanAction}
    (h : st.GmailExitReported as) (now : Int) (result : Except String Nat)
    (htask : st'.gmailTask = st.gmailTask) (hphase : st'.runtime.phase = st.runtime.phase)
    (hpolls : st'.polls = st.polls ++ [endEvent now result]) :
    st'.GmailExitReported (as ++ [.requestEnd now result]) := by
  intro he hrunning
  obtain ⟨bs, t, cs, rfl, -⟩ := h (htask ▸ he) (hphase ▸ hrunning)
  have hend : (endEvent now result).isEnd = true := by cases result <;> rfl
  refine ⟨bs, t, cs ++ [.requestEnd now result], by simp, .inr ⟨now, result, by simp, ?_⟩⟩
  rw [hpolls, lastEnd?_concat, if_pos hend]

theorem GmailExitReported.step {st st' : Lifespan} {as : List LifespanAction}
    {a : LifespanAction} (h : st.GmailExitReported as) (hstep : st.step a = some st') :
    st'.GmailExitReported (as ++ [a]) := by
  have hserving : ∀ {P : Prop}, st.gmailTask = .serving → st.gmailTask = .exited → P := by
    intro P hs he
    rw [hs] at he
    cases he
  cases step_cases hstep with
  | workerStart _ => exact h.frame _ id rfl rfl
  | workerRaise _ => exact h.frame _ id rfl rfl
  | workerCallback _ _ => exact h.frame _ id rfl rfl
  | workerCallbackLate _ _ => exact h.frame _ id rfl rfl
  | pollStart hs => exact fun he => hserving hs he
  | pollEnd hs => exact fun he => hserving hs he
  | pollAbort hs => exact fun he => hserving hs he
  | requestStart => exact h.frame _ id rfl (lastEnd?_concat ..)
  | requestEnd => exact h.requestEnd _ _ rfl rfl rfl
  | requestAbort => exact h.frame _ id rfl (lastEnd?_concat ..)
  | requestCancel => exact h.frame _ id rfl rfl
  | gmailRaise _ => exact nofun
  | @gmailCallback now _ _ =>
      exact fun _ _ => ⟨as, now, [], rfl, .inl (lastEnd?_concat ..)⟩
  | gmailCallbackLate _ hphase => exact fun _ hrunning => absurd hrunning hphase
  | scanStart _ => exact h.frame _ id rfl rfl
  | @scanEnd startedAt now result _ => cases result <;> exact h.frame _ id rfl rfl
  | @dispatchEnd now result _ =>
      cases result with
      | error message => exact h.frame _ id rfl rfl
      | ok count =>
          simp only [dispatched]
          split <;> exact h.frame _ id rfl rfl
  | note => exact h.frame _ id rfl rfl
  | slaRaise _ => exact h.frame _ id rfl rfl
  | slaCallback _ _ => exact h.frame _ id rfl rfl
  | slaCallbackLate _ _ => exact h.frame _ id rfl rfl
  | stop _ => exact nofun

/-! ## Runs -/

/-- What holds in every state that is reached. -/
structure Sound (st : Lifespan) : Prop where
  worker : st.WorkerSound
  recorded : st.Recorded
  scanner : st.ScannerSound

theorem start_sound (startedAt : Int) : (start startedAt).Sound where
  worker := ⟨nofun, fun _ => ⟨nofun, nofun⟩, by simp [start, RuntimeHealth.new], nofun⟩
  recorded := ⟨rfl, rfl, rfl⟩
  scanner := ⟨rfl, rfl, rfl, rfl, fun _ => rfl, nofun⟩

theorem Sound.step {st st' : Lifespan} {a : LifespanAction} (h : st.Sound)
    (hstep : st.step a = some st') : st'.Sound :=
  ⟨h.worker.step hstep, h.recorded.step hstep, h.scanner.step hstep⟩

theorem sound_of_run {startedAt : Int} {as : List LifespanAction} {st : Lifespan}
    (h : Run (Fires step) (start startedAt) as st) : st.Sound :=
  h.preserves Sound (start_sound startedAt) fun _ _ _ hst hstep => hst.step hstep

theorem gmailExitReported_of_run {startedAt : Int} {as : List LifespanAction} {st : Lifespan}
    (h : Run (Fires step) (start startedAt) as st) : st.GmailExitReported as :=
  h.invariant (fun as st => st.GmailExitReported as) nofun fun _ _ _ _ hst hstep => hst.step hstep

section

variable [PyRuntime]

/-- The process takes requests exactly while it runs, its worker serves and the
stores answer. -/
theorem Sound.ready_iff {st : Lifespan} (h : Sound st) {settings : HealthSettings} {now : Int}
    {probes : Probes} :
    (readiness st.runtime settings now probes).ready = true ↔
      st.runtime.phase = .running ∧ st.worker = .serving ∧ probes.StoresInTime := by
  rw [readiness_ready_iff]
  constructor
  · rintro ⟨hphase, hstores, hworker⟩
    exact ⟨hphase, (h.worker.serving hphase).mp hworker, hstores⟩
  · rintro ⟨hphase, hworker, hstores⟩
    exact ⟨hphase, hstores, (h.worker.serving hphase).mpr hworker⟩

/-- It is called ready exactly when every capability is in order as well. -/
theorem Sound.status_ready_iff {st : Lifespan} (h : Sound st) {settings : HealthSettings}
    {now : Int} {probes : Probes} :
    (readiness st.runtime settings now probes).status = .ready ↔
      (readiness st.runtime settings now probes).ready = true ∧ probes.gmailReason = none ∧
        probes.anthropicReason settings = none ∧
        Healthy st.polls now (some (settings.staleAfter settings.gmailPollIntervalSeconds)) ∧
        Healthy st.scans now
          (some (settings.staleAfter settings.missingDocumentScanIntervalSeconds)) ∧
        (st.runtime.notifications.lastAttemptAt = none ∨ Healthy st.notes now none) := by
  rw [readiness_status_ready_iff]
  refine and_congr_right fun hup => ?_
  have hpostgresql : (boundedProbe settings.healthProbeTimeoutSeconds probes.postgresql).status ≠
      .unavailable :=
    mt boundedProbe_unavailable_iff.mp (not_not.mpr (h.ready_iff.mp hup).2.2.postgresql)
  have hclaude : (if (probes.anthropicReason settings).getD "" ≠ "" then CapabilityStatus.unavailable
      else .available) = .available ↔ probes.anthropicReason settings = none := by
    have hne : probes.anthropicReason settings ≠ some "" := anthropicReason_ne_empty
    cases hreason : probes.anthropicReason settings with
    | none => simp
    | some reason => simp_all
  simp only [CapabilityChecks.values, capabilityChecks, List.forall_mem_cons, h.recorded.gmail,
    runtimeCapability_available_iff, hclaude,
    notificationCapability_available_iff h.recorded.notifications,
    slaCapability_available_iff h.recorded.sla hpostgresql]
  constructor
  · rintro ⟨⟨hgmail, hpolls⟩, hkey, ⟨_, hnotes⟩, hscans, -⟩
    exact ⟨hgmail, hkey, hpolls, hscans, hnotes⟩
  · rintro ⟨hgmail, hkey, hpolls, hscans, hnotes⟩
    exact ⟨⟨hgmail, hpolls⟩, hkey, ⟨hgmail, hnotes⟩, hscans, by simp⟩

/-- In every state of every run the process takes requests exactly when it has
not been stopped, its stores answer and its worker is up; it is called ready
exactly when the Gmail token and the API key are in order too, the last poll and
the last scan succeeded not too long ago, and so did the last notification, if
one was tried.  A reason is given exactly for what is neither available nor
starting. -/
theorem readiness_exact {startedAt : Int} {as : List LifespanAction} {st : Lifespan}
    (h : Run (Fires step) (start startedAt) as st) (settings : HealthSettings) (now : Int)
    (probes : Probes) :
    let response := readiness st.runtime settings now probes
    (response.ready = true ↔
        st.runtime.phase = .running ∧ st.worker = .serving ∧ probes.StoresInTime) ∧
      (response.status = .unavailable ↔ response.ready = false) ∧
      (response.status = .ready ↔
        response.ready = true ∧ probes.gmailReason = none ∧
          probes.anthropicReason settings = none ∧
          Healthy st.polls now (some (settings.staleAfter settings.gmailPollIntervalSeconds)) ∧
          Healthy st.scans now
            (some (settings.staleAfter settings.missingDocumentScanIntervalSeconds)) ∧
          (st.runtime.notifications.lastAttemptAt = none ∨ Healthy st.notes now none)) ∧
      (∀ check ∈ response.dependencies.values, check.Explained) ∧
      ∀ check ∈ response.capabilities.values, check.Explained := by
  have hsound := sound_of_run h
  exact ⟨hsound.ready_iff, readiness_unavailable_iff, hsound.status_ready_iff,
    readiness_explained hsound.worker.reason⟩

/-- The settings as they are by default. -/
def defaultSettings : HealthSettings where
  healthProbeTimeoutSeconds := 1
  gmailPollIntervalSeconds := 300
  missingDocumentScanIntervalSeconds := 300
  healthStaleAfterMultiplier := 5 / 2
  anthropicApiKey := "sk-ant-key"
  timeout_pos := by decide +kernel
  pollInterval_pos := by decide
  scanInterval_pos := by decide
  multiplier_gt := by decide +kernel

/-- Probes that all return in time. -/
def inTime : Probes where
  postgresql := .returned 0
  checkpoints := .returned 0
  redis := .returned 0
  gmailToken := .credentials true true
  gmailInspection := .returned
  anthropicInspection := .returned

/-- A poll and a scan that go well. -/
def quietStart : List LifespanAction :=
  [.workerStart, .pollStart 0, .scanStart 0, .pollEnd 1000000 (.ok 2), .scanEnd 1000000 (some 0),
    .dispatchEnd 1000000 (.ok 0)]

omit [PyRuntime] in
/-- After them the process is called ready. -/
theorem readiness_exact_quiet : letI := asciiRuntime
    ∃ st, Run (Fires step) (start 0) quietStart st ∧
      (readiness st.runtime defaultSettings 2000000 inTime).status = .ready := by
  have hrun : Run (Fires step) (start 0) quietStart _ := run_of_exec rfl
  have hexact := @readiness_exact asciiRuntime 0 quietStart _ hrun defaultSettings 2000000 inTime
  have hrecent : ∀ limit ∈ some (defaultSettings.staleAfter 300),
      ((2000000 - 1000000 : Int) : ℚ) / 1000000 ≤ limit := by decide +kernel
  refine ⟨_, hrun, hexact.2.2.1.mpr ⟨hexact.1.mpr ⟨rfl, rfl, ?_⟩, rfl, ?_, ?_, ?_, .inr ?_⟩⟩
  · exact ⟨⟨0, rfl⟩, ⟨0, rfl⟩, ⟨0, rfl⟩⟩
  · decide +kernel
  · exact ⟨1000000, some 2, rfl, hrecent⟩
  · exact ⟨1000000, some 0, rfl, hrecent⟩
  · exact ⟨1000000, some 0, rfl, nofun⟩

/-! ## Tasks that ended -/

/-- What does not come back: the process stops, and a task that ended by itself
stays ended. -/
structure Ended (st st' : Lifespan) : Prop where
  stopping : st.runtime.phase = .stopping → st'.runtime.phase = .stopping
  worker : st.worker = .raised ∨ st.worker = .exited → st'.worker = .raised ∨ st'.worker = .exited
  gmailTask : st.gmailTask = .exited → st'.gmailTask = .exited
  slaTask : st.slaTask = .exited → st'.slaTask = .exited

omit [PyRuntime] in
theorem Ended.of_step {st st' : Lifespan} {a : LifespanAction} (hstep : st.step a = some st') :
    Ended st st' := by
  have hfresh : ∀ {task : TaskState} {P : Prop}, task = .raised ∨ task = .exited →
      task.alive = true → P := by
    intro task P hend halive
    rcases hend with he | he
    · rw [he] at halive
      cases halive
    · rw [he] at halive
      cases halive
  cases step_cases hstep with
  | workerStart hw => exact ⟨id, fun he => hfresh he (hw ▸ rfl), id, id⟩
  | workerRaise _ => exact ⟨id, fun _ => .inl rfl, id, id⟩
  | workerCallback _ _ => exact ⟨id, fun _ => .inr rfl, id, id⟩
  | workerCallbackLate _ _ => exact ⟨id, fun _ => .inr rfl, id, id⟩
  | pollStart _ => exact ⟨id, id, id, id⟩
  | pollEnd _ => exact ⟨id, id, id, id⟩
  | pollAbort _ => exact ⟨id, id, id, id⟩
  | requestStart => exact ⟨id, id, id, id⟩
  | requestEnd => exact ⟨id, id, id, id⟩
  | requestAbort => exact ⟨id, id, id, id⟩
  | requestCancel => exact ⟨id, id, id, id⟩
  | gmailRaise hs => exact ⟨id, id, fun he => hfresh (.inr he) (hs ▸ rfl), id⟩
  | gmailCallback _ _ => exact ⟨id, id, fun _ => rfl, id⟩
  | gmailCallbackLate _ _ => exact ⟨id, id, fun _ => rfl, id⟩
  | scanStart _ => exact ⟨id, id, id, id⟩
  | @scanEnd startedAt now result _ => cases result <;> exact ⟨id, id, id, id⟩
  | @dispatchEnd now result _ =>
      cases result with
      | error message => exact ⟨id, id, id, id⟩
      | ok count =>
          simp only [dispatched]
          split <;> exact ⟨id, id, id, id⟩
  | note => exact ⟨id, id, id, id⟩
  | slaRaise hs => exact ⟨id, id, id, fun he => hfresh (.inr he) (hs ▸ rfl)⟩
  | slaCallback _ _ => exact ⟨id, id, id, fun _ => rfl⟩
  | slaCallbackLate _ _ => exact ⟨id, id, id, fun _ => rfl⟩
  | stop _ =>
      refine ⟨fun _ => rfl, fun he => ?_, fun he => ?_, fun he => ?_⟩
      · rcases he with he | he
        · exact .inl (by simp only [he]; rfl)
        · exact .inr (by simp only [he]; rfl)
      · simp only [he]
        rfl
      · simp only [he]
        rfl

omit [PyRuntime] in
theorem Ended.of_run {st st' : Lifespan} {as : List LifespanAction}
    (h : Run (Fires step) st as st') : Ended st st' := by
  refine h.preserves (Ended st) ⟨id, id, id, id⟩ fun _ _ _ hst hstep => ?_
  have hnext := Ended.of_step hstep
  exact ⟨hnext.stopping ∘ hst.stopping, hnext.worker ∘ hst.worker, hnext.gmailTask ∘ hst.gmailTask,
    hnext.slaTask ∘ hst.slaTask⟩

omit [PyRuntime] in
/-- A history is not healthy while a failure is reported. -/
theorem not_healthy {es : List OutcomeEvent} {reason : String} {now : Int} {limit : Option ℚ}
    (h : (BackgroundOutcome.ofEvents es).reasonCode = some reason) : ¬ Healthy es now limit := by
  rintro ⟨t, count, hlast, _⟩
  rw [BackgroundOutcome.ofEvents_reasonCode, hlast] at h
  cases h

/-- Once the worker has ended or the process is being stopped, it never takes
requests again, and once the scanner has ended, it is never called ready again.
Once the poll task has ended, it is called ready only after a request has polled
the inbox since, with success and not too long ago. -/
theorem not_ready_after_end {startedAt : Int} {as bs : List LifespanAction} {st st' : Lifespan}
    (h : Run (Fires step) (start startedAt) as st) (h' : Run (Fires step) st bs st')
    (settings : HealthSettings) (now : Int) (probes : Probes) :
    (st.runtime.phase = .stopping ∨ st.worker = .raised ∨ st.worker = .exited →
        (readiness st'.runtime settings now probes).ready = false) ∧
      (st.slaTask = .exited → (readiness st'.runtime settings now probes).status ≠ .ready) ∧
      (st.gmailTask = .exited → (readiness st'.runtime settings now probes).status = .ready →
        ∃ cs t ds t' count, as ++ bs = cs ++ .gmailCallback t :: ds ∧
          .requestEnd t' (.ok count) ∈ ds ∧
          ((now - t' : Int) : ℚ) / 1000000 ≤
            settings.staleAfter settings.gmailPollIntervalSeconds) := by
  have hrun := h.append h'
  have hsound := sound_of_run hrun
  have hended := Ended.of_run h'
  refine ⟨fun hend => ?_, fun hsla hcalled => ?_, fun hgmail hcalled => ?_⟩
  · rw [← Bool.not_eq_true, hsound.ready_iff]
    rintro ⟨hphase, hworker, -⟩
    rcases hend with hstop | hworker'
    · rw [hended.stopping hstop] at hphase
      cases hphase
    · rcases hended.worker hworker' with he | he
      · rw [he] at hworker
        cases hworker
      · rw [he] at hworker
        cases hworker
  · obtain ⟨hup, -, -, -, hscans, -⟩ := hsound.status_ready_iff.mp hcalled
    have hphase := (hsound.ready_iff.mp hup).1
    have hreason := hsound.scanner.exited (hended.slaTask hsla) hphase
    rw [hsound.recorded.sla] at hreason
    exact not_healthy hreason hscans
  · obtain ⟨hup, -, -, ⟨t', count, hlast, hrecent⟩, -⟩ := hsound.status_ready_iff.mp hcalled
    have hphase := (hsound.ready_iff.mp hup).1
    obtain ⟨cs, t, ds, hsplit, hreported⟩ :=
      gmailExitReported_of_run hrun (hended.gmailTask hgmail) hphase
    rcases hreported with hexit | ⟨t₁, result, hmem, hend⟩
    · cases hlast.symm.trans hexit
    · cases result with
      | error message => cases hlast.symm.trans hend
      | ok n =>
          cases hlast.symm.trans hend
          exact ⟨cs, t, ds, t', n, hsplit, hmem, hrecent _ rfl⟩

/-- The poll task ends, and a request polls the inbox. -/
def polledByRequest : List LifespanAction :=
  [.gmailRaise, .gmailCallback 1500000, .requestStart 1600000, .requestEnd 1700000 (.ok 1)]

omit [PyRuntime] in
/-- A worker that cannot set its group up ends, and the process is not ready
although a request polls the inbox; and the poll task that ends after a quiet
start is forgotten with such a poll. -/
theorem not_ready_after_end_polled : letI := asciiRuntime
    (∃ st, Run (Fires step) (start 0) [.workerRaise "no connection", .requestStart 0] st ∧
      (readiness st.runtime defaultSettings 0 inTime).ready = false) ∧
    ∃ st, Run (Fires step) (start 0) (quietStart ++ polledByRequest) st ∧
      st.gmailTask = .exited ∧
      (readiness st.runtime defaultSettings 2000000 inTime).status = .ready ∧
      ∃ cs t ds t' count, quietStart ++ polledByRequest = cs ++ .gmailCallback t :: ds ∧
        .requestEnd t' (.ok count) ∈ ds := by
  have hraised : Run (Fires step) (start 0) [.workerRaise "no connection"] _ := run_of_exec rfl
  have hboth : Run (Fires step) (start 0) [.workerRaise "no connection", .requestStart 0] _ :=
    run_of_exec rfl
  have hpolled : Run (Fires step) (start 0) (quietStart ++ polledByRequest) _ := run_of_exec rfl
  have hready := @Sound.status_ready_iff asciiRuntime _ (sound_of_run hpolled) defaultSettings
    2000000 inTime
  have hrecent : ∀ t : Int, t = 1000000 ∨ t = 1700000 →
      ∀ limit ∈ some (defaultSettings.staleAfter 300),
        ((2000000 - t : Int) : ℚ) / 1000000 ≤ limit := by
    rintro t (rfl | rfl) <;> decide +kernel
  have hcalled := hready.mpr ⟨(@Sound.ready_iff asciiRuntime _ (sound_of_run hpolled) ..).mpr
      ⟨rfl, rfl, ⟨0, rfl⟩, ⟨0, rfl⟩, ⟨0, rfl⟩⟩, rfl, by decide +kernel,
    ⟨1700000, some 1, rfl, hrecent _ (.inr rfl)⟩, ⟨1000000, some 0, rfl, hrecent _ (.inl rfl)⟩,
    .inr ⟨1000000, some 0, rfl, nofun⟩⟩
  obtain ⟨cs, t, ds, t', count, hsplit, hmem, -⟩ :=
    (@not_ready_after_end asciiRuntime _ _ [] _ _ hpolled .nil defaultSettings 2000000
      inTime).2.2 rfl hcalled
  refine ⟨⟨_, hboth, (@not_ready_after_end asciiRuntime _ _ [.requestStart 0] _ _ hraised
    (run_of_exec rfl) defaultSettings 0 inTime).1 (.inr (.inl rfl))⟩,
    _, hpolled, rfl, hcalled, cs, t, ds, t', count, ?_, hmem⟩
  rw [← hsplit, List.append_nil]

end

/-- The scanner's own record counts the failures since the last success and is
degraded exactly after a failure; the outcome that readiness reads carries the
same error and the same count, until the scheduler ends by itself: that is in
the outcome alone. -/
theorem scanner_agrees {startedAt : Int} {as : List LifespanAction} {st : Lifespan}
    (h : Run (Fires step) (start startedAt) as st) :
    st.scanner.consecutiveFailures = trailingFailures st.results ∧
      (st.scanner.payloadStatus = "degraded" ↔ st.results.getLast? = some none) ∧
      st.runtime.slaScanner.lastResultCount = st.scanner.lastResultCount ∧
      (st.slaTask ≠ .exited → st.runtime.slaScanner.reasonCode = st.scanner.lastError) ∧
      (st.slaTask = .exited → st.runtime.phase = .running →
        st.runtime.slaScanner.reasonCode = some "background_task_exited") := by
  have hsound := (sound_of_run h).scanner
  refine ⟨hsound.failures, ?_, hsound.counts, hsound.agrees, hsound.exited⟩
  rw [ScannerHealth.payloadStatus, hsound.error]
  by_cases hlast : st.results.getLast? = some none
  · simp [hlast]
  · simp [hlast]

/-- One failure after a success. -/
theorem scanner_agrees_failed :
    ∃ st, Run (Fires step) (start 0)
        [.scanStart 0, .scanEnd 1 (some 4), .dispatchEnd 2 (.ok 0), .scanStart 3, .scanEnd 4 none] st ∧
      st.scanner.payloadStatus = "degraded" ∧ st.scanner.consecutiveFailures = 1 ∧
      st.runtime.slaScanner.reasonCode = some "scan_failed" := by
  have hrun : Run (Fires step) (start 0)
      [.scanStart 0, .scanEnd 1 (some 4), .dispatchEnd 2 (.ok 0), .scanStart 3, .scanEnd 4 none] _ :=
    run_of_exec rfl
  obtain ⟨hfailures, hdegraded, -, hagrees, -⟩ := scanner_agrees hrun
  exact ⟨_, hrun, hdegraded.mpr rfl, hfailures, hagrees nofun⟩

end Lifespan

end FreightAP
