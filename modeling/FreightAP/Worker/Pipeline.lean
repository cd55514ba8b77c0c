import FreightAP.Queue.Effects
import FreightAP.Worker.RunSafety

/-!
# Consumers at work

The queue together with the run of every idempotency key.  A delivery that
starts the workflow starts an execution on the run of its job, under the number
of the delivery.  It goes on when that execution has returned or raised, gives
the run up through `_mark_job_failed` at the attempt limit, and takes the
execution with it when it stops.
-/

namespace FreightAP

open Transition

/-- The job whose workflow a delivery has started. -/
def DeliveryPhase.job? : DeliveryPhase → Option InvoiceJobEnvelope
  | .running _ job => some job
  | .returned _ job _ => some job
  | .raised _ job _ => some job
  | .condemned _ job _ => some job
  | _ => none

/-- The queue, and the run of every idempotency key. -/
structure Pipeline where
  queue : Queue
  run : String → RunDesk

/-- A step of the queue and its parties, or of a run. -/
inductive PipelineAction where
  | queue (a : QueueAction)
  | run (idempotencyKey : String) (l : RunLabel)

namespace Pipeline

/-- One run moves on. -/
def setRun (s : Pipeline) (key : String) (desk : RunDesk) : Pipeline :=
  { s with run := Function.update s.run key desk }

/-- Where the execution of a delivery is. -/
def phase? (s : Pipeline) (c : Nat) : Option ExecPhase :=
  (s.queue.delivery c).job?.bind fun job =>
    ((s.run job.idempotencyKey).execution c).map (·.phase)

/-- A delivery goes on with what its execution has done. -/
def permits (s : Pipeline) : QueueAction → Bool
  | .finish c (.returned processingStatus) => s.phase? c = some (.returned processingStatus)
  | .finish c (.raised _) => s.phase? c = some .raised
  | .markFailed c => s.phase? c = some .condemned
  | _ => true

/-- A run goes on by itself but for what its deliveries decide: to start an
execution, to stop it, and to give the run up at the attempt limit. -/
def permitsRun (maxAttempts : Nat) (s : Pipeline) (key : String) : RunLabel → Bool
  | .review _ => true
  | .begin _ _ _ => false
  | .act _ .crash => false
  | .act c .markFailed =>
      match s.queue.delivery c with
      | .raised d job _ => job.idempotencyKey = key && maxAttempts ≤ d.attempt
      | _ => false
  | .act _ _ => true

section

variable [PyRuntime] (uuid5 : String → String)

/-- What a step of the queue does to the runs: a workflow starts, or stops with
its delivery. -/
def follow (s : Pipeline) (q : Queue) : QueueAction → Pipeline
  | .parse c | .mark c _ =>
      match q.delivery c with
      | .running d job =>
          { s with queue := q }.setRun job.idempotencyKey
            ((s.run job.idempotencyKey).begin c job (replayContext d.fields).isSome)
      | _ => { s with queue := q }
  | .abandon c =>
      match (s.queue.delivery c).job? with
      | some job =>
          match (s.run job.idempotencyKey).step uuid5 (.act c .crash) with
          | some desk => { s with queue := q }.setRun job.idempotencyKey desk
          | none => { s with queue := q }
      | none => { s with queue := q }
  | _ => { s with queue := q }

variable [QueueRuntime] (maxAttempts : Nat)

/-- One step. -/
def step (s : Pipeline) : PipelineAction → Option Pipeline
  | .queue a =>
      if s.permits a then (s.queue.step maxAttempts a).map fun q => s.follow uuid5 q a else none
  | .run key l =>
      if s.permitsRun maxAttempts key l then
        ((s.run key).step uuid5 l).map fun desk => s.setRun key desk
      else none

/-- A queue at its start, and no run yet. -/
structure Start (s : Pipeline) : Prop where
  queue : s.queue.Start
  run : ∀ key, (s.run key).Start

/-- Nothing at all. -/
def empty : Pipeline := ⟨.empty, fun _ => .empty⟩

omit [PyRuntime] [QueueRuntime] in
theorem empty_start : empty.Start := ⟨Queue.empty_start, fun _ => RunDesk.empty_start⟩

/-- The steps, one constructor for each way a step goes. -/
inductive Stepped (s : Pipeline) : PipelineAction → Pipeline → Prop where
  | queued {a : QueueAction} {q : Queue} : s.permits a = true → Queue.Stepped s.queue a q →
      Stepped s (.queue a) { s with queue := q }
  | started {a : QueueAction} {q : Queue} {c : Nat} {d : StreamDelivery}
      {job : InvoiceJobEnvelope} : Queue.Stepped s.queue a q → q.delivery c = .running d job →
      (∀ e outcome, a ≠ .finish e outcome) →
      Stepped s (.queue a) ({ s with queue := q }.setRun job.idempotencyKey
        ((s.run job.idempotencyKey).begin c job (replayContext d.fields).isSome))
  | stopped {q : Queue} {c : Nat} {job : InvoiceJobEnvelope} {desk : RunDesk} :
      Queue.Stepped s.queue (.abandon c) q → (s.queue.delivery c).job? = some job →
      RunDesk.Stepped uuid5 (s.run job.idempotencyKey) (.act c .crash) desk →
      Stepped s (.queue (.abandon c)) ({ s with queue := q }.setRun job.idempotencyKey desk)
  | ran {key : String} {l : RunLabel} {desk : RunDesk} :
      s.permitsRun maxAttempts key l = true → RunDesk.Stepped uuid5 (s.run key) l desk →
      Stepped s (.run key l) (s.setRun key desk)

theorem step_cases {uuid5 : String → String} {maxAttempts : Nat} {s t : Pipeline}
    {a : PipelineAction} (h : s.step uuid5 maxAttempts a = some t) :
    Stepped uuid5 maxAttempts s a t := by
  cases a with
  | run key l =>
      simp only [step] at h
      split at h
      next hperm =>
        obtain ⟨desk, hd, h⟩ := Option.map_eq_some_iff.mp h
        subst h
        exact .ran hperm (RunDesk.step_cases hd)
      · cases h
  | queue a =>
      simp only [step] at h
      split at h
      next hperm =>
        obtain ⟨q, hq, h⟩ := Option.map_eq_some_iff.mp h
        subst h
        have hq' := Queue.step_cases maxAttempts hq
        cases a with
        | parse c =>
            simp only [follow]
            split
            next d job hd => exact .started hq' hd fun _ _ e => by cases e
            · exact .queued hperm hq'
        | mark c clock =>
            simp only [follow]
            split
            next d job hd => exact .started hq' hd fun _ _ e => by cases e
            · exact .queued hperm hq'
        | abandon c =>
            simp only [follow]
            split
            next job hjob =>
              split
              next desk hdesk => exact .stopped hq' hjob (RunDesk.step_cases hdesk)
              · exact .queued hperm hq'
            · exact .queued hperm hq'
        | _ => exact .queued hperm hq'
      · cases h

end

end Pipeline

end FreightAP
