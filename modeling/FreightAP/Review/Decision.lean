import FreightAP.Lib.Transition
import FreightAP.Review.Record

/-!
# Review decisions

`decide_review`, one step for each point where the call waits: the locking
select, the snapshot of the graph, its resumption, every node it runs, and the
transaction that stores the decision.  The call holds the lock of the run's row
from the select to its end.  It can crash at any point, which rolls back the
transaction and leaves the checkpoints.

A resume value is for the first node of the invocation.  It is consumed with
the node's update and gone with it.
-/

namespace FreightAP

open Transition

/-- `BusinessStateConflict`. -/
structure BusinessStateConflict where
  code : String
  message : String
  details : List (String × String)
deriving DecidableEq

/-- Where a call is. -/
inductive ReviewPhase where
  | waiting
  | locked (run : WorkflowRun)
  | resuming (run : WorkflowRun)
  | invoking (run : WorkflowRun) (c : Checkpoint) (resume : Option String)
  | resulted (run : WorkflowRun) (values : WorkflowState)
  | returned (decision : Disposition) (idempotent : Bool)
  | notFound
  | conflict (e : BusinessStateConflict)
  | crashed
deriving DecidableEq

namespace ReviewPhase

/-- Whether the call is inside its transaction, past the lock. -/
def holds : ReviewPhase → Bool
  | .locked _ => true
  | .resuming _ => true
  | .invoking _ _ _ => true
  | .resulted _ _ => true
  | _ => false

/-- Whether the call is under way. -/
def active (p : ReviewPhase) : Bool := p = .waiting || p.holds

end ReviewPhase

theorem holds_of_active {p : ReviewPhase} (hp : p.active = false) : p.holds = false := by
  rw [ReviewPhase.active, Bool.or_eq_false_iff] at hp
  exact hp.2

/-- A step of a call. -/
inductive ReviewAction where
  | lock
  | snapshot
  | invoke
  | node (env : NodeEnv) (db : Database)
  | decide
  | crash

/-! ## The conflicts -/

/-- A stored decision is another one. -/
def decisionConflict (existing requested : Disposition) : BusinessStateConflict where
  code := "review_decision_conflict"
  message := "A different review decision already exists"
  details := [("existing_decision", existing.text), ("requested_decision", requested.text)]

/-- The row of a run's processing status, as the API spells it. -/
def ProcessingStatus.text : ProcessingStatus → String
  | .pending => "pending"
  | .running => "running"
  | .retrying => "retrying"
  | .awaitingReview => "awaiting_review"
  | .complete => "complete"
  | .failed => "failed"

/-- The run waits for no review. -/
def notAwaiting (run : WorkflowRun) : BusinessStateConflict where
  code := "workflow_not_awaiting_review"
  message := "Only an awaiting_review workflow can receive its first decision"
  details := [("processing_status", run.processingStatus.text)]

/-- The checkpoint holds another decision. -/
def checkpointConflict (existing : Option String) (requested : Disposition) :
    BusinessStateConflict where
  code := "review_decision_conflict"
  message := "The checkpoint contains a different review decision"
  details :=
    [("existing_decision", existing.getD "None"), ("requested_decision", requested.text)]

/-- The graph is not paused. -/
def notPaused : BusinessStateConflict where
  code := "checkpoint_state_conflict"
  message := "The workflow checkpoint is not paused for review"
  details := []

/-- The graph interrupted once more. -/
def remainedInterrupted : BusinessStateConflict where
  code := "checkpoint_state_conflict"
  message := "The workflow remained interrupted after the decision"
  details := []

/-- The graph ended on another decision. -/
def decisionMissing (found : Option String) : BusinessStateConflict where
  code := "checkpoint_state_conflict"
  message := "The completed checkpoint does not contain the requested decision"
  details := [("checkpoint_decision", found.getD "None")]

/-! ## The call -/

section

variable [PyRuntime]

/-- `_locked_run` and the checks on what it reads. -/
def lockedRun (id : Nat) (requested : Disposition) (r : RunRecord) :
    Option (RunRecord × ReviewPhase) :=
  if r.lock.isSome then none
  else
    match r.row?, r.decision with
    | none, _ => some (r, .notFound)
    | some _, some existing =>
        if existing ≠ requested then some (r, .conflict (decisionConflict existing requested))
        else some (r, .returned existing true)
    | some run, none =>
        if run.processingStatus ≠ .awaitingReview then some (r, .conflict (notAwaiting run))
        else some ({ r with lock := some id }, .locked run)

/-- The checks on the snapshot of the graph. -/
def reviewSnapshot (requested : Disposition) (run : WorkflowRun) (r : RunRecord) :
    RunRecord × ReviewPhase :=
  match r.checkpoint? with
  | none => (r.unlock, .conflict notPaused)
  | some c =>
      if isDisposition c.values.humanDecision then
        if c.values.humanDecision ≠ some requested.text then
          (r.unlock, .conflict (checkpointConflict c.values.humanDecision requested))
        else (r, .resulted run c.values)
      else if c.next.isNone then (r.unlock, .conflict notPaused)
      else (r, .resuming run)

section

variable {id : Nat} {q d : Disposition} {c : Checkpoint}

omit [PyRuntime] in
/-- The first decision on a run that waits for it. -/
theorem lockedRun_first {r : RunRecord} {run : WorkflowRun} (hlock : r.lock = none)
    (hrow : r.row? = some run) (hdec : r.decision = none)
    (haw : run.processingStatus = .awaitingReview) :
    lockedRun id q r = some ({ r with lock := some id }, .locked run) := by
  simp [lockedRun, hlock, hrow, hdec, haw]

omit [PyRuntime] in
/-- A request on a decided run. -/
theorem lockedRun_decided {r : RunRecord} {run : WorkflowRun} (hlock : r.lock = none)
    (hrow : r.row? = some run) (hdec : r.decision = some d) :
    lockedRun id q r = some (r, if d = q then .returned d true
      else .conflict (decisionConflict d q)) := by
  by_cases hq : d = q
  · simp [lockedRun, hlock, hrow, hdec, hq]
  · simp [lockedRun, hlock, hrow, hdec, hq]

omit [PyRuntime] in
/-- A snapshot that carries a decision. -/
theorem reviewSnapshot_carried {r : RunRecord} (run : WorkflowRun)
    (hc : r.checkpoint? = some c) (hd : c.values.humanDecision = some d.text) :
    reviewSnapshot q run r = if q = d then (r, .resulted run c.values)
      else (r.unlock, .conflict (checkpointConflict (some d.text) q)) := by
  by_cases hq : q = d
  · simp [reviewSnapshot, hc, hd, hq]
  · have hne : d.text ≠ q.text := fun e => hq (Disposition.text_injective e).symm
    simp [reviewSnapshot, hc, hd, hq, hne]

end

/-- One node of the resumed graph. -/
def reviewNode (env : NodeEnv) (db : Database) (run : WorkflowRun) (c : Checkpoint)
    (resume : Option String) (r : RunRecord) : RunRecord × ReviewPhase :=
  match stepGraph env resume c db with
  | .advanced c' _ => (r.put c', .invoking run c' none)
  | .interrupted _ _ => (r.unlock, .conflict remainedInterrupted)
  | .raised _ _ => (r.unlock, .crashed)
  | .finished => (r, .resulted run c.values)

/-- The transaction that stores the decision. -/
def storeDecision (requested : Disposition) (run : WorkflowRun) (values : WorkflowState)
    (r : RunRecord) : RunRecord × ReviewPhase :=
  if values.humanDecision ≠ some requested.text then
    (r.unlock, .conflict (decisionMissing values.humanDecision))
  else
    ({ (r.commit (run.decided requested)).unlock with decision := some requested },
      .returned requested false)

/-- `decide_review`, by call `id`. -/
def decideReview (id : Nat) (requested : Disposition) (r : RunRecord) :
    ReviewAction → ReviewPhase → Option (RunRecord × ReviewPhase)
  | .lock, .waiting => lockedRun id requested r
  | .snapshot, .locked run => some (reviewSnapshot requested run r)
  | .invoke, .resuming run =>
      match r.checkpoint? with
      | none => some (r.unlock, .crashed)
      | some c => some (r, .invoking run c (some requested.text))
  | .node env db, .invoking run c resume => some (reviewNode env db run c resume r)
  | .decide, .resulted run values => some (storeDecision requested run values r)
  | .crash, p =>
      if p.active then some (if p.holds then r.unlock else r, .crashed) else none
  | _, _ => none

/-! ## What a step of a call does -/

/-- The steps of a call, one constructor for each way a step goes. -/
inductive Reviews (id : Nat) (requested : Disposition) (r : RunRecord) :
    ReviewPhase → RunRecord → ReviewPhase → Prop where
  | lock {run : WorkflowRun} : r.lock = none → r.row? = some run → r.decision = none →
      run.processingStatus = .awaitingReview →
      Reviews id requested r .waiting { r with lock := some id } (.locked run)
  | repeated : r.lock = none → r.decision = some requested → r.row? ≠ none →
      Reviews id requested r .waiting r (.returned requested true)
  | refused {p' : ReviewPhase} : r.lock = none → p'.active = false →
      (∀ d b, p' ≠ .returned d b) → Reviews id requested r .waiting r p'
  | found {run : WorkflowRun} {c : Checkpoint} : r.checkpoint? = some c →
      c.values.humanDecision = some requested.text →
      Reviews id requested r (.locked run) r (.resulted run c.values)
  | paused {run : WorkflowRun} {c : Checkpoint} : r.checkpoint? = some c →
      isDisposition c.values.humanDecision = false → c.next ≠ none →
      Reviews id requested r (.locked run) r (.resuming run)
  | invoke {run : WorkflowRun} {c : Checkpoint} : r.checkpoint? = some c →
      Reviews id requested r (.resuming run) r (.invoking run c (some requested.text))
  | node {run : WorkflowRun} {c c' : Checkpoint} {resume : Option String} {env : NodeEnv}
      {db db' : Database} : stepGraph env resume c db = .advanced c' db' →
      Reviews id requested r (.invoking run c resume) (r.put c') (.invoking run c' none)
  | ended {run : WorkflowRun} {c : Checkpoint} {resume : Option String} : c.next = none →
      Reviews id requested r (.invoking run c resume) r (.resulted run c.values)
  | store {run : WorkflowRun} {values : WorkflowState} :
      values.humanDecision = some requested.text →
      Reviews id requested r (.resulted run values)
        { (r.commit (run.decided requested)).unlock with decision := some requested }
        (.returned requested false)
  | failed {p p' : ReviewPhase} : p.holds = true → p'.active = false →
      (∀ d b, p' ≠ .returned d b) → Reviews id requested r p r.unlock p'
  | crash : Reviews id requested r .waiting r .crashed

theorem stepGraph_finished {env : NodeEnv} {resume : Option String} {c : Checkpoint}
    {db : Database} (h : stepGraph env resume c db = .finished) : c.next = none := by
  unfold stepGraph at h
  cases hn : c.next with
  | none => rfl
  | some n =>
      simp only [hn] at h
      cases hr : runNode env resume n c.values db <;> simp [hr] at h

theorem decideReview_reviews {id : Nat} {requested : Disposition} {r r' : RunRecord}
    {a : ReviewAction} {p p' : ReviewPhase} (h : decideReview id requested r a p = some (r', p')) :
    Reviews id requested r p r' p' := by
  have hno : ∀ e : BusinessStateConflict, ∀ d b, ReviewPhase.conflict e ≠ .returned d b :=
    fun _ _ _ e => by cases e
  cases a with
  | lock =>
      cases p <;> simp only [decideReview, reduceCtorEq] at h
      unfold lockedRun at h
      split at h
      · cases h
      next hlock =>
        rw [Option.not_isSome_iff_eq_none] at hlock
        split at h
        · cases h
          exact .refused hlock rfl fun _ _ e => by cases e
        next run existing hrow hdec =>
          split at h
          · cases h
            exact .refused hlock rfl (hno _)
          next he =>
            rw [not_not] at he
            subst he
            cases h
            exact .repeated hlock hdec (by rw [hrow]; exact Option.some_ne_none _)
        next run hrow hdec =>
          split at h
          · cases h
            exact .refused hlock rfl (hno _)
          next hawait =>
            cases h
            exact .lock hlock hrow hdec (not_not.mp hawait)
  | snapshot =>
      cases p <;> simp only [decideReview, reduceCtorEq, Option.some.injEq] at h
      unfold reviewSnapshot at h
      split at h
      · cases h
        exact .failed rfl rfl (hno _)
      next c hc =>
        split at h
        · split at h
          · cases h
            exact .failed rfl rfl (hno _)
          next hd =>
            cases h
            exact .found hc (not_not.mp hd)
        next hd =>
          split at h
          · cases h
            exact .failed rfl rfl (hno _)
          next hn =>
            cases h
            rw [Option.isNone_iff_eq_none] at hn
            exact .paused hc (Bool.not_eq_true _ ▸ hd) hn
  | invoke =>
      cases p <;> simp only [decideReview, reduceCtorEq] at h
      split at h
      · cases h
        exact .failed rfl rfl fun _ _ e => by cases e
      next c hc =>
        cases h
        exact .invoke hc
  | node env db =>
      cases p with
      | invoking run c resume =>
          simp only [decideReview, Option.some.injEq] at h
          unfold reviewNode at h
          cases hs : stepGraph env resume c db with
          | advanced c' db' =>
              simp only [hs] at h
              cases h
              exact .node hs
          | interrupted payload db' =>
              simp only [hs] at h
              cases h
              exact .failed rfl rfl (hno _)
          | raised message db' =>
              simp only [hs] at h
              cases h
              exact .failed rfl rfl fun _ _ e => by cases e
          | finished =>
              simp only [hs] at h
              cases h
              exact .ended (stepGraph_finished hs)
      | _ => simp [decideReview] at h
  | decide =>
      cases p with
      | resulted run values =>
          simp only [decideReview, Option.some.injEq] at h
          unfold storeDecision at h
          split at h
          · cases h
            exact .failed rfl rfl (hno _)
          next hd =>
            cases h
            exact .store (not_not.mp hd)
      | _ => simp [decideReview] at h
  | crash =>
      have h' : (if p.active then some (if p.holds then r.unlock else r, ReviewPhase.crashed)
          else none) = some (r', p') := by
        cases p <;> simpa only [decideReview] using h
      split at h'
      next hactive =>
        cases h'
        cases hp : p.holds with
        | true => exact .failed hp rfl fun _ _ e => by cases e
        | false =>
            have : p = .waiting := by simpa [ReviewPhase.active, hp] using hactive
            subst this
            exact .crash
      · cases h'

/-! ## The calls on one run -/

/-- A call of `decide_review` and the decision it asks for. -/
structure ReviewCall where
  requested : Disposition
  phase : ReviewPhase
deriving DecidableEq

/-- A run and the calls on it. -/
structure Desk where
  record : RunRecord
  call : Nat → Option ReviewCall

/-- A new call, or a step of one. -/
inductive DeskLabel where
  | request (id : Nat) (requested : Disposition)
  | act (id : Nat) (a : ReviewAction)

namespace Desk

/-- One call moves on, and the record with it. -/
def update (s : Desk) (id : Nat) (r : RunRecord) (x : ReviewCall) : Desk :=
  ⟨r, Function.update s.call id (some x)⟩

/-- One step at the desk. -/
def step (s : Desk) : DeskLabel → Option Desk
  | .request id requested =>
      if (s.call id).isSome then none else some (s.update id s.record ⟨requested, .waiting⟩)
  | .act id a =>
      (s.call id).bind fun x =>
        (decideReview id x.requested s.record a x.phase).map fun (r, p) =>
          s.update id r ⟨x.requested, p⟩

omit [PyRuntime] in
@[simp] theorem update_record (s : Desk) (id : Nat) (r : RunRecord) (x : ReviewCall) :
    (s.update id r x).record = r := rfl

omit [PyRuntime] in
@[simp] theorem update_self (s : Desk) (id : Nat) (r : RunRecord) (x : ReviewCall) :
    (s.update id r x).call id = some x :=
  Function.update_self ..

omit [PyRuntime] in
theorem update_of_ne (s : Desk) {i id : Nat} (r : RunRecord) (x : ReviewCall) (h : i ≠ id) :
    (s.update id r x).call i = s.call i :=
  Function.update_of_ne h ..

theorem step_act {s : Desk} {id : Nat} {x : ReviewCall} {a : ReviewAction} {r : RunRecord}
    {p : ReviewPhase} (hx : s.call id = some x)
    (h : decideReview id x.requested s.record a x.phase = some (r, p)) :
    s.step (.act id a) = some (s.update id r ⟨x.requested, p⟩) := by
  simp [step, hx, h]

/-- A step is a new call, or a step of a call that was there. -/
theorem step_cases {s s' : Desk} {l : DeskLabel} (h : s.step l = some s') :
    (∃ id d, s.call id = none ∧ s' = s.update id s.record ⟨d, .waiting⟩) ∨
    ∃ id x r p, s.call id = some x ∧ Reviews id x.requested s.record x.phase r p ∧
      s' = s.update id r ⟨x.requested, p⟩ := by
  cases l with
  | request id d =>
      simp only [step] at h
      split at h
      · cases h
      next hn =>
        rw [Option.not_isSome_iff_eq_none] at hn
        exact .inl ⟨id, d, hn, (Option.some.inj h).symm⟩
  | act id a =>
      simp only [step] at h
      obtain ⟨x, hx, h⟩ := Option.bind_eq_some_iff.mp h
      obtain ⟨⟨r, p⟩, hr, hs⟩ := Option.map_eq_some_iff.mp h
      exact .inr ⟨id, x, r, p, hx, decideReview_reviews hr, hs.symm⟩

end Desk

end

end FreightAP
