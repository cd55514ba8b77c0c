import FreightAP.Notifications.Dispatch

/-!
# The health of notifications

The invoice worker flushes batch summaries, and the SLA scheduler dispatches
event notifications.  Both record how they went in one `BackgroundOutcome`.  A
step is what a task does between two of its `await`s, so the mail of a flush is
sent in the step that starts the flush.

The health is truthful when a success is recorded of an attempt whose mails were
all delivered.  Two steps break this: a flush that finds no Gmail token, and the
end of a dispatch whose mail failed while a flush has set `in_progress` again
(`truthful_iff`).  The log of the recorded outcomes is for the reader.
-/

namespace FreightAP

open Transition

deriving instance DecidableEq for SendOutcome

/-! ## The outcome of a background task -/

/-- `BackgroundOutcome`. -/
structure BackgroundOutcome where
  lastAttemptAt : Option Int
  lastSuccessAt : Option Int
  lastFailureAt : Option Int
  lastResultCount : Option Nat
  reasonCode : Option String
  inProgress : Bool

namespace BackgroundOutcome

/-- The outcome before any attempt. -/
def new : BackgroundOutcome := ⟨none, none, none, none, none, false⟩

def started (outcome : BackgroundOutcome) (now : Int) : BackgroundOutcome :=
  { outcome with lastAttemptAt := some now, inProgress := true }

def succeeded (outcome : BackgroundOutcome) (now : Int) (count : Option Nat) :
    BackgroundOutcome :=
  { outcome with
    lastSuccessAt := some now, lastResultCount := count, reasonCode := none, inProgress := false }

def failed (outcome : BackgroundOutcome) (now : Int) (reasonCode : String) : BackgroundOutcome :=
  { outcome with lastFailureAt := some now, reasonCode := some reasonCode, inProgress := false }

end BackgroundOutcome

/-- `sub in s`. -/
def hasSubstring (sub s : String) : Bool := s.toList.tails.any sub.toList.isPrefixOf

/-- `reason_code_for_exception`, of the message of an exception. -/
def reasonCodeForException (message : String) : String :=
  if hasSubstring "No Gmail token found" message then "gmail_token_missing" else "operation_failed"

/-! ## The two tasks -/

/-- Where the invoice worker is with its summaries. -/
inductive FlushPhase where
  | idle
  | inserting
  | stopped
deriving DecidableEq

/-- Where the SLA scheduler is: in which dispatch loop, and what became of the
mails of that loop. -/
inductive SchedulerPhase where
  | sleeping
  | dispatching (d : Nat) (mails : List SendOutcome)
  | stopped
deriving DecidableEq

/-- A recorded outcome, with the mails of the attempt that recorded it. -/
inductive HealthRecord where
  | succeeded (mails : List SendOutcome) (count : Nat)
  | failed (mails : List SendOutcome) (reasonCode : String)
deriving DecidableEq

/-- `runtime_health.notifications`, the tasks that write it and the rows that
are dispatched. -/
structure NotificationHealth where
  notifications : BackgroundOutcome
  flush : FlushPhase
  scheduler : SchedulerPhase
  dispatch : Dispatch
  records : List HealthRecord

/-- A step of one of the tasks, or of a dispatch loop of another process. -/
inductive HealthAction where
  | flush (startedAt endedAt : Int) (mail : SendOutcome)
  | insert (now : Int) (error : Option String)
  | stopWorker
  | dispatch (d : Nat) (now : Int)
  | loop (a : DispatchAction) (now : Int)
  | finish (now : Int)
  | raise (now : Int) (message : String)
  | stopScheduler
  | other (a : DispatchAction)

/-- The message of the exception that a mail ends with. -/
def SendOutcome.error? : SendOutcome → Option String
  | .delivered => none
  | .notAuthenticated => some "Gmail is not authenticated"
  | .raised message => some message

/-- The loop that takes a step. -/
def DispatchAction.loop? : DispatchAction → Option Nat
  | .insert _ _ => none
  | .call d => some d
  | .select d _ => some d
  | .selectNone d => some d
  | .claim d => some d
  | .send d _ => some d
  | .store d _ => some d
  | .stop d => some d

namespace NotificationHealth

/-- The process starts, over any rows. -/
def start (dispatch : Dispatch) : NotificationHealth := ⟨.new, .idle, .sleeping, dispatch, []⟩

/-- `notifications.succeeded`, by an attempt with some mails. -/
def succeed (st : NotificationHealth) (now : Int) (count : Nat) (mails : List SendOutcome) :
    NotificationHealth :=
  { st with
    notifications := st.notifications.succeeded now (some count)
    records := st.records ++ [.succeeded mails count] }

/-- `notifications.failed`, by an attempt with some mails. -/
def fail (st : NotificationHealth) (now : Int) (message : String) (mails : List SendOutcome) :
    NotificationHealth :=
  { st with
    notifications := st.notifications.failed now (reasonCodeForException message)
    records := st.records ++ [.failed mails (reasonCodeForException message)] }

/-- `notifications.started`. -/
def begin (st : NotificationHealth) (now : Int) : NotificationHealth :=
  { st with notifications := st.notifications.started now }

/-- The start of `_flush_batch_summary` with results, up to its first `await`
that waits: the insert of the notification record. -/
def flushBatchSummary (st : NotificationHealth) (startedAt endedAt : Int) :
    SendOutcome → NotificationHealth
  | .delivered => { st.begin startedAt with flush := .inserting }
  -- `send_batch_summary` returns without an exception.
  | .notAuthenticated => (st.begin startedAt).succeed endedAt 1 [.notAuthenticated]
  | .raised message => (st.begin startedAt).fail endedAt message [.raised message]

/-- The mail of a dispatch: a failure is recorded at once. -/
def sent (st : NotificationHealth) (now : Int) (d : Nat) (mails : List SendOutcome)
    (mail : SendOutcome) : NotificationHealth :=
  match mail.error? with
  | none => { st with scheduler := .dispatching d (mails ++ [mail]) }
  | some message =>
      { st.fail now message (mails ++ [mail]) with scheduler := .dispatching d (mails ++ [mail]) }

/-- One step. -/
def step (st : NotificationHealth) : HealthAction → Option NotificationHealth
  | .flush startedAt endedAt mail =>
      if st.flush = .idle then some (st.flushBatchSummary startedAt endedAt mail) else none
  | .insert now error =>
      if st.flush = .inserting then
        match error with
        | none => some { st.succeed now 1 [.delivered] with flush := .idle }
        | some message => some { st.fail now message [.delivered] with flush := .idle }
      else none
  | .stopWorker => if st.flush = .stopped then none else some { st with flush := .stopped }
  | .dispatch d now =>
      match st.scheduler with
      | .sleeping =>
          (st.dispatch.step (.call d)).map fun dispatch =>
            { st.begin now with dispatch, scheduler := .dispatching d [] }
      | _ => none
  | .loop a now =>
      match st.scheduler with
      | .dispatching d mails =>
          if a.loop? = some d then
            (st.dispatch.step a).map fun dispatch =>
              match a with
              | .send _ mail => { st with dispatch }.sent now d mails mail
              | _ => { st with dispatch }
          else none
      | _ => none
  | .finish now =>
      match st.scheduler with
      | .dispatching d mails =>
          match st.dispatch.phase d with
          | .returned sentCount =>
              some { (if st.notifications.inProgress then st.succeed now sentCount mails else st) with
                scheduler := .sleeping }
          | _ => none
      | _ => none
  | .raise now message =>
      match st.scheduler with
      | .dispatching d mails =>
          match st.dispatch.phase d with
          | .stopped => some { st.fail now message mails with scheduler := .sleeping }
          | _ => none
      | _ => none
  | .stopScheduler =>
      match st.scheduler with
      | .dispatching d _ =>
          if st.dispatch.phase d = .stopped then some { st with scheduler := .stopped } else none
      | .sleeping => some { st with scheduler := .stopped }
      | .stopped => none
  | .other a =>
      match st.scheduler with
      | .dispatching d _ =>
          if a.loop? = some d then none
          else (st.dispatch.step a).map fun dispatch => { st with dispatch }
      | _ => (st.dispatch.step a).map fun dispatch => { st with dispatch }

/-! ## What a step does -/

/-- The steps, with what each of them needs and does. -/
inductive Stepped (st : NotificationHealth) : HealthAction → NotificationHealth → Prop where
  | flush {startedAt endedAt : Int} {mail : SendOutcome} : st.flush = .idle →
      Stepped st (.flush startedAt endedAt mail) (st.flushBatchSummary startedAt endedAt mail)
  | inserted {now : Int} : st.flush = .inserting →
      Stepped st (.insert now none) { st.succeed now 1 [.delivered] with flush := .idle }
  | insertFailed {now : Int} {message : String} : st.flush = .inserting →
      Stepped st (.insert now (some message))
        { st.fail now message [.delivered] with flush := .idle }
  | stopWorker : Stepped st .stopWorker { st with flush := .stopped }
  | dispatch {d : Nat} {now : Int} {dispatch : Dispatch} : st.scheduler = .sleeping →
      st.dispatch.step (.call d) = some dispatch →
      Stepped st (.dispatch d now)
        { st.begin now with dispatch, scheduler := .dispatching d [] }
  | sent {d e : Nat} {mails : List SendOutcome} {now : Int} {mail : SendOutcome}
      {dispatch : Dispatch} : st.scheduler = .dispatching d mails →
      st.dispatch.step (.send e mail) = some dispatch →
      Stepped st (.loop (.send e mail) now) ({ st with dispatch }.sent now d mails mail)
  | loop {a : DispatchAction} {now : Int} {dispatch : Dispatch} :
      st.dispatch.step a = some dispatch → Stepped st (.loop a now) { st with dispatch }
  | finish {d sentCount : Nat} {mails : List SendOutcome} {now : Int} :
      st.scheduler = .dispatching d mails → st.dispatch.phase d = .returned sentCount →
      st.notifications.inProgress = true →
      Stepped st (.finish now) { st.succeed now sentCount mails with scheduler := .sleeping }
  | finishFailed {d : Nat} {mails : List SendOutcome} {now : Int} :
      st.scheduler = .dispatching d mails → st.notifications.inProgress = false →
      Stepped st (.finish now) { st with scheduler := .sleeping }
  | raise {d : Nat} {mails : List SendOutcome} {now : Int} {message : String} :
      st.scheduler = .dispatching d mails → st.dispatch.phase d = .stopped →
      Stepped st (.raise now message) { st.fail now message mails with scheduler := .sleeping }
  | stopScheduler : Stepped st .stopScheduler { st with scheduler := .stopped }
  | other {a : DispatchAction} {dispatch : Dispatch} : st.dispatch.step a = some dispatch →
      Stepped st (.other a) { st with dispatch }

theorem step_cases {st u : NotificationHealth} {a : HealthAction} (h : st.step a = some u) :
    Stepped st a u := by
  cases a with
  | flush startedAt endedAt mail =>
      simp only [step] at h
      split at h
      next hflush =>
        cases h
        exact .flush hflush
      · cases h
  | insert now error =>
      simp only [step] at h
      split at h
      next hflush =>
        cases error with
        | none =>
            cases h
            exact .inserted hflush
        | some message =>
            cases h
            exact .insertFailed hflush
      · cases h
  | stopWorker =>
      simp only [step] at h
      split at h
      · cases h
      · cases h
        exact .stopWorker
  | dispatch d now =>
      simp only [step] at h
      split at h
      next hscheduler =>
        obtain ⟨dispatch, hstep, rfl⟩ := Option.map_eq_some_iff.mp h
        exact .dispatch hscheduler hstep
      · cases h
  | loop a now =>
      simp only [step] at h
      split at h
      next d mails hscheduler =>
        split at h
        · obtain ⟨dispatch, hstep, rfl⟩ := Option.map_eq_some_iff.mp h
          cases a with
          | send e mail => exact .sent hscheduler hstep
          | _ => exact .loop hstep
        · cases h
      · cases h
  | finish now =>
      simp only [step] at h
      split at h
      next d mails hscheduler =>
        split at h
        next sentCount hphase =>
          cases h
          cases hprogress : st.notifications.inProgress with
          | false => exact .finishFailed hscheduler hprogress
          | true => exact .finish hscheduler hphase hprogress
        · cases h
      · cases h
  | raise now message =>
      simp only [step] at h
      split at h
      next d mails hscheduler =>
        split at h
        next hphase =>
          cases h
          exact .raise hscheduler hphase
        · cases h
      · cases h
  | stopScheduler =>
      simp only [step] at h
      split at h
      · split at h
        · cases h
          exact .stopScheduler
        · cases h
      · cases h
        exact .stopScheduler
      · cases h
  | other a =>
      simp only [step] at h
      split at h
      · split at h
        · cases h
        · obtain ⟨dispatch, hstep, rfl⟩ := Option.map_eq_some_iff.mp h
          exact .other hstep
      · obtain ⟨dispatch, hstep, rfl⟩ := Option.map_eq_some_iff.mp h
        exact .other hstep

/-! ## Truthful health -/

/-- All mails of an attempt were delivered. -/
def AllDelivered (mails : List SendOutcome) : Prop := ∀ mail ∈ mails, mail = .delivered

instance (mails : List SendOutcome) : Decidable (AllDelivered mails) :=
  inferInstanceAs (Decidable (∀ mail ∈ mails, mail = .delivered))

/-- Successes are recorded of delivered mails alone, and a reason code is cleared
only by a later one of them. -/
structure Truthful (st : NotificationHealth) : Prop where
  delivered : ∀ mails count, .succeeded mails count ∈ st.records → AllDelivered mails
  cleared : ∀ earlier mails reasonCode later,
    st.records = earlier ++ .failed mails reasonCode :: later →
      st.notifications.reasonCode = none →
        ∃ mails' count, .succeeded mails' count ∈ later ∧ AllDelivered mails'

/-- No flush finds the Gmail token missing, and no dispatch with a mail that was
not delivered ends while `in_progress` is set. -/
def Undisturbed (st : NotificationHealth) : HealthAction → Prop
  | .flush _ _ mail => mail ≠ .notAuthenticated
  | .finish _ =>
      match st.scheduler with
      | .dispatching _ mails => st.notifications.inProgress = true → AllDelivered mails
      | _ => True
  | _ => True

instance (st : NotificationHealth) (a : HealthAction) : Decidable (st.Undisturbed a) := by
  cases a with
  | finish now =>
      unfold Undisturbed
      cases st.scheduler <;> infer_instance
  | _ => unfold Undisturbed; infer_instance

/-! ## What a step records -/

/-- What a step records, and when it is undisturbed. -/
inductive Recorded (st : NotificationHealth) (a : HealthAction) (u : NotificationHealth) :
    Prop where
  | nothing : u.records = st.records →
      u.notifications.reasonCode = st.notifications.reasonCode → st.Undisturbed a →
      Recorded st a u
  | failure {mails : List SendOutcome} {reasonCode : String} :
      u.records = st.records ++ [.failed mails reasonCode] →
      u.notifications.reasonCode = some reasonCode → st.Undisturbed a → Recorded st a u
  | success {mails : List SendOutcome} {count : Nat} :
      u.records = st.records ++ [.succeeded mails count] →
      u.notifications.reasonCode = none → (st.Undisturbed a ↔ AllDelivered mails) →
      Recorded st a u

section

variable {st u : NotificationHealth} {a : HealthAction}

theorem step_recorded (h : st.step a = some u) : Recorded st a u := by
  cases step_cases h with
  | @flush startedAt endedAt mail hflush =>
      cases mail with
      | delivered => exact .nothing rfl rfl (by simp [Undisturbed])
      | notAuthenticated => exact .success rfl rfl (by simp [Undisturbed, AllDelivered])
      | raised message => exact .failure rfl rfl (by simp [Undisturbed])
  | inserted => exact .success rfl rfl (by simp [Undisturbed, AllDelivered])
  | insertFailed => exact .failure rfl rfl trivial
  | @sent d e mails now mail dispatch =>
      cases mail with
      | delivered => exact .nothing rfl rfl trivial
      | notAuthenticated => exact .failure rfl rfl trivial
      | raised message => exact .failure rfl rfl trivial
  | finish hscheduler _ hprogress =>
      exact .success rfl rfl (by simp [Undisturbed, hscheduler, hprogress])
  | finishFailed hscheduler hprogress =>
      exact .nothing rfl rfl (by simp [Undisturbed, hscheduler, hprogress])
  | raise => exact .failure rfl rfl trivial
  | stopWorker => exact .nothing rfl rfl trivial
  | dispatch => exact .nothing rfl rfl trivial
  | loop => exact .nothing rfl rfl trivial
  | stopScheduler => exact .nothing rfl rfl trivial
  | other => exact .nothing rfl rfl trivial

/-- A success keeps the health truthful when its mails were all delivered. -/
theorem Truthful.success_iff (h : st.Truthful) {mails : List SendOutcome} {count : Nat}
    (hrecords : u.records = st.records ++ [.succeeded mails count]) :
    u.Truthful ↔ AllDelivered mails := by
  constructor
  · intro hu
    apply hu.delivered mails count
    rw [hrecords]
    exact List.mem_append_right _ (List.mem_singleton.mpr rfl)
  · intro hmails
    constructor
    · intro mails' count' hmem
      rw [hrecords] at hmem
      rcases List.mem_append.mp hmem with hmem | hmem
      · exact h.delivered mails' count' hmem
      · cases List.mem_singleton.mp hmem
        exact hmails
    · intro earlier mails' reasonCode later hsplit _
      -- The new success comes after every failure.
      rcases List.eq_nil_or_concat later with rfl | ⟨later, last, rfl⟩
      · rw [hrecords] at hsplit
        cases (List.append_inj' hsplit rfl).2
      · rw [hrecords, List.concat_eq_append, ← List.cons_append, ← List.append_assoc] at hsplit
        cases (List.append_inj' hsplit rfl).2
        exact ⟨mails, count, by simp, hmails⟩

/-- A step keeps the health truthful exactly when it is undisturbed. -/
theorem truthful_step (h : st.Truthful) (hs : st.step a = some u) :
    u.Truthful ↔ st.Undisturbed a := by
  cases step_recorded hs with
  | nothing hrecords hreason hundisturbed =>
      refine iff_of_true ?_ hundisturbed
      constructor
      · rw [hrecords]
        exact h.delivered
      · rw [hrecords, hreason]
        exact h.cleared
  | failure hrecords hreason hundisturbed =>
      refine iff_of_true ?_ hundisturbed
      constructor
      · intro mails count hmem
        rw [hrecords] at hmem
        rcases List.mem_append.mp hmem with hmem | hmem
        · exact h.delivered mails count hmem
        · cases List.mem_singleton.mp hmem
      · intro earlier mails reasonCode later _ hnone
        rw [hreason] at hnone
        cases hnone
  | success hrecords _ hundisturbed => exact (h.success_iff hrecords).trans hundisturbed.symm

end

/-! ## The two tasks apart -/

section

variable {st u : NotificationHealth} {a : HealthAction}

/-- A step is a step of the dispatch loops, or leaves their rows alone. -/
theorem step_dispatch (h : st.step a = some u) :
    u.dispatch = st.dispatch ∨ ∃ b, st.dispatch.step b = some u.dispatch := by
  cases step_cases h with
  | @flush startedAt endedAt mail =>
      cases mail with
      | delivered => exact .inl rfl
      | notAuthenticated => exact .inl rfl
      | raised message => exact .inl rfl
  | @sent d e mails now mail dispatch _ hstep =>
      cases mail with
      | delivered => exact .inr ⟨_, hstep⟩
      | notAuthenticated => exact .inr ⟨_, hstep⟩
      | raised message => exact .inr ⟨_, hstep⟩
  | dispatch _ hstep => exact .inr ⟨_, hstep⟩
  | loop hstep => exact .inr ⟨_, hstep⟩
  | other hstep => exact .inr ⟨_, hstep⟩
  | _ => exact .inl rfl

/-- A run of the two tasks holds a run of the dispatch loops. -/
theorem run_dispatch {as : List HealthAction} (h : Run (Fires step) st as u) :
    ∃ bs, Run (Fires Dispatch.step) st.dispatch bs u.dispatch := by
  induction h with
  | nil => exact ⟨[], .nil⟩
  | snoc _ hs ih =>
      obtain ⟨bs, hbs⟩ := ih
      rcases step_dispatch hs with hsame | ⟨b, hb⟩
      · exact ⟨bs, hsame ▸ hbs⟩
      · exact ⟨bs ++ [b], hbs.snoc hb⟩

/-- Whatever sets `in_progress` again after a mail of a dispatch failed is a
flush that has not ended. -/
def Overlapped (st : NotificationHealth) : Prop :=
  ∀ d mails, st.scheduler = .dispatching d mails → ¬AllDelivered mails →
    st.notifications.inProgress = true → st.flush ≠ .idle

theorem overlapped_step (h : st.Overlapped) (hs : st.step a = some u) : u.Overlapped := by
  intro d mails hscheduler hmails hprogress
  cases step_cases hs with
  | @flush startedAt endedAt mail hflush =>
      cases mail with
      | delivered => simp [flushBatchSummary]
      | notAuthenticated => cases hprogress
      | raised message => cases hprogress
  | inserted => cases hprogress
  | insertFailed => cases hprogress
  | stopWorker => simp
  | dispatch =>
      cases hscheduler
      exact absurd (by simp [AllDelivered]) hmails
  | @sent d' e mails' now mail dispatch hdispatching =>
      cases mail with
      | delivered =>
          cases hscheduler
          refine h d mails' hdispatching ?_ hprogress
          simpa [AllDelivered, or_imp, forall_and] using hmails
      | notAuthenticated => cases hprogress
      | raised message => cases hprogress
  | loop => exact h d mails hscheduler hmails hprogress
  | finish => cases hscheduler
  | finishFailed => cases hscheduler
  | raise => cases hscheduler
  | stopScheduler => cases hscheduler
  | other => exact h d mails hscheduler hmails hprogress

/-- In every run, `in_progress` is set at the end of a dispatch whose mail failed
only where a flush overlaps it. -/
theorem run_overlapped {dispatch : Dispatch} {as : List HealthAction}
    (h : Run (Fires step) (start dispatch) as st) : st.Overlapped := by
  refine h.preserves Overlapped ?_ fun _ _ _ hoverlapped hs => overlapped_step hoverlapped hs
  intro d mails hscheduler
  cases hscheduler

end

theorem truthful_start (dispatch : Dispatch) : (start dispatch).Truthful where
  delivered := by simp [start]
  cleared := by simp [start]

/-- The health of notifications is truthful all along exactly the undisturbed
runs. -/
theorem truthful_iff {dispatch : Dispatch} {as : List HealthAction} {st : NotificationHealth}
    (hrun : Run (Fires step) (start dispatch) as st) :
    Always step Truthful (start dispatch) as ↔
      Run (Guarded Undisturbed (Fires step)) (start dispatch) as st :=
  always_iff_guarded (fun _ => True) hrun trivial (truthful_start dispatch) fun _ _ _ _ hs =>
    ⟨trivial, fun htruthful => truthful_step htruthful hs⟩

end NotificationHealth

/-! ## Runs over two events -/

open NotificationHealth

/-- A dispatch whose mail fails, and a flush before the next dispatch. -/
def flushAfterwards : List HealthAction :=
  [.dispatch 0 10, .loop (.select 0 "e1") 10, .loop (.claim 0) 10,
   .loop (.send 0 (.raised "quota exceeded")) 11, .loop (.store 0 12) 12, .finish 13,
   .flush 14 15 .delivered, .insert 16 none, .dispatch 1 20, .loop (.select 1 "e1") 20,
   .loop (.claim 1) 20, .loop (.send 1 .delivered) 21, .loop (.store 1 22) 22]

/-- The same dispatch, with the flush between its mail and its end. -/
def flushMeanwhile : List HealthAction :=
  [.dispatch 0 10, .loop (.select 0 "e1") 10, .loop (.claim 0) 10,
   .loop (.send 0 (.raised "quota exceeded")) 11, .flush 12 13 .delivered,
   .loop (.store 0 14) 14, .finish 15]

theorem flushAfterwards_truthful :
    ∃ st, Run (Fires step) (start twoEvents) flushAfterwards st ∧ st.Truthful := by
  let final := exec (fun st a => if st.Undisturbed a then st.step a else none) (start twoEvents)
    flushAfterwards
  have hsome : final.isSome = true := by decide +kernel
  obtain ⟨st, hrun, hguarded⟩ := guarded_of_exec (f := NotificationHealth.step) hsome
  refine ⟨st, hrun, ?_⟩
  exact (truthful_iff hrun).mpr hguarded _ (List.prefix_refl _) st (exec_of_run hrun)

/-- A flush that mails nothing records a success, and so does a dispatch whose
only mail failed, which clears its own reason code. -/
theorem unmailed_succeeded :
    (∃ st, Run (Fires step) (start twoEvents) [.flush 0 1 .notAuthenticated] st ∧
      st.records = [.succeeded [.notAuthenticated] 1] ∧ ¬st.Truthful) ∧
    ∃ st, Run (Fires step) (start twoEvents) flushMeanwhile st ∧
      st.records = [.failed [.raised "quota exceeded"] "operation_failed",
        .succeeded [.raised "quota exceeded"] 0] ∧
      st.notifications.reasonCode = none ∧ ¬st.Truthful := by
  constructor
  · refine ⟨_, run_of_exec rfl, rfl, fun h => ?_⟩
    cases h.delivered [.notAuthenticated] 1 (List.mem_singleton.mpr rfl) _
      (List.mem_singleton.mpr rfl)
  · let final := exec NotificationHealth.step (start twoEvents) flushMeanwhile
    have hsome : final.isSome = true := by decide +kernel
    have hdata : final.all (fun st => decide
        (st.records = [.failed [.raised "quota exceeded"] "operation_failed",
          .succeeded [.raised "quota exceeded"] 0] ∧ st.notifications.reasonCode = none)) = true := by
      decide +kernel
    obtain ⟨st, hst⟩ := Option.isSome_iff_exists.mp hsome
    rw [hst, Option.all_some, decide_eq_true_iff] at hdata
    refine ⟨st, run_of_exec hst, hdata.1, hdata.2, fun h => ?_⟩
    cases h.delivered [.raised "quota exceeded"] 0 (by simp [hdata.1]) _
      (List.mem_singleton.mpr rfl)

end FreightAP
