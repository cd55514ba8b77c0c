import FreightAP.Lib.Transition
import FreightAP.Worker.Summary

/-!
# The worker's loop

`process_invoice_queue` claims stale deliveries, else reads new ones, else sends
a summary of the results since the last one.  It sends one as well when Redis
times out.  A step is a claim, a read, a batch, or the mail of a summary, which
is sent without an `await` and followed by the insert of its notification row.

The state keeps the results of all batches (`handled`) and the summaries that
were tried, with how their mails ended (`flushes`).  A summary is given up when
its mail fails, so what is kept is not that every result is mailed but that
every result is tried once: `Conserved` says that the summaries, and the results
that wait for the next, are the results of the batches in their order.
-/

namespace FreightAP

open Transition

/-- How a call on the stream ends. -/
inductive StreamEnd where
  | deliveries (count : Nat)
  | timeout
  | failed

/-- Where the loop waits. -/
inductive LoopPosition where
  | claiming
  | reading
  | processing (count : Nat)
  /-- The insert of the notification row of a summary that was mailed. -/
  | inserting (results : List SummaryResult)
  /-- Cancelled, with the results that no summary was tried of. -/
  | stopped (lost : List SummaryResult)
deriving DecidableEq

/-- The results of the batches wait in the list of the loop. -/
def LoopPosition.plain : LoopPosition → Bool
  | .inserting _ => false
  | .stopped _ => false
  | _ => true

/-- The worker, and what it has handled and sent. -/
structure WorkerLoop where
  position : LoopPosition
  batchResults : List SummaryResult
  handled : List SummaryResult
  flushes : List (List SummaryResult × SendOutcome)
  notifications : List Notification

/-- A step.  The mail of a call on the stream is that of the summary that is
sent when there is nothing to do. -/
inductive LoopAction where
  | claim (result : StreamEnd) (mail : SendOutcome)
  | read (result : StreamEnd) (mail : SendOutcome)
  | process (ends : List DeliveryEnd)
  | insert (committed : Bool)
  | cancel

namespace WorkerLoop

/-- The loop begins. -/
def start : WorkerLoop := ⟨.claiming, [], [], [], []⟩

/-- The results that no summary was tried of. -/
def waiting (st : WorkerLoop) : List SummaryResult :=
  match st.position with
  | .inserting _ => []
  | .stopped lost => lost
  | _ => st.batchResults

/-- The loop is left, at a cancellation. -/
def leave (st : WorkerLoop) : WorkerLoop := { st with position := .stopped st.waiting }

/-- `_flush_batch_summary`, up to its `await`. -/
def flush (st : WorkerLoop) (mail : SendOutcome) : WorkerLoop :=
  if st.batchResults = [] then { st with position := .claiming }
  else
    let flushes := st.flushes ++ [(st.batchResults, mail)]
    match mail with
    | .delivered => { st with position := .inserting st.batchResults, flushes }
    -- Without a token nothing is raised, and no row is inserted.
    | .notAuthenticated => { st with position := .claiming, batchResults := [], flushes }
    | .raised _ => { st with position := .claiming, batchResults := [], flushes }

/-- One step. -/
def step (uuid5 : String → String) (st : WorkerLoop) : LoopAction → Option WorkerLoop
  | .claim result mail =>
      if st.position = .claiming then
        match result with
        | .deliveries 0 => some { st with position := .reading }
        | .deliveries count => some { st with position := .processing count }
        | .timeout => some (st.flush mail)
        | .failed => some st
      else none
  | .read result mail =>
      if st.position = .reading then
        match result with
        | .deliveries 0 => some (st.flush mail)
        | .deliveries count => some { st with position := .processing count }
        | .timeout => some (st.flush mail)
        | .failed => some { st with position := .claiming }
      else none
  | .process ends =>
      if st.position = .processing ends.length then
        match processBatch uuid5 ends with
        | none => some st.leave
        | some results =>
            some { st with
              position := .claiming
              batchResults := st.batchResults ++ results
              handled := st.handled ++ results }
      else none
  | .insert committed =>
      match st.position with
      | .inserting results =>
          some { st with
            position := .claiming, batchResults := []
            notifications :=
              if committed then st.notifications ++ [notificationCounts results]
              else st.notifications }
      | _ => none
  | .cancel =>
      match st.position with
      | .stopped _ => none
      | _ => some st.leave

/-! ## What a step does -/

/-- The steps, with what each of them needs and does. -/
inductive Stepped (uuid5 : String → String) (st : WorkerLoop) : LoopAction → WorkerLoop → Prop where
  | claimed {result : StreamEnd} {mail : SendOutcome} {position : LoopPosition} :
      st.position = .claiming → position.plain = true →
      Stepped uuid5 st (.claim result mail) { st with position }
  | claimFlushed {result : StreamEnd} {mail : SendOutcome} : st.position = .claiming →
      Stepped uuid5 st (.claim result mail) (st.flush mail)
  | read {result : StreamEnd} {mail : SendOutcome} {position : LoopPosition} :
      st.position = .reading → position.plain = true →
      Stepped uuid5 st (.read result mail) { st with position }
  | readFlushed {result : StreamEnd} {mail : SendOutcome} : st.position = .reading →
      Stepped uuid5 st (.read result mail) (st.flush mail)
  | processed {ends : List DeliveryEnd} {results : List SummaryResult} :
      st.position = .processing ends.length → processBatch uuid5 ends = some results →
      Stepped uuid5 st (.process ends)
        { st with
          position := .claiming
          batchResults := st.batchResults ++ results
          handled := st.handled ++ results }
  | interrupted {ends : List DeliveryEnd} : st.position = .processing ends.length →
      Stepped uuid5 st (.process ends) st.leave
  | inserted {results : List SummaryResult} : st.position = .inserting results →
      Stepped uuid5 st (.insert true)
        { st with
          position := .claiming, batchResults := []
          notifications := st.notifications ++ [notificationCounts results] }
  | insertFailed {results : List SummaryResult} : st.position = .inserting results →
      Stepped uuid5 st (.insert false) { st with position := .claiming, batchResults := [] }
  | cancelled : Stepped uuid5 st .cancel st.leave

theorem step_cases {uuid5 : String → String} {st st' : WorkerLoop} {a : LoopAction}
    (h : st.step uuid5 a = some st') : Stepped uuid5 st a st' := by
  cases a with
  | claim result mail =>
      simp only [step, Option.ite_none_right_eq_some] at h
      obtain ⟨hposition, h⟩ := h
      split at h
      · cases h
        exact .claimed hposition rfl
      · cases h
        exact .claimed hposition rfl
      · cases h
        exact .claimFlushed hposition
      · cases h
        have hsame : Stepped uuid5 st (.claim .failed mail) { st with position := .claiming } :=
          .claimed hposition rfl
        rwa [← hposition] at hsame
  | read result mail =>
      simp only [step, Option.ite_none_right_eq_some] at h
      obtain ⟨hposition, h⟩ := h
      split at h
      · cases h
        exact .readFlushed hposition
      · cases h
        exact .read hposition rfl
      · cases h
        exact .readFlushed hposition
      · cases h
        exact .read hposition rfl
  | process ends =>
      simp only [step, Option.ite_none_right_eq_some] at h
      obtain ⟨hposition, h⟩ := h
      split at h
      · cases h
        exact .interrupted hposition
      next results hresults =>
        cases h
        exact .processed hposition hresults
  | insert committed =>
      simp only [step] at h
      split at h
      next results hposition =>
        cases h
        cases committed with
        | true => exact .inserted hposition
        | false => exact .insertFailed hposition
      · cases h
  | cancel =>
      simp only [step] at h
      split at h
      · cases h
      · cases h
        exact .cancelled

/-! ## Every result is tried once -/

theorem waiting_of_plain {st : WorkerLoop} (h : st.position.plain = true) :
    st.waiting = st.batchResults := by
  rw [waiting]
  split
  case h_1 hposition =>
      rw [hposition] at h
      cases h
  case h_2 hposition =>
      rw [hposition] at h
      cases h
  case h_3 => rfl

/-- The rows of the summaries that were mailed. -/
def mailedCounts (st : WorkerLoop) : List Notification :=
  st.flushes.filterMap fun f =>
    match f.2 with
    | .delivered => some (notificationCounts f.1)
    | _ => none

/-- The results of the batches are those of the summaries that were tried and
those that wait, in their order; a summary has results; and the notification
rows are of mailed summaries, in their order, each at most once. -/
structure Conserved (st : WorkerLoop) : Prop where
  results : st.flushes.flatMap Prod.fst ++ st.waiting = st.handled
  settled : ∀ r ∈ st.handled, r.Settled
  nonempty : ∀ f ∈ st.flushes, f.1 ≠ []
  rows : ∀ results, st.position = .inserting results →
    (st.notifications ++ [notificationCounts results]).Sublist st.mailedCounts
  recorded : st.notifications.Sublist st.mailedCounts

/-- A step that does not touch what was handled and sent. -/
theorem Conserved.move {st : WorkerLoop} (h : st.Conserved) {position : LoopPosition}
    (hplain : st.position.plain = true) (hplain' : position.plain = true) :
    ({ st with position } : WorkerLoop).Conserved where
  results := by
    have hwaiting : ({ st with position } : WorkerLoop).waiting = st.batchResults :=
      waiting_of_plain hplain'
    rw [hwaiting, ← waiting_of_plain hplain]
    exact h.results
  settled := h.settled
  nonempty := h.nonempty
  rows results hposition := by
    rw [show position = .inserting results from hposition] at hplain'
    cases hplain'
  recorded := h.recorded

theorem Conserved.leave {st : WorkerLoop} (h : st.Conserved) : st.leave.Conserved :=
  ⟨h.results, h.settled, h.nonempty, nofun, h.recorded⟩

/-- A summary that is tried takes all the results that wait. -/
theorem Conserved.flush {st : WorkerLoop} (h : st.Conserved) (hplain : st.position.plain = true)
    (mail : SendOutcome) : (st.flush mail).Conserved := by
  rw [WorkerLoop.flush]
  split
  case isTrue hnone => exact h.move hplain rfl
  case isFalse hsome =>
      have hall : (st.flushes ++ [(st.batchResults, mail)]).flatMap Prod.fst = st.handled := by
        rw [List.flatMap_append, List.flatMap_singleton, ← waiting_of_plain hplain]
        exact h.results
      have hne : ∀ f ∈ st.flushes ++ [(st.batchResults, mail)], f.1 ≠ [] := by
        intro f hf
        rcases List.mem_append.mp hf with hf | hf
        · exact h.nonempty f hf
        · rw [List.mem_singleton.mp hf]
          exact hsome
      cases mail with
      | delivered =>
          have hcounts : ({ st with
              position := .inserting st.batchResults
              flushes := st.flushes ++ [(st.batchResults, .delivered)] } : WorkerLoop).mailedCounts =
              st.mailedCounts ++ [notificationCounts st.batchResults] := by
            rw [mailedCounts, List.filterMap_append]
            rfl
          refine ⟨(List.append_nil _).trans hall, h.settled, hne, ?_, ?_⟩
          · intro results hposition
            cases hposition
            rw [hcounts]
            exact h.recorded.append (List.Sublist.refl _)
          · rw [hcounts]
            exact h.recorded.trans (List.sublist_append_left ..)
      | notAuthenticated =>
          refine ⟨(List.append_nil _).trans hall, h.settled, hne, nofun, ?_⟩
          rw [mailedCounts, List.filterMap_append]
          exact h.recorded.trans (List.sublist_append_left ..)
      | raised message =>
          refine ⟨(List.append_nil _).trans hall, h.settled, hne, nofun, ?_⟩
          rw [mailedCounts, List.filterMap_append]
          exact h.recorded.trans (List.sublist_append_left ..)

theorem Conserved.step {uuid5 : String → String} {st st' : WorkerLoop} {a : LoopAction}
    (h : st.Conserved) (hstep : st.step uuid5 a = some st') : st'.Conserved := by
  cases step_cases hstep with
  | claimed hposition hplain => exact h.move (by rw [hposition]; rfl) hplain
  | claimFlushed hposition => exact h.flush (by rw [hposition]; rfl) _
  | read hposition hplain => exact h.move (by rw [hposition]; rfl) hplain
  | readFlushed hposition => exact h.flush (by rw [hposition]; rfl) _
  | @processed ends results hposition hresults =>
      have hwaiting : st.waiting = st.batchResults := waiting_of_plain (by rw [hposition]; rfl)
      refine ⟨?_, ?_, h.nonempty, nofun, h.recorded⟩
      · show _ ++ (st.batchResults ++ results) = st.handled ++ results
        rw [← List.append_assoc, ← hwaiting]
        exact congrArg (· ++ results) h.results
      · intro r hr
        rcases List.mem_append.mp hr with hr | hr
        · exact h.settled r hr
        · rw [processBatch] at hresults
          split at hresults
          · cases hresults
          · cases hresults
            obtain ⟨e, _, he⟩ := List.mem_filterMap.mp hr
            exact e.settled uuid5 he
  | interrupted _ => exact h.leave
  | @inserted results hposition =>
      have hwaiting : st.waiting = [] := by rw [waiting, hposition]
      refine ⟨?_, h.settled, h.nonempty, nofun, h.rows results hposition⟩
      have hresults := h.results
      rwa [hwaiting] at hresults
  | @insertFailed results hposition =>
      have hwaiting : st.waiting = [] := by rw [waiting, hposition]
      refine ⟨?_, h.settled, h.nonempty, nofun, h.recorded⟩
      have hresults := h.results
      rwa [hwaiting] at hresults
  | cancelled => exact h.leave

theorem start_conserved : start.Conserved :=
  ⟨rfl, nofun, nofun, nofun, List.Sublist.refl _⟩

/-! ## Runs -/

/-- The totals of a list of rows. -/
def totalCounts (rows : List Notification) : Nat :=
  rows.foldr (fun row total => row.totalCount + total) 0

theorem totalCounts_filterMap_le (flushes : List (List SummaryResult × SendOutcome)) :
    totalCounts (flushes.filterMap fun f =>
      match f.2 with
      | .delivered => some (notificationCounts f.1)
      | _ => none) ≤ (flushes.flatMap Prod.fst).length := by
  induction flushes with
  | nil => exact Nat.le_refl 0
  | cons f flushes ih =>
      obtain ⟨results, mail⟩ := f
      rw [List.flatMap_cons, List.length_append]
      cases mail with
      | delivered =>
          simp only [List.filterMap_cons, totalCounts, List.foldr_cons] at ih ⊢
          exact Nat.add_le_add_left ih _
      | notAuthenticated =>
          simp only [List.filterMap_cons] at ih ⊢
          exact Nat.le_trans ih (Nat.le_add_left ..)
      | raised message =>
          simp only [List.filterMap_cons] at ih ⊢
          exact Nat.le_trans ih (Nat.le_add_left ..)

theorem totalCounts_sublist {rows rows' : List Notification} (h : rows.Sublist rows') :
    totalCounts rows ≤ totalCounts rows' := by
  induction h with
  | slnil => exact Nat.le_refl 0
  | cons n _ ih => exact Nat.le_trans ih (Nat.le_add_left ..)
  | cons_cons n _ ih => exact Nat.add_le_add_left ih _

/-- In every run the results of the batches go, in their order, into the
summaries that are tried, each result into one; those that no summary was tried
of still wait, or are lost with the worker.  A notification row is that of a
mailed summary, its counts add up, and the rows count no more results than the
batches have had. -/
theorem summaries_exact {uuid5 : String → String} {as : List LoopAction} {st : WorkerLoop}
    (h : Run (Fires (step uuid5)) start as st) :
    st.flushes.flatMap Prod.fst ++ st.waiting = st.handled ∧
      (∀ f ∈ st.flushes, f.1 ≠ []) ∧
      st.notifications.Sublist st.mailedCounts ∧
      (∀ n ∈ st.notifications, n.Balanced) ∧
      totalCounts st.notifications ≤ st.handled.length := by
  have hconserved : st.Conserved :=
    h.preserves Conserved start_conserved fun _ _ _ hst hstep => hst.step hstep
  refine ⟨hconserved.results, hconserved.nonempty, hconserved.recorded, ?_, ?_⟩
  · intro n hn
    obtain ⟨f, hf, hcounts⟩ := List.mem_filterMap.mp (hconserved.recorded.subset hn)
    have hsettled : ∀ r ∈ f.1, r.Settled := by
      intro r hr
      apply hconserved.settled
      rw [← hconserved.results]
      exact List.mem_append_left _ (List.mem_flatMap.mpr ⟨f, hf, hr⟩)
    split at hcounts
    · cases hcounts
      exact notificationCounts_balanced hsettled
    · cases hcounts
  · calc totalCounts st.notifications
        ≤ totalCounts st.mailedCounts := totalCounts_sublist hconserved.recorded
      _ ≤ (st.flushes.flatMap Prod.fst).length := totalCounts_filterMap_le _
      _ ≤ st.handled.length := by
          rw [← hconserved.results, List.length_append]
          exact Nat.le_add_right ..

/-- A batch of one delivery that does not parse, and its summary. -/
def malformedBatch : List LoopAction :=
  [.claim (.deliveries 1) .delivered, .process [.malformed "missing payload field"],
    .claim (.deliveries 0) .delivered, .read (.deliveries 0) .delivered, .insert true]

/-- It is recorded as one failure. -/
theorem summaries_exact_malformed :
    ∃ st, Run (Fires (step id)) start malformedBatch st ∧
      st.notifications = [⟨1, 0, 0, 1, 0, 0, 0⟩] ∧ totalCounts st.notifications ≤ 1 := by
  have hrun : Run (Fires (step id)) start malformedBatch _ := run_of_exec rfl
  exact ⟨_, hrun, by decide, (summaries_exact hrun).2.2.2.2⟩

end WorkerLoop

end FreightAP
