import FreightAP.Notifications.Dispatch

/-!
# Lost notifications

A claimed event waits for the loop that claimed it, and no statement selects
`sending` rows.  So a loop that stops between its claim and the outcome of its
mail leaves the event to nobody.  `covered_iff`: no other step loses an event.
-/

namespace FreightAP

open Transition

/-- Whether a loop has claimed an event whose mail is not delivered. -/
def LoopPhase.undelivered : LoopPhase → Bool
  | .claimed _ _ _ => true
  | .failing _ _ _ => true
  | _ => false

namespace Dispatch

/-- Every event without a mail is in the hands of a loop or can be selected. -/
def Covered (st : Dispatch) : Prop :=
  ∀ k r, st.row? k = some r → st.mailsOf k = [] →
    r.selectable = true ∨ ∃ d, (st.phase d).event? = some k

/-- A loop does not stop between the claim of an event and the delivery of its
mail, or the write that says that it failed. -/
def StopsElsewhere (st : Dispatch) : DispatchAction → Prop
  | .stop d => (st.phase d).undelivered = false
  | _ => True

instance (st : Dispatch) : (a : DispatchAction) → Decidable (st.StopsElsewhere a)
  | .stop d => inferInstanceAs (Decidable ((st.phase d).undelivered = false))
  | .insert _ _ | .call _ | .select _ _ | .selectNone _ | .claim _ | .send _ _
  | .store _ _ => .isTrue trivial

section

variable {st st' : Dispatch} {d : Nat} {k : Uuid}

/-- The event of a loop that has not stopped stays in its hands. -/
theorem handled_goto {p : LoopPhase} (h : ∃ e, (st.phase e).event? = some k)
    (hd : (st.phase d).event? = some k → p.event? = some k) :
    ∃ e, ((st.goto d p).phase e).event? = some k := by
  obtain ⟨e, he⟩ := h
  by_cases hed : e = d
  · exact ⟨d, by rw [goto_self]; exact hd (hed ▸ he)⟩
  · exact ⟨e, by rw [goto_of_ne p hed]; exact he⟩

theorem Covered.goto (h : st.Covered) {p : LoopPhase}
    (hd : ∀ k, (st.phase d).event? = some k → st.mailsOf k = [] → p.event? = some k) :
    (st.goto d p).Covered := by
  intro k r hr hm
  rcases h k r hr hm with hsel | hhandled
  · exact .inl hsel
  · exact .inr (handled_goto hhandled fun hk => hd k hk hm)

/-- A loop that writes the row of its event. -/
theorem Covered.store (h : st.Covered) {p : LoopPhase} {f : EventRow → EventRow}
    (hf : ∀ r, (f r).id = r.id) (hevent : (st.phase d).event? = some k)
    (hk : st.mailsOf k = [] → ∀ r, (f r).selectable = true) :
    ((st.update k f).goto d p).Covered := by
  intro j r hr hm
  have hm' : st.mailsOf j = [] := (mailsOf_update f j).symm.trans hm
  have hrow : ((st.update k f).goto d p).row? j =
      if j = k then (st.row? k).map f else st.row? j := row?_update hf j
  rw [hrow] at hr
  by_cases hj : j = k
  · rw [if_pos hj] at hr
    obtain ⟨r', -, rfl⟩ := Option.map_eq_some_iff.mp hr
    exact .inl (hk (hj ▸ hm') r')
  · rw [if_neg hj] at hr
    rcases h j r hr hm' with hsel | ⟨e, he⟩
    · exact .inl hsel
    · refine .inr ⟨e, ?_⟩
      have hed : e ≠ d := by
        rintro rfl
        exact hj (Option.some.inj (he.symm.trans hevent))
      rw [goto_of_ne p hed, update_phase]
      exact he

/-- A stop between a claim and its outcome loses the event. -/
theorem not_covered_stop (h : st.Sound) (hevent : (st.phase d).event? = some k)
    (hm : st.mailsOf k = []) : ¬(st.goto d .stopped).Covered := by
  intro hcov
  obtain ⟨r, hr, hs⟩ := h.sending hevent
  rcases hcov k r hr hm with hsel | ⟨e, he⟩
  · simp [EventRow.selectable, hs] at hsel
  · by_cases hed : e = d
    · rw [hed, goto_self] at he
      cases he
    · rw [goto_of_ne _ hed] at he
      exact hed (h.exclusive e d k he hevent)

/-- A claimed event is in the hands of the loop that claimed it. -/
theorem Covered.claim (h : st.Covered) {n : Nat} {payload : Payload}
    (hp : st.phase d = .locked n k) :
    (((st.update k EventRow.claim).lock k none).goto d (.claimed n k payload)).Covered := by
  have hphase : ∀ e, Dispatch.phase ((((st.update k EventRow.claim).lock k none).goto d
      (.claimed n k payload))) e = if e = d then .claimed n k payload else st.phase e := by
    intro e
    by_cases he : e = d
    · rw [if_pos he, he, goto_self]
    · rw [if_neg he, goto_of_ne _ he]
      exact congrFun (update_phase _) e
  intro j r hr hm
  by_cases hj : j = k
  · refine .inr ⟨d, ?_⟩
    rw [hphase d, if_pos rfl, hj]
    rfl
  · have hrow : (st.update k EventRow.claim).row? j = st.row? j := by
      rw [row?_update (f := EventRow.claim) (fun _ => rfl), if_neg hj]
    have hm' : st.mailsOf j = [] := (mailsOf_update EventRow.claim j).symm.trans hm
    rcases h j r (hrow ▸ hr) hm' with hsel | ⟨e, he⟩
    · exact .inl hsel
    · refine .inr ⟨e, ?_⟩
      have hed : e ≠ d := by
        rintro rfl
        rw [hp] at he
        cases he
      rw [hphase e, if_neg hed]
      exact he

/-- A loop that stops loses its event exactly if no mail of it is delivered. -/
theorem covered_stop_iff (h : st.Sound) (hcov : st.Covered) :
    (st.goto d .stopped).Covered ↔ (st.phase d).undelivered = false := by
  have hd := h.loops d
  cases hphase : st.phase d with
  | claimed n k payload =>
      rw [hphase] at hd
      exact iff_of_false (not_covered_stop h (by rw [hphase]; rfl) hd.1) (by intro hc; cases hc)
  | failing n k error =>
      rw [hphase] at hd
      exact iff_of_false (not_covered_stop h (by rw [hphase]; rfl) hd.1) (by intro hc; cases hc)
  | delivered n k =>
      rw [hphase] at hd
      refine iff_of_true (hcov.goto fun j hj hm => ?_) rfl
      rw [hphase] at hj
      cases hj
      obtain ⟨hone, -⟩ := hd
      rw [hm] at hone
      cases hone
  | _ =>
      refine iff_of_true (hcov.goto fun j hj => ?_) rfl
      rw [hphase] at hj
      cases hj

/-- A step loses no event unless a loop stops between a claim and its outcome. -/
theorem covered_step {a : DispatchAction} (h : st.Sound) (hcov : st.Covered)
    (hs : st.step a = some st') : st'.Covered ↔ st.StopsElsewhere a := by
  cases step_cases hs with
  | @insert event loadNumber hn =>
      refine iff_of_true (fun k r hr hm => ?_) trivial
      rw [row?_insert _ hn] at hr
      split at hr
      · cases hr
        exact .inl rfl
      · exact hcov k r hr hm
  | call hp =>
      refine iff_of_true (hcov.goto fun k hk => ?_) trivial
      rw [hp] at hk
      cases hk
  | selectNone hp =>
      refine iff_of_true (hcov.goto fun k hk => ?_) trivial
      rw [hp] at hk
      cases hk
  | @select d n k r hp hr hsel hfree =>
      have hlock : (st.lock k (some d)).Covered := hcov
      refine iff_of_true (hlock.goto fun k hk => ?_) trivial
      rw [show (st.lock _ (some d)).phase = st.phase from rfl, hp] at hk
      cases hk
  | claim hp hr => exact iff_of_true (hcov.claim hp) trivial
  | @deliver d n k payload hp =>
      refine iff_of_true (fun j r hr hm => ?_) trivial
      have hm' : st.mailsOf j = [] := by
        unfold mailsOf at *
        rw [List.filter_append] at hm
        exact (List.append_eq_nil_iff.mp hm).1
      rcases hcov j r hr hm' with hsel | hhandled
      · exact .inl hsel
      · refine .inr (handled_goto hhandled fun hk => ?_)
        rw [hp] at hk
        exact hk
  | fail hp =>
      refine iff_of_true (hcov.goto fun k hk _ => ?_) trivial
      rw [hp] at hk
      exact hk
  | @storeSent d n k now hp =>
      have hd := h.loops d
      rw [hp] at hd
      refine iff_of_true (hcov.store (fun _ => rfl) (by rw [hp]; rfl) fun hm => ?_) trivial
      obtain ⟨hone, -⟩ := hd
      rw [hm] at hone
      cases hone
  | storeFailed hp =>
      exact iff_of_true (hcov.store (fun _ => rfl) (by rw [hp]; rfl) fun _ _ => rfl) trivial
  | @unlock d n k hp =>
      have hlock : (st.lock k none).Covered := hcov
      refine iff_of_true (hlock.goto fun j hj => ?_) (congrArg LoopPhase.undelivered hp)
      rw [show (st.lock k none).phase = st.phase from rfl, hp] at hj
      cases hj
  | stop => exact covered_stop_iff h hcov

end

/-- No event is lost all along exactly the runs in which no loop stops between
the claim of an event and its outcome. -/
theorem covered_iff {st st' : Dispatch} (h : st.Start) {as : List DispatchAction}
    (hrun : Run (Fires step) st as st') :
    Always step Covered st as ↔ Run (Guarded StopsElsewhere (Fires step)) st as st' := by
  refine always_iff_guarded Sound hrun h.sound (fun k r hr _ => .inl ?_) fun t a u ht hs =>
    ⟨sound_step ht hs, fun hcov => covered_step ht hcov hs⟩
  rw [h.new r (Table.get?_some_mem hr)]
  rfl

end Dispatch

/-! ## A crash after the claim -/

/-- A loop that claims an event. -/
def claimed : List DispatchAction := [.call 0, .select 0 "e1", .claim 0]

/-- The loop stops before it sends the mail, and the event is lost. -/
theorem claimed_stop_lost :
    ∃ st r, Run (Fires Dispatch.step) twoEvents (claimed ++ [.stop 0]) st ∧
      st.row? "e1" = some r ∧ st.mailsOf "e1" = [] ∧ r.notificationStatus = .sending ∧
      ¬st.Covered := by
  let final := exec Dispatch.step twoEvents claimed
  have hsome : final.isSome = true := by decide +kernel
  have hdata : final.all (fun st =>
      decide (st.phase 0 = .claimed 0 "e1" ⟨.opened, "LD-001", ["pod"], []⟩)) = true := by
    decide +kernel
  obtain ⟨st, hst⟩ := Option.isSome_iff_exists.mp hsome
  rw [hst, Option.all_some, decide_eq_true_iff] at hdata
  have hrun := run_of_exec hst
  have hstop : st.step (.stop 0) = some (st.goto 0 .stopped) := by
    simp [Dispatch.step, hdata, LoopPhase.running]
  have hsound := twoEvents_start.run hrun
  have hevent : (st.phase 0).event? = some "e1" := by
    rw [hdata]
    rfl
  have hmails : st.mailsOf "e1" = [] := by
    have h := hsound.loops 0
    rw [hdata] at h
    exact h.1
  obtain ⟨r, hr, hs⟩ := hsound.sending hevent
  exact ⟨_, r, hrun.snoc hstop, hr, hmails, hs, Dispatch.not_covered_stop hsound hevent hmails⟩

/-- A loop that stops after its mail, before the row says so, loses nothing. -/
theorem deliveredStop_covered :
    ∃ st, Run (Fires Dispatch.step) twoEvents (claimed ++ [.send 0 .delivered, .stop 0]) st ∧
      st.Covered := by
  let as := claimed ++ [.send 0 .delivered, .stop 0]
  let final := exec (fun st a => if st.StopsElsewhere a then st.step a else none) twoEvents as
  have hsome : final.isSome = true := by decide +kernel
  obtain ⟨st, hrun, hguarded⟩ := guarded_of_exec (f := Dispatch.step) hsome
  refine ⟨st, hrun, ?_⟩
  exact (Dispatch.covered_iff twoEvents_start hrun).mpr hguarded _ (List.prefix_refl _) st
    (exec_of_run hrun)

end FreightAP
