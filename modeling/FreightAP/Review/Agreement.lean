import FreightAP.Review.Decision

/-!
# Agreement on a review

Any number of calls decide one review, with conflicting requests, and each of
them can crash between two commits of the two stores.  `Agreed` says where the
decision is at every moment: nowhere, in the checkpoint alone, or in both
stores.  Every step of every call keeps it (`Agreed.step`).

A call that finds the decision in the checkpoint stores it when it asks for the
same one, and is refused otherwise, so a crash between the stores is repaired by
a retry and not by a conflicting request.
-/

namespace FreightAP

open Transition

variable [PyRuntime]

/-! ## Checkpoints past the review -/

/-- A checkpoint that carries a decision, past `exception_node`. -/
def Carried (d : Disposition) (c : Checkpoint) : Prop :=
  c.values.humanDecision = some d.text ∧
    (c.next = none ∨ c.next = some .approveNode ∨ c.next = some .rejectNode ∨
      c.next = some .completeNode)

omit [PyRuntime] in
theorem carried_next {d : Disposition} {v : WorkflowState} (h : v.humanDecision = some d.text) :
    Carried d ⟨v, some (routeAfterException v)⟩ := by
  refine ⟨h, .inr ?_⟩
  unfold routeAfterException
  by_cases hi : v.iterationCount > 5
  · rw [if_pos hi]
    exact .inr (.inr rfl)
  · rw [if_neg hi, h]
    cases d with
    | approved => exact .inl rfl
    | rejected => exact .inr (.inl rfl)

/-- The resumed `exception_node` puts the decision into the checkpoint. -/
theorem carried_resume {env : NodeEnv} {d : Disposition} {c c' : Checkpoint} {db db' : Database}
    (hn : c.next = some .exceptionNode)
    (h : stepGraph env (some d.text) c db = .advanced c' db') : Carried d c' := by
  obtain ⟨n, v', hn', hr, rfl⟩ := stepGraph_advanced h
  cases hn.symm.trans hn'
  obtain ⟨-, -, -, -, hnew⟩ := runNode_update hr
  exact carried_next (hnew rfl).1

/-- The nodes past the review keep the decision. -/
theorem Carried.step {env : NodeEnv} {resume : Option String} {d : Disposition}
    {c c' : Checkpoint} {db db' : Database} (hc : Carried d c)
    (h : stepGraph env resume c db = .advanced c' db') : Carried d c' := by
  obtain ⟨n, v', hn, hr, rfl⟩ := stepGraph_advanced h
  obtain ⟨-, -, -, hkeep, -⟩ := runNode_update hr
  obtain ⟨hd, hnext⟩ := hc
  rw [hn] at hnext
  rcases hnext with h | h | h | h <;> cases h
  · exact ⟨(hkeep (by decide)).trans hd, .inr (.inr (.inr rfl))⟩
  · exact ⟨(hkeep (by decide)).trans hd, .inr (.inr (.inr rfl))⟩
  · exact ⟨(hkeep (by decide)).trans hd, .inl rfl⟩

/-! ## The invariant -/

/-- A run that waits for review, with no call on it. -/
structure AwaitingReview (run : WorkflowRun) (c₀ : Checkpoint) (s : Desk) : Prop where
  row : s.record.row? = some run
  awaiting : run.processingStatus = .awaitingReview
  undecided : s.record.decision = none
  checkpoint : s.record.checkpoint? = some c₀
  paused : c₀.next = some .exceptionNode
  unreviewed : isDisposition c₀.values.humanDecision = false
  unlocked : s.record.lock = none
  calls : ∀ id, s.call id = none

/-- What a call has learnt, and has done. -/
def CallFacts (c₀ : Checkpoint) (r : RunRecord) (requested : Disposition) : ReviewPhase → Prop
  | .locked _ => r.decision = none
  | .resuming _ => r.decision = none ∧ r.checkpoint? = some c₀
  | .invoking _ c resume => r.decision = none ∧ r.checkpoint? = some c ∧
      (c = c₀ ∧ resume = some requested.text ∨ Carried requested c)
  | .resulted _ values => r.decision = none ∧
      ∃ c, r.checkpoint? = some c ∧ c.values = values ∧ Carried requested c
  | .returned d _ => d = requested ∧ r.decision = some d
  | _ => True

/-- Where the decision is, and what every call knows of it. -/
structure Agreed (run : WorkflowRun) (c₀ : Checkpoint) (s : Desk) : Prop where
  row : s.record.decision = none → s.record.row? = some run
  checkpoint : ∃ c, s.record.checkpoint? = some c ∧ (c = c₀ ∨ ∃ d, Carried d c)
  decided : ∀ d, s.record.decision = some d → s.record.row? ≠ none ∧
    ∃ c, s.record.checkpoint? = some c ∧ Carried d c
  lock : ∀ id x, s.call id = some x → x.phase.holds = true → s.record.lock = some id
  facts : ∀ id x, s.call id = some x → CallFacts c₀ s.record x.requested x.phase
  once : ∀ i j x y d d', s.call i = some x → s.call j = some y →
    x.phase = .returned d false → y.phase = .returned d' false → i = j

section

variable {run : WorkflowRun} {c₀ : Checkpoint} {s s' : Desk} {r r' : RunRecord}

omit [PyRuntime] in
/-- What a call outside its transaction knows stays true while no decision is
taken back. -/
theorem CallFacts.outside {q : Disposition} {p : ReviewPhase} (h : CallFacts c₀ r q p)
    (hp : p.holds = false) (hmono : ∀ d, r.decision = some d → r'.decision = some d) :
    CallFacts c₀ r' q p := by
  cases p with
  | returned d b => exact ⟨h.1, hmono d h.2⟩
  | locked run => cases hp
  | resuming run => cases hp
  | invoking run c resume => cases hp
  | resulted run values => cases hp
  | _ => trivial

omit [PyRuntime] in
/-- A call that was refused or has crashed knows nothing. -/
theorem callFacts_ended {q : Disposition} {p : ReviewPhase} (hp : p.active = false)
    (hr : ∀ d b, p ≠ .returned d b) : CallFacts c₀ r q p := by
  cases p with
  | returned d b => exact absurd rfl (hr d b)
  | locked run => cases hp
  | resuming run => cases hp
  | invoking run c resume => cases hp
  | resulted run values => cases hp
  | _ => trivial

omit [PyRuntime] in
/-- One call steps.  The others lose nothing: one that is past the lock is the
only one there. -/
theorem Agreed.set (h : Agreed run c₀ s) {id : Nat} {x : ReviewCall} {p : ReviewPhase}
    (hx : s.call id = some x)
    (hrow : r.decision = none → r.row? = some run)
    (hcp : ∃ c, r.checkpoint? = some c ∧ (c = c₀ ∨ ∃ d, Carried d c))
    (hdec : ∀ d, r.decision = some d → r.row? ≠ none ∧ ∃ c, r.checkpoint? = some c ∧ Carried d c)
    (hmono : ∀ d, s.record.decision = some d → r.decision = some d)
    (hlock : p.holds = true → r.lock = some id)
    (hothers : x.phase.holds = true ∨ s.record.lock = none ∨ r = s.record)
    (hfacts : CallFacts c₀ r x.requested p)
    (honce : ∀ d, p = .returned d false → s.record.decision = none) :
    Agreed run c₀ (s.update id r ⟨x.requested, p⟩) := by
  have hcall : ∀ j y, (s.update id r ⟨x.requested, p⟩).call j = some y →
      j = id ∧ y = ⟨x.requested, p⟩ ∨ j ≠ id ∧ s.call j = some y := by
    intro j y hy
    by_cases hj : j = id
    · subst hj
      rw [Desk.update_self] at hy
      exact .inl ⟨rfl, (Option.some.inj hy).symm⟩
    · rw [Desk.update_of_ne _ _ _ hj] at hy
      exact .inr ⟨hj, hy⟩
  have hholder : ∀ j y, j ≠ id → s.call j = some y → y.phase.holds = true → r = s.record := by
    intro j y hj hy hh
    have hlj := h.lock j y hy hh
    rcases hothers with hid | hnone | hr
    · exact absurd (Option.some.inj ((h.lock id x hx hid).symm.trans hlj)).symm hj
    · cases hnone.symm.trans hlj
    · exact hr
  refine ⟨hrow, hcp, hdec, fun j y hy hh => ?_, fun j y hy => ?_,
    fun i j y z d d' hy hz hyd hzd => ?_⟩
  · rcases hcall j y hy with ⟨rfl, rfl⟩ | ⟨hj, hy⟩
    · exact hlock hh
    · rw [hholder j y hj hy hh]
      exact h.lock j y hy hh
  · rcases hcall j y hy with ⟨rfl, rfl⟩ | ⟨hj, hy⟩
    · exact hfacts
    · cases hh : y.phase.holds with
      | true =>
          rw [hholder j y hj hy hh]
          exact h.facts j y hy
      | false => exact (h.facts j y hy).outside hh hmono
  · -- A call that has returned a decision has seen it stored.
    have hstored : ∀ k w e, s.call k = some w → w.phase = .returned e false →
        s.record.decision = some e := by
      intro k w e hw he
      have := h.facts k w hw
      rw [he] at this
      exact this.2
    rcases hcall i y hy with ⟨rfl, rfl⟩ | ⟨-, hy'⟩ <;>
      rcases hcall j z hz with ⟨rfl, rfl⟩ | ⟨-, hz'⟩
    · rfl
    · cases (honce d hyd).symm.trans (hstored j z d' hz' hzd)
    · cases (honce d' hzd).symm.trans (hstored i y d hy' hyd)
    · exact h.once i j y z d d' hy' hz' hyd hzd

/-- A step of a call keeps the agreement. -/
theorem Agreed.act (h : Agreed run c₀ s) (hpaused : c₀.next = some .exceptionNode)
    (hopen : isDisposition c₀.values.humanDecision = false) {id : Nat} {x : ReviewCall}
    {p : ReviewPhase} (hx : s.call id = some x)
    (hstep : Reviews id x.requested s.record x.phase r p) :
    Agreed run c₀ (s.update id r ⟨x.requested, p⟩) := by
  have hfacts := h.facts id x hx
  have hcarried : ∀ c, s.record.checkpoint? = some c → ∀ d : Disposition,
      c.values.humanDecision = some d.text → Carried d c := by
    intro c hc d hd
    obtain ⟨c', hc', hcase⟩ := h.checkpoint
    cases hc.symm.trans hc'
    rcases hcase with rfl | ⟨d', hd'⟩
    · rw [hd, Disposition.isDisposition_text] at hopen
      cases hopen
    · rwa [Disposition.text_injective (Option.some.inj (hd.symm.trans hd'.1))]
  generalize hp₀ : x.phase = p₀ at hstep hfacts
  have hheld : p₀.holds = true → x.phase.holds = true := fun e => hp₀ ▸ e
  cases hstep with
  | lock hlock _ hdec _ =>
      exact h.set hx h.row h.checkpoint h.decided (fun _ e => e) (fun _ => rfl)
        (.inr (.inl hlock)) hdec fun _ e => by cases e
  | repeated hlock hdec _ =>
      exact h.set hx h.row h.checkpoint h.decided (fun _ e => e) (fun e => by cases e)
        (.inr (.inl hlock)) ⟨rfl, hdec⟩ fun _ e => by cases e
  | refused hlock hend hne =>
      exact h.set hx h.row h.checkpoint h.decided (fun _ e => e)
        (fun e => absurd (e.symm.trans (holds_of_active hend)) (by decide))
        (.inr (.inl hlock)) (callFacts_ended hend hne) fun d e => absurd e (hne d false)
  | found hc hd =>
      exact h.set hx h.row h.checkpoint h.decided (fun _ e => e)
        (fun _ => h.lock id x hx (hheld rfl)) (.inl (hheld rfl))
        ⟨hfacts, _, hc, rfl, hcarried _ hc _ hd⟩ fun _ e => by cases e
  | @paused run' c hc hnd hn =>
      obtain ⟨c', hc', hcase⟩ := h.checkpoint
      cases hc.symm.trans hc'
      have hc₀ : c = c₀ := by
        rcases hcase with rfl | ⟨d, hd⟩
        · rfl
        · rw [hd.1, Disposition.isDisposition_text] at hnd
          cases hnd
      exact h.set hx h.row h.checkpoint h.decided (fun _ e => e)
        (fun _ => h.lock id x hx (hheld rfl)) (.inl (hheld rfl))
        ⟨hfacts, hc₀ ▸ hc⟩ fun _ e => by cases e
  | invoke hc =>
      obtain ⟨hdec, hc₀⟩ := hfacts
      cases hc.symm.trans hc₀
      exact h.set hx h.row h.checkpoint h.decided (fun _ e => e)
        (fun _ => h.lock id x hx (hheld rfl)) (.inl (hheld rfl))
        ⟨hdec, hc, .inl ⟨rfl, rfl⟩⟩ fun _ e => by cases e
  | @node run' c c' resume env db db' hs =>
      obtain ⟨hdec, -, hcase⟩ := hfacts
      have hnew : Carried x.requested c' := by
        rcases hcase with ⟨rfl, rfl⟩ | hcar
        · exact carried_resume hpaused hs
        · exact hcar.step hs
      refine h.set hx h.row ⟨_, RunRecord.checkpoint?_put .., .inr ⟨_, hnew⟩⟩
        (fun d e => ?_) (fun _ e => e) (fun _ => h.lock id x hx (hheld rfl)) (.inl (hheld rfl))
        ⟨hdec, RunRecord.checkpoint?_put .., .inr hnew⟩ fun _ e => by cases e
      cases hdec.symm.trans e
  | @ended run' c resume hn =>
      obtain ⟨hdec, hc, hcase⟩ := hfacts
      have hcar : Carried x.requested c := by
        rcases hcase with ⟨rfl, -⟩ | hcar
        · cases hpaused.symm.trans hn
        · exact hcar
      exact h.set hx h.row h.checkpoint h.decided (fun _ e => e)
        (fun _ => h.lock id x hx (hheld rfl)) (.inl (hheld rfl))
        ⟨hdec, _, hc, rfl, hcar⟩ fun _ e => by cases e
  | store hd =>
      obtain ⟨hdec, c, hc, rfl, hcar⟩ := hfacts
      refine h.set hx (fun e => by cases e) h.checkpoint (fun d e => ?_)
        (fun d e => by cases hdec.symm.trans e) (fun e => by cases e) (.inl (hheld rfl))
        ⟨rfl, rfl⟩ fun _ _ => hdec
      cases e
      exact ⟨by simp [RunRecord.row?, RunRecord.commit, RunRecord.unlock], c, hc, hcar⟩
  | failed hh hend hne =>
      exact h.set hx h.row h.checkpoint h.decided (fun _ e => e)
        (fun e => absurd (e.symm.trans (holds_of_active hend)) (by decide))
        (.inl (hheld hh)) (callFacts_ended hend hne) fun d e => absurd e (hne d false)
  | crash =>
      exact h.set hx h.row h.checkpoint h.decided (fun _ e => e) (fun e => by cases e)
        (.inr (.inr rfl)) trivial fun _ e => by cases e

/-- A step at the desk keeps the agreement. -/
theorem Agreed.step (h : Agreed run c₀ s) (hpaused : c₀.next = some .exceptionNode)
    (hopen : isDisposition c₀.values.humanDecision = false) {l : DeskLabel}
    (hs : s.step l = some s') : Agreed run c₀ s' := by
  rcases Desk.step_cases hs with ⟨id, d, hnew, rfl⟩ | ⟨id, x, r, p, hx, hstep, rfl⟩
  · have hcall : ∀ j y, (s.update id s.record ⟨d, .waiting⟩).call j = some y →
        y = ⟨d, .waiting⟩ ∨ s.call j = some y := by
      intro j y hy
      by_cases hj : j = id
      · subst hj
        rw [Desk.update_self] at hy
        exact .inl (Option.some.inj hy).symm
      · rw [Desk.update_of_ne _ _ _ hj] at hy
        exact .inr hy
    refine ⟨h.row, h.checkpoint, h.decided, fun j y hy hh => ?_, fun j y hy => ?_,
      fun i j y z e e' hy hz hye hze => ?_⟩
    · rcases hcall j y hy with rfl | hy
      · cases hh
      · exact h.lock j y hy hh
    · rcases hcall j y hy with rfl | hy
      · trivial
      · exact h.facts j y hy
    · rcases hcall i y hy with rfl | hy
      · cases hye
      · rcases hcall j z hz with rfl | hz
        · cases hze
        · exact h.once i j y z e e' hy hz hye hze
  · exact h.act hpaused hopen hx hstep

omit [PyRuntime] in
theorem AwaitingReview.agreed (h : AwaitingReview run c₀ s) : Agreed run c₀ s where
  row _ := h.row
  checkpoint := ⟨c₀, h.checkpoint, .inl rfl⟩
  decided d hd := by cases h.undecided.symm.trans hd
  lock id x hx := by cases (h.calls id).symm.trans hx
  facts id x hx := by cases (h.calls id).symm.trans hx
  once i j x y d d' hx := by cases (h.calls i).symm.trans hx

/-! ## A call on its own -/

/-- Call `id` asks for a decision and plays alone to its end, without a crash. -/
def Desk.Alone (s : Desk) (id : Nat) (requested : Disposition) (s' : Desk) : Prop :=
  ∃ acts : List ReviewAction, (∀ a ∈ acts, a ≠ .crash) ∧
    exec Desk.step s (.request id requested :: acts.map (.act id)) = some s' ∧
    ∃ x, s'.call id = some x ∧ x.phase.active = false

/-- The states of a call that is alone with a checkpoint carrying `d`. -/
inductive Retry (R : RunRecord) (c : Checkpoint) (id : Nat) (q d : Disposition) :
    RunRecord → ReviewPhase → Prop where
  | waiting : Retry R c id q d R .waiting
  | locked {run : WorkflowRun} : R.decision = none →
      Retry R c id q d { R with lock := some id } (.locked run)
  | resulted {run : WorkflowRun} : q = d →
      Retry R c id q d { R with lock := some id } (.resulted run c.values)
  | returned {r : RunRecord} {b : Bool} : q = d → Retry R c id q d r (.returned d b)
  | refused {e : BusinessStateConflict} : q ≠ d → Retry R c id q d R (.conflict e)

section

variable {R : RunRecord} {c : Checkpoint} {id : Nat} {q d : Disposition} {s : Desk}

/-- What is known of a run whose checkpoint carries a decision, with no call
inside its transaction. -/
structure Carrying (R : RunRecord) (c : Checkpoint) (d : Disposition) : Prop where
  row : ∃ run, R.row? = some run ∧
    (R.decision = none → run.processingStatus = .awaitingReview)
  decision : ∀ e, R.decision = some e → e = d
  unlocked : R.lock = none
  checkpoint : R.checkpoint? = some c
  carried : c.values.humanDecision = some d.text

/-- A call alone with a checkpoint that carries `d` has one way to go. -/
theorem Retry.act (hR : Carrying R c d) {r r' : RunRecord} {p p' : ReviewPhase}
    {a : ReviewAction} (h : Retry R c id q d r p) (ha : a ≠ .crash)
    (hs : decideReview id q r a p = some (r', p')) : Retry R c id q d r' p' := by
  cases h with
  | waiting =>
      obtain ⟨run, hrun, haw⟩ := hR.row
      cases a <;> simp only [decideReview, reduceCtorEq] at hs
      · cases he : R.decision with
        | none =>
            rw [lockedRun_first hR.unlocked hrun he (haw he)] at hs
            cases hs
            exact .locked he
        | some e =>
            cases hR.decision e he
            rw [lockedRun_decided hR.unlocked hrun he] at hs
            cases hs
            by_cases hq : d = q
            · rw [if_pos hq]
              exact .returned hq.symm
            · rw [if_neg hq]
              exact .refused (Ne.symm hq)
      · exact absurd rfl ha
  | @locked run he =>
      cases a <;> simp only [decideReview, reduceCtorEq, Option.some.injEq] at hs
      · rw [reviewSnapshot_carried run (r := { R with lock := some id }) hR.checkpoint
          hR.carried] at hs
        by_cases hq : q = d
        · rw [if_pos hq] at hs
          cases hs
          exact .resulted hq
        · rw [if_neg hq] at hs
          cases hs
          have hback : RunRecord.unlock { R with lock := some id } = R := by
            have := hR.unlocked
            cases R
            cases this
            rfl
          rw [hback]
          exact .refused hq
      · exact absurd rfl ha
  | resulted hq =>
      cases a <;> simp only [decideReview, reduceCtorEq, Option.some.injEq] at hs
      · rw [storeDecision, hq, if_neg (not_not.mpr hR.carried)] at hs
        cases hs
        exact .returned hq
      · exact absurd rfl ha
  | returned hq =>
      cases a <;> simp [decideReview, ReviewPhase.active, ReviewPhase.holds] at hs
  | refused hq =>
      cases a <;> simp [decideReview, ReviewPhase.active, ReviewPhase.holds] at hs

/-- A run of one call alone. -/
theorem Retry.exec (hR : Carrying R c d) {acts : List ReviewAction} {s s' : Desk}
    {x : ReviewCall} (hx : s.call id = some x) (hq : x.requested = q)
    (h : Retry R c id q d s.record x.phase) (hacts : ∀ a ∈ acts, a ≠ .crash)
    (hs : Transition.exec Desk.step s (acts.map (.act id)) = some s') :
    ∃ y, s'.call id = some y ∧ y.requested = q ∧ Retry R c id q d s'.record y.phase := by
  induction acts generalizing s x with
  | nil =>
      cases hs
      exact ⟨x, hx, hq, h⟩
  | cons a acts ih =>
      obtain ⟨t, ht, hs⟩ := Option.bind_eq_some_iff.mp hs
      simp only [Desk.step, hx, Option.bind_some] at ht
      obtain ⟨⟨r, p⟩, hr, ht⟩ := Option.map_eq_some_iff.mp ht
      rw [hq] at hr
      have hnext := h.act hR (hacts a (List.mem_cons_self ..)) hr
      have hcall : t.call id = some ⟨x.requested, p⟩ := ht ▸ Desk.update_self ..
      have hrecord : t.record = r := ht ▸ rfl
      refine ih hcall hq (hrecord ▸ hnext) (fun b hb => ?_) hs
      exact hacts b (List.mem_cons_of_mem _ hb)

/-- Call `id` can end without a crash, alone. -/
def Desk.Ends (s : Desk) (id : Nat) : Prop :=
  ∃ acts : List ReviewAction, (∀ a ∈ acts, a ≠ .crash) ∧
    ∃ s', exec Desk.step s (acts.map (.act id)) = some s' ∧
      ∃ x, s'.call id = some x ∧ x.phase.active = false

theorem Desk.Ends.now {x : ReviewCall} (hx : s.call id = some x)
    (hend : x.phase.active = false) : s.Ends id :=
  ⟨[], fun _ h => (by cases h), s, rfl, x, hx, hend⟩

theorem Desk.Ends.step {a : ReviewAction} {p p' : ReviewPhase} {r : RunRecord}
    (hx : s.call id = some ⟨q, p⟩) (hs : decideReview id q s.record a p = some (r, p'))
    (ha : a ≠ .crash) (h : (s.update id r ⟨q, p'⟩).Ends id) : s.Ends id := by
  obtain ⟨acts, hacts, s', hexec, hend⟩ := h
  refine ⟨a :: acts, fun b hb => ?_, s', ?_, hend⟩
  · rcases List.mem_cons.mp hb with rfl | hb
    · exact ha
    · exact hacts b hb
  · rw [List.map_cons, Transition.exec, Desk.step_act hx hs]
    exact hexec

/-- A call alone comes to its end. -/
theorem exists_alone (hR : Carrying s.record c d) (hnew : s.call id = none) (q : Disposition) :
    ∃ s', s.Alone id q s' := by
  obtain ⟨run, hrow, haw⟩ := hR.row
  have hends : (s.update id s.record ⟨q, .waiting⟩).Ends id := by
    cases he : s.record.decision with
    | some e =>
        refine .step (a := .lock) (Desk.update_self ..)
          (lockedRun_decided hR.unlocked hrow he) (by simp) (.now (Desk.update_self ..) ?_)
        split <;> rfl
    | none =>
        refine .step (a := .lock) (Desk.update_self ..)
          (lockedRun_first hR.unlocked hrow he (haw he)) (by simp) ?_
        have hsnap := reviewSnapshot_carried (q := q) run
          (r := { s.record with lock := some id }) hR.checkpoint hR.carried
        by_cases hq : q = d
        · refine .step (a := .snapshot) (Desk.update_self ..)
            (congrArg some (hsnap.trans (if_pos hq))) (by simp) ?_
          exact .step (a := .decide) (Desk.update_self ..) (congrArg some
            (if_neg (not_not.mpr (hq ▸ hR.carried)))) (by simp) (.now (Desk.update_self ..) rfl)
        · exact .step (a := .snapshot) (Desk.update_self ..)
            (congrArg some (hsnap.trans (if_neg hq))) (by simp) (.now (Desk.update_self ..) rfl)
  obtain ⟨acts, hacts, s', hexec, hend⟩ := hends
  refine ⟨s', acts, hacts, ?_, hend⟩
  rw [Transition.exec, Desk.step, hnew]
  exact hexec

/-- The retry of a request whose decision the checkpoint carries returns it.  A
request for the other decision is refused and changes neither store. -/
theorem Desk.Alone.settles {s' : Desk} (h : s.Alone id q s') (hR : Carrying s.record c d) :
    (q = d → ∃ b, s'.call id = some ⟨q, .returned d b⟩) ∧
      (q ≠ d → (∃ e, s'.call id = some ⟨q, .conflict e⟩) ∧ s'.record = s.record) := by
  obtain ⟨acts, hacts, hexec, x, hx, hend⟩ := h
  obtain ⟨t, ht, hexec⟩ := Option.bind_eq_some_iff.mp hexec
  have hrec : t.record = s.record ∧ t.call id = some ⟨q, .waiting⟩ := by
    simp only [Desk.step] at ht
    split at ht
    · cases ht
    · cases ht
      exact ⟨rfl, Desk.update_self ..⟩
  rw [← hrec.1] at hR
  obtain ⟨y, hy, hq, hretry⟩ := Retry.exec (x := ⟨q, .waiting⟩) hR hrec.2 rfl .waiting hacts hexec
  cases hx.symm.trans hy
  obtain ⟨requested, p⟩ := x
  cases hq
  rw [← hrec.1]
  generalize hr : s'.record = r at hretry
  cases hretry with
  | waiting => cases hend
  | locked => cases hend
  | resulted => cases hend
  | returned he => exact ⟨fun _ => ⟨_, hx⟩, fun hne => absurd he hne⟩
  | refused hne => exact ⟨fun he => absurd he hne, fun _ => ⟨⟨_, hx⟩, rfl⟩⟩

end

/-! ## In every run -/

/-- What the calls on one review have agreed on. -/
structure ReviewAgreement (s : Desk) : Prop where
  /-- All calls that return a decision return the same one. -/
  same : ∀ i j x y d d' b b', s.call i = some x → s.call j = some y →
    x.phase = .returned d b → y.phase = .returned d' b' → d = d'
  /-- A decision that is returned is stored. -/
  returned : ∀ i x d b, s.call i = some x → x.phase = .returned d b → s.record.decision = some d
  /-- One of them at most took it. -/
  once : ∀ i j x y d d', s.call i = some x → s.call j = some y →
    x.phase = .returned d false → y.phase = .returned d' false → i = j
  /-- The stored decision is that of the checkpoint. -/
  stored : ∀ d, s.record.decision = some d →
    ∃ c, s.record.checkpoint? = some c ∧ c.values.humanDecision = some d.text
  /-- A decision in the checkpoint is taken and stored by a further call that asks
  for it, and a call that asks for the other one conflicts and changes nothing. -/
  repaired : ∀ c d, s.record.lock = none → s.record.checkpoint? = some c →
    c.values.humanDecision = some d.text → ∀ id q, s.call id = none →
      (∃ s', s.Alone id q s') ∧ ∀ s', s.Alone id q s' →
        (q = d → (∃ b, s'.call id = some ⟨q, .returned d b⟩) ∧ s'.record.decision = some d) ∧
        (q ≠ d → (∃ e, s'.call id = some ⟨q, .conflict e⟩) ∧ s'.record = s.record)

omit [PyRuntime] in
/-- A checkpoint that carries a decision, when nobody holds the lock. -/
theorem Agreed.carrying (h : Agreed run c₀ s) (haw : run.processingStatus = .awaitingReview)
    {c : Checkpoint} {d : Disposition} (hlock : s.record.lock = none) (hc : s.record.checkpoint? = some c)
    (hd : c.values.humanDecision = some d.text) : Carrying s.record c d := by
  refine ⟨?_, fun e he => ?_, hlock, hc, hd⟩
  · cases hdec : s.record.decision with
    | none => exact ⟨run, h.row hdec, fun _ => haw⟩
    | some e =>
        obtain ⟨row, hrow⟩ := Option.ne_none_iff_exists'.mp (h.decided e hdec).1
        exact ⟨row, hrow, fun hn => by cases hn⟩
  · obtain ⟨-, c', hc', hcar⟩ := h.decided e he
    cases hc.symm.trans hc'
    exact Disposition.text_injective (Option.some.inj (hcar.1.symm.trans hd))

omit [PyRuntime] in
theorem Agreed.returned (h : Agreed run c₀ s) {i : Nat} {x : ReviewCall} {d : Disposition}
    {b : Bool} (hx : s.call i = some x) (hp : x.phase = .returned d b) :
    s.record.decision = some d := by
  have hf := h.facts i x hx
  rw [hp] at hf
  exact hf.2

/-- Any number of calls with any requests on a run that waits for review, in
any order, with a crash at any point, agree. -/
theorem review_agrees (h₀ : AwaitingReview run c₀ s) {ls : List DeskLabel}
    (hrun : Run (Fires Desk.step) s ls s') : ReviewAgreement s' := by
  have hagreed : ∀ {ls t}, Run (Fires Desk.step) s ls t → Agreed run c₀ t := fun hrun =>
    hrun.preserves (Agreed run c₀) h₀.agreed fun _ _ _ h hs => h.step h₀.paused h₀.unreviewed hs
  have h := hagreed hrun
  refine ⟨fun i j x y d d' b b' hx hy hp hp' => ?_, fun i x d b => h.returned, h.once,
    fun d hd => ?_, fun c d hlock hc hd id q hnew => ?_⟩
  · exact Option.some.inj ((h.returned hx hp).symm.trans (h.returned hy hp'))
  · obtain ⟨-, c, hc, hcar⟩ := h.decided d hd
    exact ⟨c, hc, hcar.1⟩
  · have hcarrying := h.carrying h₀.awaiting hlock hc hd
    refine ⟨exists_alone hcarrying hnew q, fun t halone => ?_⟩
    obtain ⟨htakes, hrefused⟩ := halone.settles hcarrying
    refine ⟨fun hq => ?_, hrefused⟩
    obtain ⟨b, hcall⟩ := htakes hq
    obtain ⟨acts, -, hexec, -⟩ := halone
    exact ⟨⟨b, hcall⟩, (hagreed (hrun.append (run_of_exec hexec))).returned hcall rfl⟩

end

omit [PyRuntime]

/-! ## A crash between the stores -/

/-- A run whose graph is paused at `exception_node`. -/
def pausedCheckpoint : Checkpoint where
  values :=
    { initialState "run" 1 "a.pdf" [] with
      matchResult := some documentNotFound, exceptionReason := some "document_not_found",
      iterationCount := 3 }
  next := some .exceptionNode

/-- Its row. -/
def pausedRun : WorkflowRun := ⟨1, .awaitingReview, .awaitingReview, .notReady⟩

/-- Its desk, before any call. -/
def pausedDesk : Desk := ⟨⟨[pausedRun], none, [pausedCheckpoint], none⟩, fun _ => none⟩

/-- The environment of its nodes, which call no model. -/
def quietEnv : NodeEnv := ⟨.error "", .error "", ⟨0, 0, 0, "", 0, "", "", ""⟩, 0⟩

/-- An approval that crashes after the checkpoint of `exception_node`, with a
rejection waiting for the lock. -/
def crashedApproval : List DeskLabel :=
  [.request 0 .approved, .request 1 .rejected, .act 0 .lock, .act 0 .snapshot, .act 0 .invoke,
   .act 0 (.node quietEnv .empty), .act 0 .crash]

/-- A retry of the approval can only succeed, and another rejection changes
nothing. -/
theorem crashedApproval_agrees :
    letI := asciiRuntime
    ∃ s : Desk, exec Desk.step pausedDesk crashedApproval = some s ∧ ReviewAgreement s ∧
      (∃ s', s.Alone 2 .approved s' ∧
        (∃ b, s'.call 2 = some ⟨.approved, .returned .approved b⟩) ∧
        s'.record.decision = some .approved) ∧
      ∃ s', s.Alone 2 .rejected s' ∧ s'.record = s.record := by
  let := asciiRuntime
  let final := exec Desk.step pausedDesk crashedApproval
  have hsome : final.isSome = true := by decide +kernel
  have hdata : final.all (fun s => decide (s.record.lock = none ∧ s.call 2 = none ∧
      s.record.checkpoint?.bind (·.values.humanDecision) = some "approved")) = true := by
    decide +kernel
  obtain ⟨s, hs⟩ := Option.isSome_iff_exists.mp hsome
  rw [hs, Option.all_some, decide_eq_true_iff] at hdata
  obtain ⟨hlock, hnew, hdec⟩ := hdata
  obtain ⟨c, hc, hd⟩ := Option.bind_eq_some_iff.mp hdec
  have h₀ : AwaitingReview pausedRun pausedCheckpoint pausedDesk :=
    ⟨rfl, rfl, rfl, rfl, rfl, rfl, rfl, fun _ => rfl⟩
  have h := review_agrees h₀ (run_of_exec hs)
  obtain ⟨⟨s', halone⟩, hends⟩ := h.repaired c .approved hlock hc hd 2 .approved hnew
  obtain ⟨⟨t, halone'⟩, hends'⟩ := h.repaired c .approved hlock hc hd 2 .rejected hnew
  exact ⟨s, hs, h, ⟨s', halone, (hends s' halone).1 rfl⟩,
    t, halone', ((hends' t halone').2 (by decide)).2⟩

end FreightAP
