import FreightAP.Review.Agreement
import FreightAP.Worker.ReviewLock

/-!
# Uploaded documents

The run of a document that is uploaded, next to the calls of `decide_review`
that other clients make for it.

The upload is the only execution of its run, and no call gets past the check of
the row before the upload has stored that the run waits (`Desk.Idle.step`).  So
the row, the decision and the checkpoint go together in every state: `Tracked`
says how, for each point where the upload can be.  The executions of a job have
no such order.

Nobody takes up the run of an upload that went away, so its row stays as the
upload has left it.
-/

namespace FreightAP

open Transition

/-! ## Calls before the review -/

section

variable [PyRuntime] {s s' : Desk} {run : WorkflowRun} {c₀ : Checkpoint} {l : DeskLabel}

/-- No call has got past the check of the row. -/
structure Desk.Idle (s : Desk) : Prop where
  unlocked : s.record.lock = none
  undecided : s.record.decision = none
  calls : ∀ id x, s.call id = some x → x.phase.holds = false ∧ ∀ d b, x.phase ≠ .returned d b

omit [PyRuntime] in
/-- A call that goes on outside its transaction. -/
theorem Desk.Idle.update (h : s.Idle) (id : Nat) {x : ReviewCall} (hx : x.phase.holds = false)
    (hne : ∀ d b, x.phase ≠ .returned d b) : (s.update id s.record x).Idle := by
  refine ⟨h.unlocked, h.undecided, fun e y hy => ?_⟩
  by_cases he : e = id
  · subst he
    rw [Desk.update_self] at hy
    cases hy
    exact ⟨hx, hne⟩
  · rw [Desk.update_of_ne _ _ _ he] at hy
    exact h.calls e y hy

/-- While the run does not wait for review, calls are turned away and change
nothing. -/
theorem Desk.Idle.step (h : s.Idle)
    (hrow : ∀ run, s.record.row? = some run → run.processingStatus ≠ .awaitingReview)
    (hs : s.step l = some s') : s'.Idle ∧ s'.record = s.record := by
  rcases Desk.step_cases hs with ⟨id, d, -, rfl⟩ | ⟨id, ⟨requested, φ⟩, r, p, hx, hstep, rfl⟩
  · exact ⟨h.update id rfl fun _ _ e => (by cases e), rfl⟩
  · obtain ⟨hheld, -⟩ := h.calls id _ hx
    cases hstep with
    | lock _ hrun _ hwaits => exact absurd hwaits (hrow _ hrun)
    | repeated _ hdec _ => cases h.undecided.symm.trans hdec
    | refused _ hend hne => exact ⟨h.update id (holds_of_active hend) hne, rfl⟩
    | crash => exact ⟨h.update id rfl fun _ _ e => (by cases e), rfl⟩
    | failed hh _ _ => cases hheld.symm.trans hh
    | _ => cases hheld

omit [PyRuntime] in
/-- The run waits for review from now on. -/
theorem Desk.Idle.agreed (h : s.Idle) (hrow : s.record.row? = some run)
    (hc : s.record.checkpoint? = some c₀) : Agreed run c₀ s where
  row _ := hrow
  checkpoint := ⟨c₀, hc, .inl rfl⟩
  decided d hd := by cases h.undecided.symm.trans hd
  lock id x hx hh := by cases (h.calls id x hx).1.symm.trans hh
  facts id x hx := by
    obtain ⟨hheld, hne⟩ := h.calls id x hx
    cases hp : x.phase with
    | returned d b => exact absurd hp (hne d b)
    | locked run =>
        rw [hp] at hheld
        cases hheld
    | resuming run =>
        rw [hp] at hheld
        cases hheld
    | invoking run c resume =>
        rw [hp] at hheld
        cases hheld
    | resulted run values =>
        rw [hp] at hheld
        cases hheld
    | _ => trivial
  once i j x y d d' hx _ hd _ := absurd hd ((h.calls i x hx).2 d false)

/-! ## The row of a decided run -/

/-- The row as a call has read it. -/
def ReviewPhase.run? : ReviewPhase → Option WorkflowRun
  | .locked run => some run
  | .resuming run => some run
  | .invoking run _ _ => some run
  | .resulted run _ => some run
  | _ => none

/-- The row is the one that waits, or that of the decision. -/
structure RowKept (run : WorkflowRun) (s : Desk) : Prop where
  waits : s.record.decision = none → s.record.row? = some run
  decided : ∀ d, s.record.decision = some d → s.record.row? = some (run.decided d)
  loaded : ∀ id x run', s.call id = some x → x.phase.run? = some run' → run' = run

omit [PyRuntime] in
/-- One call goes on. -/
theorem RowKept.set (h : RowKept run s) {id : Nat} {r : RunRecord} {x : ReviewCall}
    (hwaits : r.decision = none → r.row? = some run)
    (hdecided : ∀ d, r.decision = some d → r.row? = some (run.decided d))
    (hloaded : ∀ run', x.phase.run? = some run' → run' = run) :
    RowKept run (s.update id r x) := by
  refine ⟨hwaits, hdecided, fun e y run' hy hrun => ?_⟩
  by_cases he : e = id
  · subst he
    rw [Desk.update_self] at hy
    cases hy
    exact hloaded run' hrun
  · rw [Desk.update_of_ne _ _ _ he] at hy
    exact h.loaded e y run' hy hrun

omit [PyRuntime] in
/-- A call outside its transaction has no row at hand. -/
theorem run?_idle {p : ReviewPhase} (hp : p.holds = false) : p.run? = none := by
  cases p with
  | locked run => cases hp
  | resuming run => cases hp
  | invoking run c resume => cases hp
  | resulted run values => cases hp
  | _ => rfl

theorem RowKept.step (h : RowKept run s) (hs : s.step l = some s') : RowKept run s' := by
  rcases Desk.step_cases hs with ⟨id, d, -, rfl⟩ | ⟨id, ⟨requested, φ⟩, r, p, hx, hstep, rfl⟩
  · exact h.set h.waits h.decided fun _ e => by cases e
  · have hloaded : ∀ run', φ.run? = some run' → run' = run := fun run' => h.loaded id _ run' hx
    cases hstep with
    | lock _ hrun hdec _ =>
        refine h.set h.waits h.decided ?_
        rintro run' ⟨⟩
        exact Option.some.inj (hrun.symm.trans (h.waits hdec))
    | repeated => exact h.set h.waits h.decided fun _ e => by cases e
    | refused _ hend _ =>
        refine h.set h.waits h.decided fun _ e => ?_
        cases (run?_idle (holds_of_active hend)).symm.trans e
    | found => exact h.set h.waits h.decided fun _ e => hloaded _ e
    | paused => exact h.set h.waits h.decided fun _ e => hloaded _ e
    | invoke => exact h.set h.waits h.decided fun _ e => hloaded _ e
    | node => exact h.set h.waits h.decided fun _ e => hloaded _ e
    | ended => exact h.set h.waits h.decided fun _ e => hloaded _ e
    | @store run' values _ =>
        obtain rfl := hloaded run' rfl
        refine h.set (fun e => by cases e) (fun d hd => ?_) fun _ e => by cases e
        cases hd
        simp [RunRecord.row?, RunRecord.commit, RunRecord.unlock]
    | failed _ hend _ =>
        refine h.set h.waits h.decided fun _ e => ?_
        cases (run?_idle (holds_of_active hend)).symm.trans e
    | crash => exact h.set h.waits h.decided fun _ e => by cases e

/-- The newest checkpoint carries decision `d`. -/
def Settled (d : Disposition) (r : RunRecord) : Prop :=
  ∃ c, r.checkpoint? = some c ∧ Carried d c

omit [PyRuntime] in
/-- A stored decision is the one in the checkpoint. -/
theorem Settled.unique {d e : Disposition} (h : Settled d s.record) (ha : Agreed run c₀ s)
    (he : s.record.decision = some e) : e = d := by
  obtain ⟨c, hc, hd⟩ := h
  obtain ⟨-, c', hc', he'⟩ := ha.decided e he
  cases hc.symm.trans hc'
  exact Disposition.text_injective (Option.some.inj (he'.1.symm.trans hd.1))

/-- The call that goes on from such a checkpoint asks for this decision. -/
theorem Settled.step {d : Disposition} (h : Settled d s.record) (ha : Agreed run c₀ s)
    (hopen : isDisposition c₀.values.humanDecision = false) (hs : s.step l = some s') :
    Settled d s'.record := by
  rcases Desk.step_cases hs with ⟨id, q, -, rfl⟩ | ⟨id, ⟨requested, φ⟩, r, p, hx, hstep, rfl⟩
  · exact h
  · have hfacts := ha.facts id _ hx
    cases hstep with
    | @node run' c c' resume env db db' hnode =>
        obtain ⟨-, hc, hcase⟩ := hfacts
        obtain ⟨c₁, hc₁, hd⟩ := h
        cases hc₁.symm.trans hc
        have hrequested : Carried requested c := by
          rcases hcase with ⟨rfl, -⟩ | hcarried
          · rw [hd.1, Disposition.isDisposition_text] at hopen
            cases hopen
          · exact hcarried
        obtain rfl : requested = d :=
          Disposition.text_injective (Option.some.inj (hrequested.1.symm.trans hd.1))
        exact ⟨c', RunRecord.checkpoint?_put .., hd.step hnode⟩
    | _ => exact h

end

/-! ## Checkpoints of an upload -/

section

variable [PyRuntime] {c c' : Checkpoint}

omit [PyRuntime] in
/-- Without a decision nothing is blocked. -/
theorem postingStatusOf_undecided (reconciliation : Option ReconciliationStatus) :
    postingStatusOf none reconciliation = .readyForPosting ∨
      postingStatusOf none reconciliation = .notReady := by
  by_cases h : reconciliation = some .reconciled
  · exact .inl (if_pos (.inr ⟨rfl, h⟩))
  · refine .inr ((if_neg ?_).trans (if_neg fun e => by cases e))
    rintro (e | ⟨-, hrec⟩)
    · cases e
    · exact h hrec

/-- A checkpoint of a graph that nobody has resumed. -/
structure Unresumed (c : Checkpoint) : Prop where
  sound : c.Sound
  undecided : c.values.humanDecision = none
  complete : c.next = none → c.values.status = .complete ∧
    c.values.processingStatus = .complete ∧
      (c.values.postingStatus = .readyForPosting ∨ c.values.postingStatus = .notReady)

omit [PyRuntime] in
theorem unresumed_start (runId filename : String) (documentId : Nat) :
    Unresumed (.start (initialState runId documentId filename [])) :=
  ⟨.extract rfl, rfl, fun h => by cases h⟩

/-- The graph goes on by itself.  It comes to `complete_node` without an
exception, since nobody has resolved one. -/
theorem Unresumed.step {env : NodeEnv} {db db' : Database} (h : Unresumed c)
    (hs : stepGraph env none c db = .advanced c' db') : Unresumed c' := by
  have hsound := h.sound.step hs
  obtain ⟨n, v', hn, hr, rfl⟩ := stepGraph_advanced hs
  obtain ⟨-, -, -, hkeep, hnew⟩ := runNode_update hr
  have hne : n ≠ .exceptionNode := fun e => absurd rfl (hnew e).2
  have hundecided : v'.humanDecision = none := (hkeep hne).trans h.undecided
  refine ⟨hsound, hundecided, fun hend => ?_⟩
  cases n with
  | completeNode =>
      have hclear : c.values.hasException = false := by
        obtain ⟨v, next⟩ := c
        cases hn
        cases h.sound with
        | clear hclear => exact hclear.1
        | reviewed hd _ => exact absurd h.undecided hd
      simp only [runNode, completeNode, hclear, h.undecided, Bool.false_and] at hr
      cases hr
      exact ⟨rfl, rfl, postingStatusOf_undecided _⟩
  | _ => cases hend

omit [PyRuntime] in
/-- The values of a graph that ended by itself. -/
theorem Unresumed.ready (h : Unresumed c) (hend : c.next = none)
    (hready : c.values.postingStatus = .readyForPosting) : ∃ m, c.values.matchResult = some m ∧
      m.requiresReview = false ∧ m.reconciliationStatus = some .reconciled := by
  obtain ⟨v, next⟩ := c
  cases hend
  have hundecided : v.humanDecision = none := h.undecided
  cases h.sound with
  | finished hfin =>
      obtain ⟨m, hm, -, hreviewed⟩ := hfin.reviewed
      have hrec := hfin.ready.mp hready
      rw [hundecided, hm] at hrec
      refine ⟨m, hm, ?_, (hrec.resolve_left fun e => by cases e).2⟩
      cases hr : m.requiresReview with
      | false => rfl
      | true => exact absurd hundecided (hreviewed hr).1

end

/-! ## The steps of an upload -/

section

variable [PyRuntime] {runId filename : String} {r r' : RunRecord} {p p' : ExecPhase}
  {a : ExecAction}

/-- An upload that raised or crashed. -/
def ExecPhase.Gone (p : ExecPhase) : Prop := p = .raised ∨ p = .crashed

/-- The steps of an upload, one constructor for each way a step goes. -/
inductive UploadStep (runId filename : String) (r : RunRecord) :
    ExecPhase → RunRecord → ExecPhase → Prop where
  | created {documentId : Nat} : UploadStep runId filename r .opening
      (r.commit (uploadedRun documentId)) (.entering (uploadedRun documentId) true)
  | createdLost {documentId : Nat} : UploadStep runId filename r .opening
      (r.commit (uploadedRun documentId)) .raised
  | entered {run : WorkflowRun} : UploadStep runId filename r (.entering run true)
      (r.put (.start (initialState runId run.documentId filename [])))
      (.invoking run (.start (initialState runId run.documentId filename [])))
  | advanced {run : WorkflowRun} {c c' : Checkpoint} {env : NodeEnv} {db db' : Database} :
      stepGraph env none c db = .advanced c' db' →
      UploadStep runId filename r (.invoking run c) (r.put c') (.invoking run c')
  | interrupted {run : WorkflowRun} {c : Checkpoint} : c.next = some .exceptionNode →
      UploadStep runId filename r (.invoking run c) r (.resulted run .interrupted)
  | finished {run : WorkflowRun} {c : Checkpoint} : c.next = none →
      UploadStep runId filename r (.invoking run c) r (.resulted run (.finished c.values))
  | enteringExcepted {run : WorkflowRun} {fresh : Bool} :
      UploadStep runId filename r (.entering run fresh) r (.excepted run)
  | invokingExcepted {run : WorkflowRun} {c : Checkpoint} :
      UploadStep runId filename r (.invoking run c) r (.excepted run)
  | committed {p p' : ExecPhase} {w : RowWrite} {r' : RunRecord} : uploadWrite? p = some w →
      r.writeRow w.loaded w.new = some r' → (p' = w.after ∨ p' = w.broken) →
      UploadStep runId filename r p r' p'
  | gone {p p' : ExecPhase} : p'.Gone → UploadStep runId filename r p r p'

theorem runWorkflow_step (h : runWorkflow runId filename r a p = some (r', p')) :
    UploadStep runId filename r p r' p' := by
  cases a with
  | «open» documentId result =>
      cases p <;> simp only [runWorkflow, reduceCtorEq] at h
      cases result with
      | answered =>
          cases h
          exact .created
      | lost =>
          cases h
          exact .createdLost
      | failed =>
          cases h
          exact .gone (.inl rfl)
  | invoke =>
      cases p with
      | entering run fresh =>
          cases fresh <;> cases h
          exact .entered
      | _ => cases h
  | node env db resume =>
      cases p <;> cases resume <;> simp only [runWorkflow, reduceCtorEq, Option.some.injEq] at h
      unfold executeNode at h
      split at h
      next c' db' hs =>
        cases h
        exact .advanced hs
      next payload db' hs =>
        cases h
        exact .interrupted (stepGraph_interrupted hs).1
      · cases h
        exact .invokingExcepted
      next hs =>
        cases h
        exact .finished (stepGraph_finished hs)
  | commit result =>
      obtain ⟨w, hw, h⟩ := Option.bind_eq_some_iff.mp h
      cases result with
      | answered =>
          obtain ⟨r₁, hr, h⟩ := Option.map_eq_some_iff.mp h
          cases h
          exact .committed hw hr (.inl rfl)
      | lost =>
          obtain ⟨r₁, hr, h⟩ := Option.map_eq_some_iff.mp h
          cases h
          exact .committed hw hr (.inr rfl)
      | failed =>
          cases h
          refine .gone ?_
          cases p <;> cases hw <;> exact .inl rfl
  | fault =>
      cases p <;> cases h
      · exact .enteringExcepted
      · exact .invokingExcepted
  | crash =>
      simp only [runWorkflow] at h
      split at h
      · cases h
        exact .gone (.inr rfl)
      · cases h
  | _ => cases p <;> cases h

/-- An upload that was answered or went away does nothing. -/
theorem UploadStep.of_ended (hp : (∃ status, p = .returned status) ∨ p.Gone)
    (h : UploadStep runId filename r p r' p') : r' = r ∧ p'.Gone := by
  cases h with
  | gone hp' => exact ⟨rfl, hp'⟩
  | committed hw => rcases hp with ⟨_, rfl⟩ | rfl | rfl <;> cases hw
  | _ => rcases hp with ⟨_, hp⟩ | hp | hp <;> cases hp

omit [PyRuntime] in
/-- The session has the row as it is stored. -/
theorem RunRecord.writeRow_own {loaded new : WorkflowRun} (h : r.writeRow loaded new = some r')
    (hrow : r.row? = some loaded) (hdocument : new.documentId = loaded.documentId) :
    r'.row? = some new ∧ r'.checkpoint? = r.checkpoint? ∧ r'.decision = r.decision ∧
      r'.lock = r.lock := by
  rcases writeRow_cases h with ⟨rfl, rfl⟩ | ⟨-, -, row, hrow', rfl⟩
  · exact ⟨hrow, rfl, rfl, rfl⟩
  · cases hrow.symm.trans hrow'
    refine ⟨?_, rfl, rfl, rfl⟩
    rw [row?_commit]
    cases loaded
    cases new
    cases hdocument
    simp only [WorkflowRun.flush, Option.some.injEq, WorkflowRun.mk.injEq, true_and]
    refine ⟨?_, ?_, ?_⟩
    · split
      next he => exact he.symm
      · rfl
    · split
      next he => exact he.symm
      · rfl
    · split
      next he => exact he.symm
      · rfl

end

/-! ## Where an uploaded run is -/

section

variable [PyRuntime] {runId filename : String} {d d' : Desk} {r : RunRecord} {p p' : ExecPhase}
  {l : DeskLabel}

/-- The row of an interrupted upload. -/
def awaitingRow (documentId : Nat) : WorkflowRun :=
  GraphResult.interrupted.row (uploadedRun documentId)

/-- The row of a finished upload. -/
def completeRow (documentId : Nat) (c : Checkpoint) : WorkflowRun :=
  (GraphResult.finished c.values).row (uploadedRun documentId)

/-- The row of an upload that raised. -/
def exceptedRow (documentId : Nat) : WorkflowRun :=
  { uploadedRun documentId with status := .failed, processingStatus := .failed }

/-- What the upload knows while the row says that it runs. -/
def ExecPhase.Knows (p : ExecPhase) (r : RunRecord) (run : WorkflowRun) : Prop :=
  match p with
  | .entering run' fresh => run' = run ∧ fresh = true
  | .invoking run' c => run' = run ∧ r.checkpoint? = some c ∧ Unresumed c
  | .resulted run' .interrupted => run' = run ∧
      ∃ c, r.checkpoint? = some c ∧ Unresumed c ∧ c.next = some .exceptionNode
  | .resulted run' (.finished values) => run' = run ∧
      ∃ c, r.checkpoint? = some c ∧ Unresumed c ∧ c.next = none ∧ c.values = values
  | .excepted run' => run' = run
  | .raised => True
  | .crashed => True
  | _ => False

/-- What the stores hold of an uploaded run, for each point where the upload can
be. -/
inductive Standing (d : Desk) (p : ExecPhase) : Prop where
  | absent : d.Idle → d.record.row? = none → (p = .opening ∨ p.Gone) → Standing d p
  | running {documentId : Nat} : d.Idle → d.record.row? = some (uploadedRun documentId) →
      p.Knows d.record (uploadedRun documentId) → Standing d p
  | failed {documentId : Nat} : d.Idle → d.record.row? = some (exceptedRow documentId) →
      p.Gone → Standing d p
  | complete {documentId : Nat} {c : Checkpoint} : d.Idle →
      d.record.row? = some (completeRow documentId c) → d.record.checkpoint? = some c →
      Unresumed c → c.next = none → (p = .returned .complete ∨ p.Gone) → Standing d p
  | waiting {documentId : Nat} {c₀ : Checkpoint} : Agreed (awaitingRow documentId) c₀ d →
      RowKept (awaitingRow documentId) d → Unresumed c₀ → c₀.next = some .exceptionNode →
      (p = .returned .awaitingReview ∨ p.Gone) → Standing d p

/-- While the run does not wait, a call leaves the stores as they are. -/
theorem Desk.Idle.stay (h : d.Idle) {run : WorkflowRun} (hrow : d.record.row? = some run)
    (hne : run.processingStatus ≠ .awaitingReview) (hs : d.step l = some d') :
    d'.Idle ∧ d'.record = d.record := by
  refine h.step (fun run' hrow' => ?_) hs
  cases hrow.symm.trans hrow'
  exact hne

/-- A step of a call leaves the run where it is. -/
theorem Standing.review (h : Standing d p) (hs : d.step l = some d') : Standing d' p := by
  cases h with
  | absent h hrow hp =>
      obtain ⟨h', hsame⟩ := h.step (fun run hrow' => by cases hrow.symm.trans hrow') hs
      exact .absent h' (hsame ▸ hrow) hp
  | running h hrow hp =>
      obtain ⟨h', hsame⟩ := h.stay hrow (fun e => by cases e) hs
      exact .running h' (hsame ▸ hrow) (hsame ▸ hp)
  | failed h hrow hp =>
      obtain ⟨h', hsame⟩ := h.stay hrow (fun e => by cases e) hs
      exact .failed h' (hsame ▸ hrow) hp
  | @complete documentId c h hrow hc hu hn hp =>
      have hstatus : (completeRow documentId c).processingStatus = .complete := (hu.complete hn).2.1
      obtain ⟨h', hsame⟩ := h.stay hrow (fun e => by cases hstatus.symm.trans e) hs
      exact .complete h' (hsame ▸ hrow) (hsame ▸ hc) hu hn hp
  | @waiting documentId c₀ ha hkept hu hn hp =>
      have hopen : isDisposition c₀.values.humanDecision = false := by
        rw [hu.undecided, isDisposition_none]
      exact .waiting (ha.step hn hopen hs) (hkept.step hs) hu hn hp

omit [PyRuntime] in
/-- The upload writes something else than the lock and the decision. -/
theorem Desk.Idle.store (h : d.Idle) (hlock : r.lock = d.record.lock)
    (hdec : r.decision = d.record.decision) : ({ d with record := r } : Desk).Idle :=
  ⟨hlock.trans h.unlocked, hdec.trans h.undecided, h.calls⟩

omit [PyRuntime] in
/-- Before the insert there is no row. -/
theorem Standing.opening (h : Standing d .opening) : d.Idle := by
  cases h with
  | absent h _ _ => exact h
  | running _ _ hp => exact absurd hp id
  | failed _ _ hp => rcases hp with hp | hp <;> cases hp
  | complete _ _ _ _ _ hp => rcases hp with hp | hp | hp <;> cases hp
  | waiting _ _ _ _ hp => rcases hp with hp | hp | hp <;> cases hp

omit [PyRuntime] in
/-- An upload that has a row at hand is at work on a row that says so. -/
theorem Standing.runs (h : Standing d p) {run : WorkflowRun} (hp : p.loaded? = some run) :
    ∃ documentId, d.Idle ∧ d.record.row? = some (uploadedRun documentId) ∧
      p.Knows d.record (uploadedRun documentId) := by
  have hgone : ¬p.Gone := by
    rintro (rfl | rfl)
    · cases hp
    · cases hp
  have hreturned : ∀ status, p ≠ .returned status := by
    rintro status rfl
    cases hp
  cases h with
  | absent _ _ hend =>
      rcases hend with rfl | hend
      · cases hp
      · exact absurd hend hgone
  | running h hrow hknows => exact ⟨_, h, hrow, hknows⟩
  | failed _ _ hend => exact absurd hend hgone
  | complete _ _ _ _ _ hend => exact absurd hend (not_or.mpr ⟨hreturned _, hgone⟩)
  | waiting _ _ _ _ hend => exact absurd hend (not_or.mpr ⟨hreturned _, hgone⟩)

omit [PyRuntime] in
/-- Wherever the run is, the upload can go away. -/
theorem Standing.gone (h : Standing d p) (hp' : p'.Gone) : Standing d p' := by
  cases h with
  | absent h hrow _ => exact .absent h hrow (.inr hp')
  | running h hrow _ =>
      refine .running h hrow ?_
      rcases hp' with rfl | rfl <;> exact trivial
  | failed h hrow _ => exact .failed h hrow hp'
  | complete h hrow hc hu hn _ => exact .complete h hrow hc hu hn (.inr hp')
  | waiting ha hkept hu hn _ => exact .waiting ha hkept hu hn (.inr hp')

omit [PyRuntime] in
/-- The upload stores how the graph ended, or that it raised. -/
theorem Standing.commit (h : Standing d p) {w : RowWrite} (hw : uploadWrite? p = some w)
    (hr : d.record.writeRow w.loaded w.new = some r) (hp' : p' = w.after ∨ p' = w.broken) :
    Standing { d with record := r } p' := by
  cases p with
  | excepted run =>
      obtain ⟨documentId, hidle, hrow, rfl⟩ := h.runs rfl
      cases hw
      obtain ⟨hnew, -, hdec, hlock⟩ := RunRecord.writeRow_own hr hrow rfl
      refine .failed (hidle.store hlock hdec) hnew (.inl ?_)
      rcases hp' with rfl | rfl <;> rfl
  | resulted run result =>
      cases result with
      | interrupted =>
          obtain ⟨documentId, hidle, hrow, rfl, c, hc, hu, hn⟩ := h.runs rfl
          cases hw
          obtain ⟨hnew, hsame, hdec, hlock⟩ := RunRecord.writeRow_own hr hrow rfl
          have hidle' := hidle.store hlock hdec
          have hkept : RowKept (awaitingRow documentId) { d with record := r } := by
            refine ⟨fun _ => hnew, fun e he => ?_, fun id x run' hx hrun => ?_⟩
            · cases hidle'.undecided.symm.trans he
            · cases (run?_idle (hidle'.calls id x hx).1).symm.trans hrun
          refine .waiting (hidle'.agreed hnew (hsame.trans hc)) hkept hu hn ?_
          rcases hp' with rfl | rfl
          · exact .inl rfl
          · exact .inr (.inl rfl)
      | finished values =>
          obtain ⟨documentId, hidle, hrow, rfl, c, hc, hu, hn, rfl⟩ := h.runs rfl
          cases hw
          obtain ⟨hnew, hsame, hdec, hlock⟩ := RunRecord.writeRow_own hr hrow rfl
          refine .complete (hidle.store hlock hdec) hnew (hsame.trans hc) hu hn ?_
          rcases hp' with rfl | rfl
          · exact .inl (congrArg ExecPhase.returned (hu.complete hn).2.1)
          · exact .inr (.inl rfl)
  | _ => cases hw

/-- A step of the upload. -/
theorem Standing.act (h : Standing d p) (hs : UploadStep runId filename d.record p r p') :
    Standing { d with record := r } p' := by
  cases hs with
  | created => exact .running (h.opening.store rfl rfl) (RunRecord.row?_commit ..) ⟨rfl, rfl⟩
  | createdLost => exact .running (h.opening.store rfl rfl) (RunRecord.row?_commit ..) trivial
  | @entered run =>
      obtain ⟨documentId, hidle, hrow, rfl, -⟩ := h.runs rfl
      exact .running (hidle.store rfl rfl) hrow
        ⟨rfl, RunRecord.checkpoint?_put .., unresumed_start runId filename _⟩
  | advanced hstep =>
      obtain ⟨documentId, hidle, hrow, rfl, -, hu⟩ := h.runs rfl
      exact .running (hidle.store rfl rfl) hrow ⟨rfl, RunRecord.checkpoint?_put .., hu.step hstep⟩
  | interrupted hn =>
      obtain ⟨documentId, hidle, hrow, rfl, hc, hu⟩ := h.runs rfl
      exact .running hidle hrow ⟨rfl, _, hc, hu, hn⟩
  | finished hn =>
      obtain ⟨documentId, hidle, hrow, rfl, hc, hu⟩ := h.runs rfl
      exact .running hidle hrow ⟨rfl, _, hc, hu, hn, rfl⟩
  | enteringExcepted =>
      obtain ⟨documentId, hidle, hrow, rfl, -⟩ := h.runs rfl
      exact .running hidle hrow rfl
  | invokingExcepted =>
      obtain ⟨documentId, hidle, hrow, rfl, -⟩ := h.runs rfl
      exact .running hidle hrow rfl
  | committed hw hr hp' => exact h.commit hw hr hp'
  | gone hp' => exact h.gone hp'

omit [PyRuntime] in
/-- A row that says that the run waits is that of an interrupted upload. -/
theorem Standing.waits (h : Standing d p) {run : WorkflowRun} (hrow : d.record.row? = some run)
    (hwaits : run.processingStatus = .awaitingReview) :
    d.record.decision = none ∧ ∃ documentId c₀, Agreed (awaitingRow documentId) c₀ d ∧
      Unresumed c₀ ∧ c₀.next = some .exceptionNode ∧
        ((∃ status, p = .returned status) ∨ p.Gone) := by
  cases h with
  | absent _ hnone _ => cases hnone.symm.trans hrow
  | running _ hrow' _ =>
      cases hrow.symm.trans hrow'
      cases hwaits
  | failed _ hrow' _ =>
      cases hrow.symm.trans hrow'
      cases hwaits
  | complete _ hrow' _ hu hend _ =>
      cases hrow.symm.trans hrow'
      cases (hu.complete hend).2.1.symm.trans hwaits
  | @waiting documentId c₀ ha hkept hu hpaused hp =>
      refine ⟨?_, documentId, c₀, ha, hu, hpaused, hp.imp_left fun e => ⟨_, e⟩⟩
      cases hdec : d.record.decision with
      | none => rfl
      | some e =>
          cases hrow.symm.trans (hkept.decided e hdec)
          cases hwaits

omit [PyRuntime] in
/-- What the row says of the decision and of the newest checkpoint. -/
theorem Standing.stored (h : Standing d p) {run : WorkflowRun} (hrow : d.record.row? = some run) :
    (∀ e, d.record.decision = some e → run.Decided e ∧
      ∃ c, d.record.checkpoint? = some c ∧ c.values.humanDecision = some e.text) ∧
    (run.postingStatus = .readyForPosting → d.record.decision = some .approved ∨
      d.record.decision = none ∧ ∃ c m, d.record.checkpoint? = some c ∧ c.next = none ∧
        c.values.humanDecision = none ∧ c.values.matchResult = some m ∧
        m.requiresReview = false ∧ m.reconciliationStatus = some .reconciled) ∧
    (run.processingStatus = .awaitingReview → d.record.decision = none ∧
      ∃ c, d.record.checkpoint? = some c ∧
        (c.next = some .exceptionNode ∧ c.values.humanDecision = none ∨
          ∃ e : Disposition, c.values.humanDecision = some e.text)) ∧
    (run.processingStatus = .running → d.Idle ∧ ∃ documentId, run = uploadedRun documentId) := by
  have hidle : d.Idle → ∀ e, d.record.decision ≠ some e := fun hi e he => by
    cases hi.undecided.symm.trans he
  cases h with
  | absent _ hnone _ => cases hnone.symm.trans hrow
  | running hi hrow' _ =>
      cases hrow.symm.trans hrow'
      refine ⟨fun e he => absurd he (hidle hi e), fun hready => ?_, fun hwaits => ?_,
        fun _ => ⟨hi, _, rfl⟩⟩
      · cases hready
      · cases hwaits
  | failed hi hrow' _ =>
      cases hrow.symm.trans hrow'
      refine ⟨fun e he => absurd he (hidle hi e), fun hready => ?_, fun hwaits => ?_,
        fun hruns => ?_⟩
      · cases hready
      · cases hwaits
      · cases hruns
  | @complete documentId c hi hrow' hc hu hend _ =>
      cases hrow.symm.trans hrow'
      have hstatus : (completeRow documentId c).processingStatus = .complete := (hu.complete hend).2.1
      refine ⟨fun e he => absurd he (hidle hi e), fun hready => ?_, fun hwaits => ?_,
        fun hruns => ?_⟩
      · obtain ⟨m, hm, hclear, hrec⟩ := hu.ready hend hready
        exact .inr ⟨hi.undecided, c, m, hc, hend, hu.undecided, hm, hclear, hrec⟩
      · cases hstatus.symm.trans hwaits
      · cases hstatus.symm.trans hruns
  | @waiting documentId c₀ ha hkept hu hpaused _ =>
      cases hdec : d.record.decision with
      | none =>
          cases hrow.symm.trans (hkept.waits hdec)
          refine ⟨fun e he => ?_, fun hready => ?_, fun _ => ⟨rfl, ?_⟩, fun hruns => ?_⟩
          · cases he
          · cases hready
          · obtain ⟨c, hc, rfl | ⟨e, he⟩⟩ := ha.checkpoint
            · exact ⟨c, hc, .inl ⟨hpaused, hu.undecided⟩⟩
            · exact ⟨c, hc, .inr ⟨e, he.1⟩⟩
          · cases hruns
      | some e =>
          cases hrow.symm.trans (hkept.decided e hdec)
          refine ⟨fun e' he => ?_, fun hready => .inl ?_, fun hwaits => ?_, fun hruns => ?_⟩
          · cases he
            obtain ⟨-, c, hc, hcarried⟩ := ha.decided e hdec
            exact ⟨WorkflowRun.decided_decided _ e, c, hc, hcarried.1⟩
          · cases e with
            | approved => rfl
            | rejected => cases hready
          · cases hwaits
          · cases hruns

end

/-! ## Runs with an upload -/

namespace AuditedRun

section

variable [PyRuntime] {uuid5 : String → String} {runId : String} {s s' : AuditedRun}
  {l : AuditedLabel} {u : Upload}

/-- The steps on a run that was uploaded: of a call, of a call that waits, and of
the upload. -/
inductive Moves (runId : String) (s s' : AuditedRun) (u : Upload) : Prop where
  | review {l : DeskLabel} : s.desk.desk.step l = some s'.desk.desk → s'.upload = some u →
      s'.waited = s.waited → s'.desk.execution = s.desk.execution → Moves runId s s' u
  | waits {id : Nat} {a : ReviewAction} {x : ReviewCall} : s.call id = some x →
      (a.withAudit runId s.events).eventsAfter runId s.events x.phase ≠ s.events →
      s' = { s with waited := id :: s.waited } → Moves runId s s' u
  | upload {r : RunRecord} {p : ExecPhase} : UploadStep runId u.filename s.record u.phase r p →
      s'.desk = { s.desk with desk := { s.desk.desk with record := r } } →
      s'.upload = some ⟨u.filename, p⟩ → s'.waited = s.waited → Moves runId s s' u

/-- Nobody else is on a run that was uploaded. -/
theorem Stepped.moves (hs : Stepped uuid5 runId s l s')
    (hnone : ∀ id, s.desk.execution id = none) (hu : s.upload = some u) : Moves runId s s' u := by
  cases hs with
  | @requested id requested hx =>
      refine .review (l := .request id requested) ?_ hu rfl rfl
      simp only [Desk.step]
      rw [if_neg (Option.not_isSome_iff_eq_none.mpr hx)]
      rfl
  | @reviewed id a x r p hx _ hr => exact .review (Desk.step_act hx hr) hu rfl rfl
  | waits hx hne => exact .waits hx hne rfl
  | begun _ hno _ => cases hno.symm.trans hu
  | executed hx _ _ _ => cases (hnone _).symm.trans hx
  | received hno _ _ => cases hno.symm.trans hu
  | uploaded hu' _ _ hr =>
      cases hu.symm.trans hu'
      exact .upload (runWorkflow_step hr) rfl rfl rfl

/-- No call waits for itself while none has got past the check. -/
theorem idle_eventsAfter (h : s.desk.desk.Idle) {id : Nat} {x : ReviewCall}
    (hx : s.call id = some x) (a : ReviewAction) :
    a.eventsAfter runId s.events x.phase = s.events := by
  obtain ⟨hheld, -⟩ := h.calls id x hx
  obtain ⟨requested, φ⟩ := x
  cases φ with
  | invoking run c resume => cases hheld
  | _ => cases a <;> rfl

/-- A call on a run that waits comes to `complete_node` with a decision. -/
theorem agreed_eventsAfter (hsound : s.Sound uuid5 runId) {run : WorkflowRun} {c₀ : Checkpoint}
    (h : Agreed run c₀ s.desk.desk) (hpaused : c₀.next = some .exceptionNode) {id : Nat}
    {x : ReviewCall} (hx : s.call id = some x) (a : ReviewAction) :
    (a.withAudit runId s.events).eventsAfter runId s.events x.phase = s.events := by
  refine (ReviewAction.eventsAfter_eq_iff hsound.record (hsound.desk.calls id x hx)
    (hsound.calls id x hx)).mpr fun env db _ c hc hn => .inl ?_
  have hfacts := h.facts id x hx
  obtain ⟨requested, φ⟩ := x
  cases φ with
  | invoking run' c' resume =>
      cases hc
      obtain ⟨-, -, ⟨rfl, -⟩ | hcarried⟩ := hfacts
      · cases hn.symm.trans hpaused
      · rw [hcarried.1, Disposition.isDisposition_text]
  | _ => cases hc

/-- The run is that of a job, or nothing is stored of it, or it was uploaded and
is where the upload is. -/
inductive Tracked (s : AuditedRun) : Prop where
  | job : s.upload = none → s.begun ≠ [] → Tracked s
  | new : s.upload = none → s.begun = [] → (∀ id, s.desk.execution id = none) → s.waited = [] →
      s.desk.desk.Idle → s.record.row? = none → Tracked s
  | uploaded {u : Upload} : s.upload = some u → (∀ id, s.desk.execution id = none) →
      s.waited = [] → Standing s.desk.desk u.phase → Tracked s

omit [PyRuntime] in
theorem Start.tracked (h : s.Start) : s.Tracked := by
  have hrecord : s.record = .empty := h.desk.record
  refine .new h.upload h.begun h.desk.execution h.waited ⟨?_, ?_, fun id x hx => ?_⟩ ?_
  · show s.record.lock = none
    rw [hrecord]
    rfl
  · show s.record.decision = none
    rw [hrecord]
    rfl
  · cases (h.desk.call id).symm.trans hx
  · rw [hrecord]
    rfl

/-- Wherever the upload is, no call waits for itself. -/
theorem standing_eventsAfter (hsound : s.Sound uuid5 runId) {p : ExecPhase}
    (h : Standing s.desk.desk p) {id : Nat} {x : ReviewCall} (hx : s.call id = some x)
    (a : ReviewAction) :
    (a.withAudit runId s.events).eventsAfter runId s.events x.phase = s.events := by
  cases h with
  | absent hidle _ _ => exact idle_eventsAfter hidle hx _
  | running hidle _ _ => exact idle_eventsAfter hidle hx _
  | failed hidle _ _ => exact idle_eventsAfter hidle hx _
  | complete hidle _ _ _ _ _ => exact idle_eventsAfter hidle hx _
  | waiting ha _ _ hn _ => exact agreed_eventsAfter hsound ha hn hx _

/-- A step on a run that was uploaded. -/
theorem Tracked.moves (hsound : s.Sound uuid5 runId) (hnone : ∀ id, s.desk.execution id = none)
    (hwaited : s.waited = []) (h : Standing s.desk.desk u.phase) (hs : Moves runId s s' u) :
    s'.Tracked := by
  cases hs with
  | review hdesk hu hw hexec =>
      exact .uploaded hu (hexec ▸ hnone) (hw.trans hwaited) (h.review hdesk)
  | waits hx hne _ => exact absurd (standing_eventsAfter hsound h hx _) hne
  | upload hstep hdesk hu hw =>
      refine .uploaded hu ?_ (hw.trans hwaited) ?_
      · rw [hdesk]
        exact hnone
      · rw [hdesk]
        exact h.act hstep

theorem Tracked.step (h : s.Tracked) (hsound : s.Sound uuid5 runId)
    (hs : s.step uuid5 runId l = some s') : s'.Tracked := by
  have hs := step_cases hs
  cases h with
  | job hu hbegun =>
      cases hs with
      | requested => exact .job hu hbegun
      | reviewed => exact .job hu hbegun
      | waits => exact .job hu hbegun
      | begun => exact .job hu (List.cons_ne_nil _ _)
      | executed => exact .job hu hbegun
      | received _ hnil _ => exact absurd hnil hbegun
      | uploaded hu' _ _ _ => cases hu.symm.trans hu'
  | new hu hbegun hnone hwaited hidle hrow =>
      have hdesk : ∀ {dl : DeskLabel} {d : Desk}, s.desk.desk.step dl = some d →
          d.Idle ∧ d.record = s.record := fun hd =>
        hidle.step (fun run hrow' => by cases hrow.symm.trans hrow') hd
      cases hs with
      | @requested id requested hx =>
          have hd : s.desk.desk.step (.request id requested) =
              some (s.desk.desk.update id s.record ⟨requested, .waiting⟩) :=
            if_neg (Option.not_isSome_iff_eq_none.mpr hx)
          exact .new hu hbegun hnone hwaited (hdesk hd).1 hrow
      | @reviewed id a x r p hx _ hr =>
          obtain ⟨hidle', hsame⟩ := hdesk (Desk.step_act hx hr)
          exact .new hu hbegun hnone hwaited hidle' ((congrArg RunRecord.row? hsame).trans hrow)
      | waits hx hne => exact absurd (idle_eventsAfter hidle hx _) hne
      | begun => exact .job hu (List.cons_ne_nil _ _)
      | executed hx _ _ _ => cases (hnone _).symm.trans hx
      | received => exact .uploaded rfl hnone hwaited (.absent hidle hrow (.inl rfl))
      | uploaded hu' _ _ _ => cases hu.symm.trans hu'
  | uploaded hu hnone hwaited hstanding =>
      exact Tracked.moves hsound hnone hwaited hstanding (hs.moves hnone hu)

/-! ## A call that is accepted -/

/-- The run was uploaded and is where the upload is. -/
structure Attended (uuid5 : String → String) (runId : String) (u : Upload) (s : AuditedRun) :
    Prop where
  sound : s.Sound uuid5 runId
  tracked : s.Tracked
  upload : s.upload = some u

omit [PyRuntime] in
theorem Attended.standing (h : s.Attended uuid5 runId u) : Standing s.desk.desk u.phase := by
  cases h.tracked with
  | job hno _ => cases hno.symm.trans h.upload
  | new hno => cases hno.symm.trans h.upload
  | uploaded hu _ _ hstanding =>
      cases hu.symm.trans h.upload
      exact hstanding

theorem Attended.eventsAfter (h : s.Attended uuid5 runId u) {id : Nat} {x : ReviewCall}
    (hx : s.call id = some x) (a : ReviewAction) :
    (a.withAudit runId s.events).eventsAfter runId s.events x.phase = s.events := by
  cases h.tracked with
  | job hu => cases hu.symm.trans h.upload
  | new hu => cases hu.symm.trans h.upload
  | uploaded _ _ _ hstanding => exact standing_eventsAfter h.sound hstanding hx a

/-- A step of a call goes through, and the run is still where the upload is. -/
theorem Attended.review (h : s.Attended uuid5 runId u) {id : Nat} {q : Disposition}
    {a : ReviewAction} {r : RunRecord} {p p' : ReviewPhase} (hx : s.call id = some ⟨q, p⟩)
    (hs : decideReview id q s.record (a.withAudit runId s.events) p = some (r, p')) :
    s.step uuid5 runId (.review id a) = some (s.reviewed id q r p') ∧
      (s.reviewed id q r p').Attended uuid5 runId u := by
  have hstep : s.step uuid5 runId (.review id a) = some (s.reviewed id q r p') := by
    simp only [step, hx, Option.bind_some, h.eventsAfter hx a, if_true, hs, Option.map_some]
  exact ⟨hstep, h.sound.step hstep, h.tracked.step h.sound hstep, h.upload⟩

/-- Call `id`, alone and without a crash, can come to store the decision it asks
for. -/
def Accepts (uuid5 : String → String) (runId : String) (id : Nat) (q : Disposition)
    (run : WorkflowRun) (s : AuditedRun) : Prop :=
  ∃ acts : List ReviewAction, .crash ∉ acts ∧ ∃ t,
    Run (Fires (step uuid5 runId)) s (acts.map (.review id)) t ∧
      t.call id = some ⟨q, .returned q false⟩ ∧ t.record.decision = some q ∧
      t.record.row? = some (run.decided q)

theorem Accepts.of_step {id : Nat} {q : Disposition} {run : WorkflowRun} {a : ReviewAction}
    {r : RunRecord} {p p' : ReviewPhase} (h : s.Attended uuid5 runId u)
    (hx : s.call id = some ⟨q, p⟩)
    (hs : decideReview id q s.record (a.withAudit runId s.events) p = some (r, p'))
    (ha : .crash ≠ a)
    (hnext : (s.reviewed id q r p').Attended uuid5 runId u →
      (s.reviewed id q r p').Accepts uuid5 runId id q run) :
    s.Accepts uuid5 runId id q run := by
  obtain ⟨hstep, h'⟩ := h.review hx hs
  obtain ⟨acts, hacts, t, hrun, hend⟩ := hnext h'
  refine ⟨a :: acts, fun hmem => ?_, t, Run.append (.snoc .nil hstep) hrun, hend⟩
  rcases List.mem_cons.mp hmem with he | hmem
  · exact ha he
  · exact hacts hmem

/-- The result carries the decision, and is stored. -/
theorem accepts_resulted {id : Nat} {q : Disposition} {run : WorkflowRun}
    {values : WorkflowState} (h : s.Attended uuid5 runId u)
    (hx : s.call id = some ⟨q, .resulted run values⟩) (hd : values.humanDecision = some q.text) :
    s.Accepts uuid5 runId id q run := by
  have hdecide : decideReview id q s.record .decide (.resulted run values) =
      some ({ (s.record.commit (run.decided q)).unlock with decision := some q },
        .returned q false) :=
    congrArg some (if_neg (not_not.mpr hd))
  refine .of_step (a := .decide) h hx hdecide (by simp) fun _ => ?_
  exact ⟨[], List.not_mem_nil, _, .nil, Desk.update_self .., rfl,
    RunRecord.row?_commit s.record (run.decided q)⟩

/-- How many nodes are left past the review. -/
def nodesLeft : Option Node → Nat
  | none => 0
  | some .completeNode => 1
  | _ => 2

/-- A checkpoint that carries a decision comes closer to the end. -/
theorem carried_advances {q : Disposition} {c : Checkpoint} (hc : Carried q c)
    (hn : c.next ≠ none) (resume : Option String) (db : Database) :
    ∃ c' db', stepGraph quietEnv resume c db = .advanced c' db' ∧
      nodesLeft c'.next < nodesLeft c.next := by
  obtain ⟨v, next⟩ := c
  obtain ⟨-, h | h | h | h⟩ := hc
  · exact absurd h hn
  · cases h
    exact ⟨_, _, rfl, Nat.lt_succ_self 1⟩
  · cases h
    exact ⟨_, _, rfl, Nat.lt_succ_self 1⟩
  · cases h
    obtain ⟨v', db', hv⟩ := completeNode_updates v db
    refine ⟨⟨v', none⟩, db', ?_, Nat.one_pos⟩
    simp only [stepGraph, runNode, hv, nextNode]

/-- The graph runs from a checkpoint that carries the decision to its end. -/
theorem accepts_carried {id : Nat} {q : Disposition} {run : WorkflowRun} {c : Checkpoint}
    {resume : Option String} (h : s.Attended uuid5 runId u) (hc : Carried q c)
    (hx : s.call id = some ⟨q, .invoking run c resume⟩) : s.Accepts uuid5 runId id q run := by
  generalize hk : nodesLeft c.next = k
  induction k using Nat.strong_induction_on generalizing s c resume with
  | _ k ih =>
      let db := Database.empty.withAudit runId s.events
      cases hn : c.next with
      | none =>
          have hnode : decideReview id q s.record (.node quietEnv db) (.invoking run c resume) =
              some (s.record, .resulted run c.values) := by
            simp only [decideReview, reviewNode, stepGraph, hn]
          exact .of_step (a := .node quietEnv .empty) h hx hnode (by simp) fun h' =>
            accepts_resulted h' (Desk.update_self ..) hc.1
      | some n =>
          obtain ⟨c', db', hs, hlt⟩ := carried_advances hc (hn ▸ Option.some_ne_none n) resume db
          have hnode : decideReview id q s.record (.node quietEnv db) (.invoking run c resume) =
              some (s.record.put c', .invoking run c' none) := by
            simp only [decideReview, reviewNode, hs]
          exact .of_step (a := .node quietEnv .empty) h hx hnode (by simp) fun h' =>
            ih _ (hk ▸ hlt) h' (hc.step hs) (Desk.update_self ..) rfl

/-- A call that resumes a paused graph. -/
theorem accepts_resuming {id : Nat} {q : Disposition} {run : WorkflowRun} {c : Checkpoint}
    (h : s.Attended uuid5 runId u) (hc : s.record.checkpoint? = some c)
    (hn : c.next = some .exceptionNode) (hx : s.call id = some ⟨q, .resuming run⟩) :
    s.Accepts uuid5 runId id q run := by
  have hinvoke : decideReview id q s.record .invoke (.resuming run) =
      some (s.record, .invoking run c (some q.text)) := by
    simp only [decideReview, hc]
  refine .of_step (a := .invoke) h hx hinvoke (by simp) fun h' => ?_
  obtain ⟨v, next⟩ := c
  cases hn
  have hnode : decideReview id q s.record
      (.node quietEnv (Database.empty.withAudit runId s.events))
      (.invoking run ⟨v, some .exceptionNode⟩ (some q.text)) = some (_, .invoking run _ none) := rfl
  exact .of_step (a := .node quietEnv .empty) h' (Desk.update_self ..) hnode (by simp)
    fun h'' => accepts_carried h'' (carried_next rfl) (Desk.update_self ..)

/-- A run that waits, with its graph paused or with the decision in its
checkpoint, accepts the decision. -/
theorem accepts_awaiting {id : Nat} {q : Disposition} {run : WorkflowRun} {c : Checkpoint}
    (h : s.Attended uuid5 runId u) (hrow : s.record.row? = some run)
    (hwaits : run.processingStatus = .awaitingReview) (hdec : s.record.decision = none)
    (hlock : s.record.lock = none) (hc : s.record.checkpoint? = some c)
    (hpaused : c.next = some .exceptionNode ∧ c.values.humanDecision = none ∨
      c.values.humanDecision = some q.text)
    (hx : s.call id = some ⟨q, .waiting⟩) : s.Accepts uuid5 runId id q run := by
  refine .of_step (a := .lock) h hx (lockedRun_first hlock hrow hdec hwaits) (by simp)
    fun h' => ?_
  have hc' : RunRecord.checkpoint? { s.record with lock := some id } = some c := hc
  rcases hpaused with ⟨hn, hnone⟩ | hd
  · have hsnap : reviewSnapshot q run { s.record with lock := some id } =
        ({ s.record with lock := some id }, .resuming run) := by
      simp only [reviewSnapshot, hc', hnone, isDisposition_none, hn, Option.isNone_some,
        Bool.false_eq_true, if_false]
    exact .of_step (a := .snapshot) h' (Desk.update_self ..) (congrArg some hsnap) (by simp)
      fun h'' => accepts_resuming h'' hc' hn (Desk.update_self ..)
  · have hsnap := (reviewSnapshot_carried run hc' hd).trans (if_pos rfl)
    exact .of_step (a := .snapshot) h' (Desk.update_self ..) (congrArg some hsnap) (by simp)
      fun h'' => accepts_resulted h'' (Desk.update_self ..) hd

/-- The run waits for review, and its newest checkpoint carries `d`. -/
structure Bound (d : Disposition) (u : Upload) (s : AuditedRun) : Prop where
  upload : s.upload = some u
  ended : (∃ status, u.phase = .returned status) ∨ u.phase.Gone
  executions : ∀ id, s.desk.execution id = none
  agreed : ∃ run c₀, Agreed run c₀ s.desk.desk ∧ c₀.next = some .exceptionNode ∧
    isDisposition c₀.values.humanDecision = false
  settled : Settled d s.record

/-- No step takes the decision out of the checkpoint. -/
theorem Bound.step {d : Disposition} (h : s.Bound d u) (hsound : s.Sound uuid5 runId)
    (hs : s.step uuid5 runId l = some s') : ∃ u', s'.Bound d u' := by
  obtain ⟨run, c₀, ha, hpaused, hopen⟩ := h.agreed
  cases (step_cases hs).moves h.executions h.upload with
  | review hdesk hu _ hexec =>
      exact ⟨u, hu, h.ended, hexec ▸ h.executions, ⟨run, c₀, ha.step hpaused hopen hdesk, hpaused,
        hopen⟩, h.settled.step ha hopen hdesk⟩
  | waits hx hne _ => exact absurd (agreed_eventsAfter hsound ha hpaused hx _) hne
  | upload hstep hdesk hu _ =>
      obtain ⟨rfl, hgone⟩ := hstep.of_ended h.ended
      refine ⟨_, hu, .inr hgone, ?_, ⟨run, c₀, ?_, hpaused, hopen⟩, ?_⟩
      · rw [hdesk]
        exact h.executions
      · rw [hdesk]
        exact ha
      · rw [record, hdesk]
        exact h.settled

omit [PyRuntime] in
theorem Bound.decision {d e : Disposition} (h : s.Bound d u) (he : s.record.decision = some e) :
    e = d := by
  obtain ⟨run, c₀, ha, -, -⟩ := h.agreed
  exact h.settled.unique ha he

/-! ## Uploads that went away -/

/-- A run whose upload went away while the row said that it runs. -/
structure Left (documentId : Nat) (s : AuditedRun) : Prop where
  upload : ∃ u, s.upload = some u ∧ u.phase.Gone
  executions : ∀ id, s.desk.execution id = none
  idle : s.desk.desk.Idle
  row : s.record.row? = some (uploadedRun documentId)

/-- Nobody takes up such a run, and no call decides it. -/
theorem Left.step {documentId : Nat} (h : Left documentId s)
    (hs : s.step uuid5 runId l = some s') : Left documentId s' := by
  obtain ⟨u, hu, hgone⟩ := h.upload
  have hmoves := (step_cases hs).moves h.executions hu
  cases hmoves with
  | review hdesk hu' _ hexec =>
      obtain ⟨hidle, hsame⟩ := h.idle.stay h.row (fun e => by cases e) hdesk
      refine ⟨⟨u, hu', hgone⟩, hexec ▸ h.executions, hidle, ?_⟩
      rw [record, RunDesk.record, hsame]
      exact h.row
  | waits hx hne _ => exact absurd (idle_eventsAfter h.idle hx _) hne
  | upload hstep hdesk hu' _ =>
      obtain ⟨rfl, hgone'⟩ := hstep.of_ended (.inr hgone)
      refine ⟨⟨_, hu', hgone'⟩, ?_, ?_, ?_⟩
      · rw [hdesk]
        exact h.executions
      · rw [hdesk]
        exact h.idle
      · rw [record, hdesk]
        exact h.row

end

/-! ## In every run -/

section

variable [PyRuntime] {uuid5 : String → String} {runId : String} {s t : AuditedRun}
  {ls : List AuditedLabel} {u : Upload}

theorem Start.run_tracked (h₀ : s.Start) (h : Run (Fires (step uuid5 runId)) s ls t) :
    t.Sound uuid5 runId ∧ t.Tracked :=
  h.preserves (fun t => t.Sound uuid5 runId ∧ t.Tracked) ⟨h₀.sound, h₀.tracked⟩
    fun _ _ _ ht hs => ⟨ht.1.step hs, ht.2.step ht.1 hs⟩

/-- On the run of an uploaded document, in every state: the decision is in the
row and in the checkpoint; posting readiness is an approval, or a clean
reconciliation that nobody was asked about; a run that waits is paused for its
review, or its checkpoint carries the decision that is to be stored; a run whose
upload went away while it was running stays so, undecided; and no call waits for
its own lock. -/
theorem uploaded_run_exact (h₀ : s.Start) (h : Run (Fires (step uuid5 runId)) s ls t)
    (hu : t.upload = some u) {run : WorkflowRun} (hrow : t.record.row? = some run) :
    (∀ d, t.record.decision = some d → run.Decided d ∧
      ∃ c, t.record.checkpoint? = some c ∧ c.values.humanDecision = some d.text) ∧
    (run.postingStatus = .readyForPosting → t.record.decision = some .approved ∨
      t.record.decision = none ∧ ∃ c m, t.record.checkpoint? = some c ∧ c.next = none ∧
        c.values.humanDecision = none ∧ c.values.matchResult = some m ∧
        m.requiresReview = false ∧ m.reconciliationStatus = some .reconciled) ∧
    (run.processingStatus = .awaitingReview → t.record.decision = none ∧
      ∃ c, t.record.checkpoint? = some c ∧
        (c.next = some .exceptionNode ∧ c.values.humanDecision = none ∨
          ∃ d : Disposition, c.values.humanDecision = some d.text)) ∧
    (run.processingStatus = .running → u.phase.Gone → ∀ ls' t',
      Run (Fires (step uuid5 runId)) t ls' t' →
        t'.record.row? = some run ∧ t'.record.decision = none) ∧
    t.waited = [] := by
  obtain ⟨-, htracked⟩ := h₀.run_tracked h
  cases htracked with
  | job hno _ => cases hno.symm.trans hu
  | new hno => cases hno.symm.trans hu
  | uploaded hu' hnone hwaited hstanding =>
      cases hu.symm.trans hu'
      obtain ⟨hdecided, hready, hwaits, hruns⟩ := hstanding.stored hrow
      refine ⟨hdecided, hready, hwaits, fun hrunning hgone ls' t' h' => ?_, hwaited⟩
      obtain ⟨hidle, documentId, rfl⟩ := hruns hrunning
      have hleft : Left documentId t' :=
        h'.preserves (Left documentId) ⟨⟨u, hu, hgone⟩, hnone, hidle, hrow⟩
          fun _ _ _ ht hs => ht.step hs
      exact ⟨hleft.row, hleft.idle.undecided⟩

/-- An upload from its request to the commit of its interrupt. -/
def uploadedReview : List AuditedLabel :=
  let scan := .upload (.node (scanEnv [("doc_type", .str "bol")]) scanned none) .whole
  [.receive "invoice.pdf", .upload (.open 1 .answered) .whole, .upload .invoke .whole, scan, scan,
    scan, scan, .upload (.commit .answered) .whole]

omit [PyRuntime] in
/-- The upload is interrupted, and its run approved. -/
theorem uploaded_run_exact_approved :
    letI := asciiRuntime
    ∃ (s : AuditedRun) (run : WorkflowRun) (c : Checkpoint), Run (Fires (step id "run")) .empty
      (uploadedReview ++ decisionRequest 0 ++
        [decisionNode 0, decisionNode 0, decisionNode 0, decisionNode 0, .review 0 .decide]) s ∧
      s.record.row? = some run ∧ s.record.decision = some .approved ∧
      run.Decided .approved ∧ s.record.checkpoint? = some c ∧
      c.values.humanDecision = some Disposition.approved.text ∧ s.waited = [] := by
  let _ := asciiRuntime
  have hdata : (exec (step id "run") .empty (uploadedReview ++ decisionRequest 0 ++
      [decisionNode 0, decisionNode 0, decisionNode 0, decisionNode 0, .review 0 .decide])).any
      (fun s => s.upload.isSome && s.record.row?.isSome &&
        decide (s.record.decision = some .approved)) = true := by
    decide +kernel
  obtain ⟨s, hs, hdata⟩ := (Option.any_eq_true _ _).mp hdata
  simp only [Bool.and_eq_true, decide_eq_true_eq] at hdata
  obtain ⟨⟨hupload, hrow⟩, hdec⟩ := hdata
  obtain ⟨u, hu⟩ := Option.isSome_iff_exists.mp hupload
  obtain ⟨run, hrun⟩ := Option.isSome_iff_exists.mp hrow
  obtain ⟨hdecided, -, -, -, hwaited⟩ :=
    uploaded_run_exact empty_start (run_of_exec hs) hu hrun
  obtain ⟨hd, c, hc, hcd⟩ := hdecided _ hdec
  exact ⟨s, run, c, run_of_exec hs, hrun, hdec, hd, hc, hcd, hwaited⟩

omit [PyRuntime] in
/-- A run that waits is paused and undecided, or a decision is in its checkpoint. -/
theorem Attended.open_checkpoint (h : t.Attended uuid5 runId u) {run : WorkflowRun}
    (hrow : t.record.row? = some run) (hwaits : run.processingStatus = .awaitingReview) :
    t.record.decision = none ∧ ∃ c, t.record.checkpoint? = some c ∧
      (c.next = some .exceptionNode ∧ c.values.humanDecision = none ∨ ∃ d, Carried d c) := by
  obtain ⟨hdec, documentId, c₀, ha, hu₀, hpaused, -⟩ := h.standing.waits hrow hwaits
  obtain ⟨c, hc, hcase⟩ := ha.checkpoint
  refine ⟨hdec, c, hc, ?_⟩
  rcases hcase with rfl | hcarried
  · exact .inl ⟨hpaused, hu₀.undecided⟩
  · exact .inr hcarried

/-- A new call on a run that waits and that nobody has locked can come to its
decision, unless the checkpoint carries the other one. -/
theorem Attended.answers (h : t.Attended uuid5 runId u) {run : WorkflowRun}
    (hrow : t.record.row? = some run) (hwaits : run.processingStatus = .awaitingReview)
    (hlock : t.record.lock = none) {c : Checkpoint} (hc : t.record.checkpoint? = some c)
    {q : Disposition}
    (hq : c.values.humanDecision = none ∨ c.values.humanDecision = some q.text)
    {id : Nat} (hfree : t.call id = none) :
    ∃ acts : List ReviewAction, .crash ∉ acts ∧ ∃ t',
      Run (Fires (step uuid5 runId)) t (.request id q :: acts.map (.review id)) t' ∧
        t'.call id = some ⟨q, .returned q false⟩ ∧ t'.record.decision = some q ∧
        t'.record.row? = some (run.decided q) := by
  obtain ⟨hdec, c', hc', hopen⟩ := h.open_checkpoint hrow hwaits
  cases hc.symm.trans hc'
  have hpaused : c.next = some .exceptionNode ∧ c.values.humanDecision = none ∨
      c.values.humanDecision = some q.text := by
    rcases hopen with hpaused | ⟨d, hd⟩
    · exact .inl hpaused
    · exact .inr (hq.resolve_left (hd.1 ▸ Option.some_ne_none _))
  have hstep : t.step uuid5 runId (.request id q) = some (t.reviewed id q t.record .waiting) := by
    simp only [step, hfree, Option.isSome_none, Bool.false_eq_true, if_false]
  obtain ⟨acts, hacts, t', hrun, hend⟩ :=
    accepts_awaiting (s := t.reviewed id q t.record .waiting)
      ⟨h.sound.step hstep, h.tracked.step h.sound hstep, h.upload⟩ hrow hwaits hdec hlock hc hpaused
      (Desk.update_self ..)
  exact ⟨acts, hacts, t', Run.append (.snoc .nil hstep) hrun, hend⟩

/-- A run that waits for review and that nobody has locked accepts a new call:
any decision while its graph is paused and undecided, and the one in its
checkpoint otherwise.  Then no other decision is ever stored. -/
theorem uploaded_run_answerable (h₀ : s.Start) (h : Run (Fires (step uuid5 runId)) s ls t)
    (hu : t.upload = some u) {run : WorkflowRun} (hrow : t.record.row? = some run)
    (hwaits : run.processingStatus = .awaitingReview) (hlock : t.record.lock = none) {id : Nat}
    (hfree : t.call id = none) :
    ∃ c, t.record.checkpoint? = some c ∧ ∀ q : Disposition,
      ((c.values.humanDecision = none ∨ c.values.humanDecision = some q.text) →
        ∃ acts : List ReviewAction, .crash ∉ acts ∧ ∃ t',
          Run (Fires (step uuid5 runId)) t (.request id q :: acts.map (.review id)) t' ∧
            t'.call id = some ⟨q, .returned q false⟩ ∧ t'.record.decision = some q ∧
            t'.record.row? = some (run.decided q)) ∧
      (c.values.humanDecision = some q.text → ∀ ls' t',
        Run (Fires (step uuid5 runId)) t ls' t' → ∀ d, t'.record.decision = some d → d = q) := by
  obtain ⟨hsound, htracked⟩ := h₀.run_tracked h
  have hattended : t.Attended uuid5 runId u := ⟨hsound, htracked, hu⟩
  obtain ⟨-, c, hc, hopen⟩ := hattended.open_checkpoint hrow hwaits
  refine ⟨c, hc, fun q =>
    ⟨fun hq => hattended.answers hrow hwaits hlock hc hq hfree, fun hq ls' t' h' d hd => ?_⟩⟩
  have hcarried : Carried q c := by
    rcases hopen with ⟨-, hnone⟩ | ⟨e, he⟩
    · cases hnone.symm.trans hq
    · rwa [Disposition.text_injective (Option.some.inj (hq.symm.trans he.1))]
  cases htracked with
  | job hno _ => cases hno.symm.trans hu
  | new hno => cases hno.symm.trans hu
  | uploaded hu' hnone hwaited hstanding =>
      cases hu.symm.trans hu'
      obtain ⟨-, documentId, c₀, ha, hu₀, hpaused, hended⟩ := hstanding.waits hrow hwaits
      have hundecided : isDisposition c₀.values.humanDecision = false := by
        rw [hu₀.undecided, isDisposition_none]
      obtain ⟨-, u', hbound⟩ : t'.Sound uuid5 runId ∧ ∃ u', t'.Bound q u' :=
        h'.preserves (fun t' => t'.Sound uuid5 runId ∧ ∃ u', t'.Bound q u')
          ⟨hsound, u, hu, hended, hnone, ⟨_, c₀, ha, hpaused, hundecided⟩, c, hc, hcarried⟩
          fun _ _ _ ⟨ht, u', hb⟩ hs => ⟨ht.step hs, hb.step ht hs⟩
      exact hbound.decision hd

omit [PyRuntime] in
/-- The run of the interrupted upload accepts a rejection. -/
theorem uploaded_run_answerable_rejected :
    letI := asciiRuntime
    ∃ (s s' : AuditedRun) (run : WorkflowRun) (acts : List ReviewAction),
      Run (Fires (step id "run")) .empty uploadedReview s ∧ s.record.row? = some run ∧
      Run (Fires (step id "run")) s (.request 7 .rejected :: acts.map (.review 7)) s' ∧
      s'.record.row? = some (run.decided .rejected) := by
  let _ := asciiRuntime
  have hdata : (exec (step id "run") .empty uploadedReview).any (fun s => s.upload.isSome &&
      s.record.row?.any (fun run => decide (run.processingStatus = .awaitingReview)) &&
        s.record.lock.isNone && (s.call 7).isNone &&
          s.record.checkpoint?.any fun c => c.values.humanDecision.isNone) = true := by
    decide +kernel
  obtain ⟨s, hs, hdata⟩ := (Option.any_eq_true _ _).mp hdata
  simp only [Bool.and_eq_true, Option.isNone_iff_eq_none] at hdata
  obtain ⟨⟨⟨⟨hupload, hrow⟩, hlock⟩, hfree⟩, hcheckpoint⟩ := hdata
  obtain ⟨u, hu⟩ := Option.isSome_iff_exists.mp hupload
  obtain ⟨run, hrun, hwaits⟩ := (Option.any_eq_true _ _).mp hrow
  obtain ⟨c, hc, hnone⟩ := (Option.any_eq_true _ _).mp hcheckpoint
  obtain ⟨c', hc', hanswer⟩ := uploaded_run_answerable empty_start (run_of_exec hs) hu hrun
    (of_decide_eq_true hwaits) hlock hfree
  cases hc.symm.trans hc'
  obtain ⟨acts, -, s', hrun', -, -, hrow'⟩ :=
    (hanswer .rejected).1 (.inl (Option.isNone_iff_eq_none.mp hnone))
  exact ⟨s, s', run, acts, run_of_exec hs, hrun, hrun', hrow'⟩

end

end AuditedRun

end FreightAP
