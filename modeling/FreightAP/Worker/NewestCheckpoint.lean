import FreightAP.Worker.ReviewLock

/-!
# Runs whose graph goes on from its newest checkpoint

As long as every node runs from the newest checkpoint, and the graph starts with
an input only where there is none, the newest checkpoint of an interrupted run
is at `exception_node` or carries a decision (`Paused`).  A call that resumes
such a run comes to `complete_node` with a decision, and never waits for its
own lock (`neverWaits_of_onNewest`).
-/

namespace FreightAP

open Transition

/-! ## Paused runs -/

/-- The graph waits at `exception_node`, or has a decision. -/
def Checkpoint.Settled (c : Checkpoint) : Prop :=
  c.next = some .exceptionNode ∨ isDisposition c.values.humanDecision = true

/-- The newest checkpoint waits for a decision, or has one. -/
def RunRecord.Paused (r : RunRecord) : Prop := ∃ c, r.checkpoint? = some c ∧ c.Settled

section

variable [PyRuntime] {uuid5 : String → String} {runId filename : String} {events : List String}
  {r r' : RunRecord} {p p' : ExecPhase} {a : ExecAction} {c c' : Checkpoint} {env : NodeEnv}
  {db db' : Database} {v : Option String} {job : InvoiceJobEnvelope} {operatorReplay : Bool}
  {call : Nat → Option ReviewCall}

/-- A decision stays, and `exception_node` takes one. -/
theorem Checkpoint.Settled.step (h : c.Settled) (hv : v = none ∨ isDisposition v = true)
    (hs : stepGraph env v c db = .advanced c' db') : c'.Settled := by
  obtain ⟨n, v', hn, hr, rfl⟩ := stepGraph_advanced hs
  obtain ⟨-, -, -, hsame, hnew⟩ := runNode_update hr
  by_cases hex : n = .exceptionNode
  · obtain ⟨hd, hres⟩ := hnew hex
    exact .inr (hd ▸ hv.resolve_left hres)
  · have hdec := h.resolve_left fun he => hex (Option.some.inj (hn.symm.trans he))
    exact .inr (hsame hex ▸ hdec)

omit [PyRuntime] in
/-- Only `exception_node` logs the exception. -/
theorem loggedEvent_raised {n : Node} {w : WorkflowState}
    (h : loggedEvent? env w n = some "exception_raised") : n = .exceptionNode := by
  cases n with
  | exceptionNode => rfl
  | extractNode =>
      obtain ⟨_, _, he⟩ := Option.map_eq_some_iff.mp h
      exact absurd he (by decide)
  | supervisorNode =>
      obtain ⟨_, _, he⟩ := Option.map_eq_some_iff.mp h
      exact absurd he (by decide)
  | completeNode =>
      simp only [loggedEvent?, completionEvent?] at h
      split at h
      · cases h
      · split at h <;> exact absurd h (by decide)
  | _ => cases h

omit [PyRuntime] in
theorem mem_recordEvent {e : String} {logged : Option String}
    (h : e ∈ recordEvent events logged) : e ∈ events ∨ logged = some e := by
  cases logged with
  | none => exact .inl h
  | some event =>
      rcases Table.mem_put h with rfl | h
      · exact .inr rfl
      · exact .inl h

omit [PyRuntime] in
theorem ReviewPhase.loggedEvent_ne_raised (φ : ReviewPhase) :
    φ.loggedEvent? ≠ some "exception_raised" := by
  intro h
  cases φ with
  | returned d idempotent =>
      cases idempotent with
      | true => cases h
      | false => cases d <;> exact absurd h (by decide)
  | _ => cases h

/-- The exception of a run is new only after `exception_node`. -/
theorem ExecAction.raised_eventsAfter (hp : p.Backed runId events r)
    (h : "exception_raised" ∈ (a.withAudit runId events).eventsAfter runId events call p) :
    "exception_raised" ∈ events ∨
      ∃ env db resume run c, a = .node env db resume ∧ p = .invoking run c ∧
        c.next = some .exceptionNode := by
  cases a with
  | node env db resume =>
      cases p with
      | invoking run c =>
          simp only [withAudit, eventsAfter] at h
          cases hv : resumeValue call resume with
          | none =>
              rw [hv] at h
              exact .inl h
          | some v =>
              have hc := hp.record.reached c (hp.known c rfl)
              rw [hv, Option.elim_some, auditOf_stepGraph env v _ hc.run, Database.auditOf_withAudit] at h
              rcases mem_recordEvent h with h | h
              · exact .inl h
              · obtain ⟨n, hn, hlog⟩ := Option.bind_eq_some_iff.mp h
                exact .inr ⟨env, db, resume, run, c, rfl, rfl, loggedEvent_raised hlog ▸ hn⟩
      | _ => exact .inl h
  | _ => exact .inl h

/-! ## The newest checkpoint after a step -/

/-- An execution leaves the newest checkpoint, puts its input, or runs a node. -/
theorem runWorkflowForJob_checkpoint?
    (h : runWorkflowForJob uuid5 call job operatorReplay r a p = some (r', p')) :
    r'.checkpoint? = r.checkpoint? ∨ (∃ run, a = .invoke ∧ p = .entering run true) ∨
      ∃ env db db' resume v run c c', a = .node env db resume ∧ p = .invoking run c ∧
        (v = none ∨ isDisposition v = true) ∧ stepGraph env v c db = .advanced c' db' ∧
        r' = r.put c' := by
  have hexec := runWorkflowForJob_executes h
  cases hexec with
  | created => exact .inl (RunRecord.checkpoint?_commit ..)
  | input => exact .inr (.inl ⟨_, rfl, rfl⟩)
  | @node run c c' env db db' resume =>
      obtain ⟨v, hv, h⟩ := Option.map_eq_some_iff.mp h
      rcases executeNode_record env db run c v r with heq | ⟨c₁, db₁, hs, heq⟩
      · rw [h] at heq
        exact .inl (congrArg RunRecord.checkpoint? heq)
      · rw [h] at heq
        exact .inr (.inr ⟨env, db, db₁, resume, v, run, c, c₁, rfl, rfl, resumeValue_decided hv,
          hs, heq⟩)
  | wrote _ _ hr =>
      refine .inl ?_
      rw [RunRecord.checkpoint?, RunRecord.writeRow_checkpoints hr, RunRecord.checkpoint?]
  | _ => exact .inl rfl

/-- So does the upload. -/
theorem runWorkflow_checkpoint? (h : runWorkflow runId filename r a p = some (r', p')) :
    r'.checkpoint? = r.checkpoint? ∨ (∃ run, a = .invoke ∧ p = .entering run true) ∨
      ∃ env db db' resume v run c c', a = .node env db resume ∧ p = .invoking run c ∧
        (v = none ∨ isDisposition v = true) ∧ stepGraph env v c db = .advanced c' db' ∧
        r' = r.put c' := by
  have huploads := runWorkflow_uploads h
  cases huploads with
  | inserted => exact .inl (RunRecord.checkpoint?_commit ..)
  | input => exact .inr (.inl ⟨_, rfl, rfl⟩)
  | @node run c env db _ _ hnode =>
      rcases executeNode_record env db run c none r with heq | ⟨c₁, db₁, hs, heq⟩
      · rw [hnode] at heq
        exact .inl (congrArg RunRecord.checkpoint? heq)
      · rw [hnode] at heq
        exact .inr (.inr ⟨env, db, db₁, none, none, run, c, c₁, rfl, rfl, .inl rfl, hs, heq⟩)
  | wrote _ _ hr =>
      refine .inl ?_
      rw [RunRecord.checkpoint?, RunRecord.writeRow_checkpoints hr, RunRecord.checkpoint?]
  | quiet => exact .inl rfl

/-- A call leaves the newest checkpoint, or runs a node. -/
theorem decideReview_checkpoint? {id : Nat} {requested : Disposition} {a : ReviewAction}
    {φ φ' : ReviewPhase} (h : decideReview id requested r a φ = some (r', φ')) :
    r'.checkpoint? = r.checkpoint? ∨
      ∃ env db db' resume run c c', a = .node env db ∧ φ = .invoking run c resume ∧
        stepGraph env resume c db = .advanced c' db' ∧ r' = r.put c' := by
  have hreviews := decideReview_reviews h
  cases hreviews with
  | @node run c c' resume env₀ db₀ db₀' _ =>
      cases a with
      | node env db =>
          simp only [decideReview, Option.some.injEq, reviewNode] at h
          cases hs : stepGraph env resume c db with
          | advanced c₁ db₁ =>
              rw [hs] at h
              exact .inr ⟨env, db, db₁, resume, run, c, c₁, rfl, rfl, hs, (congrArg Prod.fst h).symm⟩
          | _ =>
              rw [hs] at h
              cases congrArg Prod.snd h
      | _ => simp [decideReview] at h
  | _ => exact .inl rfl

/-! ## The runs -/

/-- The step takes a graph on from the newest checkpoint, or starts one where
there is none. -/
def ExecPhase.OnNewest (r : RunRecord) : ExecAction → ExecPhase → Prop
  | .invoke, .entering _ true => r.checkpoint? = none
  | .node _ _ _, .invoking _ c => r.checkpoint? = some c
  | _, _ => True

/-- A run that is paused once its exception is on record stays so. -/
theorem RunRecord.Paused.after {e : StepEnd} (hback : p.Backed runId events r)
    (hnew : p.OnNewest r a) (hpaused : "exception_raised" ∈ events → r.Paused)
    (hraised : "exception_raised" ∈ (a.withAudit runId events).eventsAfter runId events call p)
    (hstep : r'.checkpoint? = r.checkpoint? ∨
      (∃ run, e.action (a.withAudit runId events) = .invoke ∧ p = .entering run true) ∨
      ∃ env db db' resume v run c c', e.action (a.withAudit runId events) = .node env db resume ∧
        p = .invoking run c ∧ (v = none ∨ isDisposition v = true) ∧
        stepGraph env v c db = .advanced c' db' ∧ r' = r.put c') : r'.Paused := by
  have hr : r.Paused := by
    rcases ExecAction.raised_eventsAfter hback hraised with h | ⟨env, db, resume, run, c, rfl, rfl, hn⟩
    · exact hpaused h
    · exact ⟨c, hnew, .inl hn⟩
  obtain ⟨c, hc, hset⟩ := hr
  rcases hstep with heq | ⟨run, ha, rfl⟩ | ⟨env, db, db', resume, v, run, c₁, c', ha, rfl, hv, hs, rfl⟩
  · exact ⟨c, heq.trans hc, hset⟩
  · cases e <;> cases a <;> cases ha
    cases hc.symm.trans hnew
  · cases e <;> cases a <;> cases ha
    cases hc.symm.trans hnew
    exact ⟨c', RunRecord.checkpoint?_put .., hset.step hv hs⟩

end

namespace AuditedRun

/-- Every graph goes on from the newest checkpoint. -/
def OnNewest (s : AuditedRun) : AuditedLabel → Prop
  | .review id (.node _ _) =>
      ∀ x, s.call id = some x → ∀ c, x.phase.checkpoint? = some c → s.record.checkpoint? = some c
  | .execute id a _ => ∀ x, s.desk.execution id = some x → x.phase.OnNewest s.record a
  | .upload a _ => ∀ u, s.upload = some u → u.phase.OnNewest s.record a
  | _ => True

/-- The run is paused once its exception is on record. -/
def PausedOnce (s : AuditedRun) : Prop := "exception_raised" ∈ s.events → s.record.Paused

section

variable [PyRuntime] {uuid5 : String → String} {runId : String} {s s' t : AuditedRun}
  {l : AuditedLabel} {ls : List AuditedLabel}

theorem PausedOnce.step (hp : s.PausedOnce) (h : s.Sound uuid5 runId) (hg : s.OnNewest l)
    (hs : s.step uuid5 runId l = some s') : s'.PausedOnce := by
  intro hraised
  have hs := step_cases hs
  cases hs with
  | @reviewed id a x r φ hx _ hr =>
      have hold : "exception_raised" ∈ s.events := by
        rcases mem_recordEvent hraised with hold | hlog
        · exact hold
        · exact absurd hlog (φ.loggedEvent_ne_raised)
      obtain ⟨c, hc, hset⟩ := hp hold
      rcases decideReview_checkpoint? hr with
        heq | ⟨env, db, db', v, run, c₁, c', ha, hφ, hstep, heq⟩
      · exact ⟨c, heq.trans hc, hset⟩
      · cases a <;> cases ha
        have hc₁ : x.phase.checkpoint? = some c₁ := by
          rw [hφ]
          rfl
        have hv : v = none ∨ isDisposition v = true := by
          have hres := (h.calls id x hx).resume
          rw [hφ] at hres
          exact hres
        cases hc.symm.trans (hg x hx c₁ hc₁)
        refine ⟨c', ?_, hset.step hv hstep⟩
        rw [show r = _ from heq]
        exact RunRecord.checkpoint?_put ..
  | @executed id a e x r p events hx hevents _ hr =>
      have hback : x.phase.Backed runId s.events s.record :=
        ⟨h.record, (h.desk.execs id x hx).known, (h.execs id x hx).2⟩
      exact .after hback (hg x hx) hp (hevents ▸ hraised) (runWorkflowForJob_checkpoint? hr)
  | @uploaded a e u r p events hu hevents _ hr =>
      exact .after (h.upload u hu) (hg u hu) hp (hevents ▸ hraised) (runWorkflow_checkpoint? hr)
  | _ => exact hp hraised

omit [PyRuntime] in
/-- A call that resumes a paused run comes to `complete_node` with a decision. -/
theorem PausedOnce.goesOnDecided (hp : s.PausedOnce) (h : s.Sound uuid5 runId)
    (hg : s.OnNewest l) : s.GoesOnDecided l := by
  cases l with
  | review id a =>
      cases a with
      | node env db =>
          intro _ x hx c hc hn
          have hholds : x.phase.holds = true := by
            cases hφ : x.phase with
            | invoking => rfl
            | _ =>
                rw [hφ] at hc
                cases hc
          obtain ⟨c', hc', hset⟩ := hp ((h.calls id x hx).raised hholds).raised
          cases hc'.symm.trans (hg x hx c hc)
          refine .inl (hset.resolve_left fun hex => ?_)
          cases hn.symm.trans hex
      | _ => trivial
  | _ => trivial

/-- While every graph goes on from the newest checkpoint, no call waits for its
own lock. -/
theorem neverWaits_of_onNewest (h₀ : s.Start)
    (h : Run (Guarded OnNewest (Fires (step uuid5 runId))) s ls t) :
    Always (step uuid5 runId) NeverWaits s ls := by
  refine always_of_guarded (fun s => s.Sound uuid5 runId ∧ s.PausedOnce ∧ s.NeverWaits) h
    ⟨h₀.sound, ?_, h₀.neverWaits⟩ (fun _ hs => hs.2.2) ?_
  · intro hraised
    rw [h₀.events] at hraised
    cases hraised
  · rintro u l w ⟨hsound, hpaused, hn⟩ hg hs
    exact ⟨hsound.step hs, hpaused.step hsound hg hs,
      (step_neverWaits_iff hsound hs hn).mpr (hpaused.goesOnDecided hsound hg)⟩

end

end AuditedRun

end FreightAP
