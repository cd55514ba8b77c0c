import FreightAP.Workflow.GraphRuns

/-!
# A document processed alone

A run of the graph on one document with the database to itself: every node
reads what the node before it left.  The model's answers and the session are
those of one environment, since the nodes that use them run once.

A run that nobody reviews has three nodes, and `Process.ended` reads its end off
the match transaction in the middle.
-/

namespace FreightAP

open Transition

variable [PyRuntime]

/-- A run and the database it works on. -/
structure Process where
  graph : GraphConfig
  db : Database
deriving DecidableEq

namespace Process

/-- The run of a new document. -/
def start (v : WorkflowState) (db : Database) : Process := ⟨.start v, db⟩

/-- One step of the run, resumed or not. -/
def step (env : NodeEnv) (x : Process) (resume : Option String) : Option Process :=
  match x.graph.step ⟨env, resume, x.db⟩, stepGraph env resume x.graph.checkpoint x.db with
  | some g, .advanced _ db => some ⟨g, db⟩
  | some g, .interrupted _ db => some ⟨g, db⟩
  | _, _ => none

/-- What a step of the process says of the graph: it advanced, or it
interrupted before `exception_node`. -/
theorem step_cases {env : NodeEnv} {x x' : Process} {resume : Option String}
    (h : x.step env resume = some x') :
    x.graph.step ⟨env, resume, x.db⟩ = some x'.graph ∧
    ((∃ n v', x.graph.checkpoint.next = some n ∧
        runNode env resume n x.graph.checkpoint.values x.db = .update v' x'.db ∧
        x'.graph.checkpoint = ⟨v', nextNode n v'⟩) ∨
      (x.graph.checkpoint.next = some .exceptionNode ∧
        x'.graph.checkpoint = x.graph.checkpoint)) := by
  unfold step at h
  cases hg : x.graph.step ⟨env, resume, x.db⟩ with
  | none => simp [hg] at h
  | some g =>
      cases hs : stepGraph env resume x.graph.checkpoint x.db with
      | advanced c db =>
          simp only [hg, hs, Option.some.injEq] at h
          subst h
          obtain ⟨n, v', hn, hr, rfl⟩ := stepGraph_advanced hs
          refine ⟨rfl, .inl ⟨n, v', hn, hr, ?_⟩⟩
          rcases GraphConfig.step_cases hg with ⟨c', db', hs', rfl⟩ | ⟨hn', -, rfl⟩
          · rw [hs] at hs'
            cases hs'
            rfl
          · simp [GraphConfig.step, hs] at hg
      | interrupted payload db =>
          simp only [hg, hs, Option.some.injEq] at h
          subst h
          obtain ⟨hn, -, -⟩ := stepGraph_interrupted hs
          refine ⟨rfl, .inr ⟨hn, ?_⟩⟩
          rcases GraphConfig.step_cases hg with ⟨c', db', hs', rfl⟩ | ⟨hn', -, rfl⟩
          · rw [hs] at hs'
            cases hs'
          · rfl
      | raised message db => simp [hg, hs] at h
      | finished => simp [hg, hs] at h

/-! ## Where a process is -/

/-- The stages of a process: at its entry, past the extraction, and past the
match transaction. -/
inductive Stage (env : NodeEnv) (v : WorkflowState) (db : Database) : Process → Prop where
  | entry : Stage env v db (start v db)
  | extracted {x : Process} {v₁ : WorkflowState} :
      extractNode env { v with iterationCount := 0 } db = .update v₁ x.db →
      x.graph.checkpoint = ⟨v₁, some .matchNode⟩ → Stage env v db x
  | matched {x : Process} {v₁ : WorkflowState} {db₁ db₂ : Database} {m : MatchResult} :
      extractNode env { v with iterationCount := 0 } db = .update v₁ db₁ →
      matchDocument env.session v₁ db₁ = .ok (m, db₂) →
      x.graph.checkpoint.values.matchResult = some m →
      x.graph.checkpoint.next ≠ some .extractNode →
      x.graph.checkpoint.next ≠ some .matchNode → Stage env v db x

omit [PyRuntime] in
/-- Nothing leads back to the first two nodes. -/
theorem nextNode_late {n : Node} (v : WorkflowState) (h : n ≠ .extractNode) :
    nextNode n v ≠ some .extractNode ∧ nextNode n v ≠ some .matchNode := by
  cases n with
  | extractNode => exact absurd rfl h
  | matchNode =>
      simp only [nextNode, routeAfterMatch]
      split
      · decide
      · split <;> decide
  | exceptionNode =>
      simp only [nextNode, routeAfterException]
      split
      · decide
      · split
        · decide
        · split <;> decide
  | supervisorNode => simp [nextNode]
  | approveNode => simp [nextNode]
  | rejectNode => simp [nextNode]
  | completeNode => simp [nextNode]

/-- A step moves a process along its stages. -/
theorem Stage.step {env : NodeEnv} {v : WorkflowState} {db : Database} {x x' : Process}
    {resume : Option String} (hx : Stage env v db x) (h : x.step env resume = some x') :
    Stage env v db x' := by
  obtain ⟨-, ⟨n, v', hn, hr, hc'⟩ | ⟨hn, hc'⟩⟩ := step_cases h
  · cases hx with
    | entry =>
        cases hn
        exact .extracted hr hc'
    | @extracted _ v₁ hex hc =>
        rw [hc] at hn hr
        cases hn
        simp only [runNode, matchNode] at hr
        cases hm : matchDocument env.session v₁ x.db with
        | error message => simp [hm] at hr
        | ok out =>
            obtain ⟨m, db₂⟩ := out
            simp only [hm, NodeOutcome.update.injEq] at hr
            obtain ⟨rfl, -⟩ := hr
            obtain ⟨hne₁, hne₂⟩ := nextNode_late (matchUpdate m v₁)
              (show Node.matchNode ≠ .extractNode by decide)
            refine .matched hex hm ?_ (hc' ▸ hne₁) (hc' ▸ hne₂)
            rw [hc']
            cases hrev : m.requiresReview <;> simp [matchUpdate, hrev, WorkflowState.log]
    | matched hex hm hmr hne₁ hne₂ =>
        rw [hn] at hne₁ hne₂
        have hkeep := (runNode_update hr).2.2.1 fun e => hne₂ (congrArg some e)
        have hn₁ : n ≠ .extractNode := fun e => hne₁ (congrArg some e)
        obtain ⟨hne₁', hne₂'⟩ := nextNode_late v' hn₁
        refine .matched hex hm ?_ (hc' ▸ hne₁') (hc' ▸ hne₂')
        rw [hc']
        exact hkeep.1.trans hmr
  · cases hx with
    | entry => cases hn
    | extracted _ hc =>
        rw [hc] at hn
        cases hn
    | matched hex hm hmr hne₁ hne₂ =>
        exact .matched hex hm (by rw [hc']; exact hmr) (by rw [hc']; exact hne₁)
          (by rw [hc']; exact hne₂)

/-- A process that has ended did its match transaction, and its end state is a
finished one. -/
theorem ended {env : NodeEnv} {v : WorkflowState} {db : Database} {resumes : List (Option String)}
    {x : Process} (h : Run (Fires (step env)) (start v db) resumes x)
    (hend : x.graph.checkpoint.next = none) :
    ∃ v₁ db₁ m db₂, extractNode env { v with iterationCount := 0 } db = .update v₁ db₁ ∧
      matchDocument env.session v₁ db₁ = .ok (m, db₂) ∧
      x.graph.checkpoint.values.matchResult = some m ∧ x.graph.checkpoint.values.Finished := by
  have hinv : Stage env v db x ∧ x.graph.checkpoint.Sound := by
    refine h.preserves (fun x => Stage env v db x ∧ x.graph.checkpoint.Sound)
      ⟨.entry, .extract rfl⟩ fun t a u ht hs => ⟨ht.1.step hs, ?_⟩
    rcases GraphConfig.step_cases (step_cases hs).1 with ⟨c, db', hadv, hg⟩ | ⟨-, -, hg⟩
    · rw [hg]
      exact ht.2.step hadv
    · rw [hg]
      exact ht.2
  obtain ⟨hstage, hsound⟩ := hinv
  have hfin : x.graph.checkpoint.values.Finished := by
    obtain ⟨⟨⟨v', next⟩, p, ns⟩, db'⟩ := x
    cases hend
    cases hsound with
    | finished hfin => exact hfin
  cases hstage with
  | entry => cases hend
  | extracted _ hc =>
      rw [hc] at hend
      cases hend
  | matched hex hm hmr => exact ⟨_, _, _, _, hex, hm, hmr, hfin⟩

omit [PyRuntime] in
/-- `complete_node` on a run that nobody reviewed. -/
theorem completeNode_clear {v : WorkflowState} (db : Database) (hex : v.hasException = false)
    (hd : v.humanDecision = none) :
    ∃ v', completeNode v db = .update v' (logAuditEvent v.runId "completed" db) ∧
      v'.humanDecision = none ∧
      v'.postingStatus = postingStatusOf none (v.matchResult.bind (·.reconciliationStatus)) := by
  have hdisp : isDisposition v.humanDecision = false := by rw [hd, isDisposition_none]
  unfold completeNode
  rw [hex, hdisp, Bool.false_and, if_neg Bool.false_ne_true, if_neg Bool.false_ne_true]
  exact ⟨_, rfl, hd, by rw [hd]; rfl⟩

/-- A run that does not wait takes no resume value. -/
theorem step_unpaused {env : NodeEnv} {x x' : Process} {resume : Option String}
    (hp : x.graph.paused = false) (h : x.step env resume = some x') : resume = none := by
  have hg := (step_cases h).1
  unfold GraphConfig.step at hg
  split at hg
  · cases hg
  next hne =>
    rw [not_not, hp] at hne
    cases resume with
    | none => rfl
    | some decision => cases hne

/-- Without a review a process has one way to go, and it ends after three
nodes. -/
theorem run_unreviewed {env : NodeEnv} (v : WorkflowState) {v₁ : WorkflowState} {db db₁ db₂ : Database}
    {m : MatchResult} (hd : v.humanDecision = none)
    (hex : extractNode env { v with iterationCount := 0 } db = .update v₁ db₁)
    (hm : matchDocument env.session v₁ db₁ = .ok (m, db₂)) (hrev : m.requiresReview = false) :
    ∃ x, Run (Fires (step env)) (start v db) [none, none, none] x ∧
      x.graph.checkpoint.next = none ∧ x.graph.checkpoint.values.humanDecision = none ∧
      x.graph.checkpoint.values.postingStatus = postingStatusOf none m.reconciliationStatus ∧
      x.db = logAuditEvent v.runId "completed" db₂ ∧
      ∀ {resumes : List (Option String)} {y : Process},
        Run (Fires (step env)) (start v db) resumes y → y.graph.checkpoint.next = none → y = x := by
  have hrn : runNode env none .extractNode { v with iterationCount := 0 } db = .update v₁ db₁ := hex
  obtain ⟨hrun₁, -, -, hkeep, -⟩ := runNode_update hrn
  have hd₁ : v₁.humanDecision = none := (hkeep (by decide)).trans hd
  have hexc : (matchUpdate m v₁).hasException = false := by
    simp [matchUpdate, hrev, WorkflowState.log, WorkflowState.hasException]
  have hroute : routeAfterMatch (matchUpdate m v₁) = .completeNode := by
    simp [routeAfterMatch, hexc]
  have hd₂ : (matchUpdate m v₁).humanDecision = none := by
    simpa [matchUpdate, hrev, WorkflowState.log] using hd₁
  have hrun₂ : (matchUpdate m v₁).runId = v.runId := by
    simpa [matchUpdate, hrev, WorkflowState.log] using hrun₁
  have hmr : (matchUpdate m v₁).matchResult = some m := by
    simp [matchUpdate, hrev, WorkflowState.log]
  have s₁ : step env (start v db) none = some ⟨⟨⟨v₁, some .matchNode⟩, false, [.extractNode]⟩, db₁⟩ := by
    simp [step, start, GraphConfig.start, Checkpoint.start, GraphConfig.step, stepGraph, runNode,
      hex, nextNode]
  have s₂ : step env ⟨⟨⟨v₁, some .matchNode⟩, false, [.extractNode]⟩, db₁⟩ none =
      some ⟨⟨⟨matchUpdate m v₁, some .completeNode⟩, false, [.extractNode, .matchNode]⟩, db₂⟩ := by
    simp [step, GraphConfig.step, stepGraph, runNode, matchNode, hm, nextNode, hroute]
  obtain ⟨v₃, hcn, hd₃, hp₃⟩ := completeNode_clear db₂ hexc hd₂
  rw [hrun₂] at hcn
  rw [hmr] at hp₃
  have s₃ : step env
      ⟨⟨⟨matchUpdate m v₁, some .completeNode⟩, false, [.extractNode, .matchNode]⟩, db₂⟩ none =
      some ⟨⟨⟨v₃, none⟩, false, [.extractNode, .matchNode, .completeNode]⟩,
        logAuditEvent v.runId "completed" db₂⟩ := by
    simp [step, GraphConfig.step, stepGraph, runNode, hcn, nextNode]
  refine ⟨_, ((Run.single s₁).snoc s₂).snoc s₃, rfl, hd₃, hp₃, rfl, ?_⟩
  intro resumes y hrun hend
  -- The four states of the run are closed under steps, and only the last ends.
  have hstates : y = start v db ∨
      y = ⟨⟨⟨v₁, some .matchNode⟩, false, [.extractNode]⟩, db₁⟩ ∨
      y = ⟨⟨⟨matchUpdate m v₁, some .completeNode⟩, false, [.extractNode, .matchNode]⟩, db₂⟩ ∨
      y = ⟨⟨⟨v₃, none⟩, false, [.extractNode, .matchNode, .completeNode]⟩,
        logAuditEvent v.runId "completed" db₂⟩ := by
    clear hend
    induction hrun with
    | nil => exact .inl rfl
    | snoc _ hs ih =>
        rcases ih with rfl | rfl | rfl | rfl <;> cases step_unpaused rfl hs
        · exact .inr (.inl (Option.some.inj (hs.symm.trans s₁)))
        · exact .inr (.inr (.inl (Option.some.inj (hs.symm.trans s₂))))
        · exact .inr (.inr (.inr (Option.some.inj (hs.symm.trans s₃))))
        · simp [Fires, step, GraphConfig.step, stepGraph] at hs
  rcases hstates with rfl | rfl | rfl | rfl
  · cases hend
  · cases hend
  · cases hend
  · rfl

end Process

end FreightAP
