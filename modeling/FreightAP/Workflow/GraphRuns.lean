import FreightAP.Lib.Transition
import FreightAP.Workflow.GraphSafety

/-!
# Runs of the graph

A run of the graph from its entry point to `END`, with an interrupt whenever
`exception_node` has no resume value and a resume with any text after it.  The
database, the model's answers and the resume values come in with each step, so
one run covers every behaviour of the world around the graph.
-/

namespace FreightAP

open Transition

variable [PyRuntime]

/-- A run in progress: its checkpoint, whether it waits at an interrupt, and
the nodes that ran to their end, in order. -/
structure GraphConfig where
  checkpoint : Checkpoint
  paused : Bool
  executed : List Node
deriving DecidableEq

/-- What a step of the graph meets. -/
structure GraphInput where
  env : NodeEnv
  resume : Option String
  db : Database

namespace GraphConfig

/-- A run that starts at iteration count `0`. -/
def start (v : WorkflowState) : GraphConfig := ⟨.start { v with iterationCount := 0 }, false, []⟩

/-- Run the next node.  A resume value is sent at an interrupt and nowhere
else.  A node that raises ends the run. -/
def step (g : GraphConfig) (i : GraphInput) : Option GraphConfig :=
  if g.paused ≠ i.resume.isSome then none
  else
    match stepGraph i.env i.resume g.checkpoint i.db with
    | .advanced c _ => some ⟨c, false, g.executed ++ g.checkpoint.next.toList⟩
    | .interrupted _ _ => some { g with paused := true }
    | .raised _ _ => none
    | .finished => none

/-- How a step goes: a node ran to its end, or `exception_node` interrupts. -/
theorem step_cases {g g' : GraphConfig} {i : GraphInput} (h : g.step i = some g') :
    (∃ c db, stepGraph i.env i.resume g.checkpoint i.db = .advanced c db ∧
      g' = ⟨c, false, g.executed ++ g.checkpoint.next.toList⟩) ∨
    (g.checkpoint.next = some .exceptionNode ∧ g.paused = false ∧
      g' = { g with paused := true }) := by
  unfold step at h
  split at h
  · cases h
  next hp =>
    cases hs : stepGraph i.env i.resume g.checkpoint i.db with
    | advanced c db =>
        simp only [hs, Option.some.injEq] at h
        exact .inl ⟨c, db, rfl, h.symm⟩
    | interrupted payload db =>
        simp only [hs, Option.some.injEq] at h
        obtain ⟨hn, hres, -⟩ := stepGraph_interrupted hs
        refine .inr ⟨hn, ?_, h.symm⟩
        simpa [hres] using hp
    | raised message db => simp [hs] at h
    | finished => simp [hs] at h

/-! ## Termination -/

/-- A bound on the steps left.  At `exception_node` the breaker leaves room for
an interrupt and a resume until the count has passed `5`. -/
def stepsLeft (g : GraphConfig) : Nat :=
  match g.checkpoint.next with
  | some .extractNode => 10
  | some .matchNode => 9
  | some .supervisorNode => 8
  | some .exceptionNode =>
      2 * (6 - g.checkpoint.values.iterationCount) + if g.paused then 0 else 1
  | some .approveNode => 2
  | some .rejectNode => 2
  | some .completeNode => 1
  | none => 0

omit [PyRuntime] in
/-- After `exception_node` the breaker is nearer. -/
theorem stepsLeft_routeAfterException (v : WorkflowState) (p : Bool) (ns : List Node)
    (hlo : 4 ≤ v.iterationCount) (hhi : v.iterationCount ≤ 6) :
    stepsLeft ⟨⟨v, some (routeAfterException v)⟩, p, ns⟩ < 2 * (7 - v.iterationCount) := by
  unfold routeAfterException
  by_cases hbr : v.iterationCount > 5
  · rw [if_pos hbr]
    simp only [stepsLeft]
    omega
  · rw [if_neg hbr]
    by_cases hap : v.humanDecision = some "approved"
    · rw [if_pos hap]
      simp only [stepsLeft]
      omega
    · rw [if_neg hap]
      by_cases hrj : v.humanDecision = some "rejected"
      · rw [if_pos hrj]
        simp only [stepsLeft]
        omega
      · rw [if_neg hrj]
        simp only [stepsLeft]
        split <;> omega

/-- Every step leaves fewer steps. -/
theorem stepsLeft_step {g g' : GraphConfig} {i : GraphInput} (hg : g.checkpoint.Sound)
    (h : g.step i = some g') : g'.stepsLeft < g.stepsLeft := by
  obtain ⟨c, p, ns⟩ := g
  rcases step_cases h with ⟨c', db, hs, rfl⟩ | ⟨hn, hp, rfl⟩
  · obtain ⟨n, v', hn, hr, rfl⟩ := stepGraph_advanced hs
    obtain ⟨-, hi', -, -, -⟩ := runNode_update hr
    cases hg with
    | extract => cases hn; exact Nat.lt_succ_self 9
    | matching hi =>
        cases hn
        obtain ⟨m, -, -, -, hroute⟩ := matchNode_update hr (hi.trans_le (by decide))
        rw [nextNode, hroute]
        cases m.requiresReview <;> simp [stepsLeft]
    | supervise hi =>
        cases hn
        rw [hi] at hi'
        simp [stepsLeft, nextNode, hi']
    | @review v hlo hhi _ =>
        cases hn
        have hi' : v'.iterationCount = v.iterationCount + 1 := hi'
        have hlt := stepsLeft_routeAfterException v' false (ns ++ [.exceptionNode]) (by omega)
          (by omega)
        refine hlt.trans_le ?_
        simp only [stepsLeft]
        omega
    | approve => cases hn; exact Nat.lt_succ_self 1
    | reject => cases hn; exact Nat.lt_succ_self 1
    | clear => cases hn; exact Nat.lt_succ_self 0
    | reviewed => cases hn; exact Nat.lt_succ_self 0
    | finished => cases hn
  · simp only at hn hp
    simp [stepsLeft, hn, hp]

/-! ## The order of the nodes -/

/-- A sound run, with what its executed nodes say about the next one. -/
structure Charted (g : GraphConfig) : Prop where
  sound : g.checkpoint.Sound
  running : g.checkpoint.next ≠ none → .completeNode ∉ g.executed
  supervised : g.checkpoint.next = some .exceptionNode → .supervisorNode ∈ g.executed
  /-- Past `exception_node` an exception has been through both nodes. -/
  handled : g.checkpoint.next = some .approveNode ∨ g.checkpoint.next = some .rejectNode ∨
      g.checkpoint.next = some .completeNode → g.checkpoint.values.hasException = true →
    [.supervisorNode, .exceptionNode].Sublist g.executed
  closed : g.checkpoint.next = none → ∃ ns, g.executed = ns ++ [.completeNode] ∧
    .completeNode ∉ ns ∧ ∀ m, g.checkpoint.values.matchResult = some m →
      m.requiresReview = true → [.supervisorNode, .exceptionNode].Sublist ns

omit [PyRuntime] in
theorem Charted.start (v : WorkflowState) : (start v).Charted where
  sound := .extract rfl
  running _ := List.not_mem_nil
  supervised h := by cases h
  handled h := by rcases h with h | h | h <;> cases h
  closed h := by cases h

omit [PyRuntime] in
theorem sublist_supervised {ns : List Node} (h : .supervisorNode ∈ ns) :
    [Node.supervisorNode, .exceptionNode].Sublist (ns ++ [.exceptionNode]) :=
  (List.singleton_sublist.mpr h).append (List.Sublist.refl [Node.exceptionNode])

/-- A step keeps the chart. -/
theorem Charted.step {g g' : GraphConfig} {i : GraphInput} (hg : g.Charted)
    (h : g.step i = some g') : g'.Charted := by
  obtain ⟨c, p, ns⟩ := g
  obtain ⟨hsound, hrun, hsup, hhan, -⟩ := hg
  rcases step_cases h with ⟨c', db, hs, rfl⟩ | ⟨hn, hp, rfl⟩
  · have hsound' := hsound.step hs
    obtain ⟨n, v', hn, hr, rfl⟩ := stepGraph_advanced hs
    simp only at hn hrun hsup hhan hsound
    rw [hn] at hrun hsup hhan
    obtain ⟨-, -, hkeep, -, -⟩ := runNode_update hr
    have hopen : n ≠ .completeNode → .completeNode ∉ ns ++ [n] := by
      intro hne hmem
      rcases List.mem_append.mp hmem with hmem | hmem
      · exact hrun (Option.some_ne_none _) hmem
      · exact hne (List.mem_singleton.mp hmem).symm
    simp only [hn, Option.toList_some]
    cases n with
    | extractNode =>
        exact ⟨hsound', fun _ => hopen (by decide), by simp [nextNode], by simp [nextNode],
          by simp [nextNode]⟩
    | matchNode =>
        refine ⟨hsound', fun _ => hopen (by decide), ?_, ?_, by simp [nextNode]⟩
        · simp only [nextNode, Option.some.injEq, routeAfterMatch]
          split
          · simp
          · split <;> simp
        · intro hnext hex
          -- The breaker is not due at the second node, so an exception goes to
          -- the supervisor.
          cases hsound with
          | matching hi =>
              obtain ⟨m, -, -, hrev, hroute⟩ := matchNode_update hr (hi.trans_le (by decide))
              rw [hrev] at hex
              simp [nextNode, hroute, hex] at hnext
          | _ => cases hn
    | supervisorNode =>
        exact ⟨hsound', fun _ => hopen (by decide), fun _ => by simp, by simp [nextNode],
          by simp [nextNode]⟩
    | exceptionNode =>
        refine ⟨hsound', fun _ => hopen (by decide), fun _ => ?_, fun _ _ => ?_,
          by simp [nextNode]⟩
        · exact List.mem_append_left _ (hsup rfl)
        · exact sublist_supervised (hsup rfl)
    | approveNode =>
        refine ⟨hsound', fun _ => hopen (by decide), by simp [nextNode], fun _ hex => ?_,
          by simp [nextNode]⟩
        rw [WorkflowState.hasException, (hkeep (by decide)).2] at hex
        exact (hhan (.inl rfl) hex).trans (List.sublist_append_left ..)
    | rejectNode =>
        refine ⟨hsound', fun _ => hopen (by decide), by simp [nextNode], fun _ hex => ?_,
          by simp [nextNode]⟩
        rw [WorkflowState.hasException, (hkeep (by decide)).2] at hex
        exact (hhan (.inr (.inl rfl)) hex).trans (List.sublist_append_left ..)
    | completeNode =>
        refine ⟨hsound', by simp [nextNode], by simp [nextNode], by simp [nextNode], fun _ => ?_⟩
        refine ⟨ns, rfl, hrun (Option.some_ne_none _), fun m hm hrev => ?_⟩
        rw [(hkeep (by decide)).1] at hm
        cases hsound with
        | clear hv =>
            obtain ⟨-, m', hm', -, hrev'⟩ := hv
            cases hm'.symm.trans hm
            exact absurd (hrev.symm.trans hrev') (by decide)
        | reviewed _ hu => exact hhan (.inr (.inr rfl)) hu.1
        | _ => cases hn
  · exact ⟨hsound, hrun, hsup, hhan, fun h => absurd (hn.symm.trans h) (Option.some_ne_none _)⟩

end GraphConfig

/-! ## Safety and termination -/

/-- Every run executes at most ten nodes and interrupts, whatever is sent at
the interrupts, and there is no infinite one.  At `END` the posting status says
how the exception was resolved. -/
theorem graph_safe (v : WorkflowState) :
    (¬∃ f : Nat → GraphConfig, f 0 = .start v ∧ ∀ n, ∃ i, (f n).step i = some (f (n + 1))) ∧
    ∀ {is : List GraphInput} {g : GraphConfig}, Run (Fires GraphConfig.step) (.start v) is g →
      is.length ≤ 10 ∧
      (g.checkpoint.next = none →
        (g.checkpoint.values.postingStatus = .readyForPosting ↔
          g.checkpoint.values.humanDecision = some "approved" ∨
            g.checkpoint.values.humanDecision = none ∧
              g.checkpoint.values.matchResult.bind (·.reconciliationStatus) = some .reconciled) ∧
        (g.checkpoint.values.postingStatus = .blocked ↔
          g.checkpoint.values.humanDecision = some "rejected") ∧
        ∃ m, g.checkpoint.values.matchResult = some m ∧
          (m.RaisedForReview → isDisposition g.checkpoint.values.humanDecision = false →
            g.checkpoint.values.processingStatus = .failed ∧
              g.checkpoint.values.postingStatus = .notReady) ∧
          (m.requiresReview = true → ∃ ns, g.executed = ns ++ [.completeNode] ∧
            .completeNode ∉ ns ∧ [.supervisorNode, .exceptionNode].Sublist ns)) := by
  have hstep : ∀ (g : GraphConfig) (i : GraphInput) (g' : GraphConfig), g.Charted →
      Fires GraphConfig.step g i g' → g'.Charted ∧ g'.stepsLeft < g.stepsLeft :=
    fun _ _ _ hg h => ⟨hg.step h, GraphConfig.stepsLeft_step hg.sound h⟩
  have hinf := no_infinite_run (Fires GraphConfig.step) GraphConfig.Charted GraphConfig.stepsLeft
    (.start v) hstep
  refine ⟨hinf, fun {is g} hrun => ⟨?_, fun hend => ?_⟩⟩
  · have hlen := hrun.length_le GraphConfig.Charted GraphConfig.stepsLeft (.start v) hstep
    exact (Nat.le_add_right _ _).trans hlen
  · have hg : g.Charted := hrun.preserves GraphConfig.Charted (.start v) fun _ _ _ hg h =>
      (hstep _ _ _ hg h).1
    obtain ⟨⟨v', next⟩, p, ns⟩ := g
    cases hend
    cases hg.sound with
    | finished hfin =>
        obtain ⟨m, hm, hcons, hrev⟩ := hfin.reviewed
        refine ⟨hfin.ready, hfin.blocked, m, hm, fun hraised hnd => ?_, fun hreq => ?_⟩
        · exact ((hrev (hcons.review.mpr hraised)).2 hnd).2
        · obtain ⟨ns', hns, hnot, hsub⟩ := hg.closed rfl
          exact ⟨ns', hns, hnot, hsub m hm hreq⟩

/-- An invoice without a row, seen twice by the reviewer. -/
def reviewedInputs : List GraphInput :=
  let env : NodeEnv :=
    { extraction := .ok [("doc_type", .str "invoice")]
      triage := .ok ⟨.escalateStandard, "no document", 1⟩
      session := ⟨0, 0, 0, "s", 2, "r", "e", "v"⟩
      newDocumentId := 2 }
  [none, none, none, none, some "later", none, some "approved", none, none].map
    fun resume => ⟨env, resume, .empty⟩

omit [PyRuntime] in
theorem graph_safe_reviewed :
    letI := asciiRuntime
    ∃ is g, is.length ≤ 10 ∧ g.checkpoint.next = none ∧
      Run (Fires GraphConfig.step) (.start (initialState "run" 1 "a.pdf" [])) is g ∧
      g.checkpoint.values.postingStatus = .readyForPosting ∧
      ∃ ns, g.executed = ns ++ [.completeNode] ∧ [.supervisorNode, .exceptionNode].Sublist ns := by
  let := asciiRuntime
  let final := exec GraphConfig.step (.start (initialState "run" 1 "a.pdf" [])) reviewedInputs
  have hsome : final.isSome = true := by decide +kernel
  have hdata : final.all (fun g => decide (g.checkpoint.next = none ∧
      g.checkpoint.values.humanDecision = some "approved" ∧
      g.checkpoint.values.matchResult = some documentNotFound)) = true := by decide +kernel
  obtain ⟨g, hg⟩ := Option.isSome_iff_exists.mp hsome
  rw [hg, Option.all_some, decide_eq_true_iff] at hdata
  obtain ⟨hend, hdec, hm⟩ := hdata
  obtain ⟨hlen, hsafe⟩ := (graph_safe _).2 (run_of_exec hg)
  obtain ⟨hready, -, m, hm', -, hvia⟩ := hsafe hend
  cases hm.symm.trans hm'
  obtain ⟨ns, hns, -, hsub⟩ := hvia rfl
  exact ⟨_, g, hlen, hend, run_of_exec hg, hready.mpr (.inl hdec), ns, hns, hsub⟩

end FreightAP
