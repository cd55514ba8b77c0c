import FreightAP.Workflow.Graph

/-!
# Safety and termination of the graph

`Checkpoint.Sound` lists, for each node that can come next, what holds of the
state: how often the run has iterated, whether a human has decided, and whether
the match result asked for a review.  Every step of the graph keeps it
(`Checkpoint.Sound.step`), whatever the database, the model and the resume
values are.

The self-loop at `exception_node` is bounded by the circuit breaker, so
`stepsLeft` falls with every step and a run takes at most ten of them.
-/

namespace FreightAP

variable [PyRuntime]

/-! ## Match results -/

/-- Every reason a match result holds. -/
def MatchResult.reasons (m : MatchResult) : List String := m.reason.toList ++ m.exceptionReasons

/-- Some reason that is not about the SLA was raised. -/
def MatchResult.RaisedForReview (m : MatchResult) : Prop := ∃ r ∈ m.reasons, r ∉ slaReasonCodes

/-- `requires_review` says whether a reason for review was raised, and then the
text of the exception is not empty. -/
structure MatchResult.Consistent (m : MatchResult) : Prop where
  review : m.requiresReview = true ↔ m.RaisedForReview
  text : m.requiresReview = true → exceptionReasonOf m ≠ ""

omit [PyRuntime] in
/-- A list of texts that holds a nonempty one does not join to the empty text. -/
theorem intercalate_ne_empty {sep r : String} {rs : List String} (hr : r ∈ rs) (hne : r ≠ "") :
    sep.intercalate rs ≠ "" := by
  induction rs with
  | nil => cases hr
  | cons r' rs ih =>
      cases rs with
      | nil =>
          rw [String.intercalate_singleton]
          exact List.mem_singleton.mp hr ▸ hne
      | cons r'' rs =>
          rw [String.intercalate_cons_cons]
          intro h
          rw [String.append_eq_empty_iff, String.append_eq_empty_iff] at h
          rcases List.mem_cons.mp hr with rfl | hr
          · exact hne h.1.1
          · exact ih hr h.2

omit [PyRuntime] in
theorem reconciliationExceptionReason_ne_empty {rs : List String} {checks : List Check}
    {r : String} (hr : r ∈ rs) (hne : r ≠ "") :
    reconciliationExceptionReason rs checks ≠ "" := by
  have h : ", ".intercalate rs ≠ "" := intercalate_ne_empty hr hne
  simp only [reconciliationExceptionReason]
  split
  · exact h
  · intro hcat
    rw [String.append_eq_empty_iff, String.append_eq_empty_iff] at hcat
    exact h hcat.1.1

omit [PyRuntime] in
theorem consistent_documentNotFound : documentNotFound.Consistent where
  review := ⟨fun _ => ⟨"document_not_found", by decide, by decide⟩, fun _ => rfl⟩
  text _ := by decide +kernel

omit [PyRuntime] in
theorem consistent_noLoadNumber : noLoadNumber.Consistent where
  review := ⟨fun _ => ⟨"no_load_number", by decide, by decide⟩, fun _ => rfl⟩
  text _ := by decide +kernel

omit [PyRuntime] in
/-- The match result of a reconciliation whose reasons are nonempty texts. -/
theorem consistent_matchResultOf {s : Shipment} {r : ReconciliationResult}
    (hne : ∀ reason ∈ r.exceptionReasons, reason ≠ "") : (matchResultOf s r).Consistent := by
  have hreview : (matchResultOf s r).requiresReview = true ↔
      ∃ reason ∈ r.exceptionReasons, reason ∉ slaReasonCodes := by
    simp [matchResultOf]
  refine ⟨hreview.trans (by simp [MatchResult.RaisedForReview, MatchResult.reasons,
    matchResultOf]), fun h => ?_⟩
  obtain ⟨reason, hmem, hsla⟩ := hreview.mp h
  have hrev : reason ∈ (matchResultOf s r).reviewableExceptionReasons := by
    simp [matchResultOf, hmem, hsla]
  unfold exceptionReasonOf
  refine reconciliationExceptionReason_ne_empty (r := reason) ?_ (hne reason hmem)
  rw [if_neg (by rw [List.isEmpty_iff]; exact List.ne_nil_of_mem hrev)]
  exact List.mem_filter.mpr ⟨hrev, by simpa using hne reason hmem⟩

theorem reconcileShipment_reasons_ne_empty {ses : Session} {s : Shipment} {ev : Evaluation}
    {db : Database} {reason : String}
    (h : reason ∈ (reconcileShipment ses s ev db).2.1.exceptionReasons) : reason ≠ "" := by
  have hknown := known_evidence (noteRateConfirmation s db)
    (shipmentPapers (noteRateConfirmation s db) db) (ev.now.getD ses.clock)
    (ev.slaDuration.getD ses.slaDuration) reason (by
      simp only [reconcileShipment] at h
      cases hr : existingResult? ev db <;> simpa [hr, resultRow] using h)
  rintro rfl
  exact absurd hknown (by decide)

/-- Every match result `match_node` can produce is consistent. -/
theorem matchDocument_consistent {ses : Session} {v : WorkflowState} {db db' : Database}
    {m : MatchResult} (h : matchDocument ses v db = .ok (m, db')) : m.Consistent := by
  unfold matchDocument at h
  cases hd : db.document? v.documentId with
  | none =>
      simp only [hd, Except.ok.injEq, Prod.mk.injEq] at h
      exact h.1 ▸ consistent_documentNotFound
  | some document =>
      simp only [hd] at h
      cases hl : loadNumberOf v.extraction with
      | error message => simp [hl] at h
      | ok loadNumber =>
          simp only [hl] at h
          cases ha : assemble ses loadNumber document (v.extraction.getD []) (.ofRun v.runId) db with
          | error message => simp [ha] at h
          | ok assembled =>
              cases assembled with
              | none =>
                  simp only [ha, Except.ok.injEq, Prod.mk.injEq] at h
                  exact h.1 ▸ consistent_noLoadNumber
              | some out =>
                  obtain ⟨s, r, ws⟩ := out
                  simp only [ha, Except.ok.injEq, Prod.mk.injEq] at h
                  refine h.1 ▸ consistent_matchResultOf fun reason hmem => ?_
                  unfold assemble at ha
                  cases hu : upsertShipment ses loadNumber document (v.extraction.getD []) db with
                  | error message => simp [hu] at ha
                  | ok upserted =>
                      cases upserted with
                      | none => simp [hu] at ha
                      | some attached =>
                          simp only [hu, Except.ok.injEq, Option.some.injEq, Prod.mk.injEq] at ha
                          rw [← ha.2.1] at hmem
                          exact reconcileShipment_reasons_ne_empty hmem

/-! ## Steps -/

/-- A step that advances ran the next node to its end. -/
theorem stepGraph_advanced {env : NodeEnv} {resume : Option String} {c c' : Checkpoint}
    {db db' : Database} (h : stepGraph env resume c db = .advanced c' db') :
    ∃ n v', c.next = some n ∧ runNode env resume n c.values db = .update v' db' ∧
      c' = ⟨v', nextNode n v'⟩ := by
  unfold stepGraph at h
  cases hn : c.next with
  | none => simp [hn] at h
  | some n =>
      simp only [hn] at h
      cases hr : runNode env resume n c.values db with
      | update v' db₁ =>
          simp only [hr, GraphOutcome.advanced.injEq] at h
          obtain ⟨rfl, rfl⟩ := h
          exact ⟨n, v', rfl, hr, rfl⟩
      | interrupt payload db₁ => simp [hr] at h
      | raised message db₁ => simp [hr] at h

omit [PyRuntime] in
theorem completeNode_updates (v : WorkflowState) (db : Database) :
    ∃ v' db', completeNode v db = .update v' db' := by
  unfold completeNode
  split
  · exact ⟨_, _, rfl⟩
  · exact ⟨_, _, rfl⟩

/-- Only `exception_node` without a resume value interrupts. -/
theorem stepGraph_interrupted {env : NodeEnv} {resume : Option String} {c : Checkpoint}
    {db db' : Database} {payload : InterruptPayload}
    (h : stepGraph env resume c db = .interrupted payload db') :
    c.next = some .exceptionNode ∧ resume = none ∧
      db' = logExceptionRaisedOnce c.values.runId db := by
  unfold stepGraph at h
  cases hn : c.next with
  | none => simp [hn] at h
  | some n =>
      simp only [hn] at h
      cases n with
      | exceptionNode =>
          cases resume with
          | none =>
              simp only [runNode, exceptionNode, GraphOutcome.interrupted.injEq] at h
              exact ⟨rfl, rfl, h.2.symm⟩
          | some decision => simp [runNode, exceptionNode] at h
      | extractNode =>
          simp only [runNode, extractNode] at h
          cases hx : env.extraction <;> simp [hx] at h
      | matchNode =>
          simp only [runNode, matchNode] at h
          cases hm : matchDocument env.session c.values db <;> simp [hm] at h
      | supervisorNode =>
          simp only [runNode, supervisorNode] at h
          cases ht : env.triage <;> simp [ht] at h
      | approveNode => simp [runNode, approveNode] at h
      | rejectNode => simp [runNode, rejectNode] at h
      | completeNode =>
          obtain ⟨v', db₁, hv⟩ := completeNode_updates c.values db
          simp [runNode, hv] at h

/-- What a node's update leaves of the state it ran on, node by node. -/
theorem runNode_update {env : NodeEnv} {resume : Option String} {n : Node} {v v' : WorkflowState}
    {db db' : Database} (h : runNode env resume n v db = .update v' db') :
    v'.runId = v.runId ∧ v'.iterationCount = v.iterationCount + 1 ∧
      (n ≠ .matchNode → v'.matchResult = v.matchResult ∧ v'.exceptionReason = v.exceptionReason) ∧
      (n ≠ .exceptionNode → v'.humanDecision = v.humanDecision) ∧
      (n = .exceptionNode → v'.humanDecision = resume ∧ resume ≠ none) := by
  cases n with
  | extractNode =>
      simp only [runNode, extractNode] at h
      cases hx : env.extraction with
      | error message => simp [hx] at h
      | ok extraction =>
          simp only [hx, NodeOutcome.update.injEq] at h
          simp [← h.1, WorkflowState.log]
  | matchNode =>
      simp only [runNode, matchNode] at h
      cases hm : matchDocument env.session v db with
      | error message => simp [hm] at h
      | ok out =>
          simp only [hm, NodeOutcome.update.injEq] at h
          rw [← h.1]
          unfold matchUpdate
          split <;> simp [WorkflowState.log]
  | supervisorNode =>
      simp only [runNode, supervisorNode] at h
      cases ht : env.triage with
      | error message => simp [ht] at h
      | ok decision =>
          simp only [ht, NodeOutcome.update.injEq] at h
          simp [← h.1, WorkflowState.log]
  | exceptionNode =>
      simp only [runNode, exceptionNode] at h
      cases resume with
      | none => simp at h
      | some decision =>
          simp only [NodeOutcome.update.injEq] at h
          simp [← h.1, WorkflowState.log]
  | approveNode =>
      simp only [runNode, approveNode, NodeOutcome.update.injEq] at h
      simp [← h.1, WorkflowState.log]
  | rejectNode =>
      simp only [runNode, rejectNode, NodeOutcome.update.injEq] at h
      simp [← h.1, WorkflowState.log]
  | completeNode =>
      simp only [runNode, completeNode] at h
      split at h <;>
      · simp only [NodeOutcome.update.injEq] at h
        simp [← h.1, WorkflowState.log]

/-- `match_node` stores a consistent match result, and routes by it when the
breaker is not due. -/
theorem matchNode_update {env : NodeEnv} {v v' : WorkflowState} {db db' : Database}
    (h : matchNode env v db = .update v' db') (hi : v.iterationCount ≤ 4) :
    ∃ m, v'.matchResult = some m ∧ m.Consistent ∧ v'.hasException = m.requiresReview ∧
      routeAfterMatch v' = if m.requiresReview then .supervisorNode else .completeNode := by
  unfold matchNode at h
  cases hm : matchDocument env.session v db with
  | error message => simp [hm] at h
  | ok out =>
      obtain ⟨m, db₁⟩ := out
      have hcons := matchDocument_consistent hm
      simp only [hm, NodeOutcome.update.injEq] at h
      obtain ⟨rfl, -⟩ := h
      have hex : (matchUpdate m v).hasException = m.requiresReview := by
        cases hr : m.requiresReview with
        | true =>
            simpa [matchUpdate, hr, WorkflowState.log, WorkflowState.hasException]
              using hcons.text hr
        | false => simp [matchUpdate, hr, WorkflowState.log, WorkflowState.hasException]
      refine ⟨m, ?_, hcons, hex, ?_⟩
      · cases hr : m.requiresReview <;> simp [matchUpdate, hr, WorkflowState.log]
      · have hbr : ¬(matchUpdate m v).iterationCount > 5 := by
          cases hr : m.requiresReview <;> simp [matchUpdate, hr, WorkflowState.log] <;> omega
        rw [routeAfterMatch, if_neg hbr, hex]

/-! ## Sound checkpoints -/

/-- What holds of the state of a finished run. -/
structure WorkflowState.Finished (v : WorkflowState) : Prop where
  /-- Readiness is an approval, or a clean reconciliation nobody reviewed. -/
  ready : v.postingStatus = .readyForPosting ↔
    v.humanDecision = some "approved" ∨
      v.humanDecision = none ∧ v.matchResult.bind (·.reconciliationStatus) = some .reconciled
  blocked : v.postingStatus = .blocked ↔ v.humanDecision = some "rejected"
  /-- A decision was taken wherever a review was asked for, and an exception
  that it does not resolve fails the run. -/
  reviewed : ∃ m, v.matchResult = some m ∧ m.Consistent ∧
    (m.requiresReview = true → v.humanDecision ≠ none ∧
      (isDisposition v.humanDecision = false →
        v.status = .failed ∧ v.processingStatus = .failed ∧ v.postingStatus = .notReady))
  resolved : isDisposition v.humanDecision = true →
    v.status = legacyStatusOf v.humanDecision ∧ v.processingStatus = .complete

/-- The match result asked for a review and its exception is on record. -/
def WorkflowState.UnderReview (v : WorkflowState) : Prop :=
  v.hasException = true ∧ ∃ m, v.matchResult = some m ∧ m.Consistent ∧ m.requiresReview = true

/-- The match result asked for no review. -/
def WorkflowState.Clear (v : WorkflowState) : Prop :=
  v.hasException = false ∧ ∃ m, v.matchResult = some m ∧ m.Consistent ∧ m.requiresReview = false

/-- The checkpoints of a run that started at iteration count `0`. -/
inductive Checkpoint.Sound : Checkpoint → Prop where
  | extract {v : WorkflowState} : v.iterationCount = 0 → Sound ⟨v, some .extractNode⟩
  | matching {v : WorkflowState} : v.iterationCount = 1 → Sound ⟨v, some .matchNode⟩
  | supervise {v : WorkflowState} : v.iterationCount = 2 → v.UnderReview →
      Sound ⟨v, some .supervisorNode⟩
  | review {v : WorkflowState} : 3 ≤ v.iterationCount → v.iterationCount ≤ 5 → v.UnderReview →
      Sound ⟨v, some .exceptionNode⟩
  | approve {v : WorkflowState} : v.humanDecision = some "approved" → v.UnderReview →
      Sound ⟨v, some .approveNode⟩
  | reject {v : WorkflowState} : v.humanDecision = some "rejected" → v.UnderReview →
      Sound ⟨v, some .rejectNode⟩
  | clear {v : WorkflowState} : v.Clear → Sound ⟨v, some .completeNode⟩
  | reviewed {v : WorkflowState} : v.humanDecision ≠ none → v.UnderReview →
      Sound ⟨v, some .completeNode⟩
  | finished {v : WorkflowState} : v.Finished → Sound ⟨v, none⟩

omit [PyRuntime] in
@[simp] theorem isDisposition_none : isDisposition none = false := rfl

omit [PyRuntime] in
theorem postingStatusOf_ready {d : Option String} {r : Option ReconciliationStatus} :
    postingStatusOf d r = .readyForPosting ↔
      d = some "approved" ∨ d = none ∧ r = some .reconciled := by
  unfold postingStatusOf
  split
  next h => simp [h]
  next h =>
    simp only [h, iff_false]
    split <;> decide

omit [PyRuntime] in
theorem postingStatusOf_blocked {d : Option String} {r : Option ReconciliationStatus} :
    postingStatusOf d r = .blocked ↔ d = some "rejected" := by
  unfold postingStatusOf
  split
  next h => rcases h with h | ⟨h, -⟩ <;> simp [h]
  next =>
    split
    next h => simp [h]
    next h => simp [h]

omit [PyRuntime] in
/-- The states a node may not change keep a review on record. -/
theorem WorkflowState.UnderReview.of_eq {v v' : WorkflowState} (hu : v.UnderReview)
    (hm : v'.matchResult = v.matchResult) (hx : v'.exceptionReason = v.exceptionReason) :
    v'.UnderReview := by
  obtain ⟨hex, m, hmr, hc⟩ := hu
  exact ⟨by rw [WorkflowState.hasException, hx]; exact hex, m, hm.trans hmr, hc⟩

omit [PyRuntime] in
/-- The breaker first, then the decision. -/
theorem sound_routeAfterException {v : WorkflowState} (hlo : 3 ≤ v.iterationCount)
    (hd : v.humanDecision ≠ none) (hu : v.UnderReview) :
    Checkpoint.Sound ⟨v, some (routeAfterException v)⟩ := by
  unfold routeAfterException
  by_cases hbr : v.iterationCount > 5
  · rw [if_pos hbr]
    exact .reviewed hd hu
  · rw [if_neg hbr]
    by_cases hap : v.humanDecision = some "approved"
    · rw [if_pos hap]
      exact .approve hap hu
    · rw [if_neg hap]
      by_cases hrj : v.humanDecision = some "rejected"
      · rw [if_pos hrj]
        exact .reject hrj hu
      · rw [if_neg hrj]
        exact .review hlo (by omega) hu

omit [PyRuntime] in
/-- `complete_node` finishes a run it is reached on. -/
theorem completeNode_finished {v v' : WorkflowState} {db db' : Database}
    (hv : v.Clear ∨ v.humanDecision ≠ none ∧ v.UnderReview)
    (h : completeNode v db = .update v' db') : v'.Finished := by
  unfold completeNode at h
  split at h
  next hun =>
    rw [Bool.and_eq_true, Bool.not_eq_true'] at hun
    simp only [NodeOutcome.update.injEq] at h
    obtain ⟨rfl, -⟩ := h
    rcases hv with ⟨hex, -⟩ | ⟨hd, -, m, hm, hc, hr⟩
    · rw [hex] at hun
      exact absurd hun.1 (by decide)
    · have hna : v.humanDecision ≠ some "approved" := fun e => by simp [e, isDisposition] at hun
      have hnr : v.humanDecision ≠ some "rejected" := fun e => by simp [e, isDisposition] at hun
      constructor
      · simp [WorkflowState.log, hna, hd]
      · simp [WorkflowState.log, hnr]
      · exact ⟨m, hm, hc, fun _ => ⟨hd, fun _ => ⟨rfl, rfl, rfl⟩⟩⟩
      · intro h
        exact absurd (h.symm.trans hun.2) (by decide)
  next hres =>
    simp only [NodeOutcome.update.injEq] at h
    obtain ⟨rfl, -⟩ := h
    constructor
    · exact postingStatusOf_ready
    · exact postingStatusOf_blocked
    · rcases hv with ⟨-, m, hm, hc, hr⟩ | ⟨hd, hex, m, hm, hc, hr⟩
      · exact ⟨m, hm, hc, fun hr' => absurd (hr'.symm.trans hr) (by decide)⟩
      · refine ⟨m, hm, hc, fun _ => ⟨hd, fun hnd => ?_⟩⟩
        simp only [WorkflowState.log] at hnd
        rw [hex, hnd] at hres
        exact absurd rfl hres
    · exact fun _ => ⟨rfl, rfl⟩

/-- One step of the graph keeps a checkpoint sound. -/
theorem Checkpoint.Sound.step {env : NodeEnv} {resume : Option String} {c c' : Checkpoint}
    {db db' : Database} (hc : c.Sound) (h : stepGraph env resume c db = .advanced c' db') :
    c'.Sound := by
  obtain ⟨n, v', hn, hr, rfl⟩ := stepGraph_advanced h
  obtain ⟨-, hi', hkeep, hsame, hnew⟩ := runNode_update hr
  cases hc with
  | extract hi =>
      cases hn
      exact .matching (by rw [hi', hi])
  | matching hi =>
      cases hn
      obtain ⟨m, hm, hcons, hex, hroute⟩ := matchNode_update hr (hi.trans_le (by decide))
      rw [nextNode, hroute]
      cases hrev : m.requiresReview with
      | true => exact .supervise (by rw [hi', hi]) ⟨hex.trans hrev, m, hm, hcons, hrev⟩
      | false => exact .clear ⟨hex.trans hrev, m, hm, hcons, hrev⟩
  | supervise hi hu =>
      cases hn
      have hu' := hu.of_eq (hkeep (by decide)).1 (hkeep (by decide)).2
      rw [hi] at hi'
      exact .review hi'.ge (hi'.trans_le (by decide)) hu'
  | review hlo hhi hu =>
      cases hn
      obtain ⟨hd, hres⟩ := hnew rfl
      have hu' := hu.of_eq (hkeep (by decide)).1 (hkeep (by decide)).2
      exact sound_routeAfterException (hi' ▸ Nat.le_succ_of_le hlo) (hd ▸ hres) hu'
  | approve hd hu =>
      cases hn
      have hu' := hu.of_eq (hkeep (by decide)).1 (hkeep (by decide)).2
      exact .reviewed (by rw [hsame (by decide), hd]; exact Option.some_ne_none _) hu'
  | reject hd hu =>
      cases hn
      have hu' := hu.of_eq (hkeep (by decide)).1 (hkeep (by decide)).2
      exact .reviewed (by rw [hsame (by decide), hd]; exact Option.some_ne_none _) hu'
  | clear hv =>
      cases hn
      exact .finished (completeNode_finished (.inl hv) hr)
  | reviewed hd hu =>
      cases hn
      exact .finished (completeNode_finished (.inr ⟨hd, hu⟩) hr)
  | finished => cases hn

end FreightAP
