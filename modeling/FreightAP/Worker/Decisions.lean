import FreightAP.Worker.RunSafety

/-!
# Decisions and the row of a run

`decide_review` stores a decision and the row that follows from it in one
transaction, under the lock of the row.  An execution writes the same columns
without the lock, from a row that it read earlier and from a checkpoint that a
call may have written.

`backed_iff`: a run comes to be ready for posting without a decision only
through an execution that reads an approval from the final checkpoint before the
call has stored it.  `decisionKept_iff`: a stored decision is lost from the row
only through a commit of an execution that sets a column to something else.
-/

namespace FreightAP

open Transition

/-! ## The properties -/

/-- A run of the graph ended clean: nobody decided, and the shipment
reconciled. -/
def RunRecord.CleanlyReconciled (r : RunRecord) : Prop :=
  ∃ c ∈ r.checkpoints, c.next = none ∧ c.values.humanDecision = none ∧
    c.values.matchResult.bind (·.reconciliationStatus) = some .reconciled

/-- Readiness is approved or clean. -/
def RunRecord.Backed (r : RunRecord) : Prop :=
  r.decision = some .approved ∨ r.CleanlyReconciled

/-- A decision has changed what an `UPDATE` of one row into another would set. -/
structure WorkflowRun.Keeps (d : Disposition) (loaded new : WorkflowRun) : Prop where
  status : new.status = loaded.status ∨ new.status = d.status
  processing : new.processingStatus = loaded.processingStatus ∨ new.processingStatus = .complete
  posting : new.postingStatus = loaded.postingStatus ∨ new.postingStatus = d.postingStatus

/-- The execution is about to make the row ready for posting, because of an
approval in the final checkpoint. -/
def ExecPhase.approves : ExecPhase → Bool
  | .resulted run (.finished values) =>
      run.postingStatus ≠ .readyForPosting && values.postingStatus = .readyForPosting &&
        values.humanDecision = some "approved"
  | _ => false

namespace RunDesk

/-- A row that is ready for posting is backed. -/
def PostingBacked (s : RunDesk) : Prop :=
  ∀ row, s.record.row? = some row → row.postingStatus = .readyForPosting → s.record.Backed

/-- The row of a decided run is that of its decision. -/
def DecisionKept (s : RunDesk) : Prop :=
  ∀ d, s.record.decision = some d → ∃ row, s.record.row? = some row ∧ row.Decided d

/-- An execution that found an approval makes the row ready only once the
approval is stored, or the graph has also ended clean. -/
def ApprovalStored (s : RunDesk) : RunLabel → Prop
  | .act id (.commit result) => ∀ x ∈ s.execution id, x.phase.approves = true → result ≠ .failed →
      s.record.Backed
  | _ => True

/-- A commit of an execution on a decided run sets a column to what the decision
made of it. -/
def WritesDecided (s : RunDesk) : RunLabel → Prop
  | .act id (.commit result) => ∀ x ∈ s.execution id, ∀ w ∈ x.phase.write?, result ≠ .failed →
      ∀ d ∈ s.record.decision, WorkflowRun.Keeps d w.loaded w.new
  | _ => True

end RunDesk

instance (r : RunRecord) : Decidable r.CleanlyReconciled :=
  inferInstanceAs (Decidable (∃ c ∈ r.checkpoints, _ ∧ _ ∧ _))

instance (r : RunRecord) : Decidable r.Backed := inferInstanceAs (Decidable (_ ∨ _))

theorem WorkflowRun.keeps_iff {d : Disposition} {loaded new : WorkflowRun} :
    WorkflowRun.Keeps d loaded new ↔
      (new.status = loaded.status ∨ new.status = d.status) ∧
      (new.processingStatus = loaded.processingStatus ∨ new.processingStatus = .complete) ∧
      (new.postingStatus = loaded.postingStatus ∨ new.postingStatus = d.postingStatus) :=
  ⟨fun h => ⟨h.status, h.processing, h.posting⟩, fun h => ⟨h.1, h.2.1, h.2.2⟩⟩

instance (d : Disposition) (loaded new : WorkflowRun) :
    Decidable (WorkflowRun.Keeps d loaded new) := decidable_of_iff' _ WorkflowRun.keeps_iff

instance (s : RunDesk) : (l : RunLabel) → Decidable (s.ApprovalStored l)
  | .act id (.commit _) => inferInstanceAs (Decidable (∀ x ∈ s.execution id, _ → _ → _))
  | .review _ | .begin _ _ _ | .act _ (.open _ _) | .act _ .select | .act _ .snapshot
  | .act _ .invoke | .act _ (.node _ _ _) | .act _ .fault | .act _ .markFailed
  | .act _ .crash => .isTrue trivial

instance (s : RunDesk) : (l : RunLabel) → Decidable (s.WritesDecided l)
  | .act id (.commit _) => inferInstanceAs (Decidable (∀ x ∈ s.execution id,
      ∀ w ∈ x.phase.write?, _ → ∀ d ∈ s.record.decision, _))
  | .review _ | .begin _ _ _ | .act _ (.open _ _) | .act _ .select | .act _ .snapshot
  | .act _ .invoke | .act _ (.node _ _ _) | .act _ .fault | .act _ .markFailed
  | .act _ .crash => .isTrue trivial

/-! ## The columns of an `UPDATE` -/

section

variable {d : Disposition} {loaded new row : WorkflowRun}

/-- An `UPDATE` of a decided row leaves it decided exactly if it keeps to the
decision. -/
theorem flush_decided (h : row.Decided d) :
    (WorkflowRun.flush loaded new row).Decided d ↔ WorkflowRun.Keeps d loaded new := by
  obtain ⟨hs, hp, hq⟩ := h
  simp only [WorkflowRun.Decided, WorkflowRun.flush, WorkflowRun.keeps_iff, hs, hp, hq,
    ite_eq_left_iff, or_iff_not_imp_left]

theorem keeps_of_eq (h : new = loaded) : WorkflowRun.Keeps d loaded new := by
  subst h
  exact ⟨.inl rfl, .inl rfl, .inl rfl⟩

theorem flush_ready (hl : loaded.postingStatus ≠ .readyForPosting)
    (hn : new.postingStatus = .readyForPosting) :
    (WorkflowRun.flush loaded new row).postingStatus = .readyForPosting :=
  (if_neg fun e => hl (e.symm.trans hn)).trans hn

/-- The posting status after an `UPDATE` was there before, or is set. -/
theorem flush_posting (h : (WorkflowRun.flush loaded new row).postingStatus = .readyForPosting) :
    row.postingStatus = .readyForPosting ∨
      loaded.postingStatus ≠ .readyForPosting ∧ new.postingStatus = .readyForPosting := by
  simp only [WorkflowRun.flush] at h
  split at h
  · exact .inl h
  next hne => exact .inr ⟨fun e => hne (h.trans e.symm), h⟩

end

/-! ## Steps -/

variable [PyRuntime] {uuid5 : String → String} {s s' : RunDesk} {l : RunLabel}

namespace RunRecord

omit [PyRuntime] in
theorem Backed.grow {r r' : RunRecord} (h : r.Backed) (hd : r'.decision = r.decision)
    (hr : r.Grows r') : r'.Backed := by
  rcases h with h | ⟨c, hc, hend⟩
  · exact .inl (hd ▸ h)
  · exact .inr ⟨c, hr.checkpoints c hc, hend⟩

omit [PyRuntime] in
theorem Backed.of_eq {r r' : RunRecord} (h : r'.Backed) (hd : r'.decision = r.decision)
    (hc : r'.checkpoints = r.checkpoints) : r.Backed := by
  unfold Backed CleanlyReconciled at h ⊢
  rw [← hd, ← hc]
  exact h

end RunRecord

namespace RunDesk

omit [PyRuntime] in
/-- Steps that do not commit meet the conditions. -/
theorem conditions_of_not_writes {id : Nat} {a : ExecAction} (h : a.writes = false) :
    s.ApprovalStored (.act id a) ∧ s.WritesDecided (.act id a) := by
  cases a with
  | commit result =>
      cases result with
      | failed => exact ⟨fun _ _ _ hne => absurd rfl hne, fun _ _ _ _ hne => absurd rfl hne⟩
      | _ => cases h
  | _ => exact ⟨trivial, trivial⟩

omit [PyRuntime] in
/-- Readiness is taken from the final checkpoint, with an approval or without a
decision. -/
theorem Sound.readiness (h : s.Sound) {id : Nat} {x : Execution} (hx : s.execution id = some x)
    {w : RowWrite} (hw : x.phase.write? = some w)
    (hl : w.loaded.postingStatus ≠ .readyForPosting)
    (hn : w.new.postingStatus = .readyForPosting) :
    x.phase.approves = true ∨ s.record.CleanlyReconciled := by
  have hfacts := h.execs id x hx
  generalize x.phase = p at hw hfacts
  cases p with
  | resulted run result =>
      cases hw
      cases result with
      | interrupted => cases hn
      | finished values =>
          have hc := hfacts.known _ rfl
          have hfin : values.Finished := by
            cases (h.checkpoints _ hc).1 with
            | finished hfin => exact hfin
          rcases hfin.ready.mp hn with hd | ⟨hd, hm⟩
          · refine .inl ?_
            have hn' : values.postingStatus = .readyForPosting := hn
            simp [ExecPhase.approves, hn', hd, show run.postingStatus ≠ .readyForPosting from hl]
          · exact .inr ⟨_, hc, rfl, hd, hm⟩
  | reopening run => cases hw; cases hn
  | excepted run => cases hw; cases hn
  | condemning run => cases hw; cases hn
  | _ => cases hw

omit [PyRuntime] in
/-- An execution that approves sets the posting status. -/
theorem approves_write {p : ExecPhase} {w : RowWrite} (hp : p.approves = true)
    (hw : p.write? = some w) : w.loaded.postingStatus ≠ .readyForPosting ∧
      w.new.postingStatus = .readyForPosting := by
  cases p with
  | resulted run result =>
      cases hw
      cases result with
      | interrupted => cases hp
      | finished values =>
          simp only [ExecPhase.approves, Bool.and_eq_true, decide_eq_true_eq] at hp
          exact ⟨hp.1.1, hp.1.2⟩
  | _ => cases hp

/-- A step keeps readiness backed exactly if an approval is stored first. -/
theorem Stepped.keeps_backed_iff (hs : Stepped uuid5 s l s') (h : s.Sound) (hb : s.PostingBacked) :
    s'.PostingBacked ↔ s.ApprovalStored l := by
  cases hs with
  | requested => exact iff_of_true hb trivial
  | begun => exact iff_of_true hb trivial
  | @reviewed l id x r p hx hr =>
      refine iff_of_true (fun row hrow hready => ?_) trivial
      rcases hr.row_cases with ⟨hsame, hdec⟩ | ⟨hdec, run, hnew⟩
      · exact (hb row (hsame ▸ hrow) hready).grow hdec hr.grows
      · cases hnew.symm.trans hrow
        refine .inl ?_
        generalize x.requested = d at hdec hready
        cases d with
        | approved => exact hdec
        | rejected => cases hready
  | @executed id a x r p hx he =>
      have hgrow : s.record.Backed → r.Backed := fun h => h.grow he.decision he.grows
      rcases he.row_cases with ⟨hsame, ha⟩ | ⟨ha, hnone, documentId, hnew⟩ |
        ⟨w, row, ha, hw, hne, hlock, hrow, hnew, hcp⟩
      · refine iff_of_true (fun row hrow hready => hgrow (hb row (hsame ▸ hrow) hready)) ?_
        rcases ha with ha | ⟨w, hw, heq⟩
        · exact (conditions_of_not_writes ha).1
        · cases a with
          | commit result =>
              rintro y hy happ -
              cases hx.symm.trans hy
              obtain ⟨hl, hn⟩ := approves_write happ hw
              exact absurd (heq ▸ hn) hl
          | _ => trivial
      · refine iff_of_true (fun row hrow hready => ?_) (conditions_of_not_writes ha).1
        cases hnew.symm.trans hrow
        cases hready
      · cases a with
        | commit result =>
            constructor
            · rintro hb' y hy happ -
              cases hx.symm.trans hy
              obtain ⟨hl, hn⟩ := approves_write happ hw
              exact (hb' _ hnew (flush_ready hl hn)).of_eq he.decision hcp
            · intro hguard row' hrow' hready
              cases hnew.symm.trans hrow'
              rcases flush_posting hready with hold | ⟨hl, hn⟩
              · exact hgrow (hb row hrow hold)
              · rcases h.readiness hx hw hl hn with happ | hclean
                · exact hgrow (hguard x hx happ fun e => by subst e; cases ha)
                · exact hgrow (.inr hclean)
        | _ => cases ha

/-- A step keeps the row of a decision exactly if it writes what the decision
made of it. -/
theorem Stepped.keeps_decision_iff (hs : Stepped uuid5 s l s') (hk : s.DecisionKept) :
    s'.DecisionKept ↔ s.WritesDecided l := by
  cases hs with
  | requested => exact iff_of_true hk trivial
  | begun => exact iff_of_true hk trivial
  | @reviewed l id x r p hx hr =>
      refine iff_of_true (fun d hd => ?_) trivial
      rcases hr.row_cases with ⟨hsame, hdec⟩ | ⟨hdec, run, hnew⟩
      · obtain ⟨row, hrow, hrd⟩ := hk d (hdec ▸ hd)
        exact ⟨row, hsame.trans hrow, hrd⟩
      · cases hdec.symm.trans hd
        exact ⟨_, hnew, run.decided_decided _⟩
  | @executed id a x r p hx he =>
      have hdec := he.decision
      rcases he.row_cases with ⟨hsame, ha⟩ | ⟨ha, hnone, documentId, hnew⟩ |
        ⟨w, row, ha, hw, hne, hlock, hrow, hnew, -⟩
      · refine iff_of_true (fun d hd => ?_) ?_
        · obtain ⟨row, hrow, hrd⟩ := hk d (hdec ▸ hd)
          exact ⟨row, hsame.trans hrow, hrd⟩
        · rcases ha with ha | ⟨w, hw, heq⟩
          · exact (conditions_of_not_writes ha).2
          · cases a with
            | commit result =>
                rintro y hy v hv - d -
                cases hx.symm.trans hy
                cases hw.symm.trans hv
                exact keeps_of_eq heq
            | _ => trivial
      · refine iff_of_true (fun d hd => ?_) (conditions_of_not_writes ha).2
        obtain ⟨row, hrow, -⟩ := hk d (hdec ▸ hd)
        cases hnone.symm.trans hrow
      · cases a with
        | commit result =>
            constructor
            · rintro hk' y hy v hv - d hd
              cases hx.symm.trans hy
              cases hw.symm.trans hv
              obtain ⟨row₁, hrow₁, hrd⟩ := hk d hd
              cases hrow.symm.trans hrow₁
              obtain ⟨row', hrow', hrd'⟩ := hk' d (hdec.trans hd)
              cases hnew.symm.trans hrow'
              exact (flush_decided hrd).mp hrd'
            · intro hguard d hd
              have hd₀ : s.record.decision = some d := hdec ▸ hd
              obtain ⟨row₁, hrow₁, hrd⟩ := hk d hd₀
              cases hrow.symm.trans hrow₁
              have hkeeps := hguard x hx w hw (fun e => by subst e; cases ha) d hd₀
              exact ⟨_, hnew, (flush_decided hrd).mpr hkeeps⟩
        | _ => cases ha

/-! ## Runs -/

/-- Every run that is ready for posting is backed, all along, exactly if every
execution that makes it ready on an approval finds the approval stored. -/
theorem backed_iff {t : RunDesk} {ls : List RunLabel} (h₀ : s.Start)
    (h : Run (Fires (step uuid5)) s ls t) :
    Always (step uuid5) PostingBacked s ls ↔
      Run (Guarded ApprovalStored (Fires (step uuid5))) s ls t := by
  have hb : s.PostingBacked := fun row hrow => by
    rw [h₀.record] at hrow
    cases hrow
  refine always_iff_guarded Sound h h₀.sound hb fun u l v hu hs => ?_
  exact ⟨hu.step (step_cases hs), fun hb => (step_cases hs).keeps_backed_iff hu hb⟩

/-- A stored decision is that of the row, all along, exactly if no commit of an
execution on a decided run sets a column to something else. -/
theorem decisionKept_iff {t : RunDesk} {ls : List RunLabel} (h₀ : s.Start)
    (h : Run (Fires (step uuid5)) s ls t) :
    Always (step uuid5) DecisionKept s ls ↔
      Run (Guarded WritesDecided (Fires (step uuid5))) s ls t := by
  have hk : s.DecisionKept := fun d hd => by
    rw [h₀.record] at hd
    cases hd
  refine always_iff_guarded (fun _ => True) h trivial hk fun u l v _ hs => ?_
  exact ⟨trivial, fun hk => (step_cases hs).keeps_decision_iff hk⟩

/-! ## Two executions and an approval -/

/-- A node of a call. -/
def reviewerNode (id : Nat) : RunLabel := .review (.act id (.node missingDocumentEnv .empty))

/-- Two executions of a job have read the row.  One of them runs the graph up to
the review, and a call resumes it and runs it to its end. -/
def overlappingExecutions : List RunLabel :=
  [.begin 0 (sampleJob 'a') false, .begin 1 (sampleJob 'a') false, .act 0 (.open 1 .answered),
   .act 1 (.open 1 .answered), .act 0 .select, .act 1 .select, .act 0 .snapshot, .act 0 .invoke,
   workerNode 0, workerNode 0, workerNode 0, workerNode 0, .act 0 (.commit .answered),
   .review (.request 0 .approved), .review (.act 0 .lock), .review (.act 0 .snapshot),
   .review (.act 0 .invoke), reviewerNode 0, reviewerNode 0, reviewerNode 0, reviewerNode 0]

/-- The call stores its decision, and the other execution finds the final
checkpoint. -/
def storedApproval : List RunLabel :=
  overlappingExecutions ++
    [.review (.act 0 .decide), .act 1 .snapshot, .act 1 (.commit .answered)]

omit [PyRuntime] in
/-- The call crashes before it stores its decision, and the other execution
finds the final checkpoint. -/
theorem crashedCall_unbacked :
    letI := asciiRuntime
    ∃ s, Run (Fires (step id)) .empty
      (overlappingExecutions ++
        [.review (.act 0 .crash), .act 1 .snapshot, .act 1 (.commit .answered)]) s ∧
      ¬s.PostingBacked := by
  let _ := asciiRuntime
  have hdata : (exec (step id) .empty (overlappingExecutions ++
      [.review (.act 0 .crash), .act 1 .snapshot, .act 1 (.commit .answered)])).any (fun s =>
        (s.record.row?.map (·.postingStatus) = some .readyForPosting) &&
          !decide s.record.Backed) = true := by
    decide +kernel
  obtain ⟨s, hs, hdata⟩ := (Option.any_eq_true _ _).mp hdata
  simp only [Bool.and_eq_true, Bool.not_eq_true', decide_eq_true_eq, decide_eq_false_iff_not]
    at hdata
  obtain ⟨hready, hnot⟩ := hdata
  obtain ⟨row, hrow, hready⟩ := Option.map_eq_some_iff.mp hready
  exact ⟨s, run_of_exec hs, fun hb => hnot (hb row hrow hready)⟩

omit [PyRuntime] in
/-- The other execution commits the approval once it is stored. -/
theorem storedApproval_backed :
    letI := asciiRuntime
    Always (step id) PostingBacked .empty storedApproval := by
  let _ := asciiRuntime
  have hsome : (exec (fun s l => if ApprovalStored s l then step id s l else none) .empty
      storedApproval).isSome = true := by
    decide +kernel
  obtain ⟨s, hrun, hguarded⟩ := guarded_of_exec hsome
  exact (backed_iff empty_start hrun).mpr hguarded

omit [PyRuntime] in
/-- The call stores its decision, and the snapshot of the other execution
fails. -/
theorem lateRetry_lost :
    letI := asciiRuntime
    ∃ s, Run (Fires (step id)) .empty
      (overlappingExecutions ++
        [.review (.act 0 .decide), .act 1 .fault, .act 1 (.commit .answered)]) s ∧
      ¬s.DecisionKept := by
  let _ := asciiRuntime
  have hdata : (exec (step id) .empty (overlappingExecutions ++
      [.review (.act 0 .decide), .act 1 .fault, .act 1 (.commit .answered)])).any (fun s =>
        s.record.decision = some .approved &&
          (s.record.row?.map (·.status) = some .retrying)) = true := by
    decide +kernel
  obtain ⟨s, hs, hdata⟩ := (Option.any_eq_true _ _).mp hdata
  simp only [Bool.and_eq_true, decide_eq_true_eq] at hdata
  obtain ⟨hdec, hstatus⟩ := hdata
  refine ⟨s, run_of_exec hs, fun hk => ?_⟩
  obtain ⟨row, hrow, hd⟩ := hk _ hdec
  rw [hrow] at hstatus
  cases (Option.some.inj hstatus).symm.trans hd.1

omit [PyRuntime] in
/-- The other execution commits what the decision made of the row. -/
theorem storedApproval_kept :
    letI := asciiRuntime
    Always (step id) DecisionKept .empty storedApproval := by
  let _ := asciiRuntime
  have hsome : (exec (fun s l => if WritesDecided s l then step id s l else none) .empty
      storedApproval).isSome = true := by
    decide +kernel
  obtain ⟨s, hrun, hguarded⟩ := guarded_of_exec hsome
  exact (decisionKept_iff empty_start hrun).mpr hguarded

end RunDesk

end FreightAP
