import FreightAP.Worker.AuditBacking

/-!
# The lock of a decision and the audit log

`decide_review` has the row of a run locked while its graph runs, and an audit
row that the graph inserts in another session waits for that lock.  Only
`complete_node` can insert one, on a state that carries no decision.

`neverWaits_iff`: a call that locked the row while no worker was executing
never waits, exactly if it comes to `complete_node` with a decision or with the
completion on record.  It can come there without one: two executions that
overlap leave the newest checkpoint to the one that did not interrupt.
-/

namespace FreightAP

open Transition

/-! ## The invariant -/

namespace AuditedRun

section

variable [PyRuntime] (uuid5 : String → String) (runId : String)

/-- What the stores, the executions and the calls have behind them, and that a
call that waits has come past its lock. -/
structure Sound (s : AuditedRun) : Prop where
  desk : s.desk.Sound
  record : s.record.Backing runId s.events
  execs : ∀ id x, s.desk.execution id = some x →
    deterministicRunId uuid5 x.job.idempotencyKey = runId ∧
      (x.phase.interrupted = true → Raised s.events)
  upload : ∀ u, s.upload = some u → u.phase.Backed runId s.events s.record
  calls : ∀ id x, s.call id = some x → x.phase.Backed s.events
  waited : ∀ id ∈ s.waited, ∃ x, s.call id = some x ∧ x.phase ≠ .waiting

end

section

variable [PyRuntime] {uuid5 : String → String} {runId : String} {s s' : AuditedRun}
  {l : AuditedLabel}

omit [PyRuntime] in
theorem Start.sound (h : s.Start) : s.Sound uuid5 runId where
  desk := h.desk.sound
  record := by
    rw [record, h.desk.record]
    exact RunRecord.empty_backing
  execs id x hx := by
    rw [h.desk.execution id] at hx
    cases hx
  upload u hu := by
    rw [h.upload] at hu
    cases hu
  calls id x hx := by
    rw [call, h.desk.call id] at hx
    cases hx
  waited id hid := by
    rw [h.waited] at hid
    cases hid

omit [PyRuntime] in
/-- A call moves on, or begins. -/
theorem Sound.reviewed (h : s.Sound uuid5 runId) {id : Nat} {requested : Disposition}
    {r : RunRecord} {p : ReviewPhase}
    (hdesk : ({ s.desk with desk := s.desk.desk.update id r ⟨requested, p⟩ } : RunDesk).Sound)
    (hg : s.record.Grows r) (hr : r.Backing runId s.events) (hp : p.Backed s.events)
    (hnew : (∃ x, s.call id = some x) → p ≠ .waiting) :
    (s.reviewed id requested r p).Sound uuid5 runId := by
  have hsub : s.events ⊆ recordEvent s.events p.loggedEvent? := subset_recordEvent
  refine ⟨hdesk, hr.mono hsub, fun e x hx => ?_, fun u hu => ?_, fun e x hx => ?_,
    fun e he => ?_⟩
  · exact ⟨(h.execs e x hx).1, fun hi => ((h.execs e x hx).2 hi).mono hsub⟩
  · exact (h.upload u hu).grow hg (hr.mono hsub) hsub
  · rcases RunDesk.desk_update_cases hx with rfl | hx
    · exact hp.mono hsub
    · exact (h.calls e x hx).mono hsub
  · obtain ⟨x, hx, hw⟩ := h.waited e he
    by_cases hid : e = id
    · subst hid
      exact ⟨_, Desk.update_self .., hnew ⟨x, hx⟩⟩
    · exact ⟨x, (Desk.update_of_ne _ _ _ hid).trans hx, hw⟩

omit [PyRuntime] in
/-- An execution moves on, or begins. -/
theorem Sound.executed (h : s.Sound uuid5 runId) {id : Nat} {x : Execution} {events : List String}
    {r : RunRecord} {p : ExecPhase}
    (hdesk : (s.desk.update id r ⟨x.job, x.operatorReplay, p⟩).Sound) (hg : s.record.Grows r)
    (hsub : s.events ⊆ events) (hjob : deterministicRunId uuid5 x.job.idempotencyKey = runId)
    (hp : p.Backed runId events r) :
    (s.executed id x events r p).Sound uuid5 runId := by
  refine ⟨hdesk, hp.record, fun e y hy => ?_, fun u hu => ?_, fun e y hy => ?_, h.waited⟩
  · rcases RunDesk.update_cases hy with ⟨-, rfl⟩ | ⟨-, hy⟩
    · exact ⟨hjob, hp.raised⟩
    · exact ⟨(h.execs e y hy).1, fun hi => ((h.execs e y hy).2 hi).mono hsub⟩
  · exact (h.upload u hu).grow hg hp.record hsub
  · exact (h.calls e y hy).mono hsub

omit [PyRuntime] in
/-- The record grows while nobody at the desk moves. -/
theorem desk_grow {d : RunDesk} (h : d.Sound) {r : RunRecord} (hg : d.record.Grows r)
    (hr : r.SoundCheckpoints) :
    ({ d with desk := { d.desk with record := r } } : RunDesk).Sound where
  checkpoints := hr
  calls id x hx c hc := hg.checkpoints c (h.calls id x hx c hc)
  execs id x hx := (h.execs id x hx).grow hg

theorem Sound.step (h : s.Sound uuid5 runId) (hs : s.step uuid5 runId l = some s') :
    s'.Sound uuid5 runId := by
  have hs := step_cases hs
  cases hs with
  | @requested id requested hnone =>
      have hdesk : RunDesk.Stepped uuid5 s.desk (.review (.request id requested))
          { s.desk with desk := s.desk.desk.update id s.record ⟨requested, .waiting⟩ } :=
        .requested
      refine h.reviewed (h.desk.step hdesk) (.refl _) h.record
        ⟨fun hh => (by cases hh), .inl rfl⟩ fun ⟨x, hx⟩ => ?_
      cases hnone.symm.trans hx
  | @reviewed id a x r p hx _ hr =>
      have hr := decideReview_reviews hr
      obtain ⟨hback, hp, hw⟩ := h.record.reviews (h.desk.calls id x hx) (h.calls id x hx) hr
      have hdesk : RunDesk.Stepped uuid5 s.desk (.review (.act id a)) _ := .reviewed hx hr
      exact h.reviewed (h.desk.step hdesk) hr.grows hback hp fun _ => hw
  | @waits id a x hx hne =>
      refine ⟨h.desk, h.record, h.execs, h.upload, h.calls, fun e he => ?_⟩
      rcases List.mem_cons.mp he with rfl | he
      · refine ⟨x, hx, fun hw => hne ?_⟩
        rw [hw]
        cases a <;> rfl
      · exact h.waited e he
  | @begun id job operatorReplay _ _ hjob =>
      have hp : ExecPhase.opening.Backed runId s.events s.record := .bare h.record rfl
      have hexec := h.executed (x := ⟨job, operatorReplay, .opening⟩)
        (h.desk.begin id job operatorReplay) (.refl _) (List.Subset.refl _) hjob hp
      exact ⟨hexec.desk, hexec.record, hexec.execs, hexec.upload, hexec.calls, hexec.waited⟩
  | @executed id a e x r p events hx hevents _ hr =>
      subst hevents
      obtain ⟨hjob, hraised⟩ := h.execs id x hx
      have hback : x.phase.Backed runId s.events s.record :=
        ⟨h.record, (h.desk.execs id x hx).known, hraised⟩
      have hexec := runWorkflowForJob_executes hr
      exact h.executed (h.desk.step (.executed hx hexec)) hexec.grows
        (ExecAction.subset_eventsAfter _ _ hback) hjob (hback.executed hjob e hr)
  | received =>
      refine ⟨h.desk, h.record, h.execs, fun u hu => ?_, h.calls, h.waited⟩
      cases hu
      exact .bare h.record rfl
  | @uploaded a e u r p events hu hevents _ hr =>
      subst hevents
      have hback := h.upload u hu
      have hp := hback.uploaded s.call e hr
      have hsub := ExecAction.subset_eventsAfter a s.call hback
      refine ⟨desk_grow h.desk (runWorkflow_uploads hr).grows hp.record.sound, hp.record,
        fun i x hx => ?_, fun v hv => ?_, fun i x hx => ?_, h.waited⟩
      · exact ⟨(h.execs i x hx).1, fun hi => ((h.execs i x hx).2 hi).mono hsub⟩
      · cases hv
        exact hp
      · exact (h.calls i x hx).mono hsub

end

/-! ## No call waits for itself -/

/-- No call that locked the row while no worker was executing waits for it. -/
def NeverWaits (s : AuditedRun) : Prop := ∀ id ∈ s.alone, id ∉ s.waited

/-- Such a call comes to `complete_node` with a decision, or with the completion
on record. -/
def GoesOnDecided (s : AuditedRun) : AuditedLabel → Prop
  | .review id (.node _ _) => id ∈ s.alone →
      ∀ x ∈ s.call id, ∀ c ∈ x.phase.checkpoint?, c.next = some .completeNode →
        isDisposition c.values.humanDecision = true ∨ "completed" ∈ s.events
  | _ => True

instance (s : AuditedRun) : (l : AuditedLabel) → Decidable (s.GoesOnDecided l)
  | .review id (.node _ _) => inferInstanceAs (Decidable (_ → ∀ x ∈ s.call id,
      ∀ c ∈ x.phase.checkpoint?, _ → _ ∨ _))
  | .request _ _ | .begin _ _ _ | .execute _ _ _ | .receive _ | .upload _ _ | .review _ .lock
  | .review _ .snapshot | .review _ .invoke | .review _ .decide
  | .review _ .crash => .isTrue trivial

section

variable [PyRuntime] {uuid5 : String → String} {runId : String} {s s' t : AuditedRun}
  {l : AuditedLabel} {ls : List AuditedLabel}

omit [PyRuntime] in
theorem Start.neverWaits (h : s.Start) : s.NeverWaits := by
  intro id hid
  rw [h.alone] at hid
  cases hid

/-- A step keeps the calls from waiting exactly if it meets the condition. -/
theorem step_neverWaits_iff (h : s.Sound uuid5 runId) (hs : s.step uuid5 runId l = some s')
    (hn : s.NeverWaits) : s'.NeverWaits ↔ s.GoesOnDecided l := by
  have hs := step_cases hs
  cases hs with
  | @reviewed id a x r p hx heq hr =>
      -- a call that has just locked the row has not waited yet
      have hiff := ReviewAction.eventsAfter_eq_iff h.record (h.desk.calls id x hx)
        (h.calls id x hx) (a := a)
      have hgo : s.GoesOnDecided (.review id a) := by
        cases a with
        | node env db =>
            intro _ y hy c hc
            cases hx.symm.trans hy
            exact hiff.mp heq env db rfl c hc
        | _ => trivial
      refine iff_of_true (fun e he hw => ?_) hgo
      simp only [AuditedRun.reviewed] at he hw
      split at he
      next hlock =>
        rcases List.mem_cons.mp he with rfl | he
        · obtain ⟨y, hy, hne⟩ := h.waited e hw
          cases hx.symm.trans hy
          exact hne ((decideReview_reviews hr).waiting_of_locks (Bool.and_eq_true_iff.mp hlock).1)
        · exact hn e he hw
      · exact hn e he hw
  | @waits id a x hx hne =>
      have hiff := ReviewAction.eventsAfter_eq_iff h.record (h.desk.calls id x hx)
        (h.calls id x hx) (a := a)
      constructor
      · intro hn'
        cases a with
        | node env db =>
            intro ha
            exact absurd List.mem_cons_self (hn' id ha)
        | _ => trivial
      · intro hgo e he hw
        rcases List.mem_cons.mp hw with rfl | hw
        · refine hne (hiff.mpr fun env db ha c hc => ?_)
          subst ha
          exact hgo he x hx c hc
        · exact hn e he hw
  | _ => exact iff_of_true hn trivial

/-- No call that locked the row while no worker was executing ever waits for its
own lock, exactly if every such call comes to `complete_node` with a decision or
with the completion on record. -/
theorem neverWaits_iff (h₀ : s.Start) (h : Run (Fires (step uuid5 runId)) s ls t) :
    Always (step uuid5 runId) NeverWaits s ls ↔
      Run (Guarded GoesOnDecided (Fires (step uuid5 runId))) s ls t := by
  exact always_iff_guarded (Sound uuid5 runId) h h₀.sound h₀.neverWaits fun u l v hu hs =>
    ⟨hu.step hs, step_neverWaits_iff hu hs⟩

end

/-! ## Two executions and a decision -/

/-- A step of an execution that is not stopped. -/
def work (id : Nat) (a : ExecAction) : AuditedLabel := .execute id a .whole

/-- A scan without a load number, and the paper it is of. -/
def scanEnv (extraction : Extraction) : NodeEnv :=
  ⟨.ok extraction, .ok ⟨.escalateStandard, "", 0⟩, ⟨0, 0, 0, "", 0, "", "", ""⟩, 2⟩

/-- The document of the run. -/
def scanned : Database :=
  { Database.empty with documents := [⟨1, "invoice.pdf", "bol", "extracted", none, none⟩] }

/-- A node of an execution that cannot read the load number. -/
def unreadable (id : Nat) : AuditedLabel :=
  work id (.node (scanEnv [("doc_type", .str "bol")]) scanned none)

/-- A node of an execution that reads the load number. -/
def readable (id : Nat) : AuditedLabel :=
  work id (.node (scanEnv [("doc_type", .str "bol"), ("load_number", .str "LD-1")]) scanned none)

/-- A node of a call. -/
def decisionNode (id : Nat) : AuditedLabel :=
  .review id (.node (scanEnv [("doc_type", .str "bol")]) scanned)

/-- An execution from its input to the commit of its interrupt. -/
def interruptedWork (id : Nat) : List AuditedLabel :=
  [work id .invoke, unreadable id, unreadable id, unreadable id, unreadable id,
   work id (.commit .answered)]

/-- A call up to the graph. -/
def decisionRequest (id : Nat) : List AuditedLabel :=
  [.request id .approved, .review id .lock, .review id .snapshot, .review id .invoke]

/-- An execution is interrupted, and its run approved. -/
def approvedReview : List AuditedLabel :=
  [.begin 0 (sampleJob 'a') false, work 0 (.open 1 .answered), work 0 .select, work 0 .snapshot] ++
    interruptedWork 0 ++ decisionRequest 0 ++
    [decisionNode 0, decisionNode 0, decisionNode 0, decisionNode 0, .review 0 .decide]

/-- Two executions find no checkpoint.  One is interrupted and commits that the
run waits for a review.  The other starts the graph again, matches the document
and crashes, and then the run is approved. -/
def restartedRun : List AuditedLabel :=
  [.begin 0 (sampleJob 'a') false, .begin 1 (sampleJob 'a') false, work 0 (.open 1 .answered),
   work 1 (.open 1 .answered), work 0 .select, work 1 .select, work 0 .snapshot,
   work 1 .snapshot] ++ interruptedWork 0 ++
    [work 1 .invoke, readable 1, readable 1, work 1 .crash] ++ decisionRequest 0 ++
    [decisionNode 0]

/-- The call waits for its own lock at `complete_node`. -/
theorem restartedRun_waits :
    letI := asciiRuntime
    ∃ s, Run (Fires (step id (deterministicRunId id (sampleJob 'a').idempotencyKey))) .empty
      restartedRun s ∧ ¬s.NeverWaits := by
  let _ := asciiRuntime
  have hdata : (exec (step id (deterministicRunId id (sampleJob 'a').idempotencyKey)) .empty
      restartedRun).any (fun s => decide (0 ∈ s.alone) && decide (0 ∈ s.waited)) = true := by
    decide +kernel
  obtain ⟨s, hs, hdata⟩ := (Option.any_eq_true _ _).mp hdata
  simp only [Bool.and_eq_true, decide_eq_true_eq] at hdata
  exact ⟨s, run_of_exec hs, fun hn => hn 0 hdata.1 hdata.2⟩

/-- An approval of a run that one execution has worked on does not wait. -/
theorem approvedReview_neverWaits :
    letI := asciiRuntime
    Always (step id (deterministicRunId id (sampleJob 'a').idempotencyKey)) NeverWaits .empty
      approvedReview := by
  let _ := asciiRuntime
  have hsome : (exec (fun s l => if s.GoesOnDecided l then
      step id (deterministicRunId id (sampleJob 'a').idempotencyKey) s l else none) .empty
      approvedReview).isSome = true := by
    decide +kernel
  obtain ⟨s, hrun, hguarded⟩ := guarded_of_exec hsome
  exact (neverWaits_iff empty_start hrun).mpr hguarded

end AuditedRun

end FreightAP
