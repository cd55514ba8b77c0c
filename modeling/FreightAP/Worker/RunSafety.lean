import FreightAP.Worker.Execution

/-!
# What the executions of a run know

Whoever works on a run, its checkpoints are sound, and what an execution has at
hand was committed: the row it loaded, the checkpoint it runs from, the values
of a finished graph, and the status it returns (`RunDesk.Sound`).
-/

namespace FreightAP

variable [PyRuntime] {uuid5 : String → String}

/-! ## Statuses -/

/-- A run that is past its processing, or waits for a review. -/
def ProcessingStatus.settled : ProcessingStatus → Bool
  | .awaitingReview => true
  | .complete => true
  | .failed => true
  | _ => false

/-- The row is that of a settled run. -/
def RunRecord.Settled (r : RunRecord) : Prop :=
  ∃ row, r.row? = some row ∧ row.processingStatus.settled = true

/-- A row with the status was committed. -/
def RunRecord.Committed (r : RunRecord) (processingStatus : ProcessingStatus) : Prop :=
  ∃ v ∈ r.versions, v.processingStatus = processingStatus

omit [PyRuntime] in
theorem settled_shortCircuit {processingStatus : ProcessingStatus}
    (h : processingStatus ∈ redeliveryShortCircuitProcessingStatuses) :
    processingStatus.settled = true := by
  cases processingStatus with
  | complete => rfl
  | awaitingReview => rfl
  | _ => exact absurd h (by decide)

omit [PyRuntime] in
theorem RunRecord.committed_row {r : RunRecord} {row : WorkflowRun} (h : r.row? = some row) :
    r.Committed row.processingStatus :=
  ⟨row, List.mem_of_mem_getLast? h, rfl⟩

/-! ## Ended graphs -/

/-- The values of a checkpoint at `END` have a settled status. -/
def Checkpoint.Ended (c : Checkpoint) : Prop :=
  c.next = none → c.values.processingStatus.settled = true

/-- `complete_node` is the last node, and settles the run. -/
theorem stepGraph_settles {env : NodeEnv} {resume : Option String} {c c' : Checkpoint}
    {db db' : Database} (h : stepGraph env resume c db = .advanced c' db') : c'.Ended := by
  obtain ⟨n, v', hn, hr, rfl⟩ := stepGraph_advanced h
  intro hnone
  cases n with
  | completeNode =>
      simp only [runNode, completeNode] at hr
      split at hr
      · cases hr
        rfl
      · cases hr
        rfl
  | _ => cases hnone

omit [PyRuntime] in
/-- The checkpoint of a new invocation is sound. -/
theorem inputCheckpoint_sound (job : InvoiceJobEnvelope) (documentId : Nat)
    (newest : Option Checkpoint) :
    (inputCheckpoint uuid5 job documentId newest).Sound ∧
      (inputCheckpoint uuid5 job documentId newest).Ended :=
  ⟨.extract rfl, fun h => by cases h⟩

/-! ## Records that grow -/

/-- Nothing committed is taken back. -/
structure RunRecord.Grows (r r' : RunRecord) : Prop where
  versions : ∀ v ∈ r.versions, v ∈ r'.versions
  checkpoints : ∀ c ∈ r.checkpoints, c ∈ r'.checkpoints

section

variable {job : InvoiceJobEnvelope} {operatorReplay : Bool} {r r' : RunRecord} {a : ExecAction}
  {p p' : ExecPhase} {loaded new : WorkflowRun} {id : Nat} {requested : Disposition}
  {φ φ' : ReviewPhase}

namespace RunRecord

omit [PyRuntime] in
theorem Grows.refl (r : RunRecord) : r.Grows r := ⟨fun _ h => h, fun _ h => h⟩

omit [PyRuntime] in
theorem grows_commit (r : RunRecord) (run : WorkflowRun) : r.Grows (r.commit run) :=
  ⟨fun _ h => List.mem_append_left _ h, fun _ h => h⟩

omit [PyRuntime] in
theorem grows_put (r : RunRecord) (c : Checkpoint) : r.Grows (r.put c) :=
  ⟨fun _ h => h, fun _ h => List.mem_append_left _ h⟩

omit [PyRuntime] in
theorem Grows.committed (h : r.Grows r') {status : ProcessingStatus} (hc : r.Committed status) :
    r'.Committed status := by
  obtain ⟨v, hv, hs⟩ := hc
  exact ⟨v, h.versions v hv, hs⟩

omit [PyRuntime] in
theorem writeRow_grows (h : r.writeRow loaded new = some r') : r.Grows r' := by
  rcases writeRow_cases h with ⟨-, rfl⟩ | ⟨-, -, row, -, rfl⟩
  · exact .refl _
  · exact grows_commit ..

omit [PyRuntime] in
@[simp] theorem writeRow_checkpoints (h : r.writeRow loaded new = some r') :
    r'.checkpoints = r.checkpoints := by
  rcases writeRow_cases h with ⟨-, rfl⟩ | ⟨-, -, row, -, rfl⟩ <;> rfl

omit [PyRuntime] in
/-- The status that is to be written was committed, now or before. -/
theorem writeRow_committed (h : r.writeRow loaded new = some r')
    (hl : r.Committed loaded.processingStatus) : r'.Committed new.processingStatus := by
  rcases writeRow_cases h with ⟨rfl, rfl⟩ | ⟨-, -, row, -, rfl⟩
  · exact hl
  · by_cases hp : new.processingStatus = loaded.processingStatus
    · rw [hp]
      exact (grows_commit ..).committed hl
    · refine ⟨_, List.mem_append_right _ List.mem_cons_self, ?_⟩
      exact if_neg hp

end RunRecord

theorem Executes.grows (h : Executes uuid5 job operatorReplay r a p r' p') : r.Grows r' := by
  cases h with
  | created => exact r.grows_commit _
  | input => exact r.grows_put _
  | node => exact r.grows_put _
  | wrote _ _ hr => exact RunRecord.writeRow_grows hr
  | _ => exact .refl r

theorem Reviews.grows (h : Reviews id requested r φ r' φ') : r.Grows r' := by
  cases h with
  | node => exact r.grows_put _
  | store => exact ⟨fun _ h => List.mem_append_left _ h, fun _ h => h⟩
  | _ => exact ⟨fun _ h => h, fun _ h => h⟩

/-- The checkpoints that a record has. -/
def RunRecord.SoundCheckpoints (r : RunRecord) : Prop :=
  ∀ c ∈ r.checkpoints, c.Sound ∧ c.Ended

omit [PyRuntime] in
theorem RunRecord.mem_checkpoints {c : Checkpoint} (h : r.checkpoint? = some c) :
    c ∈ r.checkpoints :=
  List.mem_of_mem_getLast? h

omit [PyRuntime] in
theorem RunRecord.SoundCheckpoints.put (h : r.SoundCheckpoints) {c : Checkpoint}
    (hc : c.Sound ∧ c.Ended) : (r.put c).SoundCheckpoints := by
  intro c' hc'
  rcases List.mem_append.mp hc' with hc' | hc'
  · exact h c' hc'
  · rw [List.mem_singleton.mp hc']
    exact hc

/-! ## What an execution knows -/

/-- What an execution has at hand was committed. -/
structure ExecFacts (r : RunRecord) (operatorReplay : Bool) (p : ExecPhase) : Prop where
  loaded : ∀ run, p.loaded? = some run → r.Committed run.processingStatus
  known : ∀ c, p.checkpoint? = some c → c ∈ r.checkpoints
  returned : ∀ status, p.returned? = some status → status.settled = true ∧ r.Committed status
  reopening : p.reopens = true → operatorReplay = true

namespace ExecFacts

omit [PyRuntime] in
theorem grow (h : ExecFacts r operatorReplay p) (hr : r.Grows r') :
    ExecFacts r' operatorReplay p where
  loaded run hl := hr.committed (h.loaded run hl)
  known c hp := hr.checkpoints c (h.known c hp)
  returned status hp := ⟨(h.returned status hp).1, hr.committed (h.returned status hp).2⟩
  reopening := h.reopening

omit [PyRuntime] in
theorem bare (hp : p.bare = true) : ExecFacts r operatorReplay p := by
  have hnone : p.loaded? = none ∧ p.checkpoint? = none ∧ p.returned? = none ∧
      p.reopens = false := by
    cases p <;> first
      | exact ⟨rfl, rfl, rfl, rfl⟩
      | cases hp
  obtain ⟨hl, hc, hr, ho⟩ := hnone
  refine ⟨fun run h => ?_, fun c h => ?_, fun status h => ?_, fun h => ?_⟩
  · cases hl.symm.trans h
  · cases hc.symm.trans h
  · cases hr.symm.trans h
  · cases ho.symm.trans h

omit [PyRuntime] in
/-- An execution with its row at hand, and perhaps a checkpoint. -/
theorem loading {run : WorkflowRun} (hl : p.loaded? = some run)
    (hrun : r.Committed run.processingStatus)
    (hc : ∀ c, p.checkpoint? = some c → c ∈ r.checkpoints) (hr : p.returned? = none)
    (ho : p.reopens = true → operatorReplay = true) : ExecFacts r operatorReplay p where
  loaded run' h := by
    cases hl.symm.trans h
    exact hrun
  known := hc
  returned status h := by cases hr.symm.trans h
  reopening := ho

end ExecFacts

omit [PyRuntime] in
/-- What a commit leaves an execution with. -/
theorem ExecFacts.wrote {w : RowWrite} (hsound : r.SoundCheckpoints)
    (hp : ExecFacts r operatorReplay p) (hw : p.write? = some w)
    (hr : r.writeRow w.loaded w.new = some r') (result : CommitEnd) :
    ExecFacts r' operatorReplay (w.next result) := by
  have hnew : r'.Committed w.new.processingStatus := by
    refine RunRecord.writeRow_committed hr ?_
    cases p <;> cases hw <;> exact hp.loaded _ rfl
  cases result with
  | answered =>
      cases p with
      | reopening run =>
          cases hw
          exact .loading rfl hnew (fun _ h => by cases h) rfl fun h => by cases h
      | resulted run result =>
          cases hw
          refine ⟨fun _ h => (by cases h), fun _ h => (by cases h), ?_, fun h => by cases h⟩
          rintro status ⟨⟩
          refine ⟨?_, hnew⟩
          cases result with
          | interrupted => rfl
          | finished values => exact (hsound _ (hp.known _ rfl)).2 rfl
      | _ => cases hw <;> exact .bare rfl
  | lost => exact .bare (bare_of_write hw)
  | failed => exact .bare (bare_of_write hw)

/-- What an execution knows after a step. -/
theorem Executes.facts (h : Executes uuid5 job operatorReplay r a p r' p')
    (hsound : r.SoundCheckpoints) (hp : ExecFacts r operatorReplay p) :
    ExecFacts r' operatorReplay p' := by
  have hlast : ∀ c : Checkpoint, c ∈ (r.put c).checkpoints := fun c =>
    List.mem_append_right _ List.mem_cons_self
  cases h with
  | created _ hb => exact .bare hb
  | shortCircuit hrow hs =>
      refine ⟨fun _ h => (by cases h), fun _ h => (by cases h), ?_, fun h => by cases h⟩
      rintro status ⟨⟩
      exact ⟨settled_shortCircuit hs, RunRecord.committed_row hrow⟩
  | loaded hrow =>
      exact .loading rfl (RunRecord.committed_row hrow) (fun _ h => by cases h) rfl
        fun h => by cases h
  | loadedFailed hrow hreplay _ =>
      exact .loading rfl (RunRecord.committed_row hrow) (fun _ h => by cases h) rfl
        fun _ => hreplay
  | found hc hn =>
      refine .loading rfl (hp.loaded _ rfl) ?_ rfl fun h => by cases h
      rintro c ⟨⟩
      exact hn ▸ RunRecord.mem_checkpoints hc
  | unfinished =>
      exact .loading rfl (hp.loaded _ rfl) (fun _ h => by cases h) rfl fun h => by cases h
  | input =>
      refine .loading rfl ((r.grows_put _).committed (hp.loaded _ rfl)) ?_ rfl fun h => by cases h
      rintro c ⟨⟩
      exact hlast _
  | resumed hc =>
      refine .loading rfl (hp.loaded _ rfl) ?_ rfl fun h => by cases h
      rintro c ⟨⟩
      exact RunRecord.mem_checkpoints hc
  | node =>
      refine .loading rfl ((r.grows_put _).committed (hp.loaded _ rfl)) ?_ rfl fun h => by cases h
      rintro c ⟨⟩
      exact hlast _
  | interrupted =>
      exact .loading rfl (hp.loaded _ rfl) (fun _ h => by cases h) rfl fun h => by cases h
  | ended hn =>
      refine .loading rfl (hp.loaded _ rfl) ?_ rfl fun h => by cases h
      rintro c ⟨⟩
      exact hn ▸ hp.known _ rfl
  | wrote hw _ hr => exact hp.wrote hsound hw hr _
  | excepted _ hl =>
      exact .loading rfl (hp.loaded _ hl) (fun _ h => by cases h) rfl fun h => by cases h
  | condemning hrow =>
      exact .loading rfl (RunRecord.committed_row hrow) (fun _ h => by cases h) rfl
        fun h => by cases h
  | quiet _ _ hb => exact .bare hb

/-- The checkpoints stay sound under a step of an execution. -/
theorem Executes.soundCheckpoints (h : Executes uuid5 job operatorReplay r a p r' p')
    (hsound : r.SoundCheckpoints) (hp : ExecFacts r operatorReplay p) : r'.SoundCheckpoints := by
  cases h with
  | created => exact hsound
  | input hc => exact hsound.put (hc ▸ inputCheckpoint_sound ..)
  | node hs => exact hsound.put ⟨(hsound _ (hp.known _ rfl)).1.step hs, stepGraph_settles hs⟩
  | wrote _ _ hr => exact fun c hc => hsound c (RunRecord.writeRow_checkpoints hr ▸ hc)
  | _ => exact hsound

/-- The checkpoint that a resumed graph is at. -/
def ReviewPhase.checkpoint? : ReviewPhase → Option Checkpoint
  | .invoking _ c _ => some c
  | _ => none

omit [PyRuntime] in
theorem checkpoint?_of_inactive (hp : φ.active = false) : φ.checkpoint? = none := by
  cases φ <;> first
    | rfl
    | cases hp

/-- The checkpoints stay sound under a step of a call, and the call runs the
graph from one of them. -/
theorem Reviews.soundCheckpoints (h : Reviews id requested r φ r' φ')
    (hsound : r.SoundCheckpoints) (hp : ∀ c, φ.checkpoint? = some c → c ∈ r.checkpoints) :
    r'.SoundCheckpoints ∧ ∀ c, φ'.checkpoint? = some c → c ∈ r'.checkpoints := by
  cases h with
  | invoke hc =>
      refine ⟨hsound, ?_⟩
      rintro c ⟨⟩
      exact RunRecord.mem_checkpoints hc
  | node hs =>
      refine ⟨hsound.put ⟨(hsound _ (hp _ rfl)).1.step hs, stepGraph_settles hs⟩, ?_⟩
      rintro c ⟨⟩
      exact List.mem_append_right _ List.mem_cons_self
  | refused _ hi _ => exact ⟨hsound, fun c hc => by cases (checkpoint?_of_inactive hi).symm.trans hc⟩
  | failed _ hi _ => exact ⟨hsound, fun c hc => by cases (checkpoint?_of_inactive hi).symm.trans hc⟩
  | _ => exact ⟨hsound, fun c hc => by cases hc⟩

end

/-! ## What a step does to the row -/

/-- An execution decides nothing. -/
theorem Executes.decision {job : InvoiceJobEnvelope} {operatorReplay : Bool} {r r' : RunRecord}
    {a : ExecAction} {p p' : ExecPhase} (h : Executes uuid5 job operatorReplay r a p r' p') :
    r'.decision = r.decision := by
  cases h with
  | wrote _ _ hr =>
      rcases RunRecord.writeRow_cases hr with ⟨-, rfl⟩ | ⟨-, -, row, -, rfl⟩ <;> rfl
  | _ => rfl

/-- An execution changes the row when it inserts it, or by a commit. -/
theorem Executes.row_cases {job : InvoiceJobEnvelope} {operatorReplay : Bool} {r r' : RunRecord}
    {a : ExecAction} {p p' : ExecPhase} (h : Executes uuid5 job operatorReplay r a p r' p') :
    (r'.row? = r.row? ∧ (a.writes = false ∨ ∃ w, p.write? = some w ∧ w.new = w.loaded)) ∨
    (a.writes = false ∧ r.row? = none ∧
      ∃ documentId, r'.row? = some (jobRun uuid5 job documentId).run) ∨
    ∃ w row, a.writes = true ∧ p.write? = some w ∧ w.new ≠ w.loaded ∧ r.lock = none ∧
      r.row? = some row ∧ r'.row? = some (WorkflowRun.flush w.loaded w.new row) ∧
      r'.checkpoints = r.checkpoints := by
  cases h with
  | created hrow _ => exact .inr (.inl ⟨rfl, hrow, _, RunRecord.row?_commit ..⟩)
  | @wrote _ w result _ hw hne hr =>
      rcases RunRecord.writeRow_cases hr with ⟨heq, rfl⟩ | ⟨hch, hlock, row, hrow, rfl⟩
      · exact .inl ⟨rfl, .inr ⟨w, hw, heq⟩⟩
      · refine .inr (.inr ⟨w, row, ?_, hw, hch, hlock, hrow, RunRecord.row?_commit .., rfl⟩)
        cases result with
        | failed => exact absurd rfl hne
        | _ => rfl
  | excepted ha _ => exact .inl ⟨rfl, .inl ha⟩
  | quiet ha _ _ => exact .inl ⟨rfl, .inl ha⟩
  | _ => exact .inl ⟨rfl, .inl rfl⟩

/-- A call leaves the row alone, or stores its decision with the row. -/
theorem Reviews.row_cases {id : Nat} {requested : Disposition} {r r' : RunRecord}
    {φ φ' : ReviewPhase} (h : Reviews id requested r φ r' φ') :
    r'.row? = r.row? ∧ r'.decision = r.decision ∨
      r'.decision = some requested ∧ ∃ run : WorkflowRun, r'.row? = some (run.decided requested) := by
  cases h with
  | @store run values _ =>
      exact .inr ⟨rfl, run, RunRecord.row?_commit r (run.decided requested)⟩
  | _ => exact .inl ⟨rfl, rfl⟩

/-! ## The invariant -/

namespace RunDesk

/-- Sound checkpoints, and what the calls and the executions know. -/
structure Sound (s : RunDesk) : Prop where
  checkpoints : s.record.SoundCheckpoints
  calls : ∀ id x, s.desk.call id = some x → ∀ c, x.phase.checkpoint? = some c →
    c ∈ s.record.checkpoints
  execs : ∀ id x, s.execution id = some x → ExecFacts s.record x.operatorReplay x.phase

variable {s s' : RunDesk} {l : RunLabel}

omit [PyRuntime] in
/-- A call moves on, and the record with it. -/
theorem desk_update_cases {d : Desk} {id e : Nat} {r : RunRecord} {x y : ReviewCall}
    (h : (d.update id r x).call e = some y) : y = x ∨ d.call e = some y := by
  by_cases he : e = id
  · subst he
    rw [Desk.update_self] at h
    exact .inl (Option.some.inj h).symm
  · rw [Desk.update_of_ne _ _ _ he] at h
    exact .inr h

omit [PyRuntime] in
theorem Sound.begin (h : s.Sound) (id : Nat) (job : InvoiceJobEnvelope) (operatorReplay : Bool) :
    (s.begin id job operatorReplay).Sound := by
  refine ⟨h.checkpoints, h.calls, fun e y hy => ?_⟩
  rcases update_cases hy with ⟨-, rfl⟩ | ⟨-, hy⟩
  · exact .bare rfl
  · exact h.execs e y hy

theorem Sound.step (h : s.Sound) (hs : Stepped uuid5 s l s') : s'.Sound := by
  cases hs with
  | requested =>
      refine ⟨h.checkpoints, fun e y hy c hc => ?_, h.execs⟩
      rcases desk_update_cases hy with rfl | hy
      · cases hc
      · exact h.calls e y hy c hc
  | @reviewed l id x r p hx hr =>
      obtain ⟨hsound, hknown⟩ := hr.soundCheckpoints h.checkpoints (h.calls id x hx)
      refine ⟨hsound, fun e y hy c hc => ?_, fun e y hy => (h.execs e y hy).grow hr.grows⟩
      rcases desk_update_cases hy with rfl | hy
      · exact hknown c hc
      · exact hr.grows.checkpoints c (h.calls e y hy c hc)
  | begun => exact h.begin ..
  | @executed id a x r p hx he =>
      have hfacts := h.execs id x hx
      refine ⟨he.soundCheckpoints h.checkpoints hfacts,
        fun e y hy c hc => he.grows.checkpoints c (h.calls e y hy c hc), fun e y hy => ?_⟩
      rcases update_cases hy with ⟨-, rfl⟩ | ⟨-, hy⟩
      · exact he.facts h.checkpoints hfacts
      · exact (h.execs e y hy).grow he.grows

omit [PyRuntime] in
theorem Start.sound (h : s.Start) : s.Sound where
  checkpoints c hc := by
    rw [h.record] at hc
    cases hc
  calls id x hx := by
    rw [h.call id] at hx
    cases hx
  execs id x hx := by
    rw [h.execution id] at hx
    cases hx

end RunDesk

end FreightAP
