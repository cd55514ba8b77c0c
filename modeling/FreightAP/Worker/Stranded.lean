import FreightAP.Queue.Evidence
import FreightAP.Worker.Removal

/-!
# Stranded runs

A run that is under way needs an entry of its job in the queue, so that somebody
takes it up.  An execution that fails writes `retrying` without a look at the
row, and another holder of the entry can have committed its result and
acknowledged the entry before that.

`not_stranded`: as long as no execution writes `retrying` over a settled row,
and no dead-letter entry is purged, no run is stranded.  The argument goes
through `Safe`: the job has a dead-letter entry, or its row is settled.  A job
that is safe stays safe, and an entry is removed from a safe job only.
-/

namespace FreightAP

open Transition

/-! ## The property -/

section

variable [QueueRuntime]

/-- A run that is under way has an entry of its job, live or dead-lettered. -/
def Pipeline.NotStranded (s : Pipeline) : Prop :=
  ∀ key row, (s.run key).record.row? = some row →
    row.processingStatus = .running ∨ row.processingStatus = .retrying →
    s.queue.redis.HasEntry key ∨ s.queue.redis.DeadLettered key

end

/-- The row with which an execution failed. -/
def ExecPhase.excepted? : ExecPhase → Option WorkflowRun
  | .excepted run => some run
  | _ => none

/-- An execution that fails sets the processing status to `retrying` only while
the row is not settled. -/
def RunDesk.SparesSettled (s : RunDesk) : RunLabel → Prop
  | .act id (.commit result) => ∀ x ∈ s.execution id, ∀ run ∈ x.phase.excepted?,
      result ≠ .failed → run.processingStatus ≠ .retrying → ¬s.record.Settled
  | _ => True

/-- No settled row is set to `retrying`, and no dead-letter entry is purged. -/
def Pipeline.SparesSettled (s : Pipeline) : PipelineAction → Prop
  | .run key l => (s.run key).SparesSettled l
  | .queue a => s.queue.KeepsDeadLetters a

instance (r : RunRecord) : Decidable r.Settled :=
  decidable_of_iff (r.row?.any (·.processingStatus.settled) = true) (Option.any_eq_true _ _)

instance (s : RunDesk) : (l : RunLabel) → Decidable (s.SparesSettled l)
  | .act id (.commit _) => inferInstanceAs (Decidable (∀ x ∈ s.execution id,
      ∀ run ∈ x.phase.excepted?, _ → _ → _))
  | .review _ | .begin _ _ _ | .act _ (.open _ _) | .act _ .select | .act _ .snapshot
  | .act _ .invoke | .act _ (.node _ _ _) | .act _ .fault | .act _ .markFailed
  | .act _ .crash => .isTrue trivial

instance (s : Pipeline) : (a : PipelineAction) → Decidable (s.SparesSettled a)
  | .run key l => inferInstanceAs (Decidable ((s.run key).SparesSettled l))
  | .queue a => inferInstanceAs (Decidable (s.queue.KeepsDeadLetters a))

/-! ## One run -/

/-- An execution that has seen its run settled: it has returned, or its session
has a settled row. -/
def ExecPhase.relies (p : ExecPhase) : Bool :=
  p.returned?.isSome || p.loaded?.any (·.processingStatus.settled)

section

variable [PyRuntime] {uuid5 : String → String} {job : InvoiceJobEnvelope} {operatorReplay : Bool}
  {r r' : RunRecord} {a : ExecAction} {p p' : ExecPhase}

omit [PyRuntime] in
theorem relies_of_loaded {run : WorkflowRun} (hl : p.loaded? = some run)
    (hs : run.processingStatus.settled = true) : p.relies = true := by
  rw [ExecPhase.relies, hl, Option.any_some, hs, Bool.or_true]

omit [PyRuntime] in
theorem loaded_of_relies (hr : p.returned? = none) (h : p.relies = true) :
    ∃ run, p.loaded? = some run ∧ run.processingStatus.settled = true := by
  rw [ExecPhase.relies, hr, Option.isSome_none, Bool.false_or] at h
  exact (Option.any_eq_true _ _).mp h

omit [PyRuntime] in
theorem not_relies_of_bare (hb : p.bare = true) : p.relies = false := by
  cases p <;> first
    | rfl
    | cases hb

omit [PyRuntime] in
/-- The status that an execution writes is settled, unless it tries again. -/
theorem ExecFacts.settles (h : ExecFacts r operatorReplay p) (hsound : r.SoundCheckpoints)
    {w : RowWrite} (hw : p.write? = some w) (ho : p.reopens = false) :
    w.new.processingStatus.settled = true ∨
      p.excepted? = some w.loaded ∧ w.new.processingStatus = .retrying := by
  cases p with
  | reopening run => cases ho
  | excepted run =>
      cases hw
      exact .inr ⟨rfl, rfl⟩
  | resulted run result =>
      cases hw
      cases result with
      | interrupted => exact .inl rfl
      | finished values => exact .inl ((hsound _ (h.known _ rfl)).2 rfl)
  | condemning run =>
      cases hw
      exact .inl rfl
  | _ => cases hw

omit [PyRuntime] in
/-- What a commit writes is in the row, or was there when the row was loaded. -/
theorem writeRow_settles {loaded new : WorkflowRun} (h : r.writeRow loaded new = some r')
    (hs : new.processingStatus.settled = true) :
    loaded.processingStatus.settled = true ∨ r'.Settled := by
  by_cases hp : new.processingStatus = loaded.processingStatus
  · exact .inl (hp ▸ hs)
  · rcases RunRecord.writeRow_cases h with ⟨rfl, -⟩ | ⟨-, -, row, -, rfl⟩
    · exact absurd rfl hp
    · refine .inr ⟨_, RunRecord.row?_commit .., ?_⟩
      rw [show (WorkflowRun.flush loaded new row).processingStatus = new.processingStatus from
        if_neg hp]
      exact hs

/-- An execution that has seen the run settled has seen it now or before. -/
theorem Executes.relies (h : Executes uuid5 job operatorReplay r a p r' p')
    (hsound : r.SoundCheckpoints) (hp : ExecFacts r operatorReplay p) (hr : p'.relies = true) :
    p.relies = true ∨ r'.Settled := by
  have hsame : ∀ {run : WorkflowRun}, p.loaded? = some run → p'.loaded? = some run →
      p'.returned? = none → p.relies = true := by
    intro run hl hl' hn
    obtain ⟨run', hrun, hs⟩ := loaded_of_relies hn hr
    cases hl'.symm.trans hrun
    exact relies_of_loaded hl hs
  have hrow : ∀ {run : WorkflowRun}, r.row? = some run → p'.loaded? = some run →
      p'.returned? = none → r.Settled := by
    intro run hrow hl' hn
    obtain ⟨run', hrun, hs⟩ := loaded_of_relies hn hr
    cases hl'.symm.trans hrun
    exact ⟨run, hrow, hs⟩
  cases h with
  | created _ hb => cases (not_relies_of_bare hb).symm.trans hr
  | shortCircuit hrow' hs => exact .inr ⟨_, hrow', settled_shortCircuit hs⟩
  | loaded h => exact .inr (hrow h rfl rfl)
  | loadedFailed h _ _ => exact .inr (hrow h rfl rfl)
  | found => exact .inl (hsame rfl rfl rfl)
  | unfinished => exact .inl (hsame rfl rfl rfl)
  | input => exact .inl (hsame rfl rfl rfl)
  | resumed => exact .inl (hsame rfl rfl rfl)
  | node => exact .inl (hsame rfl rfl rfl)
  | interrupted => exact .inl (hsame rfl rfl rfl)
  | ended => exact .inl (hsame rfl rfl rfl)
  | @wrote _ w result _ hw _ hwr =>
      cases result with
      | answered =>
          cases p with
          | resulted run result =>
              have hset := hp.settles hsound hw rfl
              cases hw
              rcases writeRow_settles hwr (hset.resolve_right fun h => by cases h.1) with hs | hs
              · exact .inl (relies_of_loaded rfl hs)
              · exact .inr hs
          | reopening run =>
              cases hw
              cases hr
          | excepted run =>
              cases hw
              cases hr
          | condemning run =>
              cases hw
              cases hr
          | _ => cases hw
      | lost => cases (not_relies_of_bare (bare_of_write hw)).symm.trans hr
      | failed => cases (not_relies_of_bare (bare_of_write hw)).symm.trans hr
  | excepted _ hl => exact .inl (hsame hl rfl rfl)
  | condemning h => exact .inr (hrow h rfl rfl)
  | quiet _ _ hb => cases (not_relies_of_bare hb).symm.trans hr

/-- A settled row stays settled, unless a replay opens the run again, or an
execution that failed writes over it. -/
theorem Executes.settled (h : Executes uuid5 job operatorReplay r a p r' p')
    (hsound : r.SoundCheckpoints) (hp : ExecFacts r operatorReplay p) (ho : p.reopens = false)
    (hspare : ∀ run, p.excepted? = some run → a.writes = true →
      run.processingStatus = .retrying) (hset : r.Settled) : r'.Settled := by
  obtain ⟨row, hrow, hs⟩ := hset
  rcases h.row_cases with ⟨hsame, -⟩ | ⟨-, hnone, -⟩ | ⟨w, row', ha, hw, -, -, hrow', hnew, -⟩
  · exact ⟨row, hsame.trans hrow, hs⟩
  · cases hnone.symm.trans hrow
  · cases hrow.symm.trans hrow'
    refine ⟨_, hnew, ?_⟩
    simp only [WorkflowRun.flush]
    split
    · exact hs
    next hne =>
      rcases hp.settles hsound hw ho with hn | ⟨he, hn⟩
      · exact hn
      · exact absurd (hn.trans (hspare _ he ha).symm) hne

omit [PyRuntime] in
theorem RunRecord.settled_decided {run : WorkflowRun} {d : Disposition}
    (h : r.row? = some (run.decided d)) : r.Settled := ⟨_, h, rfl⟩

/-- A call leaves a settled row settled. -/
theorem Reviews.settled {id : Nat} {requested : Disposition} {φ φ' : ReviewPhase}
    (h : Reviews id requested r φ r' φ') (hset : r.Settled) : r'.Settled := by
  rcases h.row_cases with ⟨hsame, -⟩ | ⟨-, run, hnew⟩
  · obtain ⟨row, hrow, hs⟩ := hset
    exact ⟨row, hsame.trans hrow, hs⟩
  · exact RunRecord.settled_decided hnew

/-- A call past the lock has found a row. -/
theorem Reviews.holds_cases {id : Nat} {requested : Disposition} {φ φ' : ReviewPhase}
    (h : Reviews id requested r φ r' φ') (hh : φ'.holds = true ∨ r'.row? ≠ none) :
    φ.holds = true ∨ r.row? ≠ none := by
  cases h with
  | lock _ hrow _ _ => exact .inr (by rw [hrow]; exact Option.some_ne_none _)
  | repeated _ _ hrow => exact .inr hrow
  | refused _ hi _ => exact hh.imp_left fun hp => by cases (holds_of_active hi).symm.trans hp
  | found => exact .inl rfl
  | paused => exact .inl rfl
  | invoke => exact .inl rfl
  | node => exact .inl rfl
  | ended => exact .inl rfl
  | store => exact .inl rfl
  | failed hp _ _ => exact .inl hp
  | crash => exact hh.imp_left fun hp => by cases hp

namespace RunDesk

/-- A job is safe when it has a dead-letter entry, or its row is settled.  An
operator's replay has a dead-letter entry, and an execution that has seen the
row settled works on a safe job. -/
structure Reliant (deadLettered : Prop) (s : RunDesk) : Prop where
  replay : ∀ id x, s.execution id = some x → x.operatorReplay = true → deadLettered
  relies : ∀ id x, s.execution id = some x → x.phase.relies = true →
    deadLettered ∨ s.record.Settled

variable {deadLettered : Prop} {s s' : RunDesk} {l : RunLabel}

omit [PyRuntime] in
theorem Reliant.mono {deadLettered' : Prop} (h : s.Reliant deadLettered)
    (hd : deadLettered → deadLettered') : s.Reliant deadLettered' where
  replay id x hx hr := hd (h.replay id x hx hr)
  relies id x hx hr := (h.relies id x hx hr).imp_left hd

omit [PyRuntime] in
theorem Reliant.begin (h : s.Reliant deadLettered) {id : Nat} {job : InvoiceJobEnvelope}
    {operatorReplay : Bool} (hd : operatorReplay = true → deadLettered) :
    (s.begin id job operatorReplay).Reliant deadLettered := by
  refine ⟨fun e y hy hr => ?_, fun e y hy hr => ?_⟩
  · rcases update_cases hy with ⟨-, rfl⟩ | ⟨-, hy⟩
    · exact hd hr
    · exact h.replay e y hy hr
  · rcases update_cases hy with ⟨-, rfl⟩ | ⟨-, hy⟩
    · cases hr
    · exact h.relies e y hy hr

/-- A safe job stays safe. -/
theorem Stepped.safe (hs : Stepped uuid5 s l s') (hsound : s.Sound) (h : s.Reliant deadLettered)
    (hspare : s.SparesSettled l) (hsafe : deadLettered ∨ s.record.Settled) :
    deadLettered ∨ s'.record.Settled := by
  rcases hsafe with hd | hset
  · exact .inl hd
  cases hs with
  | requested => exact .inr hset
  | reviewed _ hr => exact .inr (hr.settled hset)
  | begun => exact .inr hset
  | @executed id a x r p hx he =>
      have hfacts := hsound.execs id x hx
      cases ho : x.phase.reopens with
      | true => exact .inl (h.replay id x hx (hfacts.reopening ho))
      | false =>
          refine .inr (he.settled hsound.checkpoints hfacts ho (fun run hrun ha => ?_) hset)
          cases a with
          | commit result =>
              refine of_not_not fun hne => hspare x hx run hrun ?_ hne hset
              rintro rfl
              cases ha
          | _ => cases ha

/-- What the executions of a run rely on stays true. -/
theorem Stepped.reliant (hs : Stepped uuid5 s l s') (hsound : s.Sound)
    (h : s.Reliant deadLettered) (hspare : s.SparesSettled l)
    (hl : ∀ id job operatorReplay, l ≠ .begin id job operatorReplay) :
    s'.Reliant deadLettered := by
  have hsafe := hs.safe hsound h hspare
  cases hs with
  | requested => exact ⟨h.replay, h.relies⟩
  | reviewed => exact ⟨h.replay, fun e y hy hr => hsafe (h.relies e y hy hr)⟩
  | begun => exact absurd rfl (hl _ _ _)
  | @executed id a x r p hx he =>
      refine ⟨fun e y hy hr => ?_, fun e y hy hr => ?_⟩
      · rcases update_cases hy with ⟨-, rfl⟩ | ⟨-, hy⟩
        · exact h.replay id x hx hr
        · exact h.replay e y hy hr
      · rcases update_cases hy with ⟨-, rfl⟩ | ⟨-, hy⟩
        · rcases he.relies hsound.checkpoints (hsound.execs id x hx) hr with hr | hset
          · exact hsafe (h.relies id x hx hr)
          · exact .inr hset
        · exact hsafe (h.relies e y hy hr)

/-- A stopped execution leaves the record as it is. -/
theorem Stepped.crash_record {id : Nat} (hs : Stepped uuid5 s (.act id .crash) s') :
    s'.record = s.record := by
  cases hs with
  | executed _ he => cases he <;> rfl

/-! ### Where a run comes from -/

/-- What there is of a run is there for a reason. -/
structure Known (reason : Prop) (s : RunDesk) : Prop where
  executed : ∀ id x, s.execution id = some x → reason
  opened : s.record.row? ≠ none → reason
  reviewed : ∀ id x, s.desk.call id = some x → x.phase.holds = true → reason

variable {reason : Prop}

omit [PyRuntime] in
theorem Known.mono {reason' : Prop} (h : s.Known reason) (hr : reason → reason') :
    s.Known reason' :=
  ⟨fun id x hx => hr (h.executed id x hx), fun hrow => hr (h.opened hrow),
    fun id x hx hh => hr (h.reviewed id x hx hh)⟩

theorem Stepped.known (hs : Stepped uuid5 s l s') (h : s.Known reason)
    (hl : ∀ id job operatorReplay, l ≠ .begin id job operatorReplay) : s'.Known reason := by
  cases hs with
  | requested =>
      refine ⟨h.executed, h.opened, fun e y hy hh => ?_⟩
      rcases desk_update_cases hy with rfl | hy
      · cases hh
      · exact h.reviewed e y hy hh
  | @reviewed l id x r p hx hr =>
      have hreason : p.holds = true ∨ r.row? ≠ none → reason := fun hh =>
        (hr.holds_cases hh).elim (h.reviewed id x hx) h.opened
      refine ⟨h.executed, fun hrow => hreason (.inr hrow), fun e y hy hh => ?_⟩
      rcases desk_update_cases hy with rfl | hy
      · exact hreason (.inl hh)
      · exact h.reviewed e y hy hh
  | begun => exact absurd rfl (hl _ _ _)
  | executed hx _ =>
      have hreason := h.executed _ _ hx
      exact ⟨fun _ _ _ => hreason, fun _ => hreason, fun _ _ _ _ => hreason⟩

end RunDesk

end

/-! ## The pipeline -/

namespace Pipeline

variable [PyRuntime] [QueueRuntime] {uuid5 : String → String} {maxAttempts : Nat}
  {s t : Pipeline} {a : PipelineAction} {key : String}

/-- A job that has a dead-letter entry, or whose row is settled. -/
def Safe (s : Pipeline) (key : String) : Prop :=
  s.queue.redis.DeadLettered key ∨ (s.run key).record.Settled

/-- Every row and every execution comes from an entry of its job, and an entry
is gone only once its job is safe. -/
structure Anchored (s : Pipeline) : Prop where
  sound : s.Sound
  evidenced : s.queue.Evidenced
  reliant : ∀ key, (s.run key).Reliant (s.queue.redis.DeadLettered key)
  known : ∀ key, (s.run key).Known (∃ y ∈ s.queue.redis.live.log, carries key y.2 = true)
  gone : ∀ y ∈ s.queue.redis.live.log, ∀ key, carries key y.2 = true →
    y ∈ s.queue.redis.live.entries ∨ s.Safe key

omit [PyRuntime] in
theorem Anchored.notStranded (h : s.Anchored) : s.NotStranded := by
  intro key row hrow hunder
  obtain ⟨y, hy, hc⟩ := (h.known key).opened (by rw [hrow]; exact Option.some_ne_none _)
  rcases h.gone y hy key hc with hmem | hd | ⟨row', hrow', hs⟩
  · exact .inl ⟨y, hmem, hc⟩
  · exact .inr hd
  · cases hrow.symm.trans hrow'
    rcases hunder with hu | hu <;>
    · rw [hu] at hs
      cases hs

omit [PyRuntime] in
/-- An entry that a step removes is one of a safe job. -/
theorem Anchored.removed (hjson : JsonInverse) (h : s.Anchored) {a : QueueAction} {q : Queue}
    (hq : Queue.Stepped s.queue a q) {y : StreamId × Fields} (hc : carries key y.2 = true)
    (hy : y ∈ s.queue.redis.live.entries) (hgone : y ∉ q.redis.live.entries) :
    q.redis.DeadLettered key ∨ s.Safe key := by
  have hlog := h.sound.regular.live.mem_log hy
  have hentry : ∀ {c : Nat} {d : StreamDelivery},
      (s.queue.delivery c).held? = some (d.streamId, d.fields) → d.streamId = y.1 →
      d.fields = y.2 := fun hheld hid =>
    h.sound.regular.live.eq_of_id (hid ▸ h.sound.regular.held _ _ hheld) hlog
  rcases hq.removes hy hgone with ⟨c, d, job, status, clock, rfl, hp, hid⟩ |
    ⟨c, d, reason, clock, now, rfl, hheld, hid, hdlq⟩
  · have hfields := hentry (by rw [hp]; rfl) hid
    obtain ⟨x, hx, hr⟩ := h.sound.returned c d job status hp
    obtain ⟨job', hj, rfl⟩ := Queue.carries_iff.mp hc
    have hparsed := h.sound.parsed c d job (by rw [hp]; rfl)
    rw [hfields] at hparsed
    cases hj.symm.trans hparsed
    exact .inr ((h.reliant _).relies c x hx (by rw [hr]; rfl))
  · have hfields := hentry hheld hid
    have hmem : ((s.queue.redis.dlq.add now (Redis.deadLetterFields d reason clock)).1,
        Redis.deadLetterFields d reason clock) ∈ q.redis.dlq.entries := by
      rw [hdlq]
      exact EntryStream.mem_entries_add.mpr (.inr ⟨rfl, rfl⟩)
    exact .inl ⟨_, hmem,
      decodeDlqEvidence_carries hjson hc (congrArg (some ∘ QueueRuntime.dumps) hfields)⟩

omit [PyRuntime] in
/-- A step of the queue that leaves the records alone. -/
theorem Anchored.queued (hjson : JsonInverse) (h : s.Anchored) {a : QueueAction}
    (hq : Queue.Stepped s.queue a t.queue) (hkeep : s.queue.KeepsDeadLetters a)
    (hsound : t.Sound) (hrecord : ∀ key, (t.run key).record = (s.run key).record)
    (hreliant : ∀ key, (t.run key).Reliant (t.queue.redis.DeadLettered key))
    (hknown : ∀ key, (t.run key).Known (∃ y ∈ t.queue.redis.live.log, carries key y.2 = true)) :
    t.Anchored := by
  have hsafe : ∀ key, s.Safe key → t.Safe key := by
    rintro key (hd | hset)
    · exact .inl (hq.deadLettered hkeep hd)
    · exact .inr (hrecord key ▸ hset)
  refine ⟨hsound, h.evidenced.step hjson h.sound.regular hq hkeep, hreliant, hknown,
    fun y hy key hc => ?_⟩
  rcases hq.effect.log_new hy with hold | hnew
  · by_cases hmem : y ∈ t.queue.redis.live.entries
    · exact .inl hmem
    refine .inr ?_
    rcases h.gone y hold key hc with hthere | hs
    · rcases h.removed hjson hq hc hthere hmem with hd | hs
      · exact .inl hd
      · exact hsafe key hs
    · exact hsafe key hs
  · exact .inl hnew

/-- A step keeps every job anchored. -/
theorem Anchored.step (hjson : JsonInverse) (h : s.Anchored)
    (hs : Stepped uuid5 maxAttempts s a t) (hspare : s.SparesSettled a) : t.Anchored := by
  have hsound := h.sound.step hs
  cases hs with
  | @queued a q hperm hq =>
      have hlog := (hq.effect.streams h.sound.regular.live h.sound.regular.dlq).2.2
      refine h.queued hjson hq hspare hsound (fun _ => rfl)
        (fun key => (h.reliant key).mono (hq.deadLettered hspare))
        fun key => (h.known key).mono fun ⟨y, hy, hc⟩ => ⟨y, hlog y hy, hc⟩
  | @started a q c d job hq hrun _ =>
      have hlog := (hq.effect.streams h.sound.regular.live h.sound.regular.dlq).2.2
      have hentry : (d.streamId, d.fields) ∈ q.redis.live.log :=
        hsound.regular.held c _ (show (q.delivery c).held? = _ by rw [hrun]; rfl)
      have hcarries : carries job.idempotencyKey d.fields = true :=
        Queue.carries_iff.mpr
          ⟨job, hsound.parsed c d job (show (q.delivery c).parsed? = _ by rw [hrun]; rfl), rfl⟩
      have hev := h.evidenced.step hjson h.sound.regular hq hspare
      refine h.queued hjson hq hspare hsound
        (forall_setRun (s := { s with queue := q })
          (P := fun key desk => desk.record = (s.run key).record) (fun _ => rfl) rfl)
        (forall_setRun (s := { s with queue := q })
          (P := fun key desk => desk.Reliant (q.redis.DeadLettered key))
          (fun key => (h.reliant key).mono (hq.deadLettered hspare))
          (((h.reliant _).mono (hq.deadLettered hspare)).begin fun hreplay => ?_))
        (forall_setRun (s := { s with queue := q })
          (P := fun key desk => desk.Known (∃ y ∈ q.redis.live.log, carries key y.2 = true))
          (fun key => (h.known key).mono fun ⟨y, hy, hc⟩ => ⟨y, hlog y hy, hc⟩) ?_)
      · exact hev.replayed _ hentry _ hcarries (Option.isSome_iff_ne_none.mp hreplay)
      · have hreason : ∃ y ∈ q.redis.live.log, carries job.idempotencyKey y.2 = true :=
          ⟨_, hentry, hcarries⟩
        exact ⟨fun _ _ _ => hreason, fun _ => hreason, fun _ _ _ _ => hreason⟩
  | @stopped q c job desk hq hjob hdesk =>
      have hlog := (hq.effect.streams h.sound.regular.live h.sound.regular.dlq).2.2
      have hno : ∀ id job operatorReplay, RunLabel.act c .crash ≠ .begin id job operatorReplay :=
        fun _ _ _ e => by cases e
      refine h.queued hjson hq hspare hsound
        (forall_setRun (s := { s with queue := q })
          (P := fun key desk => desk.record = (s.run key).record) (fun _ => rfl) ?_)
        (forall_setRun (s := { s with queue := q })
          (P := fun key desk => desk.Reliant (q.redis.DeadLettered key))
          (fun key => (h.reliant key).mono (hq.deadLettered hspare))
          ((hdesk.reliant (h.sound.runs _) (h.reliant _) trivial hno).mono
            (hq.deadLettered hspare)))
        (forall_setRun (s := { s with queue := q })
          (P := fun key desk => desk.Known (∃ y ∈ q.redis.live.log, carries key y.2 = true))
          (fun key => (h.known key).mono fun ⟨y, hy, hc⟩ => ⟨y, hlog y hy, hc⟩)
          ((hdesk.known (h.known _) hno).mono fun ⟨y, hy, hc⟩ => ⟨y, hlog y hy, hc⟩))
      exact hdesk.crash_record
  | @ran key l desk hperm hdesk =>
      have hno : ∀ id job operatorReplay, l ≠ .begin id job operatorReplay := by
        rintro id job operatorReplay rfl
        cases hperm
      have hsafe := hdesk.safe (h.sound.runs key) (h.reliant key) hspare
      refine ⟨hsound, h.evidenced,
        forall_setRun (P := fun key desk => desk.Reliant (s.queue.redis.DeadLettered key)) h.reliant
          (hdesk.reliant (h.sound.runs key) (h.reliant key) hspare hno),
        forall_setRun (P := fun key desk =>
          desk.Known (∃ y ∈ s.queue.redis.live.log, carries key y.2 = true)) h.known
          (hdesk.known (h.known key) hno), fun y hy k hc => ?_⟩
      refine (h.gone y hy k hc).imp_right ?_
      exact forall_setRun (P := fun k desk => s.Safe k →
        s.queue.redis.DeadLettered k ∨ desk.record.Settled) (fun _ => id) hsafe k

omit [PyRuntime] in
theorem Start.anchored (h : s.Start) : s.Anchored where
  sound := h.sound
  evidenced := h.queue.evidenced
  reliant key := by
    refine ⟨fun id x hx => ?_, fun id x hx => ?_⟩ <;>
    · rw [(h.run key).execution id] at hx
      cases hx
  known key := by
    refine ⟨fun id x hx => ?_, fun hrow => ?_, fun id x hx => ?_⟩
    · rw [(h.run key).execution id] at hx
      cases hx
    · rw [(h.run key).record] at hrow
      exact absurd rfl hrow
    · rw [(h.run key).call id] at hx
      cases hx
  gone y hy := by
    rw [h.queue.live] at hy
    cases hy

/-- No run is stranded in a run of the pipeline whose steps spare the settled
rows and the dead-letter entries. -/
theorem not_stranded (hjson : JsonInverse) {as : List PipelineAction} (h₀ : s.Start)
    (h : Run (Guarded SparesSettled (Fires (step uuid5 maxAttempts))) s as t) :
    t.NotStranded :=
  (h.preserves Anchored h₀.anchored fun _ _ _ ht hs =>
    ht.step hjson (step_cases hs.2) hs.1).notStranded

/-! ## Two holders of one entry -/

/-- Two consumers hold the entry of a job, and their executions have found its
row. -/
def sharedEntry : List PipelineAction :=
  [.queue (.enqueue (sampleJob 'a') 1), .queue (.read 0), .queue (.reclaim 1 (toLex (1, 0))),
   .queue (.count 1), .queue (.parse 0), .queue (.parse 1),
   .run (sampleKey 'a') (.act 1 (.open 1 .answered)), .run (sampleKey 'a') (.act 1 .select)]

/-- The first execution commits its result, and its delivery is acknowledged. -/
def firstAcknowledged : List PipelineAction :=
  (RunDesk.interruptedExecution 0).map (.run (sampleKey 'a')) ++
    [.queue (.finish 0 (.returned .awaitingReview)), .queue (.acknowledge 0 2)]

/-- The snapshot of the second execution fails, and it writes `retrying`. -/
def secondFails : List PipelineAction :=
  [.run (sampleKey 'a') (.act 1 .fault), .run (sampleKey 'a') (.act 1 (.commit .answered))]

omit [PyRuntime] [QueueRuntime] in
/-- The second execution fails after the acknowledgement. -/
theorem lateFailure_stranded :
    letI := flatRuntime
    letI := asciiRuntime
    ∃ s, Run (Fires (step id 2)) .empty (sharedEntry ++ firstAcknowledged ++ secondFails) s ∧
      ¬s.NotStranded := by
  rw [flatRuntime_eq]
  let _ := quickRuntime
  let _ := asciiRuntime
  have hdata : (exec (step id 2) .empty (sharedEntry ++ firstAcknowledged ++ secondFails)).any
      (fun s =>
        ((s.run (sampleKey 'a')).record.row?.map (·.processingStatus) = some .retrying) &&
          s.queue.redis.live.entries.isEmpty && s.queue.redis.dlq.entries.isEmpty) = true := by
    decide +kernel
  obtain ⟨s, hs, hdata⟩ := (Option.any_eq_true _ _).mp hdata
  simp only [Bool.and_eq_true, decide_eq_true_eq, List.isEmpty_iff] at hdata
  obtain ⟨⟨hstatus, hlive⟩, hdlq⟩ := hdata
  obtain ⟨row, hrow, hstatus⟩ := Option.map_eq_some_iff.mp hstatus
  refine ⟨s, run_of_exec hs, fun hno => ?_⟩
  rcases hno _ row hrow (.inr hstatus) with ⟨x, hx, -⟩ | ⟨x, hx, -⟩
  · rw [hlive] at hx
    cases hx
  · rw [hdlq] at hx
    cases hx

omit [PyRuntime] [QueueRuntime] in
/-- The second execution fails before the first one commits. -/
theorem earlyFailure_notStranded :
    letI := flatRuntime
    letI := asciiRuntime
    ∃ s, Run (Guarded SparesSettled (Fires (step id 2))) .empty
      (sharedEntry ++ secondFails ++ firstAcknowledged) s ∧ s.NotStranded := by
  rw [flatRuntime_eq]
  let _ := quickRuntime
  let _ := asciiRuntime
  have hsome : (exec (fun s a => if SparesSettled s a then step id 2 s a else none) .empty
      (sharedEntry ++ secondFails ++ firstAcknowledged)).isSome = true := by
    decide +kernel
  obtain ⟨s, -, hguarded⟩ := guarded_of_exec hsome
  exact ⟨s, hguarded, not_stranded quickRuntime_inverse empty_start hguarded⟩

end Pipeline

end FreightAP
