import FreightAP.Queue.Evidence
import FreightAP.Worker.Removal

/-!
# Accounts of a job

What became of a job whose entry was given to the live stream: the entry is
still there, or its fields were written to the dead-letter stream, or a settled
row of its run was committed.  No step takes a job off the books
(`Booked.step`): rows and dead-letter entries of the past are looked up in the
histories, which only grow, and an entry is removed for one of the two reasons
of `Queue.Stepped.removes`.
-/

namespace FreightAP

open Transition

/-! ## The books -/

section

variable [QueueRuntime]

/-- The live stream was given an entry of a job. -/
def Redis.Given (r : Redis) (key : String) : Prop := ∃ y ∈ r.live.log, carries key y.2 = true

/-- A dead-letter entry of a job was written. -/
def Redis.WasDeadLettered (r : Redis) (key : String) : Prop :=
  ∃ x ∈ r.dlq.log, ∃ evidence, decodeDlqEvidence x.2 = .ok evidence ∧
    evidence.job.idempotencyKey = key

namespace Pipeline

/-- A job whose entry is not needed any more. -/
def Over (s : Pipeline) (key : String) : Prop :=
  s.queue.redis.WasDeadLettered key ∨
    ∃ status : ProcessingStatus, status.settled = true ∧ (s.run key).record.Committed status

/-- A job that has an entry, or that needs none. -/
def Accounted (s : Pipeline) (key : String) : Prop := s.queue.redis.HasEntry key ∨ s.Over key

end Pipeline

/-! ## Histories -/

namespace Queue

omit [QueueRuntime] in
theorem purgeBatch_dlq_log {r : Redis} (cutoff : StreamId) (limit : Nat) :
    (r.purgeBatch cutoff limit).dlq.log = r.dlq.log := by
  unfold Redis.purgeBatch
  generalize (r.dlq.entries.filter _).take limit = rows
  induction rows generalizing r with
  | nil => rfl
  | cons row rows ih => exact ih (r := r.purgeRow row)

variable {q q' : Queue} {a : QueueAction} {r : Redis} {key : String}

/-- A dead-letter entry that was written stays in the history. -/
theorem Effect.dlq_log (h : q.Effect r) {x : StreamId × DeadLetterFields}
    (hx : x ∈ q.redis.dlq.log) : x ∈ r.dlq.log := by
  cases h with
  | quiet _ hd _ _ => exact hd ▸ hx
  | enqueued _ hnone =>
      simp only [Redis.enqueueJob, hnone]
      exact hx
  | published => exact hx
  | expired => exact hx
  | touched _ _ _ _ _ _ _ hd => exact hd ▸ hx
  | removed _ _ _ _ _ _ _ _ hd =>
      rcases hd with hd | ⟨now, reason, hd⟩
      · exact hd ▸ hx
      · rw [hd]
        exact EntryStream.mem_log_add.mpr (.inl hx)
  | replayed => exact hx
  | @purged cutoff limit =>
      rw [purgeBatch_dlq_log]
      exact hx

/-- An enqueue leaves the dedupe key of its job. -/
theorem Stepped.enqueue_dedupe {job : InvoiceJobEnvelope} {now : Nat}
    (h : Stepped q (.enqueue job now) q') : q'.redis.dedupe job.idempotencyKey ≠ none := by
  cases h with
  | enqueued _ hnone =>
      simp only [write, Redis.enqueueJob, hnone, Function.update_self]
      exact Option.some_ne_none _
  | repeated hsome => exact hsome

/-- A dedupe key that is new after a step comes with an entry of its job. -/
theorem Effect.given (hjson : JsonInverse) (h : q.Effect r)
    (hlog : ∀ x ∈ q.redis.live.log, x ∈ r.live.log)
    (hkeys : ∀ key, q.redis.dedupe key ≠ none → q.redis.Given key)
    (hkey : r.dedupe key ≠ none) : r.Given key := by
  have hold : q.redis.dedupe key ≠ none → r.Given key := by
    intro hk
    obtain ⟨y, hy, hc⟩ := hkeys key hk
    exact ⟨y, hlog y hy, hc⟩
  cases h with
  | quiet _ _ _ hdedupe => exact hold (hdedupe ▸ hkey)
  | @enqueued job now hv hnone =>
      by_cases hjob : key = job.idempotencyKey
      · subst hjob
        have hmem : ((q.redis.live.add now [("payload", QueueRuntime.modelDumpJson job)]).1,
            [("payload", QueueRuntime.modelDumpJson job)]) ∈
            (q.redis.enqueueJob job now).2.live.log := by
          simp only [Redis.enqueueJob, hnone]
          exact EntryStream.mem_log_add.mpr (.inr ⟨rfl, rfl⟩)
        exact ⟨_, hmem, carries_iff.mpr
          ⟨job, parseDelivery_dump hjson (validJob_iff.mp hv) rfl, rfl⟩⟩
      · apply hold
        simp only [Redis.enqueueJob, hnone] at hkey
        exact fun hk => hkey ((Function.update_of_ne hjob ..).trans hk)
  | published => exact hold hkey
  | @expired expired =>
      apply hold
      intro hk
      by_cases he : key = expired
      · subst he
        exact hkey (Function.update_self ..)
      · exact hkey ((Function.update_of_ne he ..).trans hk)
  | touched _ _ _ _ _ _ _ _ _ hdedupe => exact hold (hdedupe ▸ hkey)
  | removed _ _ _ _ _ _ _ _ _ _ hdedupe => exact hold (hdedupe ▸ hkey)
  | replayed => exact hold hkey
  | @purged cutoff limit =>
      exact hold ((Redis.purgeBatch_live (r := q.redis) cutoff limit).2.2 ▸ hkey)

end Queue

end

/-! ## The invariant -/

/-- A step of a run takes nothing back that was committed. -/
theorem RunDesk.Stepped.grows [PyRuntime] {uuid5 : String → String} {s s' : RunDesk} {l : RunLabel}
    (h : Stepped uuid5 s l s') : s.record.Grows s'.record := by
  cases h with
  | requested => exact .refl _
  | reviewed _ hr => exact hr.grows
  | begun => exact .refl _
  | executed _ he => exact he.grows

namespace Pipeline

variable [PyRuntime] [QueueRuntime] {uuid5 : String → String} {maxAttempts : Nat}
  {s t : Pipeline} {a : PipelineAction} {key : String}

/-- A step takes nothing back that was committed. -/
theorem Stepped.grows (hs : Stepped uuid5 maxAttempts s a t) (key : String) :
    (s.run key).record.Grows (t.run key).record := by
  have hset : ∀ {q : Queue} {k : String} {desk : RunDesk}, (s.run k).record.Grows desk.record →
      ∀ key, (s.run key).record.Grows ((({ s with queue := q } : Pipeline).setRun k desk).run
        key).record := fun {q k desk} h =>
    forall_setRun (s := { s with queue := q })
      (P := fun key desk => (s.run key).record.Grows desk.record) (fun _ => .refl _) h
  cases hs with
  | queued => exact .refl _
  | @started _ _ c d job =>
      have hsame : (s.run job.idempotencyKey).record.Grows
          ((s.run job.idempotencyKey).begin c job (replayContext d.fields).isSome).record := .refl _
      exact hset hsame key
  | stopped _ _ hdesk => exact hset hdesk.grows key
  | ran _ hdesk => exact hset (q := s.queue) hdesk.grows key

/-- What a step of the queue does to the queue. -/
theorem Stepped.queued_step {b : QueueAction} (hs : Stepped uuid5 maxAttempts s (.queue b) t) :
    Queue.Stepped s.queue b t.queue := by
  cases hs with
  | queued _ hq => exact hq
  | started hq _ _ => exact hq
  | stopped hq _ _ => exact hq

/-- A step changes the keys like a step of the queue. -/
theorem Stepped.effect (hs : Stepped uuid5 maxAttempts s a t) :
    s.queue.Effect t.queue.redis := by
  cases a with
  | queue b => exact hs.queued_step.effect
  | run key l =>
      cases hs with
      | ran => exact .quiet rfl rfl rfl rfl

omit [PyRuntime] in
/-- A job that is over stays over. -/
theorem Over.mono (h : s.Over key)
    (hdlq : ∀ x ∈ s.queue.redis.dlq.log, x ∈ t.queue.redis.dlq.log)
    (hrun : (s.run key).record.Grows (t.run key).record) : t.Over key := by
  rcases h with ⟨x, hx, hev⟩ | ⟨status, hset, hcom⟩
  · exact .inl ⟨x, hdlq x hx, hev⟩
  · exact .inr ⟨status, hset, hrun.committed hcom⟩

/-- A given entry is there or its job is over, and every dedupe key has a given
entry. -/
structure Booked (s : Pipeline) : Prop where
  sound : s.Sound
  gone : ∀ y ∈ s.queue.redis.live.log, ∀ key, carries key y.2 = true →
    y ∈ s.queue.redis.live.entries ∨ s.Over key
  keys : ∀ key, s.queue.redis.dedupe key ≠ none → s.queue.redis.Given key

omit [PyRuntime] in
theorem Start.booked (h : s.Start) : s.Booked where
  sound := h.sound
  gone y hy := by
    rw [h.queue.live] at hy
    cases hy
  keys key hkey := absurd (h.queue.dedupe key) hkey

omit [PyRuntime] in
/-- The entry that a step of the queue removes is one of a job that is over. -/
theorem Booked.removed (hjson : JsonInverse) (h : s.Booked) {b : QueueAction} {q : Queue}
    (hq : Queue.Stepped s.queue b q) {y : StreamId × Fields} (hc : carries key y.2 = true)
    (hy : y ∈ s.queue.redis.live.entries) (hgone : y ∉ q.redis.live.entries) :
    q.redis.WasDeadLettered key ∨ s.Over key := by
  have hlog := h.sound.regular.live.mem_log hy
  have hentry : ∀ {c : Nat} {d : StreamDelivery},
      (s.queue.delivery c).held? = some (d.streamId, d.fields) → d.streamId = y.1 →
      d.fields = y.2 := fun hheld hid =>
    h.sound.regular.live.eq_of_id (hid ▸ h.sound.regular.held _ _ hheld) hlog
  rcases hq.removes hy hgone with ⟨c, d, job, status, clock, rfl, hp, hid⟩ |
    ⟨c, d, reason, clock, now, rfl, hheld, hid, hdlq⟩
  · -- the execution of the delivery returned a status that was committed
    have hfields := hentry (by rw [hp]; rfl) hid
    obtain ⟨x, hx, hr⟩ := h.sound.returned c d job status hp
    obtain ⟨job', hj, rfl⟩ := Queue.carries_iff.mp hc
    have hparsed := h.sound.parsed c d job (by rw [hp]; rfl)
    rw [hfields] at hparsed
    cases hj.symm.trans hparsed
    obtain ⟨hset, hcom⟩ := ((h.sound.runs _).execs c x hx).returned status (by rw [hr]; rfl)
    exact .inr (.inr ⟨status, hset, hcom⟩)
  · have hfields := hentry hheld hid
    refine .inl ⟨((s.queue.redis.dlq.add now (Redis.deadLetterFields d reason clock)).1,
      Redis.deadLetterFields d reason clock), ?_,
      decodeDlqEvidence_carries hjson hc (congrArg (some ∘ QueueRuntime.dumps) hfields)⟩
    rw [hdlq]
    exact EntryStream.mem_log_add.mpr (.inr ⟨rfl, rfl⟩)

theorem Booked.step (hjson : JsonInverse) (h : s.Booked)
    (hs : Stepped uuid5 maxAttempts s a t) : t.Booked := by
  have hover : ∀ key, s.Over key → t.Over key := fun key hkey =>
    hkey.mono (fun _ hx => hs.effect.dlq_log hx) (hs.grows key)
  refine ⟨h.sound.step hs, fun y hy key hc => ?_, fun key hkey => ?_⟩
  · rcases hs.effect.log_new hy with hold | hnew
    · by_cases hmem : y ∈ t.queue.redis.live.entries
      · exact .inl hmem
      · refine .inr ?_
        rcases h.gone y hold key hc with hthere | hkey
        · cases a with
          | queue b =>
              rcases h.removed hjson hs.queued_step hc hthere hmem with hdead | hkey
              · exact .inl hdead
              · exact hover key hkey
          | run key' l =>
              cases hs with
              | ran => exact absurd hthere hmem
        · exact hover key hkey
    · exact .inl hnew
  · obtain ⟨-, -, hlog⟩ :=
      hs.effect.streams h.sound.regular.live h.sound.regular.dlq
    exact hs.effect.given hjson hlog h.keys hkey

omit [PyRuntime] in
/-- A job that was given to the live stream is accounted for. -/
theorem Booked.accounted (h : s.Booked) (hkey : s.queue.redis.Given key) : s.Accounted key := by
  obtain ⟨y, hy, hc⟩ := hkey
  rcases h.gone y hy key hc with hmem | hover
  · exact .inl ⟨y, hmem, hc⟩
  · exact .inr hover

end Pipeline

end FreightAP
