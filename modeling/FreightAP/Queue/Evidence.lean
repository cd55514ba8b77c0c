import FreightAP.Queue.OneJob

/-!
# Entries and evidence of a job

Where the queue still has a job: in an entry of the live stream, or in the
fields that a dead-letter entry keeps.  Until dead-letter entries are purged, a
replayed entry comes with a dead-letter entry of its job (`Evidenced.step`).
-/

namespace FreightAP

variable [QueueRuntime]

open QueueRuntime

/-- An entry of the live stream carries the key. -/
def Redis.HasEntry (r : Redis) (key : String) : Prop :=
  ∃ x ∈ r.live.entries, carries key x.2 = true

/-- A dead-letter entry keeps fields that carry the key. -/
def Redis.DeadLettered (r : Redis) (key : String) : Prop :=
  ∃ x ∈ r.dlq.entries, ∃ evidence, decodeDlqEvidence x.2 = .ok evidence ∧
    evidence.job.idempotencyKey = key

/-- The evidence of fields that carry a key. -/
theorem decodeDlqEvidence_carries (hjson : JsonInverse) {f : Fields} {key : String}
    (hc : carries key f = true) {dl : DeadLetterFields} (hdl : dl.originalFields = some (dumps f)) :
    ∃ evidence, decodeDlqEvidence dl = .ok evidence ∧ evidence.job.idempotencyKey = key := by
  obtain ⟨job, hp, hk⟩ := Queue.carries_iff.mp hc
  obtain ⟨ms, g, hloads, hms, hg⟩ := hjson.fields f
  rw [parseDelivery_congr (hg "payload").symm] at hp
  refine ⟨⟨dumps f, g, job⟩, ?_, hk⟩
  unfold decodeDlqEvidence
  simp only [hdl, hloads, hms, hp]

namespace Queue

/-- No dead-letter entry is purged. -/
def KeepsDeadLetters (q : Queue) : QueueAction → Prop
  | .purge cutoff limit => ∀ x ∈ q.redis.dlq.entries, x ∈ (q.redis.purgeBatch cutoff limit).dlq.entries
  | _ => True

instance (q : Queue) : (a : QueueAction) → Decidable (q.KeepsDeadLetters a)
  | .purge _ _ => inferInstanceAs (Decidable (∀ x ∈ q.redis.dlq.entries, _))
  | .enqueue _ _ | .publish _ _ | .expire _ | .read _ | .reclaim _ _ | .count _ | .parse _
  | .mark _ _ | .finish _ _ | .heartbeat _ | .recordFailure _ _ | .markFailed _
  | .deadLetter _ _ _ | .acknowledge _ _ | .abandon _ | .request _ _ _ | .evaluate _ _ _
  | .giveUp _ => .isTrue trivial

variable {q q' : Queue} {a : QueueAction} {key : String}

theorem Stepped.dlq_mono (h : Stepped q a q') (hkeep : q.KeepsDeadLetters a)
    {x : StreamId × DeadLetterFields} (hx : x ∈ q.redis.dlq.entries) :
    x ∈ q'.redis.dlq.entries := by
  cases h with
  | enqueued _ hnone =>
      show x ∈ (q.redis.enqueueJob _ _).2.dlq.entries
      simp only [Redis.enqueueJob, hnone]
      exact hx
  | marked =>
      show x ∈ (q.redis.recordReplayProcessing _ _).dlq.entries
      rw [Redis.recordReplayProcessing, Redis.hsetAction_dlq]
      exact hx
  | recordFailure =>
      show x ∈ (q.redis.recordFailure _ _ _).dlq.entries
      rw [Redis.recordFailure, Redis.hsetAction_dlq]
      exact hx
  | acknowledge =>
      show x ∈ (q.redis.acknowledge _ _ _).dlq.entries
      rw [Redis.acknowledge, Redis.hsetAction_dlq]
      exact hx
  | deadLetter =>
      show x ∈ (q.redis.deadLetter _ _ _ _).dlq.entries
      rw [Redis.deadLetter, Redis.hsetAction_dlq]
      exact EntryStream.mem_entries_add.mpr (.inl hx)
  | purged => exact hkeep x hx
  | _ => exact hx

/-- A dead-letter entry of a job stays. -/
theorem Stepped.deadLettered (h : Stepped q a q') (hkeep : q.KeepsDeadLetters a)
    (hd : q.redis.DeadLettered key) : q'.redis.DeadLettered key := by
  obtain ⟨x, hx, hev⟩ := hd
  exact ⟨x, h.dlq_mono hkeep hx, hev⟩

/-- A replayed entry comes with a dead-letter entry of its job, and so does a
request for a replay. -/
structure Evidenced (q : Queue) : Prop where
  replayed : ∀ y ∈ q.redis.live.log, ∀ key, carries key y.2 = true → replayContext y.2 ≠ none →
    q.redis.DeadLettered key
  validated : ∀ c dlqId requestId evidence, q.replay c = .validated dlqId requestId evidence →
    q.redis.DeadLettered evidence.job.idempotencyKey ∧
      ∃ raw, modelValidate raw = .ok evidence.job

theorem Start.evidenced (h : q.Start) : q.Evidenced where
  replayed y hy := by
    rw [h.live] at hy
    cases hy
  validated c dlqId requestId evidence he := absurd he (h.replay c dlqId requestId evidence)

/-- What is added to the live stream is no replay, or is the replay of a request
that waits for the script. -/
theorem Effect.log_cases {r : Redis} (h : q.Effect r) {y : StreamId × Fields}
    (hy : y ∈ r.live.log) :
    y ∈ q.redis.live.log ∨ replayContext y.2 = none ∨ (∀ key, carries key y.2 = false) ∨
      ∃ c dlqId requestId evidence, q.replay c = .validated dlqId requestId evidence ∧
        y.2.lookup "payload" = some (modelDumpJson evidence.job) := by
  obtain ⟨id, f⟩ := y
  cases h with
  | quiet hl _ _ _ => exact .inl (hl ▸ hy)
  | enqueued _ hnone =>
      simp only [Redis.enqueueJob, hnone] at hy
      rcases EntryStream.mem_log_add.mp hy with hy | ⟨-, rfl⟩
      · exact .inl hy
      · exact .inr (.inl rfl)
  | published hp _ =>
      rcases EntryStream.mem_log_add.mp hy with hy | ⟨-, rfl⟩
      · exact .inl hy
      · refine .inr (.inr (.inl fun key => ?_))
        rw [Bool.eq_false_iff]
        intro hc
        obtain ⟨job, hj, -⟩ := carries_iff.mp hc
        cases hp.symm.trans hj
  | expired => exact .inl hy
  | touched _ _ _ _ _ _ hl => exact .inl (hl ▸ hy)
  | removed _ _ _ _ _ _ _ hl =>
      rw [hl] at hy
      exact .inl hy
  | replayed hp _ =>
      rcases EntryStream.mem_log_add.mp hy with hy | ⟨-, rfl⟩
      · exact .inl hy
      · exact .inr (.inr (.inr ⟨_, _, _, _, hp, rfl⟩))
  | @purged cutoff limit =>
      exact .inl ((Redis.purgeBatch_live (r := q.redis) cutoff limit).1 ▸ hy)

/-- What is added to the live stream is there. -/
theorem Effect.log_new {r : Redis} (h : q.Effect r) {y : StreamId × Fields}
    (hy : y ∈ r.live.log) : y ∈ q.redis.live.log ∨ y ∈ r.live.entries := by
  have hadd : ∀ {now fields}, y ∈ (q.redis.live.add now fields).2.log →
      y ∈ q.redis.live.log ∨ y ∈ (q.redis.live.add now fields).2.entries := by
    intro now fields hy
    rcases EntryStream.mem_log_add.mp hy with hy | hnew
    · exact .inl hy
    · exact .inr (EntryStream.mem_entries_add.mpr (.inr hnew))
  cases h with
  | quiet hl _ _ _ => exact .inl (hl ▸ hy)
  | enqueued _ hnone =>
      simp only [Redis.enqueueJob, hnone] at hy ⊢
      exact hadd hy
  | published => exact hadd hy
  | expired => exact .inl hy
  | touched _ _ _ _ _ _ hl => exact .inl (hl ▸ hy)
  | removed _ _ _ _ _ _ _ hl =>
      rw [hl] at hy
      exact .inl hy
  | replayed => exact hadd hy
  | @purged cutoff limit =>
      exact .inl ((Redis.purgeBatch_live (r := q.redis) cutoff limit).1 ▸ hy)

theorem Evidenced.step (hjson : JsonInverse) (hreg : q.Regular) (h : q.Evidenced)
    (hs : Stepped q a q') (hkeep : q.KeepsDeadLetters a) : q'.Evidenced := by
  refine ⟨fun y hy key hc hreplay => ?_, fun c dlqId requestId evidence he => ?_⟩
  · rcases hs.effect.log_cases hy with hy | hnone | hno | ⟨c, dlqId, requestId, evidence, he, hp⟩
    · exact hs.deadLettered hkeep (h.replayed y hy key hc hreplay)
    · exact absurd hnone hreplay
    · cases (hno key).symm.trans hc
    · obtain ⟨hd, raw, hraw⟩ := h.validated c dlqId requestId evidence he
      rw [← carries_dump (hjson.job raw _ hraw).2 hp hc]
      exact hs.deadLettered hkeep hd
  · rcases hs.validated_cases he with he | ⟨-, fields, hentry, hev⟩
    · obtain ⟨hd, hraw⟩ := h.validated c dlqId requestId evidence he
      exact ⟨hs.deadLettered hkeep hd, hraw⟩
    · obtain ⟨i, -, hget⟩ := Option.bind_eq_some_iff.mp hentry
      have hmem := (EntryStream.get?_iff hreg.dlq).mp hget
      exact ⟨⟨_, hs.dlq_mono hkeep hmem, evidence, hev, rfl⟩, decodeDlqEvidence_validate hev⟩

end Queue

end FreightAP
