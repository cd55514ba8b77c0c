import FreightAP.Queue.Replay

/-!
# One live entry for each job

Within the TTL of a job's dedupe key `enqueue_job` adds one entry, and the
script refuses a replay while another replay of the same dead-letter entry is
under way.  But a replay that is dead-lettered leaves a second dead-letter entry
of the same job, and the script does not look beyond its own.

`oneJob_iff`: this is the only way in which a job comes to be in the stream
twice.
-/

namespace FreightAP

open Transition

namespace Queue

variable [QueueRuntime] (maxAttempts : Nat)

open QueueRuntime

/-- A key is carried by one entry of the live stream at most. -/
def OneJob (q : Queue) : Prop :=
  ∀ key, (q.redis.live.entries.filter fun x => carries key x.2).length ≤ 1

/-- A replay adds an entry only while no entry of the live stream carries its
job. -/
def JobAbsent (q : Queue) : QueueAction → Prop
  | .evaluate c _ _ => ∀ call ∈ (q.replay c).validated?,
      q.redis.Replayable call.1 call.2.1 call.2.2.originalFieldsJson →
      ∀ x ∈ q.redis.live.entries, carries call.2.2.job.idempotencyKey x.2 = false
  | _ => True

instance (q : Queue) : (a : QueueAction) → Decidable (q.JobAbsent a)
  | .evaluate c _ _ =>
      inferInstanceAs (Decidable (∀ call ∈ (q.replay c).validated?, _ → ∀ x ∈ _, _))
  | .enqueue _ _ | .publish _ _ | .expire _ | .read _ | .reclaim _ _ | .count _ | .parse _
  | .mark _ _ | .finish _ _ | .heartbeat _ | .recordFailure _ _ | .markFailed _
  | .deadLetter _ _ _ | .acknowledge _ _ | .abandon _ | .request _ _ _ | .giveUp _
  | .purge _ _ => .isTrue trivial

/-- A step within the TTL of the dedupe keys. -/
def stepWithinTtl (q : Queue) : QueueAction → Option Queue
  | .expire _ => none
  | a => q.step maxAttempts a

/-- Every job that is anywhere in the queue has its dedupe key. -/
structure Deduped (q : Queue) : Prop where
  log : ∀ x ∈ q.redis.live.log, ∀ key, carries key x.2 = true → q.redis.dedupe key ≠ none
  dead : ∀ x ∈ q.redis.dlq.entries, ∀ evidence, decodeDlqEvidence x.2 = .ok evidence →
    q.redis.dedupe evidence.job.idempotencyKey ≠ none
  validated : ∀ c dlqId requestId evidence, q.replay c = .validated dlqId requestId evidence →
    q.redis.dedupe evidence.job.idempotencyKey ≠ none ∧
      ∃ raw, modelValidate raw = .ok evidence.job

section

variable {maxAttempts} {q q' : Queue} {a : QueueAction} {r : Redis} {key : String}
  {fields : Fields} {job : InvoiceJobEnvelope}

theorem carries_iff : carries key fields = true ↔
    ∃ job, parseDelivery fields = .ok job ∧ job.idempotencyKey = key := by
  unfold carries
  cases parseDelivery fields with
  | error message => exact ⟨fun h => (by cases h), fun ⟨job, h, _⟩ => (by cases h)⟩
  | ok job =>
      rw [decide_eq_true_iff]
      exact ⟨fun h => ⟨job, rfl, h⟩, fun ⟨job', h, hk⟩ => (by cases h; exact hk)⟩

/-- A payload that dumps a job carries no other key. -/
theorem carries_dump (hv : modelValidate (modelDumpJson job) = .ok job)
    (hf : fields.lookup "payload" = some (modelDumpJson job)) (h : carries key fields = true) :
    job.idempotencyKey = key := by
  obtain ⟨job', hp, hk⟩ := carries_iff.mp h
  unfold parseDelivery at hp
  simp only [hf, hv] at hp
  split at hp
  · cases hp
  · cases hp
  · cases hp
    exact hk

theorem validJob_iff : validJob job = true ↔ modelValidate (modelDumpJson job) = .ok job := by
  unfold validJob
  cases modelValidate (modelDumpJson job) with
  | error message => exact ⟨fun h => (by cases h), fun h => (by cases h)⟩
  | ok job' =>
      rw [decide_eq_true_iff]
      exact ⟨fun h => h ▸ rfl, fun h => Except.ok.inj h⟩

/-- The job of evidence was validated. -/
theorem decodeDlqEvidence_validate {dl : DeadLetterFields} {evidence : DecodedDLQEvidence}
    (h : decodeDlqEvidence dl = .ok evidence) : ∃ raw, modelValidate raw = .ok evidence.job := by
  unfold decodeDlqEvidence at h
  split at h
  · cases h
  · split at h
    · cases h
    · cases h
    · split at h
      · cases h
      · split at h
        · cases h
        next job hp =>
          cases h
          exact parseDelivery_validate hp

/-! ## The dedupe keys -/

/-- An effect that keeps the dedupe keys covers what it adds. -/
theorem Effect.deduped (hjson : JsonInverse) (hreg : q.Regular) (h : q.Deduped) (he : q.Effect r)
    (hkeys : ∀ key, q.redis.dedupe key ≠ none → r.dedupe key ≠ none) :
    (∀ x ∈ r.live.log, ∀ key, carries key x.2 = true → r.dedupe key ≠ none) ∧
      ∀ x ∈ r.dlq.entries, ∀ evidence, decodeDlqEvidence x.2 = .ok evidence →
        r.dedupe evidence.job.idempotencyKey ≠ none := by
  have hlog : ∀ x ∈ q.redis.live.log, ∀ key, carries key x.2 = true → r.dedupe key ≠ none :=
    fun x hx key hc => hkeys key (h.log x hx key hc)
  have hdead : ∀ x ∈ q.redis.dlq.entries, ∀ evidence, decodeDlqEvidence x.2 = .ok evidence →
      r.dedupe evidence.job.idempotencyKey ≠ none :=
    fun x hx evidence hd => hkeys _ (h.dead x hx evidence hd)
  cases he with
  | quiet hl hd _ _ => exact ⟨hl ▸ hlog, hd ▸ hdead⟩
  | @enqueued job now hv hnone =>
      simp only [Redis.enqueueJob, hnone] at hlog hdead ⊢
      refine ⟨?_, hdead⟩
      rintro ⟨id, f⟩ hx key hc
      rcases EntryStream.mem_log_add.mp hx with hx | ⟨-, rfl⟩
      · exact hlog _ hx key hc
      · rw [← carries_dump (validJob_iff.mp hv) rfl hc, Function.update_self]
        exact Option.some_ne_none _
  | published hp _ =>
      refine ⟨?_, hdead⟩
      rintro ⟨id, f⟩ hx key hc
      rcases EntryStream.mem_log_add.mp hx with hx | ⟨-, rfl⟩
      · exact hlog _ hx key hc
      · obtain ⟨job, hj, -⟩ := carries_iff.mp hc
        cases hp.symm.trans hj
  | expired => exact ⟨hlog, hdead⟩
  | touched _ _ _ _ _ _ hl hd _ _ => exact ⟨hl ▸ hlog, hd ▸ hdead⟩
  | @removed c d state status clock _ hentry _ hl hd _ _ =>
      refine ⟨hl ▸ hlog, ?_⟩
      rcases hd with hd | ⟨now, reason, hd⟩
      · exact hd ▸ hdead
      · rw [hd]
        rintro ⟨id, x⟩ hx evidence hev
        rcases EntryStream.mem_entries_add.mp hx with hx | ⟨-, rfl⟩
        · exact hdead _ hx evidence hev
        · have hp := decodeDlqEvidence_dumps hjson rfl hev
          exact hlog _ (hreg.held c _ hentry) _ (carries_iff.mpr ⟨_, hp, rfl⟩)
  | @replayed c dlqId requestId evidence clock now hp _ =>
      refine ⟨?_, hdead⟩
      rintro ⟨id, f⟩ hx key hc
      rcases EntryStream.mem_log_add.mp hx with hx | ⟨-, rfl⟩
      · exact hlog _ hx key hc
      · obtain ⟨hkey, raw, hraw⟩ := h.validated c dlqId requestId evidence hp
        rw [← carries_dump (hjson.job raw _ hraw).2 rfl hc]
        exact hkeys _ hkey
  | @purged cutoff limit =>
      obtain ⟨hl, -, -⟩ := Redis.purgeBatch_live (r := q.redis) cutoff limit
      obtain ⟨hsub, -, -⟩ := purgeBatch_dlq (r := q.redis) cutoff limit
      exact ⟨hl ▸ hlog, fun x hx => hdead x (hsub x hx)⟩

/-- Within the TTL no dedupe key goes away. -/
theorem Stepped.dedupe (hs : Stepped q a q') (hne : ∀ key, a ≠ .expire key) {key : String}
    (hk : q.redis.dedupe key ≠ none) : q'.redis.dedupe key ≠ none := by
  cases hs with
  | @enqueued job now hv hnone =>
      simp only [Redis.enqueueJob, hnone, write]
      by_cases hj : key = job.idempotencyKey
      · subst hj
        rw [Function.update_self]
        exact Option.some_ne_none _
      · rw [Function.update_of_ne hj]
        exact hk
  | expired => exact absurd rfl (hne _)
  | marked => exact (congrFun Redis.hsetAction_dedupe key).trans_ne hk
  | recordFailure => exact (congrFun Redis.hsetAction_dedupe key).trans_ne hk
  | deadLetter => exact (congrFun Redis.hsetAction_dedupe key).trans_ne hk
  | acknowledge => exact (congrFun Redis.hsetAction_dedupe key).trans_ne hk
  | @purged cutoff limit =>
      obtain ⟨-, -, hd⟩ := Redis.purgeBatch_live (r := q.redis) cutoff limit
      exact (congrFun hd key).trans_ne hk
  | _ => exact hk

/-- Every step within the TTL keeps the jobs covered. -/
theorem Deduped.step (hjson : JsonInverse) (hreg : q.Regular) (h : q.Deduped) (hs : Stepped q a q')
    (hne : ∀ key, a ≠ .expire key) : q'.Deduped := by
  have hkeys : ∀ key, q.redis.dedupe key ≠ none → q'.redis.dedupe key ≠ none :=
    fun key hk => hs.dedupe hne hk
  obtain ⟨hlog, hdead⟩ := hs.effect.deduped hjson hreg h hkeys
  refine ⟨hlog, hdead, fun c dlqId requestId evidence hc => ?_⟩
  rcases hs.validated_cases hc with hc | ⟨-, fields, hentry, hev⟩
  · obtain ⟨hkey, hraw⟩ := h.validated c dlqId requestId evidence hc
    exact ⟨hkeys _ hkey, hraw⟩
  · obtain ⟨i, -, hget⟩ := Option.bind_eq_some_iff.mp hentry
    have hmem := (EntryStream.get?_iff hreg.dlq).mp hget
    exact ⟨hkeys _ (h.dead _ hmem evidence hev), decodeDlqEvidence_validate hev⟩

theorem empty_deduped : empty.Deduped where
  log x hx := by cases hx
  dead x hx := by cases hx
  validated c dlqId requestId evidence hc := by cases hc

/-! ## One entry -/

/-- A step that keeps the entries, or takes some away. -/
theorem OneJob.sublist (h : q.OneJob)
    (hsub : q'.redis.live.entries.Sublist q.redis.live.entries) : q'.OneJob :=
  fun key => (List.Sublist.length_le (hsub.filter _)).trans (h key)

/-- An added entry is no second one when no entry carries its job. -/
theorem OneJob.add_iff (h : q.OneJob) {now : Nat}
    (hlive : q'.redis.live = (q.redis.live.add now fields).2) :
    q'.OneJob ↔ ∀ key, carries key fields = true →
      ∀ x ∈ q.redis.live.entries, carries key x.2 = false := by
  unfold OneJob
  rw [hlive]
  exact forall_congr' fun key => Table.length_filter_concat (h key)

/-- A step keeps a job from being in the stream twice exactly if it is no replay
of a job that is there. -/
theorem Stepped.keeps_oneJob (hjson : JsonInverse) (hreg : q.Regular) (hd : q.Deduped) (h : q.OneJob)
    (hs : Stepped q a q') : q'.OneJob ↔ q.JobAbsent a := by
  have hsame : ∀ {q' : Queue}, q'.redis.live = q.redis.live → q'.OneJob := fun hl =>
    h.sublist (by rw [hl])
  have hdel : ∀ {q' : Queue} {id : StreamId}, q'.redis.live = q.redis.live.del id → q'.OneJob :=
    fun hl => h.sublist (by rw [hl]; exact List.filter_sublist)
  cases hs with
  | @enqueued job now hv hnone =>
      have hlive : (q.write (q.redis.enqueueJob job now).2).redis.live =
          (q.redis.live.add now [("payload", modelDumpJson job)]).2 := by
        simp only [Redis.enqueueJob, hnone, write]
      refine iff_of_true ((h.add_iff hlive).mpr fun key hc x hx => ?_) trivial
      rw [← carries_dump (validJob_iff.mp hv) rfl hc, Bool.eq_false_iff]
      exact fun hx' => hd.log x (hreg.live.mem_log hx) _ hx' hnone
  | published hp _ =>
      refine iff_of_true ((h.add_iff rfl).mpr fun key hc => ?_) trivial
      obtain ⟨job, hj, -⟩ := carries_iff.mp hc
      cases hp.symm.trans hj
  | marked => exact iff_of_true (hsame Redis.hsetAction_live) trivial
  | recordFailure => exact iff_of_true (hsame Redis.hsetAction_live) trivial
  | deadLetter => exact iff_of_true (hdel Redis.hsetAction_live) trivial
  | acknowledge => exact iff_of_true (hdel Redis.hsetAction_live) trivial
  | @created c dlqId requestId evidence clock now hp hr =>
      obtain ⟨-, raw, hraw⟩ := hd.validated c dlqId requestId evidence hp
      have hcarries : ∀ key, carries key (Redis.replayFields (modelDumpJson evidence.job) dlqId
          requestId) = true ↔ evidence.job.idempotencyKey = key := by
        intro key
        have hparse := parseDelivery_dump hjson hraw (f := Redis.replayFields
          (modelDumpJson evidence.job) dlqId requestId) rfl
        rw [carries_iff]
        constructor
        · rintro ⟨job, hj, hk⟩
          cases hparse.symm.trans hj
          exact hk
        · exact fun hk => ⟨_, hparse, hk⟩
      rw [h.add_iff rfl]
      simp only [hcarries, forall_eq']
      show _ ↔ ∀ call ∈ (q.replay c).validated?, _
      rw [hp]
      constructor
      · rintro hall call ⟨⟩ _
        exact hall
      · exact fun hg => hg _ rfl hr
  | @existing c dlqId requestId evidence clock now answer hp _ _ hid =>
      refine iff_of_true (hsame rfl) fun call hc hr => ?_
      rw [hp] at hc
      cases hc
      cases hid.symm.trans hr.new
  | refused hp hn =>
      refine iff_of_true (hsame rfl) fun call hc hr => ?_
      rw [hp] at hc
      cases hc
      exact absurd hr hn
  | @purged cutoff limit =>
      exact iff_of_true (hsame (Redis.purgeBatch_live cutoff limit).1) trivial
  | _ => exact iff_of_true (hsame rfl) trivial

theorem stepWithinTtl_cases (h : q.stepWithinTtl maxAttempts a = some q') :
    Stepped q a q' ∧ ∀ key, a ≠ .expire key := by
  cases a with
  | expire key => cases h
  | _ => exact ⟨step_cases maxAttempts h, fun key e => by cases e⟩

end

/-- Within the TTL of the dedupe keys, a job is in the live stream once in
every state of a run exactly if no replay of the run adds an entry for a job
that is in the stream. -/
theorem oneJob_iff (hjson : JsonInverse) {as : List QueueAction} {q : Queue}
    (h : Run (Fires (stepWithinTtl maxAttempts)) .empty as q) :
    Always (stepWithinTtl maxAttempts) OneJob .empty as ↔
      Run (Guarded JobAbsent (Fires (stepWithinTtl maxAttempts))) .empty as q := by
  refine always_iff_guarded (fun q => q.Regular ∧ q.Deduped) h
    ⟨empty_start.regular, empty_deduped⟩ (fun key => Nat.zero_le 1) ?_
  rintro t a u ⟨hreg, hd⟩ hs
  obtain ⟨hs, hne⟩ := stepWithinTtl_cases hs
  exact ⟨⟨hreg.step hs, hd.step hjson hreg hs hne⟩, fun hone => hs.keeps_oneJob hjson hreg hd hone⟩

/-- A job is dead-lettered, and so is its replay; then both dead-letter entries
are replayed. -/
def replayedTwice : List QueueAction :=
  [.enqueue (sampleJob 'a') 1, .read 0, .parse 0, .finish 0 (.raised "timeout"), .markFailed 0,
   .deadLetter 0 2 2, .request 0 "2-0" sampleRequest, .evaluate 0 3 3, .read 1, .parse 1, .mark 1 3,
   .finish 1 (.raised "timeout"), .markFailed 1, .deadLetter 1 4 4,
   .request 1 "2-0" "7c1e6a52-31d4-4b0e-8a53-5f8f6f0f2b11", .evaluate 1 5 5,
   .request 2 "4-0" "d9f0c7a4-0b6d-4f25-b1d9-0e6a4f1c9a22", .evaluate 2 6 6]

omit [QueueRuntime] in
/-- Two entries of the live stream carry one job. -/
theorem replayedTwice_twoJobs :
    letI := flatRuntime
    ∃ q, Run (Fires (stepWithinTtl 1)) .empty replayedTwice q ∧ ¬q.OneJob := by
  rw [flatRuntime_eq]
  let _ := quickRuntime
  have hdata : (exec (stepWithinTtl 1) .empty replayedTwice).any (fun q =>
      (q.redis.live.entries.filter fun x => carries (sampleKey 'a') x.2).length = 2) = true := by
    decide +kernel
  obtain ⟨q, hq, hdata⟩ := (Option.any_eq_true _ _).mp hdata
  refine ⟨q, run_of_exec hq, fun hone => ?_⟩
  have hle := hone (sampleKey 'a')
  rw [of_decide_eq_true hdata] at hle
  exact absurd hle (by decide)

omit [QueueRuntime] in
/-- One replay is no second entry. -/
theorem replayedJob_oneJob :
    letI := flatRuntime
    Always (stepWithinTtl 1) OneJob .empty replayedJob := by
  rw [flatRuntime_eq]
  let _ := quickRuntime
  have hsome : (exec (fun q a => if JobAbsent q a then stepWithinTtl 1 q a else none) .empty
      replayedJob).isSome = true := by
    decide +kernel
  obtain ⟨q, hrun, hguarded⟩ := guarded_of_exec hsome
  exact (oneJob_iff 1 quickRuntime_inverse hrun).mpr hguarded

end Queue

end FreightAP
