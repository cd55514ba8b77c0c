import FreightAP.Queue.FlatRuntime
import FreightAP.Queue.Paging
import FreightAP.Queue.Purge
import FreightAP.Queue.Replay

/-!
# Hashes without an entry

A replay hash belongs to the entry of the dead-letter stream that names it, and
a retry hash to an entry of the live stream or to a dead-letter entry made of
it.  Several commands write a hash without looking at its entry, and `acknowledge`
deletes an entry without its retry hash.  `Tidy` says of each step when that
leaves no hash behind, and the hashes of a run have their entries exactly as
long as its steps are tidy (`noOrphans_iff`).
-/

namespace FreightAP

open Transition

namespace Redis

/-- A dead-letter entry was made of a live entry. -/
def DeadLetterOf (r : Redis) (streamId : StreamId) : Prop :=
  ∃ e ∈ r.dlq.entries, e.2.originalStreamId = some streamId

/-- A live entry is there, or a dead-letter entry made of it. -/
def Owned (r : Redis) (streamId : StreamId) : Prop :=
  (∃ x ∈ r.live.entries, x.1 = streamId) ∨ r.DeadLetterOf streamId

/-- The dead-letter entry that a delivery replays is there. -/
def Retains (r : Redis) (fields : Fields) : Prop :=
  ∀ context ∈ replayContext fields, Queue.retained r.dlq context.1 = true

/-- Every hash has its entry. -/
structure NoOrphans (r : Redis) : Prop where
  replay : ∀ dlqId, r.replays dlqId ≠ .empty → Queue.retained r.dlq dlqId = true
  retry : ∀ streamId, r.failures streamId ≠ none → r.Owned streamId

/-- Every replay hash was made by a replay. -/
def Replayed (r : Redis) : Prop :=
  ∀ dlqId, r.replays dlqId ≠ .empty →
    ∃ x ∈ r.live.log, x.2.lookup "replay_dlq_id" = some dlqId

instance (r : Redis) (streamId : StreamId) : Decidable (r.DeadLetterOf streamId) :=
  inferInstanceAs (Decidable (∃ e ∈ r.dlq.entries, _))

instance (r : Redis) (streamId : StreamId) : Decidable (r.Owned streamId) :=
  inferInstanceAs (Decidable (_ ∨ _))

instance (r : Redis) (fields : Fields) : Decidable (r.Retains fields) :=
  inferInstanceAs (Decidable (∀ context ∈ replayContext fields, _))

section

variable {r r' : Redis} {d : StreamDelivery} {state : ReplayState}
  {status : Option ProcessingStatus} {clock : Int} {dlqId : String}

@[simp] theorem hsetAction_failures : (r.hsetAction d state status clock).failures = r.failures := by
  rw [hsetAction_eq]

/-- The hash that a worker writes is there. -/
theorem hsetAction_ne_empty {requestId : String}
    (h : replayContext d.fields = some (dlqId, requestId)) :
    (r.hsetAction d state status clock).replays dlqId ≠ .empty := by
  intro hempty
  have hstate := (hsetAction_written (r := r) (d := d) state status clock dlqId).here requestId h
  rw [hempty] at hstate
  cases hstate

/-- The hash that a worker writes, or one that was there. -/
theorem hsetAction_cases (h : (r.hsetAction d state status clock).replays dlqId ≠ .empty) :
    r.replays dlqId ≠ .empty ∨ ∃ requestId, replayContext d.fields = some (dlqId, requestId) := by
  by_cases hc : ∃ requestId, replayContext d.fields = some (dlqId, requestId)
  · exact .inr hc
  · rw [hsetAction_of_ne fun requestId h => hc ⟨requestId, h⟩] at h
    exact .inl h

/-- A worker that writes a hash leaves no orphan exactly if the dead-letter
entry it replays is there. -/
theorem NoOrphans.hset_iff (h : r.NoOrphans) (r' : Redis)
    (hreplays : r'.replays = (r.hsetAction d state status clock).replays)
    (hmono : ∀ dlqId, Queue.retained r.dlq dlqId = true → Queue.retained r'.dlq dlqId = true)
    (hcontext : ∀ context ∈ replayContext d.fields, Queue.retained r'.dlq context.1 = true →
      Queue.retained r.dlq context.1 = true) :
    (∀ dlqId, r'.replays dlqId ≠ .empty → Queue.retained r'.dlq dlqId = true) ↔ r.Retains d.fields := by
  constructor
  · rintro hall ⟨dlqId, requestId⟩ hc
    apply hcontext _ hc
    apply hall
    rw [hreplays]
    exact hsetAction_ne_empty hc
  · intro hretains dlqId hne
    rw [hreplays] at hne
    rcases hsetAction_cases hne with hold | ⟨requestId, hc⟩
    · exact hmono dlqId (h.replay dlqId hold)
    · exact hmono dlqId (hretains (dlqId, requestId) hc)

/-- Live entries are added. -/
theorem NoOrphans.grow (h : r.NoOrphans) (hlive : ∀ x ∈ r.live.entries, x ∈ r'.live.entries)
    (hdlq : r'.dlq = r.dlq) (hreplays : r'.replays = r.replays)
    (hfailures : r'.failures = r.failures) : r'.NoOrphans where
  replay dlqId hne := by
    rw [hreplays] at hne
    rw [hdlq]
    exact h.replay dlqId hne
  retry streamId hne := by
    rw [hfailures] at hne
    rcases h.retry streamId hne with ⟨x, hx, hid⟩ | ⟨e, he, hid⟩
    · exact .inl ⟨x, hlive x hx, hid⟩
    · exact .inr ⟨e, hdlq ▸ he, hid⟩

/-! ## Commands -/

theorem NoOrphans.mark_iff (h : r.NoOrphans) :
    (r.recordReplayProcessing d clock).NoOrphans ↔ r.Retains d.fields := by
  have hiff := h.hset_iff (r.recordReplayProcessing d clock) (rfl : _ = (r.hsetAction d ..).replays)
    (fun _ hret => by simpa [recordReplayProcessing] using hret)
    (fun _ _ hret => by simpa [recordReplayProcessing] using hret)
  rw [← hiff]
  constructor
  · intro h'
    exact h'.replay
  · intro hreplay
    refine ⟨hreplay, ?_⟩
    intro streamId hne
    have howned := h.retry streamId (by simpa [recordReplayProcessing] using hne)
    simpa [Owned, DeadLetterOf, recordReplayProcessing] using howned

theorem NoOrphans.recordFailure_iff (h : r.NoOrphans) {reason : String} :
    (r.recordFailure d reason clock).NoOrphans ↔ r.Owned d.streamId ∧ r.Retains d.fields := by
  have hreplays : (r.recordFailure d reason clock).replays =
      (r.hsetAction d .retrying none clock).replays := hsetAction_replays rfl
  have hiff := h.hset_iff (r.recordFailure d reason clock) hreplays
    (fun _ hret => by simpa [recordFailure] using hret)
    (fun _ _ hret => by simpa [recordFailure] using hret)
  have howns : ∀ streamId, (r.recordFailure d reason clock).Owned streamId ↔ r.Owned streamId := by
    intro streamId
    simp [Owned, DeadLetterOf, recordFailure]
  rw [← hiff]
  constructor
  · intro h'
    have hretry := h'.retry d.streamId (by simp [recordFailure])
    exact ⟨(howns _).mp hretry, h'.replay⟩
  · rintro ⟨howned, hreplay⟩
    refine ⟨hreplay, ?_⟩
    intro streamId hne
    rw [howns]
    by_cases hid : streamId = d.streamId
    · exact hid ▸ howned
    · apply h.retry
      simpa [recordFailure, Function.update_of_ne hid] using hne

theorem NoOrphans.acknowledge_iff (h : r.NoOrphans) {workflow : ProcessingStatus} :
    (r.acknowledge d workflow clock).NoOrphans ↔
      (r.failures d.streamId = none ∨ r.DeadLetterOf d.streamId) ∧ r.Retains d.fields := by
  have hreplays : (r.acknowledge d workflow clock).replays =
      (r.hsetAction d .acknowledged (some workflow) clock).replays := hsetAction_replays rfl
  have hiff := h.hset_iff (r.acknowledge d workflow clock) hreplays
    (fun _ hret => by simpa [acknowledge, remove] using hret)
    (fun _ _ hret => by simpa [acknowledge, remove] using hret)
  have hfailures : (r.acknowledge d workflow clock).failures = r.failures := by
    simp [acknowledge, remove]
  have howns : ∀ streamId, (r.acknowledge d workflow clock).Owned streamId ↔
      (∃ x ∈ r.live.entries, x.1 = streamId ∧ x.1 ≠ d.streamId) ∨ r.DeadLetterOf streamId := by
    intro streamId
    have hlive : (r.acknowledge d workflow clock).live = r.live.del d.streamId := by
      simp [acknowledge, remove]
    have hdlq : (r.acknowledge d workflow clock).dlq = r.dlq := by
      simp [acknowledge, remove]
    rw [Owned, DeadLetterOf, hlive, hdlq]
    simp only [EntryStream.del, List.mem_filter, decide_eq_true_eq, DeadLetterOf, and_assoc,
      and_comm]
  rw [← hiff]
  constructor
  · intro h'
    refine ⟨?_, h'.replay⟩
    rw [or_iff_not_imp_left]
    intro hne
    rcases (howns _).mp (h'.retry d.streamId (hfailures ▸ hne)) with ⟨x, -, hid, hother⟩ | hdead
    · exact absurd hid hother
    · exact hdead
  · rintro ⟨hretry, hreplay⟩
    refine ⟨hreplay, ?_⟩
    intro streamId hne
    rw [hfailures] at hne
    rw [howns]
    by_cases hid : streamId = d.streamId
    · subst hid
      exact .inr (hretry.resolve_left hne)
    · rcases h.retry streamId hne with ⟨x, hx, rfl⟩ | hdead
      · exact .inl ⟨x, hx, rfl, hid⟩
      · exact .inr hdead

theorem NoOrphans.deadLetter_iff [QueueRuntime] (h : r.NoOrphans) {reason : String} {now : Nat}
    (hmono : ∀ dlqId, Queue.retained r.dlq dlqId = true →
      Queue.retained (r.dlq.add now (deadLetterFields d reason clock)).2 dlqId = true)
    (hcontext : ∀ context ∈ replayContext d.fields,
      Queue.retained (r.dlq.add now (deadLetterFields d reason clock)).2 context.1 = true →
        Queue.retained r.dlq context.1 = true) :
    (r.deadLetter d reason clock now).NoOrphans ↔ r.Retains d.fields := by
  have hreplays : (r.deadLetter d reason clock now).replays =
      (r.hsetAction d .deadLettered (some .failed) clock).replays := hsetAction_replays rfl
  have hdlq : (r.deadLetter d reason clock now).dlq =
      (r.dlq.add now (deadLetterFields d reason clock)).2 := by
    simp [deadLetter, remove]
  have hiff := h.hset_iff (r.deadLetter d reason clock now) hreplays
    (fun _ hret => by
      rw [hdlq]
      exact hmono _ hret)
    (fun _ hc hret => hcontext _ hc (by rwa [hdlq] at hret))
  rw [← hiff]
  constructor
  · intro h'
    exact h'.replay
  · intro hreplay
    refine ⟨hreplay, ?_⟩
    intro streamId hne
    have hfailures : r.failures streamId ≠ none := by simpa [deadLetter, remove] using hne
    have hlive : (r.deadLetter d reason clock now).live = r.live.del d.streamId := by
      simp [deadLetter, remove]
    rw [Owned, DeadLetterOf, hdlq, hlive]
    -- The new dead-letter entry takes over the retry hash of the entry that goes.
    by_cases hid : streamId = d.streamId
    · subst hid
      exact .inr ⟨_, EntryStream.mem_entries_add.mpr (.inr ⟨rfl, rfl⟩), rfl⟩
    · rcases h.retry streamId hfailures with ⟨x, hx, rfl⟩ | ⟨e, he, horiginal⟩
      · exact .inl ⟨x, EntryStream.mem_entries_del.mpr ⟨hx, hid⟩, rfl⟩
      · exact .inr ⟨e, EntryStream.mem_entries_add.mpr (.inl he), horiginal⟩

theorem NoOrphans.createReplay (h : r.NoOrphans) (hret : Queue.retained r.dlq dlqId = true)
    (requestId payload : String) (requestedAt : Int) (now : Nat) :
    (r.createReplay dlqId requestId payload requestedAt now).2.NoOrphans where
  replay key hne := by
    by_cases hkey : key = dlqId
    · exact hkey ▸ hret
    · apply h.replay key
      intro hempty
      exact hne ((Function.update_of_ne hkey ..).trans hempty)
  retry streamId hne := by
    rcases h.retry streamId hne with ⟨x, hx, hid⟩ | hdead
    · exact .inl ⟨x, EntryStream.mem_entries_add.mpr (.inl hx), hid⟩
    · exact .inr hdead

end

end Redis

namespace Queue

variable [QueueRuntime]

open QueueRuntime

/-- A step leaves no hash without its entry: a worker writes the hash of a replay
while the dead-letter entry is there, and a retry hash while its entry is there;
an entry is acknowledged without a retry hash, or with a dead-letter entry made
of it; and the replays of a purged entry named it by the text of its id. -/
def Tidy (q : Queue) : QueueAction → Prop
  | .mark c _ => ∀ x ∈ (q.delivery c).held?, q.redis.Retains x.2
  | .recordFailure c _ => ∀ x ∈ (q.delivery c).held?, q.redis.Owned x.1 ∧ q.redis.Retains x.2
  | .deadLetter c _ _ => ∀ x ∈ (q.delivery c).held?, q.redis.Retains x.2
  | .acknowledge c _ => ∀ x ∈ (q.delivery c).held?,
      (q.redis.failures x.1 = none ∨ q.redis.DeadLetterOf x.1) ∧ q.redis.Retains x.2
  | .purge cutoff limit => ∀ e ∈ (q.redis.expired cutoff).take limit, ∀ x ∈ q.redis.live.log,
      ∀ dlqId ∈ x.2.lookup "replay_dlq_id", StreamId.parse dlqId = some e.1 → dlqId = e.1.text
  | _ => True

instance (q : Queue) : (a : QueueAction) → Decidable (q.Tidy a)
  | .mark c _ => inferInstanceAs (Decidable (∀ x ∈ (q.delivery c).held?, _))
  | .recordFailure c _ => inferInstanceAs (Decidable (∀ x ∈ (q.delivery c).held?, _ ∧ _))
  | .deadLetter c _ _ => inferInstanceAs (Decidable (∀ x ∈ (q.delivery c).held?, _))
  | .acknowledge c _ => inferInstanceAs (Decidable (∀ x ∈ (q.delivery c).held?, _ ∧ _))
  | .purge cutoff limit => inferInstanceAs (Decidable (∀ e ∈ (q.redis.expired cutoff).take limit,
      ∀ x ∈ q.redis.live.log, ∀ dlqId ∈ x.2.lookup "replay_dlq_id", _ → _))
  | .enqueue _ _ | .publish _ _ | .expire _ | .read _ | .reclaim _ _ | .count _ | .parse _
  | .finish _ _ | .heartbeat _ | .markFailed _ | .abandon _ | .request _ _ _ | .evaluate _ _ _
  | .giveUp _ => .isTrue trivial

section

variable {q q' : Queue} {a : QueueAction}

/-! ## Replay hashes come from replays -/

omit [QueueRuntime] in
/-- A worker writes the hash of a replay that was added. -/
theorem replayed_hset {r : Redis} {d : StreamDelivery} {state : ReplayState}
    {status : Option ProcessingStatus} {clock : Int} (h : q.redis.Replayed)
    (hd : (d.streamId, d.fields) ∈ q.redis.live.log)
    (hlog : ∀ x ∈ q.redis.live.log, x ∈ r.live.log)
    (hreplays : r.replays = (q.redis.hsetAction d state status clock).replays) : r.Replayed := by
  intro dlqId hne
  rw [hreplays] at hne
  rcases Redis.hsetAction_cases hne with hold | ⟨requestId, hc⟩
  · obtain ⟨x, hx, hlookup⟩ := h dlqId hold
    exact ⟨x, hlog x hx, hlookup⟩
  · exact ⟨_, hlog _ hd, (replayContext_lookup hc).1⟩

theorem Effect.replayed_step {r : Redis} (h : q.Effect r) (hreg : q.Regular)
    (hrep : q.redis.Replayed) : r.Replayed := by
  obtain ⟨-, -, hlog⟩ := h.streams hreg.live hreg.dlq
  have hsame : r.replays = q.redis.replays → r.Replayed := by
    intro hreplays dlqId hne
    rw [hreplays] at hne
    obtain ⟨x, hx, hlookup⟩ := hrep dlqId hne
    exact ⟨x, hlog x hx, hlookup⟩
  cases h with
  | quiet _ _ hreplays _ => exact hsame hreplays
  | enqueued _ hnone => exact hsame (by simp only [Redis.enqueueJob, hnone])
  | published => exact hsame rfl
  | expired => exact hsame rfl
  | touched c d state clock hheld _ _ _ hreplays _ =>
      exact replayed_hset hrep (hreg.held c _ hheld) hlog hreplays
  | removed c d state status clock hheld _ _ _ hreplays _ =>
      exact replayed_hset hrep (hreg.held c _ hheld) hlog hreplays
  | @replayed c dlqId requestId evidence clock now hp hr =>
      intro key hne
      by_cases hkey : key = dlqId
      · subst hkey
        exact ⟨_, EntryStream.mem_log_add.mpr (.inr ⟨rfl, rfl⟩), rfl⟩
      · have hne' : q.redis.replays key ≠ .empty := by
          intro hempty
          exact hne ((Function.update_of_ne hkey ..).trans hempty)
        obtain ⟨x, hx, hlookup⟩ := hrep key hne'
        exact ⟨x, hlog x hx, hlookup⟩
  | @purged cutoff limit =>
      intro dlqId hne
      have hne' : q.redis.replays dlqId ≠ .empty := fun hempty =>
        hne ((purgeBatch_retained cutoff limit hreg.dlq).2 dlqId hempty)
      obtain ⟨x, hx, hlookup⟩ := hrep dlqId hne'
      exact ⟨x, hlog x hx, hlookup⟩

/-! ## Steps -/

omit [QueueRuntime] in
/-- The replay that a delivery belongs to names an old id. -/
theorem ReplaySafe.context_le (hsafe : q.ReplaySafe) {c : Nat} {x : StreamId × Fields}
    (hheld : (q.delivery c).held? = some x) {context : String × String}
    (hc : context ∈ replayContext x.2) :
    ∃ i, StreamId.parse context.1 = some i ∧ i ≤ q.redis.dlq.lastId := by
  have hlookup := (replayContext_lookup (show replayContext x.2 = some (context.1, context.2)
    from hc)).1
  obtain ⟨-, i, -, hi, hle⟩ := hsafe.replays.known x (hsafe.regular.held c x hheld) _ hlookup
  exact ⟨i, hi, hle⟩

omit [QueueRuntime] in
/-- A dead-letter entry that is added is not the one that the delivery replays. -/
theorem ReplaySafe.retained_add (hsafe : q.ReplaySafe) {c : Nat} {x : StreamId × Fields}
    (hheld : (q.delivery c).held? = some x) {context : String × String}
    (hc : context ∈ replayContext x.2) {now : Nat} {fields : DeadLetterFields}
    (hret : retained (q.redis.dlq.add now fields).2 context.1 = true) :
    retained q.redis.dlq context.1 = true := by
  obtain ⟨i, y, hi, hy⟩ := (retained_iff (hsafe.regular.dlq.add now fields)).mp hret
  obtain ⟨j, hj, hle⟩ := hsafe.context_le hheld hc
  cases hi.symm.trans hj
  rcases EntryStream.mem_entries_add.mp hy with hy | ⟨hnew, -⟩
  · exact (retained_iff hsafe.regular.dlq).mpr ⟨i, y, hi, hy⟩
  · exact absurd hnew (ne_of_lt (hle.trans_lt (StreamId.lt_next ..)))

omit [QueueRuntime] in
theorem retained_mono {dlq dlq' : EntryStream DeadLetterFields} (h : dlq.Valid) (h' : dlq'.Valid)
    (hsub : ∀ e ∈ dlq.entries, e ∈ dlq'.entries) {dlqId : String}
    (hret : retained dlq dlqId = true) : retained dlq' dlqId = true := by
  obtain ⟨i, x, hi, hx⟩ := (retained_iff h).mp hret
  exact (retained_iff h').mpr ⟨i, x, hi, hsub _ hx⟩

omit [QueueRuntime] in
/-- A purge leaves the hash of an entry under another text of its id. -/
theorem purged_noOrphans_iff (hsafe : q.ReplaySafe) (hrep : q.redis.Replayed)
    (hordered : q.redis.dlq.Ordered) (hno : q.redis.NoOrphans) (cutoff : StreamId) (limit : Nat) :
    (q.redis.purgeBatch cutoff limit).NoOrphans ↔ q.Tidy (.purge cutoff limit) := by
  have hdlq := hsafe.regular.dlq
  obtain ⟨hpurged, -, -⟩ := @Redis.purgeBatch_spec _ cutoff hordered.sorted limit
  obtain ⟨-, -, hvalid⟩ := purgeBatch_dlq (r := q.redis) cutoff limit
  have htext : ∀ e ∈ (q.redis.expired cutoff).take limit, ∀ dlqId : String,
      e.1.text = dlqId → StreamId.parse dlqId = some e.1 := by
    intro e _ dlqId htext
    rw [← htext, StreamId.parse_text]
  constructor
  · intro hno' e he x hx dlqId hlookup hparse
    by_contra hne
    have hmem : e ∈ q.redis.dlq.entries := by
      rw [hpurged.entries]
      exact List.mem_append_left _ he
    have hret : retained q.redis.dlq dlqId = true :=
      (retained_iff hdlq).mpr ⟨e.1, e.2, hparse, hmem⟩
    have hcount := (hsafe.replays.hash dlqId hret).count
    have hthere : (q.redis.purgeBatch cutoff limit).replays dlqId ≠ .empty := by
      rw [hpurged.replays, if_neg]
      · intro hempty
        rw [hempty] at hcount
        have hlen : x ∈ q.redis.live.log.filter (replaysEntry dlqId) :=
          List.mem_filter.mpr ⟨hx, decide_eq_true hlookup⟩
        rw [List.length_eq_zero_iff.mp hcount.symm] at hlen
        cases hlen
      · rintro ⟨e', he', hkey⟩
        have hsame := Option.some.inj ((htext e' he' dlqId hkey).symm.trans hparse)
        exact hne (hkey.symm.trans (congrArg StreamId.text hsame))
    obtain ⟨i, y, hi, hy⟩ := (retained_iff (hvalid hdlq)).mp (hno'.replay dlqId hthere)
    cases hparse.symm.trans hi
    have hsorted := hordered.sorted
    rw [hpurged.entries, List.pairwise_append] at hsorted
    exact lt_irrefl _ (hsorted.2.2 e he (e.1, y) hy)
  · intro htidy
    constructor
    case replay =>
      intro dlqId hne
      rw [hpurged.replays] at hne
      split at hne
      next => exact absurd rfl hne
      next hkept =>
        obtain ⟨i, y, hi, hy⟩ := (retained_iff hdlq).mp (hno.replay dlqId hne)
        obtain ⟨x, hx, hlookup⟩ := hrep dlqId hne
        rw [hpurged.entries, List.mem_append] at hy
        rcases hy with hy | hy
        · exact absurd ⟨_, hy, (htidy _ hy x hx dlqId hlookup hi).symm⟩ hkept
        · exact (retained_iff (hvalid hdlq)).mpr ⟨i, y, hi, hy⟩
    case retry =>
      intro streamId hne
      rw [hpurged.failures] at hne
      split at hne
      next => exact absurd rfl hne
      next hkept =>
        rcases hno.retry streamId hne with ⟨x, hx, hid⟩ | ⟨e, he, horiginal⟩
        · exact .inl ⟨x, hpurged.rest.1 ▸ hx, hid⟩
        · rw [hpurged.entries, List.mem_append] at he
          rcases he with he | he
          · exact absurd ⟨e, he, horiginal⟩ hkept
          · exact .inr ⟨e, he, horiginal⟩

/-- A step leaves every hash with its entry exactly if it is tidy. -/
theorem Stepped.keeps_noOrphans_iff (hsafe : q.ReplaySafe) (hrep : q.redis.Replayed)
    (hordered : q.redis.dlq.Ordered) (h : Stepped q a q') (hno : q.redis.NoOrphans) :
    q'.redis.NoOrphans ↔ q.Tidy a := by
  have hdlq := hsafe.regular.dlq
  cases h with
  | @enqueued job now _ hnone =>
      refine iff_of_true (hno.grow ?_ ?_ ?_ ?_) trivial
      · intro x hx
        simp only [write, Redis.enqueueJob, hnone]
        exact EntryStream.mem_entries_add.mpr (.inl hx)
      all_goals simp only [write, Redis.enqueueJob, hnone]
  | published =>
      exact iff_of_true (hno.grow (fun x hx => EntryStream.mem_entries_add.mpr (.inl hx)) rfl rfl rfl)
        trivial
  | @marked c d job clock hp =>
      refine hno.mark_iff.trans ?_
      simp [Tidy, hp, DeliveryPhase.held?]
  | @recordFailure c d job reason clock hp =>
      refine hno.recordFailure_iff.trans ?_
      simp [Tidy, hp, DeliveryPhase.held?]
  | @deadLetter c d reason former clock now hheld _ =>
      refine (hno.deadLetter_iff ?_ ?_).trans ?_
      · intro dlqId hret
        exact retained_mono hdlq (hdlq.add _ _)
          (fun e he => EntryStream.mem_entries_add.mpr (.inl he)) hret
      · intro context hc hret
        exact hsafe.retained_add hheld hc hret
      · simp [Tidy, hheld]
  | @acknowledge c d job status clock hp =>
      refine hno.acknowledge_iff.trans ?_
      simp [Tidy, hp, DeliveryPhase.held?]
  | @created c dlqId requestId evidence clock now hp hr =>
      obtain ⟨fields, hentry, -⟩ := hr.retained
      have hret : retained q.redis.dlq dlqId = true := by
        show (q.redis.deadLetterOf? dlqId).isSome = true
        rw [hentry]
        rfl
      exact iff_of_true (hno.createReplay hret ..) trivial
  | @purged cutoff limit => exact purged_noOrphans_iff hsafe hrep hordered hno cutoff limit
  | _ => exact iff_of_true (hno.grow (fun _ hx => hx) rfl rfl rfl) trivial

end

/-! ## Runs -/

section

variable (maxAttempts : Nat)

/-- A start without retry hashes. -/
structure Fresh (q : Queue) : Prop extends Start q where
  failures : ∀ streamId, q.redis.failures streamId = none
  ordered : q.redis.dlq.Ordered

omit [QueueRuntime] in
theorem Fresh.noOrphans {q : Queue} (h : q.Fresh) : q.redis.NoOrphans where
  replay dlqId hne := absurd (h.replays dlqId) hne
  retry streamId hne := absurd (h.failures streamId) hne

omit [QueueRuntime] in
theorem empty_fresh : empty.Fresh where
  toStart := empty_start
  failures _ := rfl
  ordered := EntryStream.ordered_empty

/-- Every hash has its entry in all states of a run exactly if every step of the
run is tidy. -/
theorem noOrphans_iff {q q' : Queue} {as : List QueueAction} (h₀ : q.Fresh)
    (h : Run (Fires (step maxAttempts)) q as q') :
    Always (step maxAttempts) (fun q => q.redis.NoOrphans) q as ↔
      Run (Guarded Tidy (Fires (step maxAttempts))) q as q' := by
  have hrep : q.redis.Replayed := fun dlqId hne => absurd (h₀.replays dlqId) hne
  refine always_iff_guarded (fun q => q.ReplaySafe ∧ q.redis.Replayed ∧ q.redis.dlq.Ordered) h
    ⟨h₀.toStart.replaySafe, hrep, h₀.ordered⟩ h₀.noOrphans ?_
  rintro t a u ⟨hsafe, hrep, hordered⟩ hs
  have hs' := step_cases maxAttempts hs
  have hinv : u.ReplaySafe ∧ u.redis.Replayed ∧ u.redis.dlq.Ordered :=
    ⟨hsafe.step hs', hs'.effect.replayed_step hsafe.regular hrep,
      hs'.effect.dlq_changed.ordered hordered⟩
  exact ⟨hinv, fun hno => hs'.keeps_noOrphans_iff hsafe hrep hordered hno⟩

/-- The first attempt of a job fails, and the second one is acknowledged. -/
def acknowledgedRetry : List QueueAction :=
  [.enqueue (sampleJob 'a') 1, .read 0, .parse 0, .finish 0 (.raised "timeout"), .recordFailure 0 1,
   .reclaim 1 (toLex (1, 0)), .count 1, .parse 1, .finish 1 (.returned .complete),
   .acknowledge 1 2]

omit [QueueRuntime] in
/-- The retry hash of the first attempt is left without an entry. -/
theorem acknowledgedRetry_orphan :
    letI := flatRuntime
    ∃ q, Run (Fires (step 2)) .empty acknowledgedRetry q ∧ ¬q.redis.NoOrphans := by
  rw [flatRuntime_eq]
  let _ := quickRuntime
  have hdata : (exec (step 2) .empty acknowledgedRetry).any (fun q =>
      (q.redis.failures (toLex (1, 0))).isSome && q.redis.live.entries.isEmpty &&
        q.redis.dlq.entries.isEmpty) = true := by
    decide +kernel
  obtain ⟨q, hq, hdata⟩ := (Option.any_eq_true _ _).mp hdata
  simp only [Bool.and_eq_true, List.isEmpty_iff] at hdata
  obtain ⟨⟨hhash, hlive⟩, hdlq⟩ := hdata
  refine ⟨q, run_of_exec hq, fun hno => ?_⟩
  rcases hno.retry _ (Option.isSome_iff_ne_none.mp hhash) with ⟨x, hx, -⟩ | ⟨e, he, -⟩
  · rw [hlive] at hx
    cases hx
  · rw [hdlq] at he
    cases he

/-- A job fails twice, and its dead-letter entry is replayed and purged. -/
def purgedReplay : List QueueAction :=
  [.enqueue (sampleJob 'a') 1, .read 0, .parse 0, .finish 0 (.raised "timeout"), .recordFailure 0 1,
   .reclaim 1 (toLex (1, 0)), .count 1, .parse 1, .finish 1 (.raised "timeout"), .markFailed 1,
   .deadLetter 1 2 2, .request 0 "2-0" sampleRequest, .evaluate 0 3 3, .read 2, .parse 2, .mark 2 3,
   .finish 2 (.returned .complete), .acknowledge 2 4, .purge (toLex (9, 0)) 10]

omit [QueueRuntime] in
theorem purgedReplay_noOrphans :
    letI := flatRuntime
    Always (step 2) (fun q => q.redis.NoOrphans) .empty purgedReplay := by
  rw [flatRuntime_eq]
  let _ := quickRuntime
  have hsome : (exec (fun q a => if Tidy q a then step 2 q a else none) .empty
      purgedReplay).isSome = true := by
    decide +kernel
  obtain ⟨q, hrun, hguarded⟩ := guarded_of_exec hsome
  exact (noOrphans_iff 2 empty_fresh hrun).mpr hguarded

end

end Queue

end FreightAP
