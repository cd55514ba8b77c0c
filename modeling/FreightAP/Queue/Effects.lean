import FreightAP.Queue.System

/-!
# Effects on the keys

What a step does to the streams, the replay hashes and the dedupe keys, whoever
takes it.  Every invariant of the keys is proved over these cases.
-/

namespace FreightAP

/-- The delivery and its job, once the payload is parsed. -/
def DeliveryPhase.parsed? : DeliveryPhase → Option (StreamDelivery × InvoiceJobEnvelope)
  | .marking d job => some (d, job)
  | .running d job => some (d, job)
  | .returned d job _ => some (d, job)
  | .raised d job _ => some (d, job)
  | .condemned d job _ => some (d, job)
  | _ => none

namespace Queue

variable [QueueRuntime]

open QueueRuntime

/-- The ways a step changes the keys. -/
inductive Effect (q : Queue) : Redis → Prop where
  | quiet {r : Redis} : r.live = q.redis.live → r.dlq = q.redis.dlq →
      r.replays = q.redis.replays → r.dedupe = q.redis.dedupe → q.Effect r
  | enqueued {job : InvoiceJobEnvelope} {now : Nat} : validJob job = true →
      q.redis.dedupe job.idempotencyKey = none → q.Effect (q.redis.enqueueJob job now).2
  | published {fields : Fields} {now : Nat} {message : String} :
      parseDelivery fields = .error message → fields.lookup "replay_dlq_id" = none →
      q.Effect { q.redis with live := (q.redis.live.add now fields).2 }
  | expired {key : String} :
      q.Effect { q.redis with dedupe := Function.update q.redis.dedupe key none }
  | touched (c : Nat) (d : StreamDelivery) (state : ReplayState) (clock : Int) {r : Redis} :
      (q.delivery c).held? = some (d.streamId, d.fields) → state.nonterminal = true →
      r.live = q.redis.live → r.dlq = q.redis.dlq →
      r.replays = (q.redis.hsetAction d state none clock).replays →
      r.dedupe = q.redis.dedupe → q.Effect r
  | removed (c : Nat) (d : StreamDelivery) (state : ReplayState) (status : ProcessingStatus)
      (clock : Int) {r : Redis} :
      (q.delivery c).held? = some (d.streamId, d.fields) → state.nonterminal = false →
      r.live = q.redis.live.del d.streamId →
      (r.dlq = q.redis.dlq ∨ ∃ now reason, r.dlq = (q.redis.dlq.add now
        (Redis.deadLetterFields d reason clock)).2) →
      r.replays = (q.redis.hsetAction d state (some status) clock).replays →
      r.dedupe = q.redis.dedupe → q.Effect r
  | replayed {c : Nat} {dlqId requestId : String} {evidence : DecodedDLQEvidence} {clock : Int}
      {now : Nat} : q.replay c = .validated dlqId requestId evidence →
      q.redis.Replayable dlqId requestId evidence.originalFieldsJson →
      q.Effect (q.redis.createReplay dlqId requestId (modelDumpJson evidence.job) clock now).2
  | purged {cutoff : StreamId} {limit : Nat} : q.Effect (q.redis.purgeBatch cutoff limit)

section

variable {q q' : Queue} {a : QueueAction} {r : Redis}

/-- Every step has one of the effects. -/
theorem Stepped.effect (h : Stepped q a q') : q.Effect q'.redis := by
  cases h with
  | enqueued hv hnone => exact .enqueued hv hnone
  | published hp hd => exact .published hp hd
  | expired => exact .expired
  | @marked c d job clock hp =>
      refine .touched c d .processing clock ?_ rfl ?_ ?_ rfl ?_
      · rw [hp]
        rfl
      · exact Redis.hsetAction_live
      · exact Redis.hsetAction_dlq
      · exact Redis.hsetAction_dedupe
  | @recordFailure c d job reason clock hp =>
      refine .touched c d .retrying clock ?_ rfl ?_ ?_ (Redis.hsetAction_replays rfl) ?_
      · rw [hp]
        rfl
      · exact Redis.hsetAction_live
      · exact Redis.hsetAction_dlq
      · exact Redis.hsetAction_dedupe
  | @deadLetter c d reason former clock now hentry _ =>
      refine .removed c d .deadLettered .failed clock hentry rfl ?_ (.inr ⟨now, reason, ?_⟩)
        (Redis.hsetAction_replays rfl) ?_
      · exact Redis.hsetAction_live
      · exact Redis.hsetAction_dlq
      · exact Redis.hsetAction_dedupe
  | @acknowledge c d job status clock hp =>
      refine .removed c d .acknowledged status clock ?_ rfl ?_ (.inl ?_)
        (Redis.hsetAction_replays rfl) ?_
      · rw [hp]
        rfl
      · exact Redis.hsetAction_live
      · exact Redis.hsetAction_dlq
      · exact Redis.hsetAction_dedupe
  | created hp hr => exact .replayed hp hr
  | purged => exact .purged
  | _ => exact .quiet rfl rfl rfl rfl

/-! ## The streams -/

omit [QueueRuntime] in
theorem purgeBatch_dlq {r : Redis} (cutoff : StreamId) (limit : Nat) :
    (∀ x ∈ (r.purgeBatch cutoff limit).dlq.entries, x ∈ r.dlq.entries) ∧
      (r.purgeBatch cutoff limit).dlq.lastId = r.dlq.lastId ∧
      (r.dlq.Valid → (r.purgeBatch cutoff limit).dlq.Valid) := by
  unfold Redis.purgeBatch
  generalize (r.dlq.entries.filter _).take limit = rows
  induction rows generalizing r with
  | nil => exact ⟨fun _ hx => hx, rfl, id⟩
  | cons row rows ih =>
      obtain ⟨hsub, hlast, hvalid⟩ := ih (r := r.purgeRow row)
      exact ⟨fun x hx => List.mem_of_mem_filter (hsub x hx), hlast, fun hv => hvalid (hv.del row.1)⟩

/-- The streams stay valid, and what was added to the live stream stays in its
log. -/
theorem Effect.streams (h : q.Effect r) (hlive : q.redis.live.Valid) (hdlq : q.redis.dlq.Valid) :
    r.live.Valid ∧ r.dlq.Valid ∧ ∀ x ∈ q.redis.live.log, x ∈ r.live.log := by
  cases h with
  | quiet hl hd _ _ => exact ⟨hl ▸ hlive, hd ▸ hdlq, fun x hx => hl ▸ hx⟩
  | @enqueued job now _ hnone =>
      simp only [Redis.enqueueJob, hnone]
      exact ⟨hlive.add _ _, hdlq, fun x hx => EntryStream.mem_log_add.mpr (.inl hx)⟩
  | published => exact ⟨hlive.add _ _, hdlq, fun x hx => EntryStream.mem_log_add.mpr (.inl hx)⟩
  | expired => exact ⟨hlive, hdlq, fun x hx => hx⟩
  | touched _ _ _ _ _ _ hl hd _ _ => exact ⟨hl ▸ hlive, hd ▸ hdlq, fun x hx => hl ▸ hx⟩
  | removed _ _ _ _ _ _ _ hl hd _ _ =>
      refine ⟨hl ▸ hlive.del _, ?_, fun x hx => hl ▸ hx⟩
      rcases hd with hd | ⟨now, reason, hd⟩
      · exact hd ▸ hdlq
      · exact hd ▸ hdlq.add _ _
  | replayed => exact ⟨hlive.add _ _, hdlq, fun x hx => EntryStream.mem_log_add.mpr (.inl hx)⟩
  | @purged cutoff limit =>
      obtain ⟨hl, -, -⟩ := Redis.purgeBatch_live (r := q.redis) cutoff limit
      obtain ⟨-, -, hd⟩ := purgeBatch_dlq (r := q.redis) cutoff limit
      exact ⟨hl ▸ hlive, hd hdlq, fun x hx => hl ▸ hx⟩

/-- An entry was in the live stream before, or its id is new. -/
theorem Effect.entries (h : q.Effect r) (hlive : q.redis.live.Valid) {x : StreamId × Fields}
    (hx : x ∈ r.live.entries) : x ∈ q.redis.live.entries ∨ ∀ y ∈ q.redis.live.log, y.1 ≠ x.1 := by
  have hadd : ∀ {now fields}, x ∈ (q.redis.live.add now fields).2.entries →
      x ∈ q.redis.live.entries ∨ ∀ y ∈ q.redis.live.log, y.1 ≠ x.1 := by
    intro now fields hx
    rcases EntryStream.mem_entries_add.mp hx with hx | ⟨hid, -⟩
    · exact .inl hx
    · exact .inr fun y hy => hid ▸ hlive.new hy
  cases h with
  | quiet hl _ _ _ => exact .inl (hl ▸ hx)
  | enqueued _ hnone =>
      simp only [Redis.enqueueJob, hnone] at hx
      exact hadd hx
  | published => exact hadd hx
  | expired => exact .inl hx
  | touched _ _ _ _ _ _ hl => exact .inl (hl ▸ hx)
  | removed _ _ _ _ _ _ _ hl =>
      rw [hl] at hx
      exact .inl (EntryStream.mem_entries_del.mp hx).1
  | replayed => exact hadd hx
  | @purged cutoff limit =>
      exact .inl ((Redis.purgeBatch_live (r := q.redis) cutoff limit).1 ▸ hx)

/-- Only the commands of two deliveries remove an entry: that of one whose
workflow returned, and that of one that writes a dead-letter entry. -/
theorem Stepped.removes (h : Stepped q a q') {x : StreamId × Fields}
    (hx : x ∈ q.redis.live.entries) (hgone : x ∉ q'.redis.live.entries) :
    (∃ c d job status clock, a = .acknowledge c clock ∧
      q.delivery c = .returned d job status ∧ d.streamId = x.1) ∨
    ∃ c d reason clock now, a = .deadLetter c clock now ∧
      (q.delivery c).held? = some (d.streamId, d.fields) ∧ d.streamId = x.1 ∧
      q'.redis.dlq = (q.redis.dlq.add now (Redis.deadLetterFields d reason clock)).2 := by
  have hdel : ∀ {id : StreamId}, x ∉ (q.redis.live.del id).entries → id = x.1 := fun hgone =>
    of_not_not fun hne => hgone (EntryStream.mem_entries_del.mpr ⟨hx, Ne.symm hne⟩)
  cases h with
  | enqueued hv hnone =>
      refine absurd ?_ hgone
      show x ∈ (q.redis.enqueueJob _ _).2.live.entries
      simp only [Redis.enqueueJob, hnone]
      exact EntryStream.mem_entries_add.mpr (.inl hx)
  | published => exact absurd (EntryStream.mem_entries_add.mpr (.inl hx)) hgone
  | marked =>
      refine absurd ?_ hgone
      show x ∈ (q.redis.recordReplayProcessing _ _).live.entries
      rw [Redis.recordReplayProcessing, Redis.hsetAction_live]
      exact hx
  | recordFailure =>
      refine absurd ?_ hgone
      show x ∈ (q.redis.recordFailure _ _ _).live.entries
      rw [Redis.recordFailure, Redis.hsetAction_live]
      exact hx
  | @acknowledge c d job status clock hp =>
      refine .inl ⟨c, d, job, status, clock, rfl, hp, hdel ?_⟩
      rw [← show (q.redis.acknowledge d status clock).live = q.redis.live.del d.streamId from
        Redis.hsetAction_live]
      exact hgone
  | @deadLetter c d reason former clock now hentry _ =>
      refine .inr ⟨c, d, reason, clock, now, rfl, hentry, hdel ?_, Redis.hsetAction_dlq⟩
      rw [← show (q.redis.deadLetter d reason clock now).live = q.redis.live.del d.streamId from
        Redis.hsetAction_live]
      exact hgone
  | created => exact absurd (EntryStream.mem_entries_add.mpr (.inl hx)) hgone
  | @purged cutoff limit =>
      refine absurd ?_ hgone
      show x ∈ (q.redis.purgeBatch cutoff limit).live.entries
      rw [(Redis.purgeBatch_live cutoff limit).1]
      exact hx
  | _ => exact absurd hx hgone

/-! ## The parties -/

omit [QueueRuntime] in
/-- A delivery that goes on with its entry holds what it held before. -/
theorem entry_goto {c e : Nat} {p : DeliveryPhase} {x : StreamId × Fields}
    (h : ((q.goto c p).delivery e).held? = some x)
    (hp : p.held? = some x → (q.delivery c).held? = some x) : (q.delivery e).held? = some x := by
  by_cases he : e = c
  · subst he
    rw [goto_self] at h
    exact hp h
  · rw [goto_of_ne p he] at h
    exact h

/-- A delivery holds what it held before, or an entry it is handed out now. -/
theorem Stepped.entry (h : Stepped q a q') (hlive : q.redis.live.Valid) {e : Nat}
    {x : StreamId × Fields} (hx : (q'.delivery e).held? = some x) :
    (q.delivery e).held? = some x ∨ x ∈ q.redis.live.entries := by
  cases h with
  | @read c id fields group hc hread =>
      obtain ⟨hmem, -, -⟩ := ConsumerGroup.read_some hread
      by_cases he : e = c
      · subst he
        rw [goto_self] at hx
        cases hx
        exact .inr hmem
      · rw [goto_of_ne _ he] at hx
        exact .inl hx
  | @reclaimed c i id fields group hc hclaim =>
      obtain ⟨-, hmem, -⟩ := ConsumerGroup.claim_some hlive hclaim
      by_cases he : e = c
      · subst he
        rw [goto_self] at hx
        cases hx
        exact .inr hmem
      · rw [goto_of_ne _ he] at hx
        exact .inl hx
  | counted hp => exact .inl (entry_goto hx fun h => by rw [hp]; exact h)
  | rejected hp _ => exact .inl (entry_goto hx fun h => by rw [hp]; exact h)
  | parsed hp _ => exact .inl (entry_goto hx fun h => by rw [hp]; exact h)
  | started hp _ _ => exact .inl (entry_goto hx fun h => by rw [hp]; exact h)
  | marked hp => exact .inl (entry_goto hx fun h => by rw [show (q.delivery _) = _ from hp]; exact h)
  | returned hp => exact .inl (entry_goto hx fun h => by rw [hp]; exact h)
  | raised hp => exact .inl (entry_goto hx fun h => by rw [hp]; exact h)
  | recordFailure => exact .inl (entry_goto hx fun h => by cases h)
  | markFailed hp => exact .inl (entry_goto hx fun h => by rw [hp]; exact h)
  | deadLetter => exact .inl (entry_goto hx fun h => by cases h)
  | acknowledge => exact .inl (entry_goto hx fun h => by cases h)
  | abandon => exact .inl (entry_goto hx fun h => by cases h)
  | _ => exact .inl hx

omit [QueueRuntime] in
/-- A delivery that goes on, or another one. -/
theorem delivery_goto {c e : Nat} {p phase : DeliveryPhase}
    (h : (q.goto c p).delivery e = phase) : e = c ∧ p = phase ∨ e ≠ c ∧ q.delivery e = phase := by
  by_cases he : e = c
  · subst he
    exact .inl ⟨rfl, (goto_self p).symm.trans h⟩
  · exact .inr ⟨he, (goto_of_ne p he).symm.trans h⟩

/-- A delivery whose workflow returned was so before, or returns now. -/
theorem Stepped.returned_cases (h : Stepped q a q') {e : Nat} {d : StreamDelivery}
    {job : InvoiceJobEnvelope} {status : ProcessingStatus}
    (he : q'.delivery e = .returned d job status) :
    q.delivery e = .returned d job status ∨
      a = .finish e (.returned status) ∧ q.delivery e = .running d job := by
  cases h with
  | returned hp =>
      rcases delivery_goto he with ⟨rfl, h⟩ | ⟨-, h⟩
      · cases h
        exact .inr ⟨rfl, hp⟩
      · exact .inl h
  | read => exact .inl ((delivery_goto he).resolve_left fun h => by cases h.2).2
  | reclaimed => exact .inl ((delivery_goto he).resolve_left fun h => by cases h.2).2
  | counted => exact .inl ((delivery_goto he).resolve_left fun h => by cases h.2).2
  | rejected => exact .inl ((delivery_goto he).resolve_left fun h => by cases h.2).2
  | parsed => exact .inl ((delivery_goto he).resolve_left fun h => by cases h.2).2
  | started => exact .inl ((delivery_goto he).resolve_left fun h => by cases h.2).2
  | marked => exact .inl ((delivery_goto he).resolve_left fun h => by cases h.2).2
  | raised => exact .inl ((delivery_goto he).resolve_left fun h => by cases h.2).2
  | recordFailure => exact .inl ((delivery_goto he).resolve_left fun h => by cases h.2).2
  | markFailed => exact .inl ((delivery_goto he).resolve_left fun h => by cases h.2).2
  | deadLetter => exact .inl ((delivery_goto he).resolve_left fun h => by cases h.2).2
  | acknowledge => exact .inl ((delivery_goto he).resolve_left fun h => by cases h.2).2
  | abandon => exact .inl ((delivery_goto he).resolve_left fun h => by cases h.2).2
  | _ => exact .inl he

/-- The job of a delivery is the one in its payload. -/
def Parsed (q : Queue) : Prop :=
  ∀ c d job, (q.delivery c).parsed? = some (d, job) → parseDelivery d.fields = .ok job

/-- A delivery goes on with a job that is the one in its payload. -/
theorem Parsed.goto (h : q.Parsed) {c : Nat} {p : DeliveryPhase}
    (hp : ∀ d job, p.parsed? = some (d, job) → parseDelivery d.fields = .ok job) :
    (q.goto c p).Parsed := by
  intro e d job he
  rcases delivery_goto (q := q) (c := c) (p := p) (e := e) rfl with ⟨-, h'⟩ | ⟨-, h'⟩
  · exact hp d job (h' ▸ he)
  · exact h e d job (h' ▸ he)

theorem Parsed.step (h : q.Parsed) (hs : Stepped q a q') : q'.Parsed := by
  cases hs with
  | read => exact h.goto fun _ _ e => by cases e
  | reclaimed => exact h.goto fun _ _ e => by cases e
  | counted => exact h.goto fun _ _ e => by cases e
  | rejected => exact h.goto fun _ _ e => by cases e
  | recordFailure => exact h.goto fun _ _ e => by cases e
  | deadLetter => exact h.goto fun _ _ e => by cases e
  | acknowledge => exact h.goto fun _ _ e => by cases e
  | abandon => exact h.goto fun _ _ e => by cases e
  | parsed _ hj =>
      refine h.goto ?_
      rintro d job ⟨⟩
      exact hj
  | started _ hj _ =>
      refine h.goto ?_
      rintro d job ⟨⟩
      exact hj
  | @marked c d job clock hp =>
      refine h.goto ?_
      rintro d job ⟨⟩
      exact h c _ _ (by rw [hp]; rfl)
  | @returned c d job status hp =>
      refine h.goto ?_
      rintro d job ⟨⟩
      exact h c _ _ (by rw [hp]; rfl)
  | @raised c d job reason hp =>
      refine h.goto ?_
      rintro d job ⟨⟩
      exact h c _ _ (by rw [hp]; rfl)
  | @markFailed c d job reason hp =>
      refine h.goto ?_
      rintro d job ⟨⟩
      exact h c _ _ (by rw [hp]; rfl)
  | _ => exact h

omit [QueueRuntime] in
/-- A request that goes on. -/
theorem replay_respond {c e : Nat} {p phase : ReplayPhase}
    (h : (q.respond c p).replay e = phase) : p = phase ∨ q.replay e = phase := by
  by_cases he : e = c
  · subst he
    exact .inl ((Function.update_self ..).symm.trans h)
  · exact .inr ((Function.update_of_ne he ..).symm.trans h)

/-- A request that waits for the script has read the evidence. -/
theorem Stepped.validated_cases (h : Stepped q a q') {e : Nat} {dlqId requestId : String}
    {evidence : DecodedDLQEvidence} (he : q'.replay e = .validated dlqId requestId evidence) :
    q.replay e = .validated dlqId requestId evidence ∨ requestId ≠ "" ∧
      ∃ fields, q.redis.deadLetterOf? dlqId = some fields ∧
        decodeDlqEvidence fields = .ok evidence := by
  cases h with
  | validated _ hr hentry hev =>
      rcases replay_respond he with h | h
      · cases h
        exact .inr ⟨hr, _, hentry, hev⟩
      · exact .inl h
  | failed => exact .inl ((replay_respond he).resolve_left fun h => by cases h)
  | created => exact .inl ((replay_respond he).resolve_left fun h => by cases h)
  | existing => exact .inl ((replay_respond he).resolve_left fun h => by cases h)
  | refused => exact .inl ((replay_respond he).resolve_left fun h => by cases h)
  | gaveUp => exact .inl ((replay_respond he).resolve_left fun h => by cases h)
  | _ => exact .inl he

/-- An answer names the entry that the hash names. -/
theorem Stepped.answered_cases (h : Stepped q a q') {e : Nat} {dlqId requestId : String}
    {answer : Redis.ReplayAnswer} (he : q'.replay e = .answered dlqId requestId answer) :
    q.replay e = .answered dlqId requestId answer ∨
      (q'.redis.deadLetterOf? dlqId).isSome = true ∧
        ((q'.redis.replays dlqId).action requestId).liveStreamId = some answer.liveStreamId := by
  cases h with
  | @created c d r evidence clock now hp hr =>
      rcases replay_respond he with h | h
      · cases h
        obtain ⟨fields, hentry, -⟩ := hr.retained
        refine .inr ⟨?_, ?_⟩
        · show (q.redis.deadLetterOf? dlqId).isSome = true
          rw [hentry]
          rfl
        · show ((Function.update q.redis.replays dlqId _ dlqId).action requestId).liveStreamId = _
          rw [Function.update_self]
          show (Function.update (q.redis.replays dlqId).action requestId _ requestId).liveStreamId = _
          rw [Function.update_self]
          rfl
      · exact .inl h
  | existing hp _ hretained hid =>
      rcases replay_respond he with h | h
      · cases h
        exact .inr ⟨hretained, hid⟩
      · exact .inl h
  | failed => exact .inl ((replay_respond he).resolve_left fun h => by cases h)
  | validated => exact .inl ((replay_respond he).resolve_left fun h => by cases h)
  | refused => exact .inl ((replay_respond he).resolve_left fun h => by cases h)
  | gaveUp => exact .inl ((replay_respond he).resolve_left fun h => by cases h)
  | _ => exact .inl he

/-! ## The regular part -/

/-- The streams are valid, a delivery holds an entry that was added, and a
request has an id. -/
structure Regular (q : Queue) : Prop where
  live : q.redis.live.Valid
  dlq : q.redis.dlq.Valid
  held : ∀ c x, (q.delivery c).held? = some x → x ∈ q.redis.live.log
  asked : ∀ c dlqId requestId evidence, q.replay c = .validated dlqId requestId evidence →
    requestId ≠ ""

omit [QueueRuntime] in
theorem Start.regular (h : q.Start) : q.Regular where
  live := by
    rw [h.live]
    exact EntryStream.valid_empty
  dlq := h.dlq
  held c x hx := by
    rw [h.delivery c] at hx
    cases hx
  asked c dlqId requestId evidence he := absurd he (h.replay c dlqId requestId evidence)

theorem Regular.step (h : q.Regular) (hs : Stepped q a q') : q'.Regular := by
  obtain ⟨hlive, hdlq, hlog⟩ := hs.effect.streams h.live h.dlq
  refine ⟨hlive, hdlq, fun c x hx => hlog x ?_, fun c dlqId requestId evidence he => ?_⟩
  · rcases hs.entry h.live hx with hx | hx
    · exact h.held c x hx
    · exact h.live.mem_log hx
  · rcases hs.validated_cases he with he | ⟨hr, -⟩
    · exact h.asked c dlqId requestId evidence he
    · exact hr

end

end Queue

end FreightAP
