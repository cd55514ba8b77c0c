import FreightAP.Queue.Replay

/-!
# Ghosts

While the last action of a dead-letter entry is under way, its entry is in the
live stream, so that somebody will bring the action to its end.  A worker writes
the state of an action without a look at what is there, and a former holder of
an entry can do so after the other holder removed it.  Then the action stays
under way for ever, and no other replay is accepted.

`noGhost_iff`: this is the only way in which a ghost comes about.
-/

namespace FreightAP

open Transition

namespace Queue

/-- The last action of a retained dead-letter entry, while it is under way, has
its entry in the live stream. -/
def NoGhost (r : Redis) : Prop :=
  ∀ dlqId, retained r.dlq dlqId = true → ∀ requestId state,
    (r.replays dlqId).lastRequestId = some requestId →
    ((r.replays dlqId).action requestId).state = some state → state.nonterminal = true →
    ∃ id, (r.replays dlqId).lastLiveStreamId = some id ∧ ∃ x ∈ r.live.entries, x.1 = id

/-- A delivery of the last action of a retained dead-letter entry finds its
entry in the live stream. -/
def StillThere (r : Redis) (d : StreamDelivery) : Prop :=
  ∀ context ∈ replayContext d.fields, retained r.dlq context.1 = true →
    (r.replays context.1).lastRequestId = some context.2 →
    ∃ x ∈ r.live.entries, x.1 = d.streamId

/-- A consumer writes `processing` or `retrying` to the last action only while
the entry that it holds is there. -/
def WritesInTime (q : Queue) : QueueAction → Prop
  | .mark c _ => ∀ d ∈ (q.delivery c).waiting?, StillThere q.redis d
  | .recordFailure c _ => ∀ d ∈ (q.delivery c).heartbeat?, StillThere q.redis d
  | _ => True

instance (r : Redis) (d : StreamDelivery) : Decidable (StillThere r d) :=
  inferInstanceAs (Decidable (∀ context ∈ replayContext d.fields, _ → _ → _))

instance (q : Queue) : (a : QueueAction) → Decidable (q.WritesInTime a)
  | .mark c _ => inferInstanceAs (Decidable (∀ d ∈ (q.delivery c).waiting?, _))
  | .recordFailure c _ => inferInstanceAs (Decidable (∀ d ∈ (q.delivery c).heartbeat?, _))
  | .enqueue _ _ | .publish _ _ | .expire _ | .read _ | .reclaim _ _ | .count _ | .parse _
  | .finish _ _ | .heartbeat _ | .markFailed _ | .deadLetter _ _ _ | .acknowledge _ _ | .abandon _
  | .request _ _ _ | .evaluate _ _ _ | .giveUp _ | .purge _ _ => .isTrue trivial

/-! ## The last action -/

/-- The last action names its entry, an action that has a state has an entry,
and the entry of an action that is over is gone. -/
structure LastAction (live : EntryStream Fields) (hash : ReplayHash) : Prop where
  last : ∀ requestId, hash.lastRequestId = some requestId → ∃ id,
    hash.lastLiveStreamId = some id ∧ (hash.action requestId).liveStreamId = some id
  settled : ∀ requestId state, (hash.action requestId).state = some state → ∃ id,
    (hash.action requestId).liveStreamId = some id ∧
      (state.nonterminal = false → ∀ x ∈ live.entries, x.1 ≠ id)

section

variable {live live' : EntryStream Fields} {dlq : EntryStream DeadLetterFields}
  {hash new : ReplayHash} {dlqId requestId : String} {now : Nat} {fields : Fields} {r : Redis}

theorem LastAction.empty : LastAction live .empty where
  last requestId h := by cases h
  settled requestId state h := by cases h

theorem LastAction.sub (h : LastAction live hash)
    (hsub : ∀ x ∈ live'.entries, x ∈ live.entries) : LastAction live' hash := by
  refine ⟨h.last, fun requestId state hs => ?_⟩
  obtain ⟨id, hid, hgone⟩ := h.settled requestId state hs
  exact ⟨id, hid, fun ht x hx => hgone ht x (hsub x hx)⟩

/-- An entry is added. -/
theorem LastAction.add (h : LastAction live hash) (hlive : live.Valid)
    (hhash : HashOf live dlqId hash) : LastAction (live.add now fields).2 hash := by
  refine ⟨h.last, fun requestId state hs => ?_⟩
  obtain ⟨id, hid, hgone⟩ := h.settled requestId state hs
  refine ⟨id, hid, fun ht => ?_⟩
  rintro ⟨j, f⟩ hx
  rcases EntryStream.mem_entries_add.mp hx with hx | ⟨rfl, -⟩
  · exact hgone ht _ hx
  · obtain ⟨g, hg, -⟩ := (hhash.action requestId id).mp hid
    exact fun e => hlive.new (y := fields) hg e.symm

/-- A state is written to an action that has an entry.  A terminal state needs
the entry to be gone. -/
theorem LastAction.written {state : ReplayState} {here : String → Prop} {id : StreamId}
    (h : LastAction live hash) (hw : Redis.StateWritten hash new state here)
    (hid : ∀ requestId, here requestId → (hash.action requestId).liveStreamId = some id)
    (hgone : state.nonterminal = false → ∀ x ∈ live.entries, x.1 ≠ id) : LastAction live new := by
  refine ⟨fun requestId hr => ?_, fun requestId old hs => ?_⟩
  · rw [hw.lastLive, hw.live]
    exact h.last requestId (hw.lastRequest ▸ hr)
  · rw [hw.live]
    by_cases hhere : here requestId
    · cases (hw.here requestId hhere).symm.trans hs
      exact ⟨id, hid requestId hhere, hgone⟩
    · exact h.settled requestId old ((hw.elsewhere requestId hhere).symm.trans hs)

/-- A replay. -/
theorem LastAction.replayed (h : LastAction live hash) {id : StreamId} {clock : Int} :
    LastAction live (Redis.replayedHash hash requestId id clock) := by
  refine ⟨?_, fun request state hs => ?_⟩
  · rintro request ⟨⟩
    refine ⟨id, rfl, ?_⟩
    show (Function.update hash.action requestId _ requestId).liveStreamId = some id
    rw [Function.update_self]
  · by_cases hr : request = requestId
    · subst hr
      simp only [Redis.replayedHash, Function.update_self] at hs ⊢
      cases hs
      exact ⟨id, rfl, fun ht => by cases ht⟩
    · simp only [Redis.replayedHash, Function.update_of_ne hr] at hs ⊢
      exact h.settled request state hs

end

section

variable [QueueRuntime] {q q' : Queue} {a : QueueAction} {r : Redis} {d : StreamDelivery}

/-- The last actions of the retained entries are right. -/
def LastActions (r : Redis) : Prop :=
  ∀ dlqId, retained r.dlq dlqId = true → LastAction r.live (r.replays dlqId)

omit [QueueRuntime] in
/-- The entry of a delivery is that of the action it replays. -/
theorem ReplaySafe.live_of_context (h : q.ReplaySafe) {c : Nat}
    (hentry : (q.delivery c).held? = some (d.streamId, d.fields)) {dlqId requestId : String}
    (hret : retained q.redis.dlq dlqId = true)
    (hc : replayContext d.fields = some (dlqId, requestId)) :
    ((q.redis.replays dlqId).action requestId).liveStreamId = some d.streamId :=
  ((h.replays.hash dlqId hret).action requestId _).mpr ⟨d.fields, h.regular.held c _ hentry, hc⟩

/-- What is retained after a step was retained before, or is new and has no
hash. -/
theorem Effect.retained_cases (h : q.ReplaySafe) (he : q.Effect r) {dlqId : String}
    (hret : retained r.dlq dlqId = true) :
    retained q.redis.dlq dlqId = true ∨
      r.replays dlqId = .empty ∧ q.redis.replays dlqId = .empty := by
  cases he with
  | quiet _ hd _ _ => exact .inl (hd ▸ hret)
  | enqueued _ hnone =>
      simp only [Redis.enqueueJob, hnone] at hret
      exact .inl hret
  | touched _ _ _ _ _ _ _ hd _ _ => exact .inl (hd ▸ hret)
  | @removed c d state status clock _ hentry _ _ hd hr _ =>
      rcases hd with hd | ⟨now, reason, hd⟩
      · exact .inl (hd ▸ hret)
      · rw [hd] at hret
        obtain ⟨i, x, hi, hx⟩ := (retained_iff (h.regular.dlq.add _ _)).mp hret
        rcases EntryStream.mem_entries_add.mp hx with hx | ⟨rfl, -⟩
        · exact .inl ((retained_iff h.regular.dlq).mpr ⟨i, x, hi, hx⟩)
        · have hempty := h.replays.untouched dlqId _ hi (StreamId.lt_next ..)
          refine .inr ⟨?_, hempty⟩
          rw [hr, Redis.hsetAction_of_ne, hempty]
          intro requestId hc
          obtain ⟨-, j, -, hj, hle⟩ := h.replays.known _ (h.regular.held c _ hentry) dlqId
            (replayContext_lookup hc).1
          cases hi.symm.trans hj
          exact absurd hle (not_le_of_gt (StreamId.lt_next ..))
  | @purged cutoff limit =>
      exact .inl ((purgeBatch_retained cutoff limit h.regular.dlq).1 dlqId hret).1
  | published => exact .inl hret
  | expired => exact .inl hret
  | replayed => exact .inl hret

/-- Every effect keeps the last actions right. -/
theorem Effect.lastActions (hsafe : q.ReplaySafe) (h : LastActions q.redis) (he : q.Effect r) :
    LastActions r := by
  intro dlqId hret
  rcases he.retained_cases hsafe hret with hold | ⟨hempty, -⟩
  swap
  · rw [hempty]
    exact .empty
  have hlast := h dlqId hold
  have hhash := hsafe.replays.hash dlqId hold
  have hlive := hsafe.regular.live
  cases he with
  | quiet hl _ hr _ =>
      rw [hl, hr]
      exact hlast
  | enqueued _ hnone =>
      simp only [Redis.enqueueJob, hnone]
      exact hlast.add hlive hhash
  | published => exact hlast.add hlive hhash
  | expired => exact hlast
  | @touched c d state clock _ hentry hstate hl _ hr _ =>
      rw [hl, hr]
      refine hlast.written (Redis.hsetAction_written _ _ _ dlqId)
        (fun requestId hc => hsafe.live_of_context hentry hold hc) fun ht => ?_
      rw [hstate] at ht
      cases ht
  | @removed c d state status clock _ hentry _ hl _ hr _ =>
      rw [hl, hr]
      refine (hlast.sub fun x hx => List.mem_of_mem_filter hx).written
        (Redis.hsetAction_written _ _ _ dlqId)
        (fun requestId hc => hsafe.live_of_context hentry hold hc) fun _ x hx => ?_
      exact (EntryStream.mem_entries_del.mp hx).2
  | @replayed c dlq request evidence clock now _ _ =>
      show LastAction (q.redis.live.add now _).2 (Function.update q.redis.replays dlq _ dlqId)
      by_cases hd : dlqId = dlq
      · subst hd
        rw [Function.update_self]
        exact (hlast.add hlive hhash).replayed
      · rw [Function.update_of_ne hd]
        exact hlast.add hlive hhash
  | @purged cutoff limit =>
      obtain ⟨hl, -, -⟩ := Redis.purgeBatch_live (r := q.redis) cutoff limit
      rw [hl, ((purgeBatch_retained cutoff limit hsafe.regular.dlq).1 dlqId hret).2]
      exact hlast

/-! ## Ghosts and steps -/

omit [QueueRuntime] in
/-- The hashes stay as they are, and no entry goes away. -/
theorem NoGhost.same {s : Redis} (h : NoGhost s)
    (hlive : ∀ x ∈ s.live.entries, x ∈ r.live.entries)
    (hret : ∀ dlqId, retained r.dlq dlqId = true →
      retained s.dlq dlqId = true ∧ r.replays dlqId = s.replays dlqId) : NoGhost r := by
  intro dlqId hr requestId state hlast hs hnon
  obtain ⟨hold, hsame⟩ := hret dlqId hr
  rw [hsame] at hlast hs ⊢
  obtain ⟨id, hid, x, hx, hxid⟩ := h dlqId hold requestId state hlast hs hnon
  exact ⟨id, hid, x, hlive x hx, hxid⟩

omit [QueueRuntime] in
/-- A worker removes its entry, and its action is over. -/
theorem NoGhost.remove (hsafe : q.ReplaySafe) (hlast : LastActions q.redis) (h : NoGhost q.redis)
    {c : Nat} (state : ReplayState) (status : ProcessingStatus) (clock : Int)
    (hentry : (q.delivery c).held? = some (d.streamId, d.fields))
    (hstate : state.nonterminal = false) (hl : r.live = q.redis.live.del d.streamId)
    (hr : r.replays = (q.redis.hsetAction d state (some status) clock).replays)
    (hret : ∀ dlqId, retained r.dlq dlqId = true →
      retained q.redis.dlq dlqId = true ∨ r.replays dlqId = .empty) : NoGhost r := by
  intro dlqId hdlq requestId old hlast' hs hnon
  rcases hret dlqId hdlq with hold | hempty
  swap
  · rw [hempty] at hlast'
    cases hlast'
  have hw := Redis.hsetAction_written (r := q.redis) (d := d) state (some status) clock dlqId
  rw [hr] at hlast' hs ⊢
  rw [hw.lastRequest] at hlast'
  rw [hw.lastLive, hl]
  by_cases hhere : replayContext d.fields = some (dlqId, requestId)
  · cases (hw.here requestId hhere).symm.trans hs
    rw [hstate] at hnon
    cases hnon
  · rw [hw.elsewhere requestId hhere] at hs
    obtain ⟨id, hid, x, hx, rfl⟩ := h dlqId hold requestId old hlast' hs hnon
    refine ⟨x.1, hid, x, EntryStream.mem_entries_del.mpr ⟨hx, fun he => hhere ?_⟩, rfl⟩
    -- The removed entry would be that of the last action.
    obtain ⟨id', hid', haction⟩ := (hlast dlqId hold).last requestId hlast'
    cases hid.symm.trans hid'
    obtain ⟨f, hf, hc⟩ := ((hsafe.replays.hash dlqId hold).action requestId _).mp haction
    rw [he] at hf
    rw [hsafe.regular.live.eq_of_id (hsafe.regular.held c _ hentry) hf]
    exact hc

omit [QueueRuntime] in
/-- A replay: its entry is in the stream. -/
theorem NoGhost.create {s : Redis} (h : NoGhost s) {dlqId requestId payload : String} {clock : Int}
    {now : Nat} : NoGhost (s.createReplay dlqId requestId payload clock now).2 := by
  intro d hret request state hlast hs hnon
  let f := Redis.replayFields payload dlqId requestId
  have hnew : ((s.live.add now f).1, f) ∈ (s.live.add now f).2.entries :=
    EntryStream.mem_entries_add.mpr (.inr ⟨rfl, rfl⟩)
  change (Function.update s.replays dlqId _ d).lastRequestId = _ at hlast
  change ((Function.update s.replays dlqId _ d).action request).state = _ at hs
  show ∃ id, (Function.update s.replays dlqId _ d).lastLiveStreamId = some id ∧
    ∃ x ∈ (s.live.add now f).2.entries, x.1 = id
  by_cases hd : d = dlqId
  · subst hd
    rw [Function.update_self]
    exact ⟨_, rfl, _, hnew, rfl⟩
  · rw [Function.update_of_ne hd] at hlast hs ⊢
    obtain ⟨id, hid, x, hx, hxid⟩ := h d hret request state hlast hs hnon
    exact ⟨id, hid, x, EntryStream.mem_entries_add.mpr (.inl hx), hxid⟩

omit [QueueRuntime] in
/-- A worker writes a state that is not terminal: this makes a ghost exactly if
the entry that it holds is gone. -/
theorem NoGhost.touch_iff (hsafe : q.ReplaySafe) (hlast : LastActions q.redis)
    (h : NoGhost q.redis) {c : Nat} (state : ReplayState) (clock : Int)
    (hentry : (q.delivery c).held? = some (d.streamId, d.fields))
    (hstate : state.nonterminal = true) (hl : r.live = q.redis.live) (hd : r.dlq = q.redis.dlq)
    (hr : r.replays = (q.redis.hsetAction d state none clock).replays) :
    NoGhost r ↔ StillThere q.redis d := by
  have hw := Redis.hsetAction_written (r := q.redis) (d := d) state none clock
  -- The last action of the delivery names its entry.
  have hnames : ∀ dlqId requestId, retained q.redis.dlq dlqId = true →
      replayContext d.fields = some (dlqId, requestId) →
      (q.redis.replays dlqId).lastRequestId = some requestId →
      (q.redis.replays dlqId).lastLiveStreamId = some d.streamId := by
    intro dlqId requestId hret hc hlast'
    obtain ⟨id, hid, haction⟩ := (hlast dlqId hret).last requestId hlast'
    cases haction.symm.trans (hsafe.live_of_context hentry hret hc)
    exact hid
  constructor
  · rintro hno ⟨dlqId, requestId⟩ hc hret hlast'
    have hghost := hno dlqId (hd ▸ hret) requestId state
    rw [hr, hl, (hw dlqId).lastRequest, (hw dlqId).lastLive] at hghost
    obtain ⟨id, hid, x, hx, hxid⟩ := hghost hlast' ((hw dlqId).here requestId hc) hstate
    cases hid.symm.trans (hnames dlqId requestId hret hc hlast')
    exact ⟨x, hx, hxid⟩
  · intro hthere dlqId hret requestId old hlast' hs hnon
    rw [hd] at hret
    rw [hr] at hlast' hs ⊢
    rw [(hw dlqId).lastRequest] at hlast'
    rw [(hw dlqId).lastLive, hl]
    by_cases hhere : replayContext d.fields = some (dlqId, requestId)
    · obtain ⟨x, hx, hxid⟩ := hthere (dlqId, requestId) hhere hret hlast'
      exact ⟨d.streamId, hnames dlqId requestId hret hhere hlast', x, hx, hxid⟩
    · rw [(hw dlqId).elsewhere requestId hhere] at hs
      exact h dlqId hret requestId old hlast' hs hnon

/-- A step makes no ghost exactly if it writes in time. -/
theorem Stepped.keeps_noGhost (hsafe : q.ReplaySafe) (hlast : LastActions q.redis)
    (h : NoGhost q.redis) (hs : Stepped q a q') : NoGhost q'.redis ↔ q.WritesInTime a := by
  have hret : ∀ dlqId, retained q'.redis.dlq dlqId = true →
      retained q.redis.dlq dlqId = true ∨ q'.redis.replays dlqId = .empty := fun dlqId hr =>
    (hs.effect.retained_cases hsafe hr).imp_right And.left
  cases hs with
  | @enqueued job now _ hnone =>
      refine iff_of_true (h.same (fun x hx => ?_) fun dlqId hr => ?_) trivial
      · simp only [Redis.enqueueJob, hnone, write]
        exact EntryStream.mem_entries_add.mpr (.inl hx)
      · simp only [Redis.enqueueJob, hnone, write] at hr ⊢
        exact ⟨hr, trivial⟩
  | published =>
      exact iff_of_true (h.same (fun x hx => EntryStream.mem_entries_add.mpr (.inl hx))
        fun dlqId hr => ⟨hr, rfl⟩) trivial
  | @marked c d job clock hp =>
      have hentry : (q.delivery c).held? = some (d.streamId, d.fields) := by
        rw [hp]
        rfl
      refine (h.touch_iff (r := q.redis.recordReplayProcessing d clock) hsafe hlast .processing clock
        hentry rfl Redis.hsetAction_live Redis.hsetAction_dlq rfl).trans ?_
      show _ ↔ ∀ d ∈ (q.delivery c).waiting?, _
      rw [hp]
      simp only [DeliveryPhase.waiting?, Option.mem_some_iff, forall_eq']
  | @recordFailure c d job reason clock hp =>
      have hentry : (q.delivery c).held? = some (d.streamId, d.fields) := by
        rw [hp]
        rfl
      refine (h.touch_iff (r := q.redis.recordFailure d reason clock) hsafe hlast .retrying clock
        hentry rfl Redis.hsetAction_live Redis.hsetAction_dlq (Redis.hsetAction_replays rfl)).trans ?_
      show _ ↔ ∀ d ∈ (q.delivery c).heartbeat?, _
      rw [hp]
      simp only [DeliveryPhase.heartbeat?, Option.mem_some_iff, forall_eq']
  | @deadLetter c d reason former clock now hentry _ =>
      exact iff_of_true (h.remove hsafe hlast .deadLettered .failed clock hentry rfl
        Redis.hsetAction_live (Redis.hsetAction_replays rfl) hret) trivial
  | @acknowledge c d job status clock hp =>
      have hentry : (q.delivery c).held? = some (d.streamId, d.fields) := by
        rw [hp]
        rfl
      exact iff_of_true (h.remove hsafe hlast .acknowledged status clock hentry rfl
        Redis.hsetAction_live (Redis.hsetAction_replays rfl) hret) trivial
  | created => exact iff_of_true h.create trivial
  | @purged cutoff limit =>
      refine iff_of_true (h.same (fun x hx => ?_)
        (purgeBatch_retained cutoff limit hsafe.regular.dlq).1) trivial
      exact (Redis.purgeBatch_live (r := q.redis) cutoff limit).1 ▸ hx
  | _ => exact iff_of_true (h.same (fun _ hx => hx) fun _ hr => ⟨hr, rfl⟩) trivial

/-- Where a step makes no ghost, a last action that is over stays so. -/
theorem Stepped.over_stays (hsafe : q.ReplaySafe) (hlast : LastActions q.redis) (hs : Stepped q a q')
    (hno : NoGhost q'.redis) {dlqId requestId : String} {old new : ReplayState}
    (hret : retained q'.redis.dlq dlqId = true)
    (hreq : (q'.redis.replays dlqId).lastRequestId = some requestId)
    (hold : ((q.redis.replays dlqId).action requestId).state = some old)
    (hover : old.nonterminal = false)
    (hnew : ((q'.redis.replays dlqId).action requestId).state = some new) :
    new.nonterminal = false := by
  have hsafe' := hsafe.step hs
  have hlast' := hs.effect.lastActions hsafe hlast
  rcases hs.effect.retained_cases hsafe hret with hret₀ | ⟨-, hempty⟩
  swap
  · rw [hempty] at hold
    cases hold
  cases hnon : new.nonterminal with
  | false => rfl
  | true =>
      obtain ⟨id, hid, hgone⟩ := (hlast dlqId hret₀).settled requestId old hold
      obtain ⟨j, hj, x, hx, rfl⟩ := hno dlqId hret requestId new hreq hnew hnon
      obtain ⟨j', hj', haction⟩ := (hlast' dlqId hret).last requestId hreq
      cases hj.symm.trans hj'
      -- The action names the same entry as before, which is gone.
      obtain ⟨f, hf, hc⟩ := ((hsafe.replays.hash dlqId hret₀).action requestId id).mp hid
      obtain ⟨-, -, hlog⟩ := hs.effect.streams hsafe.regular.live hsafe.regular.dlq
      have hid' := ((hsafe'.replays.hash dlqId hret).action requestId id).mpr ⟨f, hlog _ hf, hc⟩
      cases haction.symm.trans hid'
      rcases hs.effect.entries hsafe.regular.live hx with hx | hfresh
      · exact absurd rfl (hgone hover x hx)
      · exact absurd rfl (hfresh (x.1, f) hf)

end

/-! ## Runs -/

section

variable [QueueRuntime] (maxAttempts : Nat)

/-- There is no ghost in any state of a run exactly if every step of the run
writes in time; and a step without a ghost after it leaves a last action that is
over as it is. -/
theorem noGhost_iff {q q' : Queue} {as : List QueueAction} (h₀ : q.Start)
    (h : Run (Fires (step maxAttempts)) q as q') :
    (Always (step maxAttempts) (fun q => NoGhost q.redis) q as ↔
      Run (Guarded WritesInTime (Fires (step maxAttempts))) q as q') ∧
    ∀ a q'', q'.step maxAttempts a = some q'' → NoGhost q''.redis →
      ∀ dlqId requestId old new, retained q''.redis.dlq dlqId = true →
        (q''.redis.replays dlqId).lastRequestId = some requestId →
        ((q'.redis.replays dlqId).action requestId).state = some old → old.nonterminal = false →
        ((q''.redis.replays dlqId).action requestId).state = some new →
        new.nonterminal = false := by
  have hstart : LastActions q.redis := fun dlqId _ => by
    rw [h₀.replays dlqId]
    exact .empty
  have hno : NoGhost q.redis := fun dlqId _ requestId state hlast => by
    rw [h₀.replays dlqId] at hlast
    cases hlast
  have hstep : ∀ (t : Queue) (a : QueueAction) (u : Queue), t.ReplaySafe ∧ LastActions t.redis →
      t.step maxAttempts a = some u → u.ReplaySafe ∧ LastActions u.redis := by
    rintro t a u ⟨hsafe, hlast⟩ hs
    have hs' := step_cases maxAttempts hs
    exact ⟨hsafe.step hs', hs'.effect.lastActions hsafe hlast⟩
  obtain ⟨hsafe', hlast'⟩ := h.preserves _ ⟨h₀.replaySafe, hstart⟩ hstep
  refine ⟨always_iff_guarded _ h ⟨h₀.replaySafe, hstart⟩ hno fun t a u ht hs =>
    ⟨hstep t a u ht hs, fun hn => (step_cases maxAttempts hs).keeps_noGhost ht.1 ht.2 hn⟩, ?_⟩
  intro a q'' hs hn dlqId requestId old new hret hreq hold hover hnew
  exact (step_cases maxAttempts hs).over_stays hsafe' hlast' hn hret hreq hold hover hnew

/-- Two consumers hold a replayed entry.  One of them acknowledges it, and then
the run of the other fails. -/
def lateFailure : List QueueAction :=
  [.enqueue (sampleJob 'a') 1, .read 0, .parse 0, .finish 0 (.raised "timeout"), .recordFailure 0 1,
   .reclaim 1 (toLex (1, 0)), .count 1, .parse 1, .finish 1 (.raised "timeout"), .markFailed 1,
   .deadLetter 1 2 2, .request 0 "2-0" sampleRequest, .evaluate 0 3 3, .read 2, .parse 2, .mark 2 3,
   .reclaim 3 (toLex (3, 0)), .count 3, .parse 3, .mark 3 3, .finish 3 (.returned .complete),
   .acknowledge 3 4, .finish 2 (.raised "timeout"), .recordFailure 2 5]

omit [QueueRuntime] in
/-- The last action is under way, and its entry is gone. -/
theorem lateFailure_ghost :
    letI := flatRuntime
    ∃ q, Run (Fires (step 2)) .empty lateFailure q ∧ ¬NoGhost q.redis := by
  rw [flatRuntime_eq]
  let _ := quickRuntime
  have hdata : (exec (step 2) .empty lateFailure).any (fun q =>
      retained q.redis.dlq "2-0" && (q.redis.replays "2-0").lastRequestId = some sampleRequest &&
        ((q.redis.replays "2-0").action sampleRequest).state = some .retrying &&
        q.redis.live.entries.isEmpty) = true := by
    decide +kernel
  obtain ⟨q, hq, hdata⟩ := (Option.any_eq_true _ _).mp hdata
  simp only [Bool.and_eq_true, decide_eq_true_eq, List.isEmpty_iff] at hdata
  obtain ⟨⟨⟨hret, hreq⟩, hstate⟩, hnil⟩ := hdata
  refine ⟨q, run_of_exec hq, fun hno => ?_⟩
  obtain ⟨id, -, x, hx, -⟩ := hno "2-0" hret sampleRequest .retrying hreq hstate rfl
  rw [hnil] at hx
  cases hx

omit [QueueRuntime] in
/-- The replayed entry is processed and acknowledged by one consumer. -/
theorem replayedJob_noGhost :
    letI := flatRuntime
    Always (step 1) (fun q => NoGhost q.redis) .empty
      (replayedJob ++ [.read 1, .parse 1, .mark 1 3, .finish 1 (.returned .complete),
        .acknowledge 1 4]) := by
  rw [flatRuntime_eq]
  let _ := quickRuntime
  have hsome : (exec (fun q a => if WritesInTime q a then step 1 q a else none) .empty
      (replayedJob ++ [.read 1, .parse 1, .mark 1 3, .finish 1 (.returned .complete),
        .acknowledge 1 4])).isSome = true := by
    decide +kernel
  obtain ⟨q, hrun, hguarded⟩ := guarded_of_exec hsome
  exact (noGhost_iff 1 empty_start hrun).1.mpr hguarded

end

end Queue

end FreightAP
