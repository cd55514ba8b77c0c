import FreightAP.Queue.Effects
import FreightAP.Queue.FlatRuntime

/-!
# Replays

A replay hash is named by the text of an id, and a text with leading zeros names
the same entry.  Under one text a request adds one entry, and one entry at a time
(`Replays`).  So replay is exactly-once for each request and exclusive for each
dead-letter entry as long as every entry is called by the id that the stream
gives it, and only then (`replayedOnce_iff`).

The script looks at the last request only.  That is enough, because an entry
that replays a dead-letter entry and is in the stream is that of the last
request, and its action is under way (`HashOf.last`): a worker writes a
terminal state only together with the removal of the entry, and entries of one
request are one entry (`Replays.once`).
-/

namespace FreightAP

open Transition

namespace Queue

/-! ## Replay hashes -/

/-- Whether the text of an id names an entry of the dead-letter stream. -/
def retained (dlq : EntryStream DeadLetterFields) (dlqId : String) : Bool :=
  ((StreamId.parse dlqId).bind dlq.get?).isSome

/-- Whether an entry replays a dead-letter entry. -/
def replaysEntry (dlqId : String) (x : StreamId × Fields) : Bool :=
  x.2.lookup "replay_dlq_id" = some dlqId

/-- What the hash of a dead-letter entry says of the live stream. -/
structure HashOf (live : EntryStream Fields) (dlqId : String) (hash : ReplayHash) : Prop where
  count : hash.replayCount.getD 0 = (live.log.filter (replaysEntry dlqId)).length
  action : ∀ requestId id, (hash.action requestId).liveStreamId = some id ↔
    ∃ fields, (id, fields) ∈ live.log ∧ replayContext fields = some (dlqId, requestId)
  last : ∀ x ∈ live.entries, ∀ requestId, replayContext x.2 = some (dlqId, requestId) →
    hash.lastRequestId = some requestId ∧
      ∃ state, (hash.action requestId).state = some state ∧ state.nonterminal = true

/-- The live stream and the replay hashes agree. -/
structure Replays (live : EntryStream Fields) (dlq : EntryStream DeadLetterFields)
    (replays : String → ReplayHash) : Prop where
  known : ∀ x ∈ live.log, ∀ dlqId, x.2.lookup "replay_dlq_id" = some dlqId →
    ∃ requestId i, replayContext x.2 = some (dlqId, requestId) ∧
      StreamId.parse dlqId = some i ∧ i ≤ dlq.lastId
  untouched : ∀ dlqId i, StreamId.parse dlqId = some i → dlq.lastId < i → replays dlqId = .empty
  once : ∀ x ∈ live.log, ∀ y ∈ live.log, ∀ context, replayContext x.2 = some context →
    replayContext y.2 = some context → x = y
  single : ∀ x ∈ live.entries, ∀ y ∈ live.entries, ∀ dlqId, replaysEntry dlqId x = true →
    replaysEntry dlqId y = true → x = y
  hash : ∀ dlqId, retained dlq dlqId = true → HashOf live dlqId (replays dlqId)

section

variable {live : EntryStream Fields} {dlq : EntryStream DeadLetterFields}
  {replays : String → ReplayHash} {dlqId requestId : String} {now : Nat} {fields : Fields}

theorem replayContext_lookup (h : replayContext fields = some (dlqId, requestId)) :
    fields.lookup "replay_dlq_id" = some dlqId ∧
      fields.lookup "replay_request_id" = some requestId := by
  unfold replayContext at h
  split at h
  next d r hd hr =>
    split at h
    · cases h
      exact ⟨hd, hr⟩
    · cases h
  · cases h

theorem replayContext_ne_empty (h : replayContext fields = some (dlqId, requestId)) :
    dlqId ≠ "" ∧ requestId ≠ "" := by
  unfold replayContext at h
  split at h
  · split at h
    next hne =>
      cases h
      exact hne
    · cases h
  · cases h

theorem retained_iff (h : dlq.Valid) :
    retained dlq dlqId = true ↔ ∃ i x, StreamId.parse dlqId = some i ∧ (i, x) ∈ dlq.entries := by
  unfold retained
  constructor
  · intro hs
    obtain ⟨x, hx⟩ := Option.isSome_iff_exists.mp hs
    obtain ⟨i, hi, hx⟩ := Option.bind_eq_some_iff.mp hx
    exact ⟨i, x, hi, (EntryStream.get?_iff h).mp hx⟩
  · rintro ⟨i, x, hi, hx⟩
    rw [hi, Option.bind_some, (EntryStream.get?_iff h).mpr hx]
    rfl

/-- An entry that does not replay the dead-letter entry is added. -/
theorem HashOf.add {hash : ReplayHash} (h : HashOf live dlqId hash)
    (hf : fields.lookup "replay_dlq_id" ≠ some dlqId) :
    HashOf (live.add now fields).2 dlqId hash := by
  obtain ⟨hcount, haction, hlast⟩ := h
  refine ⟨?_, fun requestId id => ?_, ?_⟩
  · show _ = ((live.log ++ [_]).filter (replaysEntry dlqId)).length
    rw [List.filter_append, List.filter_singleton]
    simp only [replaysEntry, hf, decide_false, cond_false, List.append_nil]
    exact hcount
  · rw [haction]
    constructor
    · rintro ⟨f, hm, hc⟩
      exact ⟨f, EntryStream.mem_log_add.mpr (.inl hm), hc⟩
    · rintro ⟨f, hm, hc⟩
      rcases EntryStream.mem_log_add.mp hm with hm | ⟨-, rfl⟩
      · exact ⟨f, hm, hc⟩
      · exact absurd (replayContext_lookup hc).1 hf
  · rintro ⟨id, f⟩ hx requestId hc
    rcases EntryStream.mem_entries_add.mp hx with hx | ⟨-, rfl⟩
    · exact hlast _ hx requestId hc
    · exact absurd (replayContext_lookup hc).1 hf

/-- An entry that replays nothing is added. -/
theorem Replays.add (h : Replays live dlq replays) (hf : fields.lookup "replay_dlq_id" = none) :
    Replays (live.add now fields).2 dlq replays := by
  have hne : ∀ dlqId, fields.lookup "replay_dlq_id" ≠ some dlqId := fun dlqId hd => by
    cases hf.symm.trans hd
  have hold : ∀ x ∈ (live.add now fields).2.log, ∀ dlqId,
      x.2.lookup "replay_dlq_id" = some dlqId → x ∈ live.log := by
    rintro ⟨id, f⟩ hx dlqId hd
    rcases EntryStream.mem_log_add.mp hx with hx | ⟨-, rfl⟩
    · exact hx
    · exact absurd hd (hne dlqId)
  have hlive : ∀ x ∈ (live.add now fields).2.entries, ∀ dlqId, replaysEntry dlqId x = true →
      x ∈ live.entries := by
    rintro ⟨id, f⟩ hx dlqId hd
    rcases EntryStream.mem_entries_add.mp hx with hx | ⟨-, rfl⟩
    · exact hx
    · exact absurd (of_decide_eq_true hd) (hne dlqId)
  refine ⟨fun x hx dlqId hd => h.known x (hold x hx dlqId hd) dlqId hd, h.untouched, ?_, ?_,
    fun dlqId hr => (h.hash dlqId hr).add (hne dlqId)⟩
  · rintro x hx y hy ⟨d, r⟩ hc hc'
    exact h.once x (hold x hx d (replayContext_lookup hc).1) y
      (hold y hy d (replayContext_lookup hc').1) _ hc hc'
  · intro x hx y hy dlqId hd hd'
    exact h.single x (hlive x hx dlqId hd) y (hlive y hy dlqId hd') dlqId hd hd'

/-- A worker writes a state that is not terminal. -/
theorem Replays.touch (h : Replays live dlq replays) {r : Redis} (hr : r.replays = replays)
    {d : StreamDelivery} {state : ReplayState} {status : Option ProcessingStatus} {clock : Int}
    (hd : (d.streamId, d.fields) ∈ live.log) (hstate : state.nonterminal = true) :
    Replays live dlq (r.hsetAction d state status clock).replays := by
  subst hr
  refine ⟨h.known, fun dlqId i hi hlt => ?_, h.once, h.single, fun dlqId hret => ?_⟩
  · rw [Redis.hsetAction_of_ne, h.untouched dlqId i hi hlt]
    intro requestId hc
    obtain ⟨-, j, -, hj, hle⟩ := h.known _ hd dlqId (replayContext_lookup hc).1
    cases hi.symm.trans hj
    exact absurd hle (not_le_of_gt hlt)
  · obtain ⟨hcount, haction, hlast⟩ := h.hash dlqId hret
    have hw := Redis.hsetAction_written (r := r) (d := d) state status clock dlqId
    refine ⟨hw.count ▸ hcount, fun requestId id => hw.live requestId ▸ haction requestId id,
      fun x hx requestId hc => ?_⟩
    obtain ⟨hreq, old, hold, hnon⟩ := hlast x hx requestId hc
    refine ⟨hw.lastRequest.trans hreq, ?_⟩
    by_cases hhere : replayContext d.fields = some (dlqId, requestId)
    · exact ⟨state, hw.here requestId hhere, hstate⟩
    · exact ⟨old, (hw.elsewhere requestId hhere).trans hold, hnon⟩

/-- A worker removes its entry and writes a state. -/
theorem Replays.remove (h : Replays live dlq replays) (hlive : live.Valid) {r : Redis}
    (hr : r.replays = replays) {d : StreamDelivery} {state : ReplayState}
    {status : Option ProcessingStatus} {clock : Int}
    (hd : (d.streamId, d.fields) ∈ live.log) :
    Replays (live.del d.streamId) dlq (r.hsetAction d state status clock).replays := by
  subst hr
  have hsub : ∀ x ∈ (live.del d.streamId).entries, x ∈ live.entries := fun x hx =>
    List.mem_of_mem_filter hx
  refine ⟨h.known, fun dlqId i hi hlt => ?_, h.once, fun x hx y hy => h.single x (hsub x hx) y
    (hsub y hy), fun dlqId hret => ?_⟩
  · rw [Redis.hsetAction_of_ne, h.untouched dlqId i hi hlt]
    intro requestId hc
    obtain ⟨-, j, -, hj, hle⟩ := h.known _ hd dlqId (replayContext_lookup hc).1
    cases hi.symm.trans hj
    exact absurd hle (not_le_of_gt hlt)
  · obtain ⟨hcount, haction, hlast⟩ := h.hash dlqId hret
    have hw := Redis.hsetAction_written (r := r) (d := d) state status clock dlqId
    refine ⟨hw.count ▸ hcount, fun requestId id => hw.live requestId ▸ haction requestId id,
      fun x hx requestId hc => ?_⟩
    obtain ⟨hreq, old, hold, hnon⟩ := hlast x (hsub x hx) requestId hc
    refine ⟨hw.lastRequest.trans hreq, old, (hw.elsewhere requestId fun hhere => ?_).trans hold,
      hnon⟩
    -- The entry of the request is the one that was removed.
    obtain rfl := h.once x (hlive.mem_log (hsub x hx)) _ hd _ hc hhere
    exact (EntryStream.mem_entries_del.mp hx).2 rfl

/-- A dead-letter entry that nothing replays has no hash. -/
theorem HashOf.empty (hno : ∀ x ∈ live.log, x.2.lookup "replay_dlq_id" ≠ some dlqId)
    (hlive : live.Valid) : HashOf live dlqId .empty := by
  refine ⟨?_, fun requestId id => ⟨fun h => (by cases h), ?_⟩, fun x hx requestId hc => ?_⟩
  · have hnil : live.log.filter (replaysEntry dlqId) = [] :=
      List.filter_eq_nil_iff.mpr fun x hx hd => hno x hx (of_decide_eq_true hd)
    rw [hnil]
    rfl
  · rintro ⟨f, hm, hc⟩
    exact absurd (replayContext_lookup hc).1 (hno _ hm)
  · exact absurd (replayContext_lookup hc).1 (hno x (hlive.mem_log hx))

/-- A dead-letter entry is added.  Its id is new, so nothing was written under
it. -/
theorem Replays.deadLetter (h : Replays live dlq replays) (hlive : live.Valid) (hdlq : dlq.Valid)
    (x : DeadLetterFields) : Replays live (dlq.add now x).2 replays := by
  have hlt : dlq.lastId < (dlq.add now x).2.lastId := StreamId.lt_next ..
  refine ⟨fun y hy dlqId hd => ?_, fun dlqId i hi hi' => h.untouched dlqId i hi (hlt.trans hi'),
    h.once, h.single, fun dlqId hret => ?_⟩
  · obtain ⟨requestId, i, hc, hi, hle⟩ := h.known y hy dlqId hd
    exact ⟨requestId, i, hc, hi, hle.trans hlt.le⟩
  · obtain ⟨i, y, hi, hm⟩ := (retained_iff (hdlq.add now x)).mp hret
    rcases EntryStream.mem_entries_add.mp hm with hm | ⟨rfl, -⟩
    · exact h.hash dlqId ((retained_iff hdlq).mpr ⟨i, y, hi, hm⟩)
    · rw [h.untouched dlqId _ hi hlt]
      refine HashOf.empty (fun z hz hd => ?_) hlive
      obtain ⟨-, j, -, hj, hle⟩ := h.known z hz dlqId hd
      cases hi.symm.trans hj
      exact absurd hle (not_le_of_gt hlt)

end

section

variable {r : Redis} {dlqId requestId originalFields payload : String} {clock : Int} {now : Nat}

/-- When the script adds an entry, no entry of the stream replays the
dead-letter entry: it would be that of the last request, under way. -/
theorem Replays.free (h : Replays r.live r.dlq r.replays) (hlive : r.live.Valid)
    (hr : r.Replayable dlqId requestId originalFields) {x : StreamId × Fields}
    (hx : x ∈ r.live.entries) : x.2.lookup "replay_dlq_id" ≠ some dlqId := by
  intro hd
  obtain ⟨fields, hentry, -⟩ := hr.retained
  have hret : retained r.dlq dlqId = true := Option.isSome_iff_exists.mpr ⟨fields, hentry⟩
  obtain ⟨last, -, hc, -, -⟩ := h.known x (hlive.mem_log hx) dlqId hd
  have hhash := h.hash dlqId hret
  obtain ⟨hlast, state, hstate, hnon⟩ := hhash.last x hx last hc
  by_cases hreq : last = requestId
  · have hid := (hhash.action last x.1).mpr ⟨x.2, hlive.mem_log hx, hc⟩
    rw [hreq, hr.new] at hid
    cases hid
  · have hbusy : Redis.inProgress (r.replays dlqId) requestId = true := by
      simp only [Redis.inProgress, hlast, hstate, Option.any_some, hnon, Bool.and_true]
      exact decide_eq_true hreq
    exact Bool.false_ne_true (hr.free.symm.trans hbusy)

/-- The script adds an entry. -/
theorem Replays.create (h : Replays r.live r.dlq r.replays) (hlive : r.live.Valid)
    (hdlq : r.dlq.Valid) (hne : requestId ≠ "") (hr : r.Replayable dlqId requestId originalFields) :
    let s := (r.createReplay dlqId requestId payload clock now).2
    Replays s.live s.dlq s.replays := by
  obtain ⟨fields, hentry, -⟩ := id hr.retained
  have hret : retained r.dlq dlqId = true := Option.isSome_iff_exists.mpr ⟨fields, hentry⟩
  obtain ⟨i, y, hi, hy⟩ := (retained_iff hdlq).mp hret
  have hile : i ≤ r.dlq.lastId := hdlq.le _ (hdlq.mem_log hy)
  let f := Redis.replayFields payload dlqId requestId
  have hlookup : f.lookup "replay_dlq_id" = some dlqId := by
    simp [f, Redis.replayFields, List.lookup_cons]
  have hcontext : replayContext f = some (dlqId, requestId) := by
    have hd : dlqId ≠ "" := by
      rintro rfl
      cases hi
    simp [replayContext, f, Redis.replayFields, List.lookup_cons, hd, hne]
  have hhash := h.hash dlqId hret
  have hfresh : ∀ x ∈ r.live.log, replayContext x.2 ≠ some (dlqId, requestId) := by
    intro x hx hc
    have hid := (hhash.action requestId x.1).mpr ⟨x.2, hx, hc⟩
    rw [hr.new] at hid
    cases hid
  have hmem : ∀ x, x ∈ (r.live.add now f).2.log ↔ x ∈ r.live.log ∨ x = ((r.live.add now f).1, f) := by
    rintro ⟨id, g⟩
    rw [EntryStream.mem_log_add, Prod.mk.injEq]
  have hmem' : ∀ x, x ∈ (r.live.add now f).2.entries ↔
      x ∈ r.live.entries ∨ x = ((r.live.add now f).1, f) := by
    rintro ⟨id, g⟩
    rw [EntryStream.mem_entries_add, Prod.mk.injEq]
  show Replays (r.live.add now f).2 r.dlq (Function.update r.replays dlqId
    (Redis.replayedHash (r.replays dlqId) requestId (r.live.add now f).1 clock))
  refine ⟨fun x hx d hd => ?_, fun d j hj hlt => ?_, fun x hx y hy context hc hc' => ?_,
    fun x hx y hy d hd hd' => ?_, fun d hd => ?_⟩
  · rcases (hmem x).mp hx with hx | rfl
    · exact h.known x hx d hd
    · cases hlookup.symm.trans hd
      exact ⟨requestId, i, hcontext, hi, hile⟩
  · rw [Function.update_of_ne, h.untouched d j hj hlt]
    rintro rfl
    cases hi.symm.trans hj
    exact absurd hile (not_le_of_gt hlt)
  · rcases (hmem x).mp hx with hx | rfl
    · rcases (hmem y).mp hy with hy | rfl
      · exact h.once x hx y hy context hc hc'
      · cases hcontext.symm.trans hc'
        exact absurd hc (hfresh x hx)
    · rcases (hmem y).mp hy with hy | rfl
      · cases hcontext.symm.trans hc
        exact absurd hc' (hfresh y hy)
      · rfl
  · rcases (hmem' x).mp hx with hx | rfl
    · rcases (hmem' y).mp hy with hy | rfl
      · exact h.single x hx y hy d hd hd'
      · cases hlookup.symm.trans (of_decide_eq_true hd')
        exact absurd (of_decide_eq_true hd) (h.free hlive hr hx)
    · rcases (hmem' y).mp hy with hy | rfl
      · cases hlookup.symm.trans (of_decide_eq_true hd)
        exact absurd (of_decide_eq_true hd') (h.free hlive hr hy)
      · rfl
  · by_cases hdd : d = dlqId
    · subst hdd
      rw [Function.update_self]
      refine ⟨?_, fun request id => ?_, fun x hx request hc => ?_⟩
      · show (r.replays d).replayCount.getD 0 + 1 =
          ((r.live.log ++ [_]).filter (replaysEntry d)).length
        rw [List.filter_append, List.length_append, hhash.count, List.filter_singleton]
        simp only [replaysEntry]
        rw [show f.lookup "replay_dlq_id" = some d from hlookup]
        simp
      · show (Function.update (r.replays d).action requestId _ request).liveStreamId = some id ↔ _
        by_cases hreq : request = requestId
        · subst hreq
          rw [Function.update_self]
          constructor
          · rintro ⟨⟩
            exact ⟨f, (hmem _).mpr (.inr rfl), hcontext⟩
          · rintro ⟨g, hg, hc⟩
            rcases (hmem _).mp hg with hg | hg
            · exact absurd hc (hfresh _ hg)
            · rw [(Prod.mk.inj hg).1]
        · rw [Function.update_of_ne hreq, hhash.action]
          constructor
          · rintro ⟨g, hg, hc⟩
            exact ⟨g, (hmem _).mpr (.inl hg), hc⟩
          · rintro ⟨g, hg, hc⟩
            rcases (hmem _).mp hg with hg | hg
            · exact ⟨g, hg, hc⟩
            · rw [(Prod.mk.inj hg).2] at hc
              cases hcontext.symm.trans hc
              exact absurd rfl hreq
      · rcases (hmem' x).mp hx with hx | rfl
        · exact absurd (replayContext_lookup hc).1 (h.free hlive hr hx)
        · cases hcontext.symm.trans hc
          refine ⟨rfl, .enqueued, ?_, rfl⟩
          show (Function.update (r.replays d).action requestId _ requestId).state = _
          rw [Function.update_self]
    · rw [Function.update_of_ne hdd]
      refine (h.hash d hd).add ?_
      rw [show f.lookup "replay_dlq_id" = some dlqId from hlookup]
      exact fun he => hdd (Option.some.inj he).symm

/-- A purge leaves the hashes of the entries that it retains. -/
theorem purgeBatch_retained (cutoff : StreamId) (limit : Nat) (hdlq : r.dlq.Valid) :
    (∀ dlqId, retained (r.purgeBatch cutoff limit).dlq dlqId = true →
      retained r.dlq dlqId = true ∧
        (r.purgeBatch cutoff limit).replays dlqId = r.replays dlqId) ∧
    ∀ dlqId, r.replays dlqId = .empty → (r.purgeBatch cutoff limit).replays dlqId = .empty := by
  unfold Redis.purgeBatch
  generalize (r.dlq.entries.filter _).take limit = rows
  induction rows generalizing r with
  | nil => exact ⟨fun _ h => ⟨h, rfl⟩, fun _ h => h⟩
  | cons row rows ih =>
      have hdel : (r.purgeRow row).dlq.Valid := hdlq.del row.1
      obtain ⟨hret, hempty⟩ := ih (r := r.purgeRow row) hdel
      refine ⟨fun dlqId h => ?_, fun dlqId h => hempty dlqId ?_⟩
      · obtain ⟨h, hsame⟩ := hret dlqId h
        obtain ⟨i, x, hi, hx⟩ := (retained_iff hdel).mp h
        obtain ⟨hx, hne⟩ := EntryStream.mem_entries_del.mp hx
        refine ⟨(retained_iff hdlq).mpr ⟨i, x, hi, hx⟩, hsame.trans (Function.update_of_ne ?_ ..)⟩
        rintro rfl
        exact hne (Option.some.inj (hi.symm.trans (StreamId.parse_text row.1)))
      · by_cases hd : dlqId = row.1.text
        · subst hd
          exact Function.update_self ..
        · exact (Function.update_of_ne hd ..).trans h

/-- A purge. -/
theorem Replays.purge (h : Replays r.live r.dlq r.replays) (hdlq : r.dlq.Valid) (cutoff : StreamId)
    (limit : Nat) : Replays r.live (r.purgeBatch cutoff limit).dlq
      (r.purgeBatch cutoff limit).replays := by
  obtain ⟨hret, hempty⟩ := purgeBatch_retained cutoff limit hdlq
  obtain ⟨-, hlast, -⟩ := purgeBatch_dlq (r := r) cutoff limit
  refine ⟨?_, ?_, h.once, h.single, fun dlqId hd => ?_⟩
  · rw [hlast]
    exact h.known
  · rw [hlast]
    exact fun dlqId i hi hlt => hempty dlqId (h.untouched dlqId i hi hlt)
  · obtain ⟨hold, hsame⟩ := hret dlqId hd
    rw [hsame]
    exact h.hash dlqId hold

end

/-! ## Runs -/

section

variable [QueueRuntime] (maxAttempts : Nat)

/-- The streams and the hashes agree, and an answer names the entry that was
added for its request. -/
structure ReplaySafe (q : Queue) : Prop where
  regular : q.Regular
  replays : Replays q.redis.live q.redis.dlq q.redis.replays
  answered : ∀ c dlqId requestId answer, q.replay c = .answered dlqId requestId answer →
    ∃ fields, (answer.liveStreamId, fields) ∈ q.redis.live.log ∧
      replayContext fields = some (dlqId, requestId)

/-- Whether a call was answered, and the entry was created by it or was there. -/
def answeredWith (dlqId requestId : String) (created : Bool) : ReplayPhase → Bool
  | .answered d r answer => d = dlqId && r = requestId && answer.created = created
  | _ => false

/-- The call that takes a step. -/
def caller? : QueueAction → Option Nat
  | .request c _ _ => some c
  | .evaluate c _ _ => some c
  | .giveUp c => some c
  | _ => none

omit [QueueRuntime] in
/-- The dead-letter entry and the request that an entry of the live stream
replays, however the entry is spelled. -/
def replayOf? (fields : Fields) : Option (StreamId × String) :=
  (replayContext fields).bind fun context =>
    (StreamId.parse context.1).map fun id => (id, context.2)

omit [QueueRuntime] in
/-- Whether an entry of the live stream replays a dead-letter entry, however that
is spelled. -/
def replaysId (id : StreamId) (x : StreamId × Fields) : Bool :=
  (x.2.lookup "replay_dlq_id").bind StreamId.parse = some id

omit [QueueRuntime] in
/-- The count of a retained entry is the number of entries that were added for it. -/
def Counted (r : Redis) : Prop :=
  ∀ x ∈ r.dlq.entries,
    (r.replays x.1.text).replayCount.getD 0 = (r.live.log.filter (replaysId x.1)).length

/-- Replay is exactly-once for each request and exclusive for each dead-letter
entry. -/
structure ReplayedOnce (q : Queue) : Prop where
  /-- A request on an entry added one entry at most. -/
  request : ∀ id requestId,
    (q.redis.live.log.filter fun x => replayOf? x.2 = some (id, requestId)).length ≤ 1
  /-- All answers to a request on an entry name one entry. -/
  answers : ∀ c e dlqId dlqId' requestId answer answer',
    StreamId.parse dlqId = StreamId.parse dlqId' →
    q.replay c = .answered dlqId requestId answer →
    q.replay e = .answered dlqId' requestId answer' → answer.liveStreamId = answer'.liveStreamId
  exclusive : ∀ id, (q.redis.live.entries.filter (replaysId id)).length ≤ 1
  count : Counted q.redis
  /-- A call adds the entry that it answers with, or writes nothing. -/
  calls : ∀ a q' c, q.step maxAttempts a = some q' → caller? a = some c →
    (∃ dlqId requestId answer fields, q'.replay c = .answered dlqId requestId answer ∧
      answer.created = true ∧
      q'.redis.live.log = q.redis.live.log ++ [(answer.liveStreamId, fields)] ∧
      replayContext fields = some (dlqId, requestId)) ∨
    (q'.redis = q.redis ∧ ∀ dlqId requestId answer,
      q'.replay c = .answered dlqId requestId answer → answer.created = false)

omit [QueueRuntime] in
/-- A call that adds an entry names the dead-letter entry by the id that it has in
the stream. -/
def AsWritten (q : Queue) : QueueAction → Prop
  | .evaluate c _ _ => ∀ call ∈ (q.replay c).validated?,
      q.redis.Replayable call.1 call.2.1 call.2.2.originalFieldsJson →
      ∀ id ∈ StreamId.parse call.1, call.1 = id.text
  | _ => True

instance (q : Queue) : (a : QueueAction) → Decidable (q.AsWritten a)
  | .evaluate c _ _ =>
      inferInstanceAs (Decidable (∀ call ∈ (q.replay c).validated?, _ → ∀ id ∈ _, _))
  | .enqueue _ _ | .publish _ _ | .expire _ | .read _ | .reclaim _ _ | .count _ | .parse _
  | .mark _ _ | .finish _ _ | .heartbeat _ | .recordFailure _ _ | .markFailed _
  | .deadLetter _ _ _ | .acknowledge _ _ | .abandon _ | .request _ _ _ | .giveUp _
  | .purge _ _ => .isTrue trivial

section

variable {q q' : Queue} {a : QueueAction} {r : Redis}

omit [QueueRuntime] in
theorem answeredWith_iff {dlqId requestId : String} {created : Bool} {p : ReplayPhase} :
    answeredWith dlqId requestId created p = true ↔
      ∃ answer, p = .answered dlqId requestId answer ∧ answer.created = created := by
  constructor
  · intro h
    cases p with
    | answered d r answer =>
        simp only [answeredWith, Bool.and_eq_true, decide_eq_true_eq] at h
        obtain ⟨⟨rfl, rfl⟩, hcreated⟩ := h
        exact ⟨answer, rfl, hcreated⟩
    | _ => cases h
  · rintro ⟨answer, rfl, rfl⟩
    simp [answeredWith]

/-- Every effect keeps the hashes right. -/
theorem Replays.effect (hreg : q.Regular)
    (h : Replays q.redis.live q.redis.dlq q.redis.replays) (he : q.Effect r) :
    Replays r.live r.dlq r.replays := by
  cases he with
  | quiet hl hd hr _ =>
      rw [hl, hd, hr]
      exact h
  | enqueued _ hnone =>
      simp only [Redis.enqueueJob, hnone]
      exact h.add rfl
  | published _ hd => exact h.add hd
  | expired => exact h
  | touched _ _ _ _ hentry hstate hl hd hr _ =>
      rw [hl, hd, hr]
      exact h.touch rfl (hreg.held _ _ hentry) hstate
  | @removed c d state status clock _ hentry _ hl hd hr _ =>
      have hremove : Replays (q.redis.live.del d.streamId) q.redis.dlq
          (q.redis.hsetAction d state (some status) clock).replays :=
        h.remove hreg.live rfl (hreg.held c _ hentry)
      rcases hd with hd | ⟨now, reason, hd⟩
      · rw [hl, hd, hr]
        exact hremove
      · rw [hl, hd, hr]
        exact hremove.deadLetter (hreg.live.del _) hreg.dlq _
  | replayed hp hr => exact h.create hreg.live hreg.dlq (hreg.asked _ _ _ _ hp) hr
  | @purged cutoff limit =>
      obtain ⟨hl, -, -⟩ := Redis.purgeBatch_live (r := q.redis) cutoff limit
      rw [hl]
      exact h.purge hreg.dlq cutoff limit

theorem ReplaySafe.step (h : q.ReplaySafe) (hs : Stepped q a q') : q'.ReplaySafe := by
  have hreg := h.regular.step hs
  have hreplays := h.replays.effect h.regular hs.effect
  obtain ⟨-, -, hlog⟩ := hs.effect.streams h.regular.live h.regular.dlq
  refine ⟨hreg, hreplays, fun c dlqId requestId answer hc => ?_⟩
  rcases hs.answered_cases hc with hc | ⟨hret, hid⟩
  · obtain ⟨fields, hm, hcontext⟩ := h.answered c dlqId requestId answer hc
    exact ⟨fields, hlog _ hm, hcontext⟩
  · exact ((hreplays.hash dlqId hret).action requestId _).mp hid

omit [QueueRuntime] in
theorem Start.replaySafe (h : q.Start) : q.ReplaySafe where
  regular := h.regular
  replays := by
    have hno : ∀ x, x ∉ q.redis.live.log := by
      rw [h.live]
      exact fun x hx => by cases hx
    have hno' : ∀ x, x ∉ q.redis.live.entries := by
      rw [h.live]
      exact fun x hx => by cases hx
    refine ⟨fun x hx => absurd hx (hno x), fun dlqId _ _ _ => h.replays dlqId,
      fun x hx => absurd hx (hno x), fun x hx => absurd hx (hno' x), fun dlqId _ => ?_⟩
    rw [h.replays dlqId]
    exact HashOf.empty (fun x hx => absurd hx (hno x)) h.regular.live
  answered c dlqId requestId answer hc := absurd hc (h.unanswered c dlqId requestId answer)

/-- A call writes nothing, or it adds the entry that it answers with. -/
theorem Stepped.calls (hs : Stepped q a q') (hsafe : q.ReplaySafe) {c : Nat}
    (hc : caller? a = some c) :
    (∃ dlqId requestId answer fields, q'.replay c = .answered dlqId requestId answer ∧
      answer.created = true ∧
      q'.redis.live.log = q.redis.live.log ++ [(answer.liveStreamId, fields)] ∧
      replayContext fields = some (dlqId, requestId)) ∨
    (q'.redis = q.redis ∧ ∀ dlqId requestId answer,
      q'.replay c = .answered dlqId requestId answer → answer.created = false) := by
  have hself : ∀ p : ReplayPhase, (q.respond c p).replay c = p := fun p => Function.update_self ..
  have hquiet : ∀ p : ReplayPhase,
      (∀ dlqId requestId answer, p ≠ .answered dlqId requestId answer) →
      (q.respond c p).redis = q.redis ∧ ∀ dlqId requestId answer,
        (q.respond c p).replay c = .answered dlqId requestId answer → answer.created = false :=
    fun p hp => ⟨rfl, fun _ _ _ he => (hp _ _ _ ((hself p).symm.trans he)).elim⟩
  cases hs with
  | @created c dlqId requestId evidence clock now hp hr =>
      cases hc
      obtain ⟨fields, hentry, -⟩ := hr.retained
      have hne : requestId ≠ "" := hsafe.regular.asked _ _ _ _ hp
      have hne' : dlqId ≠ "" := by
        rintro rfl
        cases hentry
      refine .inl ⟨dlqId, requestId, _, Redis.replayFields (QueueRuntime.modelDumpJson evidence.job)
        dlqId requestId, Function.update_self .., rfl, rfl, ?_⟩
      simp [replayContext, Redis.replayFields, List.lookup_cons, hne, hne']
  | failed =>
      cases hc
      exact .inr (hquiet _ fun _ _ _ e => by cases e)
  | validated =>
      cases hc
      exact .inr (hquiet _ fun _ _ _ e => by cases e)
  | existing _ hcreated =>
      cases hc
      refine .inr ⟨rfl, fun d r answer' he => ?_⟩
      cases (hself _).symm.trans he
      exact hcreated
  | refused =>
      cases hc
      exact .inr (hquiet _ fun _ _ _ e => by cases e)
  | gaveUp =>
      cases hc
      exact .inr (hquiet _ fun _ _ _ e => by cases e)
  | _ => cases hc

/-! ## Spellings -/

/-- The entries that replay a dead-letter entry name it as the dead-letter stream
does. -/
def Spelled (live : EntryStream Fields) : Prop :=
  ∀ x ∈ live.log, ∀ dlqId, x.2.lookup "replay_dlq_id" = some dlqId → ∃ id, dlqId = StreamId.text id

omit [QueueRuntime] in
theorem Spelled.lookup {live : EntryStream Fields} (h : Spelled live) {x : StreamId × Fields}
    (hx : x ∈ live.log) {dlqId : String} (hd : x.2.lookup "replay_dlq_id" = some dlqId)
    {id : StreamId} (hid : StreamId.parse dlqId = some id) : dlqId = id.text := by
  obtain ⟨id', rfl⟩ := h x hx dlqId hd
  rw [StreamId.parse_text] at hid
  cases hid
  rfl

omit [QueueRuntime] in
theorem replayOf?_eq_some {fields : Fields} {id : StreamId} {requestId : String} :
    replayOf? fields = some (id, requestId) ↔
      ∃ dlqId, replayContext fields = some (dlqId, requestId) ∧ StreamId.parse dlqId = some id := by
  unfold replayOf?
  constructor
  · intro h
    obtain ⟨⟨dlqId, r⟩, hc, h⟩ := Option.bind_eq_some_iff.mp h
    obtain ⟨id', hid, he⟩ := Option.map_eq_some_iff.mp h
    cases he
    exact ⟨dlqId, hc, hid⟩
  · rintro ⟨dlqId, hc, hid⟩
    rw [hc, Option.bind_some, hid]
    rfl

omit [QueueRuntime] in
/-- Then an entry of the stream replays what it names. -/
theorem Spelled.replaysId {live : EntryStream Fields} (h : Spelled live) {x : StreamId × Fields}
    (hx : x ∈ live.log) (id : StreamId) : Queue.replaysId id x = replaysEntry id.text x := by
  unfold Queue.replaysId replaysEntry
  refine decide_eq_decide.mpr ?_
  constructor
  · intro hid
    obtain ⟨dlqId, hd, hid⟩ := Option.bind_eq_some_iff.mp hid
    rw [hd, h.lookup hx hd hid]
  · intro hd
    rw [hd, Option.bind_some, StreamId.parse_text]

omit [QueueRuntime] in
theorem Spelled.add {live : EntryStream Fields} (h : Spelled live) {fields : Fields} (now : Nat)
    (hf : ∀ dlqId, fields.lookup "replay_dlq_id" = some dlqId → ∃ id, dlqId = StreamId.text id) :
    Spelled (live.add now fields).2 := by
  rintro ⟨id, g⟩ hx dlqId hd
  rcases EntryStream.mem_log_add.mp hx with hx | ⟨-, rfl⟩
  · exact h _ hx dlqId hd
  · exact hf dlqId hd

/-- With one spelling for each entry, replay is exactly-once and exclusive. -/
theorem ReplaySafe.replayedOnce (h : q.ReplaySafe) (hk : Spelled q.redis.live) :
    q.ReplayedOnce maxAttempts := by
  obtain ⟨hreg, hreplays, hanswered⟩ := id h
  have hcontext : ∀ x ∈ q.redis.live.log, ∀ id requestId, replayOf? x.2 = some (id, requestId) →
      replayContext x.2 = some (id.text, requestId) := by
    intro x hx id requestId hof
    obtain ⟨dlqId, hc, hid⟩ := replayOf?_eq_some.mp hof
    rw [hc, hk.lookup hx (replayContext_lookup hc).1 hid]
  refine ⟨fun id requestId => ?_, fun c e dlqId dlqId' requestId answer answer' hd hc he => ?_,
    fun id => ?_, fun x hx => ?_, fun a q'' c hs hc => (step_cases maxAttempts hs).calls h hc⟩
  · refine Table.length_filter_le_one hreg.live.keyed fun x hx y hy hc hc' => ?_
    exact hreplays.once x hx y hy _ (hcontext x hx id requestId (of_decide_eq_true hc))
      (hcontext y hy id requestId (of_decide_eq_true hc'))
  · obtain ⟨fields, hm, hcontext⟩ := hanswered c dlqId requestId answer hc
    obtain ⟨fields', hm', hcontext'⟩ := hanswered e dlqId' requestId answer' he
    obtain ⟨id, rfl⟩ := hk _ hm dlqId (replayContext_lookup hcontext).1
    have hsame : dlqId' = id.text :=
      hk.lookup hm' (replayContext_lookup hcontext').1 (hd.symm.trans (StreamId.parse_text id))
    rw [hsame] at hcontext'
    exact congrArg Prod.fst (hreplays.once _ hm _ hm' _ hcontext hcontext')
  · rw [List.filter_congr fun x hx => hk.replaysId (hreg.live.mem_log hx) id]
    exact Table.length_filter_le_one hreg.live.entries fun x hx y hy =>
      hreplays.single x hx y hy id.text
  · have hret : retained q.redis.dlq x.1.text = true :=
      (retained_iff hreg.dlq).mpr ⟨x.1, x.2, StreamId.parse_text x.1, hx⟩
    rw [List.filter_congr fun y hy => hk.replaysId hy x.1]
    exact (hreplays.hash x.1.text hret).count

/-- A call that meets the condition keeps the spelling. -/
theorem Spelled.step (h : Spelled q.redis.live) (hs : Stepped q a q') (hg : q.AsWritten a) :
    Spelled q'.redis.live := by
  cases hs with
  | @enqueued job now _ hnone =>
      show Spelled (q.redis.enqueueJob job now).2.live
      simp only [Redis.enqueueJob, hnone]
      exact h.add now fun dlqId hd => by cases hd
  | published _ hnone => exact h.add _ fun dlqId hd => by cases hnone.symm.trans hd
  | marked =>
      show Spelled (q.redis.recordReplayProcessing _ _).live
      rw [Redis.recordReplayProcessing, Redis.hsetAction_live]
      exact h
  | recordFailure =>
      show Spelled (q.redis.recordFailure _ _ _).live
      rw [Redis.recordFailure, Redis.hsetAction_live]
      exact h
  | deadLetter =>
      show Spelled (q.redis.deadLetter _ _ _ _).live
      rw [Redis.deadLetter, Redis.hsetAction_live]
      exact h
  | acknowledge =>
      show Spelled (q.redis.acknowledge _ _ _).live
      rw [Redis.acknowledge, Redis.hsetAction_live]
      exact h
  | @created c dlqId requestId evidence clock now hp hr =>
      refine h.add now fun d hd => ?_
      have hdlq : (Redis.replayFields (QueueRuntime.modelDumpJson evidence.job) dlqId
          requestId).lookup "replay_dlq_id" = some dlqId := by
        simp [Redis.replayFields, List.lookup_cons]
      cases hdlq.symm.trans hd
      obtain ⟨fields, hentry, -⟩ := hr.retained
      obtain ⟨id, hid, -⟩ := Option.bind_eq_some_iff.mp hentry
      exact ⟨id, hg (dlqId, requestId, evidence) (by rw [hp]; rfl) hr id hid⟩
  | @purged cutoff limit =>
      show Spelled (q.redis.purgeBatch cutoff limit).live
      rw [(Redis.purgeBatch_live cutoff limit).1]
      exact h
  | _ => exact h

omit [QueueRuntime] in
/-- Under another spelling an entry is added that the hash of the dead-letter
entry does not count. -/
theorem Counted.created {dlqId requestId payload : String} {clock : Int} {now : Nat}
    {id : StreamId} {fields : DeadLetterFields} (h : Counted r)
    (hmem : (id, fields) ∈ r.dlq.entries) (hid : StreamId.parse dlqId = some id)
    (h' : Counted (r.createReplay dlqId requestId payload clock now).2) : dlqId = id.text := by
  by_contra hne
  have hafter := h' (id, fields) hmem
  have hsame : (r.createReplay dlqId requestId payload clock now).2.replays id.text =
      r.replays id.text := Function.update_of_ne (Ne.symm hne) ..
  have hlog : (r.createReplay dlqId requestId payload clock now).2.live.log =
      r.live.log ++ [((r.live.add now (Redis.replayFields payload dlqId requestId)).1,
        Redis.replayFields payload dlqId requestId)] := rfl
  have hnew : ∀ i, Queue.replaysId id (i, Redis.replayFields payload dlqId requestId) = true :=
    fun i => decide_eq_true hid
  rw [hsame, h _ hmem, hlog, List.filter_append, List.length_append, List.filter_singleton,
    hnew] at hafter
  simp at hafter

theorem ReplayedOnce.asWritten (hsafe : q.ReplaySafe) (hk : Spelled q.redis.live)
    (hs : Stepped q a q') (h : q'.ReplayedOnce maxAttempts) : q.AsWritten a := by
  cases hs with
  | @created c dlqId requestId evidence clock now hp hr =>
      intro call hcall _ id hid
      rw [hp] at hcall
      cases hcall
      obtain ⟨fields, hentry, -⟩ := hr.retained
      obtain ⟨id', hid', hget⟩ := Option.bind_eq_some_iff.mp hentry
      cases hid'.symm.trans hid
      exact (hsafe.replayedOnce maxAttempts hk).count.created
        ((EntryStream.get?_iff hsafe.regular.dlq).mp hget) hid h.count
  | existing hp _ _ hid =>
      intro call hcall hr
      rw [hp] at hcall
      cases hcall
      cases hid.symm.trans hr.new
  | refused hp hn =>
      intro call hcall hr
      rw [hp] at hcall
      cases hcall
      exact absurd hr hn
  | _ => trivial

/-- Replay is exactly-once and exclusive in every state of a run exactly if every
call of the run that adds an entry names the dead-letter entry by the id that it
has in the stream. -/
theorem replayedOnce_iff {as : List QueueAction} (h₀ : q.Start)
    (h : Run (Fires (step maxAttempts)) q as q') :
    Always (step maxAttempts) (ReplayedOnce maxAttempts) q as ↔
      Run (Guarded AsWritten (Fires (step maxAttempts))) q as q' := by
  have hspelled : Spelled q.redis.live := by
    rw [h₀.live]
    exact fun x hx => by cases hx
  refine always_iff_guarded_by ReplaySafe (fun q => Spelled q.redis.live) h h₀.replaySafe hspelled
    (fun t hsafe hk => hsafe.replayedOnce maxAttempts hk) fun t a u hsafe hs => ?_
  have hs := step_cases maxAttempts hs
  exact ⟨hsafe.step hs, fun hk => ⟨fun hu => hu.asWritten maxAttempts hsafe hk hs, hk.step hs⟩⟩

end

/-- A job is dead-lettered and replayed by two calls of one request. -/
def replayedJob : List QueueAction :=
  [.enqueue (sampleJob 'a') 1, .read 0, .parse 0, .finish 0 (.raised "timeout"), .markFailed 0,
   .deadLetter 0 2 2, .request 0 "2-0" sampleRequest, .request 1 "2-0" sampleRequest,
   .evaluate 0 3 3, .evaluate 1 3 3]

omit [QueueRuntime] in
theorem replayedJob_once :
    letI := flatRuntime
    Always (step 1) (ReplayedOnce 1) .empty replayedJob := by
  rw [flatRuntime_eq]
  let _ := quickRuntime
  have hsome : (exec (fun q a => if AsWritten q a then step 1 q a else none) .empty
      replayedJob).isSome = true := by
    decide +kernel
  obtain ⟨q, hrun, hguarded⟩ := guarded_of_exec hsome
  exact (replayedOnce_iff 1 empty_start hrun).mpr hguarded

/-- The dead-letter entry is replayed by two calls of one request, one of them
under its id with a leading zero. -/
def respelledReplay : List QueueAction :=
  replayedJob.take 6 ++ [.request 0 "2-0" sampleRequest, .evaluate 0 3 3,
    .request 1 "02-0" sampleRequest, .evaluate 1 4 4]

omit [QueueRuntime] in
/-- Both calls create an entry, and both entries are in the stream. -/
theorem respelledReplay_twice :
    letI := flatRuntime
    ∃ q answer answer', Run (Fires (step 1)) .empty respelledReplay q ∧
      q.replay 0 = .answered "2-0" sampleRequest answer ∧ answer.created = true ∧
      q.replay 1 = .answered "02-0" sampleRequest answer' ∧ answer'.created = true ∧
      (q.redis.live.entries.filter (replaysId (toLex (2, 0)))).length = 2 ∧
      ¬q.ReplayedOnce 1 := by
  rw [flatRuntime_eq]
  let _ := quickRuntime
  have hdata : (exec (step 1) .empty respelledReplay).any (fun q =>
      answeredWith "2-0" sampleRequest true (q.replay 0) &&
        answeredWith "02-0" sampleRequest true (q.replay 1) &&
        (q.redis.live.entries.filter (replaysId (toLex (2, 0)))).length = 2) = true := by
    decide +kernel
  obtain ⟨q, hq, hdata⟩ := (Option.any_eq_true _ _).mp hdata
  rw [Bool.and_eq_true, Bool.and_eq_true, decide_eq_true_iff] at hdata
  obtain ⟨⟨hfirst, hsecond⟩, htwo⟩ := hdata
  obtain ⟨answer, hc, hcreated⟩ := answeredWith_iff.mp hfirst
  obtain ⟨answer', he, hcreated'⟩ := answeredWith_iff.mp hsecond
  refine ⟨q, answer, answer', run_of_exec hq, hc, hcreated, he, hcreated', htwo, fun honce => ?_⟩
  have hle := honce.exclusive (toLex (2, 0))
  rw [htwo] at hle
  exact absurd hle (by decide)

end

end Queue

end FreightAP
