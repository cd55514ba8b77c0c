import FreightAP.Lib.StreamRange
import FreightAP.Queue.Redis

/-!
# Purging the dead-letter stream

`purgeDlqEntries` runs the script in batches until the entries below the cutoff
or the bound on the deletions are used up.  `Purged rows` says that the entries
`rows` went from the front of the stream, each with its two hashes, and nothing
else.  It holds of one row, and it composes over the rows of a batch and over
the batches.
-/

namespace FreightAP

namespace Redis

/-- The entries below a cutoff. -/
def expired (r : Redis) (cutoff : StreamId) : List (StreamId × DeadLetterFields) :=
  r.dlq.entries.filter fun e => e.1 < cutoff

/-- What `PURGE_BATCH_SCRIPT` answers: the number of rows, and whether an entry
below the cutoff remains. -/
def purgeBatchAnswer (r : Redis) (cutoff : StreamId) (limit : Nat) : Nat × Bool :=
  (((r.expired cutoff).take limit).length,
    !(((r.purgeBatch cutoff limit).expired cutoff).take 1).isEmpty)

/-- The loop of `purge_dlq_entries`, with the count and the flag of the batches
so far. -/
def purgeLoop (cutoff : StreamId) (maxDelete batchSize : Nat) :
    Nat → Nat → Bool → Redis → Option (Nat × Bool × Redis)
  | 0, _, _, _ => none
  | fuel + 1, purgedCount, hasMore, r =>
      if purgedCount < maxDelete then
        let limit := min batchSize (maxDelete - purgedCount)
        let (removed, remaining) := r.purgeBatchAnswer cutoff limit
        let r := r.purgeBatch cutoff limit
        if removed < limit ∨ remaining = false then some (purgedCount + removed, remaining, r)
        else purgeLoop cutoff maxDelete batchSize fuel (purgedCount + removed) remaining r
      else some (purgedCount, hasMore, r)

/-- `purge_dlq_entries`: the count, the flag and the keys. -/
def purgeDlqEntries (r : Redis) (cutoff : StreamId) (maxDelete batchSize fuel : Nat) :
    Option (Nat × Bool × Redis) :=
  purgeLoop cutoff maxDelete batchSize fuel 0 false r

/-! ## What goes -/

/-- The first entries went, each with its two hashes, and nothing else. -/
structure Purged (rows : List (StreamId × DeadLetterFields)) (r r' : Redis) : Prop where
  entries : r.dlq.entries = rows ++ r'.dlq.entries
  replays : ∀ key, r'.replays key =
    if ∃ e ∈ rows, e.1.text = key then ReplayHash.empty else r.replays key
  failures : ∀ streamId, r'.failures streamId =
    if ∃ e ∈ rows, e.2.originalStreamId = some streamId then none else r.failures streamId
  stream : r'.dlq.lastId = r.dlq.lastId ∧ r'.dlq.log = r.dlq.log
  rest : r'.live = r.live ∧ r'.group = r.group ∧ r'.dedupe = r.dedupe

theorem Purged.refl (r : Redis) : Purged [] r r := by
  constructor <;> simp

theorem Purged.trans {rows rows' : List (StreamId × DeadLetterFields)} {r r' r'' : Redis}
    (h : Purged rows r r') (h' : Purged rows' r' r'') : Purged (rows ++ rows') r r'' := by
  constructor
  case entries => rw [h.entries, h'.entries, List.append_assoc]
  case replays =>
    intro key
    rw [h'.replays, h.replays]
    by_cases hnew : ∃ e ∈ rows', e.1.text = key
    · obtain ⟨e, he, hkey⟩ := hnew
      rw [if_pos ⟨e, he, hkey⟩, if_pos ⟨e, List.mem_append_right _ he, hkey⟩]
    · simp only [hnew, if_false, List.mem_append, or_and_right, exists_or, or_false]
  case failures =>
    intro streamId
    rw [h'.failures, h.failures]
    by_cases hnew : ∃ e ∈ rows', e.2.originalStreamId = some streamId
    · obtain ⟨e, he, hid⟩ := hnew
      rw [if_pos ⟨e, he, hid⟩, if_pos ⟨e, List.mem_append_right _ he, hid⟩]
    · simp only [hnew, if_false, List.mem_append, or_and_right, exists_or, or_false]
  case stream =>
    exact ⟨h'.stream.1.trans h.stream.1, h'.stream.2.trans h.stream.2⟩
  case rest =>
    obtain ⟨hlive, hgroup, hdedupe⟩ := h.rest
    obtain ⟨hlive', hgroup', hdedupe'⟩ := h'.rest
    exact ⟨hlive'.trans hlive, hgroup'.trans hgroup, hdedupe'.trans hdedupe⟩

/-- One row of the script, at the front of a stream of growing ids. -/
theorem purged_purgeRow {r : Redis} {row : StreamId × DeadLetterFields}
    {rest : List (StreamId × DeadLetterFields)} (hentries : r.dlq.entries = row :: rest)
    (hsorted : r.dlq.entries.Pairwise fun a b => a.1 < b.1) : Purged [row] r (r.purgeRow row) := by
  constructor
  case entries =>
    rw [hentries] at hsorted
    have hrest : rest.filter (fun e => e.1 ≠ row.1) = rest := by
      rw [List.filter_eq_self]
      intro e he
      simpa using ((List.pairwise_cons.mp hsorted).1 e he).ne'
    simp only [purgeRow, EntryStream.del, hentries]
    rw [List.filter_cons_of_neg (by simp), hrest]
    rfl
  case replays =>
    intro key
    simp [purgeRow, Function.update_apply, eq_comm]
  case failures =>
    intro streamId
    cases hid : row.2.originalStreamId with
    | none => simp [purgeRow, hid]
    | some original => simp [purgeRow, hid, Function.update_apply, eq_comm]
  case stream => exact ⟨rfl, rfl⟩
  case rest => exact ⟨rfl, rfl, rfl⟩

/-- The rows of a batch, at the front of a stream of growing ids. -/
theorem purged_rows {r : Redis} {rows rest : List (StreamId × DeadLetterFields)}
    (hentries : r.dlq.entries = rows ++ rest)
    (hsorted : r.dlq.entries.Pairwise fun a b => a.1 < b.1) :
    Purged rows r (rows.foldl purgeRow r) := by
  induction rows generalizing r with
  | nil => exact Purged.refl r
  | cons row rows ih =>
      have hrow := purged_purgeRow hentries hsorted
      have hentries' : (r.purgeRow row).dlq.entries = rows ++ rest := by
        have h := hentries.symm.trans hrow.entries
        exact (List.cons.inj h).2.symm
      have hsorted' : (r.purgeRow row).dlq.entries.Pairwise fun a b => a.1 < b.1 := by
        rw [hentries] at hsorted
        rw [hentries']
        exact hsorted.of_cons
      exact hrow.trans (ih hentries' hsorted')

/-! ## A batch and the loop -/

section

variable {r : Redis} {cutoff : StreamId}

/-- After a purge the ids still grow, and the expired entries are the others. -/
theorem Purged.after {rows : List (StreamId × DeadLetterFields)} {r' : Redis}
    (h : Purged rows r r') (hsorted : r.dlq.entries.Pairwise fun a b => a.1 < b.1)
    (hrows : ∀ e ∈ rows, e.1 < cutoff) :
    (r'.dlq.entries.Pairwise fun a b => a.1 < b.1) ∧
      r.expired cutoff = rows ++ r'.expired cutoff := by
  constructor
  · rw [h.entries] at hsorted
    exact (List.pairwise_append.mp hsorted).2.1
  · have hself : rows.filter (fun e => e.1 < cutoff) = rows := by
      rw [List.filter_eq_self]
      intro e he
      simpa using hrows e he
    rw [expired, h.entries, List.filter_append, hself]
    rfl

theorem mem_expired {e : StreamId × DeadLetterFields} :
    e ∈ r.expired cutoff ↔ e ∈ r.dlq.entries ∧ e.1 < cutoff := by
  simp [expired]

variable (cutoff) in
/-- A batch takes the first expired entries, `limit` of them at most, and its
answer says how many they are and whether others remain. -/
theorem purgeBatch_spec (hsorted : r.dlq.entries.Pairwise fun a b => a.1 < b.1) (limit : Nat) :
    Purged ((r.expired cutoff).take limit) r (r.purgeBatch cutoff limit) ∧
      (r.purgeBatch cutoff limit).expired cutoff = (r.expired cutoff).drop limit ∧
      r.purgeBatchAnswer cutoff limit =
        (min limit (r.expired cutoff).length, decide (limit < (r.expired cutoff).length)) := by
  have hprefix : r.expired cutoff = r.dlq.entries.take (r.expired cutoff).length :=
    EntryStream.filter_lt_eq_take hsorted cutoff
  have hentries : r.dlq.entries = (r.expired cutoff).take limit ++
      ((r.expired cutoff).drop limit ++ r.dlq.entries.drop (r.expired cutoff).length) := by
    rw [← List.append_assoc, List.take_append_drop]
    conv_lhs => rw [← List.take_append_drop (r.expired cutoff).length r.dlq.entries, ← hprefix]
  have hpurged : Purged ((r.expired cutoff).take limit) r (r.purgeBatch cutoff limit) :=
    purged_rows hentries hsorted
  have hbelow : ∀ e ∈ (r.expired cutoff).take limit, e.1 < cutoff := by
    intro e he
    exact (mem_expired.mp (List.mem_of_mem_take he)).2
  have hrest : (r.purgeBatch cutoff limit).expired cutoff = (r.expired cutoff).drop limit := by
    have h := (hpurged.after hsorted hbelow).2
    conv_lhs at h => rw [← List.take_append_drop limit (r.expired cutoff)]
    exact (List.append_cancel_left h).symm
  refine ⟨hpurged, hrest, ?_⟩
  rw [purgeBatchAnswer, hrest, List.length_take]
  cases hdrop : (r.expired cutoff).drop limit with
  | nil =>
      have hle := List.drop_eq_nil_iff.mp hdrop
      simp [hle]
  | cons e es =>
      have hlt : limit < (r.expired cutoff).length := by
        have h := congrArg List.length hdrop
        simp only [List.length_drop, List.length_cons] at h
        omega
      simp [hlt]

/-- The loop purges the first expired entries, as many as the bound leaves. -/
theorem purgeLoop_spec {maxDelete batchSize : Nat} (hbatch : 1 ≤ batchSize) {fuel : Nat}
    {purgedCount : Nat} {hasMore : Bool}
    (hsorted : r.dlq.entries.Pairwise fun a b => a.1 < b.1)
    (hle : purgedCount ≤ maxDelete) (hfuel : maxDelete - purgedCount < fuel)
    (hmore : purgedCount = maxDelete → hasMore = !(r.expired cutoff).isEmpty) :
    ∃ r', purgeLoop cutoff maxDelete batchSize fuel purgedCount hasMore r =
        some (purgedCount + min (maxDelete - purgedCount) (r.expired cutoff).length,
          !(r'.expired cutoff).isEmpty, r') ∧
      Purged ((r.expired cutoff).take (maxDelete - purgedCount)) r r' := by
  induction fuel generalizing r purgedCount hasMore with
  | zero => omega
  | succ fuel ih =>
      rw [purgeLoop]
      split
      next hlt =>
        obtain ⟨hpurged, hrest, hanswer⟩ :=
          purgeBatch_spec cutoff hsorted (min batchSize (maxDelete - purgedCount))
        simp only [hanswer]
        generalize hlimit : min batchSize (maxDelete - purgedCount) = limit at *
        have hbelow : ∀ e ∈ (r.expired cutoff).take limit, e.1 < cutoff := by
          intro e he
          exact (mem_expired.mp (List.mem_of_mem_take he)).2
        split
        next hstop =>
          -- every expired entry was in this batch
          have hall : (r.expired cutoff).length ≤ limit := by
            simp only [decide_eq_false_iff_not] at hstop
            omega
          refine ⟨r.purgeBatch cutoff limit, ?_, ?_⟩
          · rw [hrest, List.drop_eq_nil_of_le hall]
            simp only [List.isEmpty_nil, Bool.not_true, Option.some.injEq, Prod.mk.injEq, and_true]
            constructor
            · omega
            · simpa using hall
          · rw [List.take_of_length_le (by omega : _ ≤ maxDelete - purgedCount)]
            rwa [List.take_of_length_le hall] at hpurged
        next hgo =>
          have hmany : limit < (r.expired cutoff).length := by
            simp only [decide_eq_false_iff_not, not_or, not_not] at hgo
            exact hgo.2
          have hmin : min limit (r.expired cutoff).length = limit := by omega
          rw [hmin]
          have hmore' : purgedCount + limit = maxDelete →
              decide (limit < (r.expired cutoff).length) =
                !((r.purgeBatch cutoff limit).expired cutoff).isEmpty := by
            intro _
            rw [hrest, List.isEmpty_eq_false_iff.mpr (by
              intro hnil
              have := List.drop_eq_nil_iff.mp hnil
              omega)]
            simpa using hmany
          obtain ⟨r', heq, hpurged'⟩ := ih (hpurged.after hsorted hbelow).1
            (by omega : purgedCount + limit ≤ maxDelete) (by omega) hmore'
          refine ⟨r', ?_, ?_⟩
          · rw [heq, hrest, List.length_drop]
            have hcount : purgedCount + limit +
                min (maxDelete - (purgedCount + limit)) ((r.expired cutoff).length - limit) =
                purgedCount + min (maxDelete - purgedCount) (r.expired cutoff).length := by
              omega
            rw [hcount]
          · have h := hpurged.trans hpurged'
            rwa [hrest, ← List.take_add, show limit + (maxDelete - (purgedCount + limit)) =
              maxDelete - purgedCount by omega] at h
      next hdone =>
        have heq : purgedCount = maxDelete := by omega
        refine ⟨r, ?_, ?_⟩
        · rw [hmore heq]
          simp [heq]
        · rw [heq, Nat.sub_self]
          exact Purged.refl r

/-- `purge_dlq_entries` removes exactly the oldest expired entries, as many as
it may, with their hashes.  It returns how many they are, and whether others
remain.  It runs one batch for every entry that it may delete, at most. -/
theorem purge_dlq_entries_exact (r : Redis) (cutoff : StreamId) {maxDelete batchSize fuel : Nat}
    (hsorted : r.dlq.entries.Pairwise fun a b => a.1 < b.1) (hmax : 1 ≤ maxDelete)
    (hbatch : 1 ≤ batchSize) (hfuel : maxDelete < fuel) :
    ∃ purgedCount hasMore r',
      r.purgeDlqEntries cutoff maxDelete batchSize fuel = some (purgedCount, hasMore, r') ∧
      purgedCount = min maxDelete (r.dlq.entries.filter fun e => e.1 < cutoff).length ∧
      r'.dlq.entries = r.dlq.entries.drop purgedCount ∧
      Purged (r.dlq.entries.take purgedCount) r r' ∧
      (hasMore = true ↔ ∃ e ∈ r'.dlq.entries, e.1 < cutoff) := by
  have hprefix : r.expired cutoff = r.dlq.entries.take (r.expired cutoff).length :=
    EntryStream.filter_lt_eq_take hsorted cutoff
  have hmore : 0 = maxDelete → false = !(r.expired cutoff).isEmpty := by omega
  obtain ⟨r', heq, hpurged⟩ :=
    purgeLoop_spec hbatch hsorted (Nat.zero_le maxDelete) hfuel hmore
  have htake : (r.expired cutoff).take maxDelete =
      r.dlq.entries.take (min maxDelete (r.expired cutoff).length) := by
    rw [← List.take_take, ← hprefix]
  rw [Nat.sub_zero, htake] at hpurged
  rw [Nat.zero_add, Nat.sub_zero] at heq
  refine ⟨_, _, r', heq, rfl, ?_, hpurged, ?_⟩
  · have h := hpurged.entries
    conv_lhs at h =>
      rw [← List.take_append_drop (min maxDelete (r.expired cutoff).length) r.dlq.entries]
    exact (List.append_cancel_left h).symm
  · constructor
    · intro hmore
      obtain ⟨e, he⟩ := List.exists_mem_of_ne_nil (r'.expired cutoff) (by simpa using hmore)
      exact ⟨e, mem_expired.mp he⟩
    · rintro ⟨e, he⟩
      have hne := List.ne_nil_of_mem (mem_expired.mpr he)
      simpa using hne

/-- A dead-letter stream of two entries, with the hashes of both. -/
def sampleDeadLetters : Redis where
  live := EntryStream.empty
  group := ConsumerGroup.new
  dlq :=
    ⟨[(toLex (5, 0), ⟨some (toLex (1, 0)), 3, 5, "boom", none⟩),
        (toLex (8, 0), ⟨some (toLex (2, 0)), 1, 8, "missing payload field", none⟩)],
      toLex (8, 0), []⟩
  dedupe _ := none
  replays _ := { ReplayHash.empty with replayCount := some 1 }
  failures _ := some ⟨3, "boom", 5⟩

theorem purge_dlq_entries_exact_sample :
    ∃ purgedCount hasMore r',
      sampleDeadLetters.purgeDlqEntries (toLex (8, 0)) 2 1 3 = some (purgedCount, hasMore, r') ∧
      purgedCount =
        min 2 (sampleDeadLetters.dlq.entries.filter fun e => e.1 < toLex (8, 0)).length ∧
      r'.dlq.entries = sampleDeadLetters.dlq.entries.drop purgedCount ∧
      Purged (sampleDeadLetters.dlq.entries.take purgedCount) sampleDeadLetters r' ∧
      (hasMore = true ↔ ∃ e ∈ r'.dlq.entries, e.1 < toLex (8, 0)) :=
  purge_dlq_entries_exact sampleDeadLetters (toLex (8, 0)) (by decide) (by decide) (by decide)
    (by decide)

end

end Redis

end FreightAP
