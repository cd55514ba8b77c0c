import Mathlib.Data.List.Nodup
import Mathlib.Order.Lattice
import FreightAP.Lib.StreamRange

/-!
# Groups that keep up with their stream

A group whose entries are acknowledged where they are deleted has as pending
exactly the entries that were handed out and are still there (`Tracks`).  Every
command keeps that (`Commanded.kept`), so what `XPENDING` counts can be read off the entries
(`Tracks.pendingIds_eq`), and every entry is either pending or still to be read.
-/

/-- A sublist of a list without repetitions is what a test of membership leaves
of the list. -/
theorem List.Sublist.eq_filter {α : Type} {xs ys : List α} (h : xs.Sublist ys)
    (hnodup : ys.Nodup) {p : α → Bool} (hp : ∀ y ∈ ys, p y = true ↔ y ∈ xs) :
    xs = ys.filter p := by
  induction h with
  | slnil => rfl
  | @cons xs ys y hsub ih =>
      obtain ⟨hy, hys⟩ := List.nodup_cons.mp hnodup
      have hout : ¬p y = true := fun hin =>
        hy (hsub.subset ((hp y (List.mem_cons_self ..)).mp hin))
      rw [List.filter_cons_of_neg hout]
      exact ih hys fun z hz => hp z (List.mem_cons_of_mem _ hz)
  | @cons_cons xs ys y hsub ih =>
      obtain ⟨hy, hys⟩ := List.nodup_cons.mp hnodup
      have hin : p y = true := (hp y (List.mem_cons_self ..)).mpr (List.mem_cons_self ..)
      rw [List.filter_cons_of_pos hin]
      refine congrArg (y :: ·) (ih hys fun z hz => ?_)
      rw [hp z (List.mem_cons_of_mem _ hz), List.mem_cons]
      exact or_iff_right fun he => hy (he ▸ hz)

namespace ConsumerGroup

variable {φ : Type} {g g' : ConsumerGroup} {s : EntryStream φ} {id j : StreamId} {x : φ}

/-- The ids of the pending entries, of all entries ever added.  `XPENDING`
answers with their number and the least of them. -/
def pendingIds (g : ConsumerGroup) (s : EntryStream φ) : List StreamId :=
  (s.log.map Prod.fst).filter fun id => (g.pending id).isSome

/-- The entries that were not handed out. -/
def unread (g : ConsumerGroup) (s : EntryStream φ) : List (StreamId × φ) :=
  s.entries.filter fun e => g.delivered < e.1

/-- The pending entries are those that were handed out and are there. -/
structure Tracks (g : ConsumerGroup) (s : EntryStream φ) : Prop where
  le : g.delivered ≤ s.lastId
  pending : ∀ id, (g.pending id).isSome = true ↔ (∃ x, (id, x) ∈ s.entries) ∧ id ≤ g.delivered

/-! ## Commands -/

theorem tracks_new : new.Tracks (EntryStream.empty : EntryStream φ) where
  le := le_refl _
  pending id := by simp [new, EntryStream.empty]

/-- An entry is added beyond all that were handed out. -/
theorem Tracks.add (h : g.Tracks s) (now : Nat) (x : φ) : g.Tracks (s.add now x).2 where
  le := h.le.trans (StreamId.lt_next ..).le
  pending id := by
    rw [h.pending]
    constructor
    · rintro ⟨⟨y, hy⟩, hle⟩
      exact ⟨⟨y, EntryStream.mem_entries_add.mpr (.inl hy)⟩, hle⟩
    · rintro ⟨⟨y, hy⟩, hle⟩
      rcases EntryStream.mem_entries_add.mp hy with hy | ⟨rfl, -⟩
      · exact ⟨⟨y, hy⟩, hle⟩
      · exact absurd (hle.trans h.le) (not_le.mpr (StreamId.lt_next ..))

/-- `XACK` and `XDEL` together. -/
theorem Tracks.remove (h : g.Tracks s) (j : StreamId) : (g.ack j).Tracks (s.del j) where
  le := h.le
  pending id := by
    simp only [EntryStream.mem_entries_del]
    by_cases hid : id = j
    · subst hid
      simp [ack]
    · rw [ack_pending hid, h.pending]
      simp [hid, ack]

theorem Tracks.setCount (h : g.Tracks s) (j : StreamId) (n : Nat) : (g.setCount j n).Tracks s where
  le := (setCount_delivered n).symm ▸ h.le
  pending id := by
    rw [setCount_delivered, ← h.pending, setCount_pending]
    by_cases hid : id = j
    · rw [if_pos hid, hid, Option.isSome_map]
    · rw [if_neg hid]

/-- `XREADGROUP`: the next entry is the first beyond those handed out. -/
theorem Tracks.read (h : g.Tracks s) (hs : s.Ordered) (hread : g.read s = (some (id, x), g')) :
    g'.Tracks s := by
  obtain ⟨hmem, hlt, rfl⟩ := read_some hread
  refine ⟨hs.le _ hmem, fun j => ?_⟩
  have hfirst : ∀ y, (j, y) ∈ s.entries → g.delivered < j → id ≤ j := by
    intro y hy hj
    have hfind : s.entries.find? (fun e => decide (g.delivered < e.1)) = some (id, x) := by
      unfold ConsumerGroup.read at hread
      split at hread
      next i z hfind =>
        cases hread
        exact hfind
      · cases hread
    obtain ⟨-, before, after, heq, hbefore⟩ := List.find?_eq_some_iff_append.mp hfind
    rw [heq] at hy
    rcases List.mem_append.mp hy with hy | hy
    · simpa [hj] using hbefore _ hy
    · rcases List.mem_cons.mp hy with hy | hy
      · exact (congrArg Prod.fst hy).ge
      · have hsorted := heq ▸ hs.sorted
        have htail := (List.pairwise_cons.mp (List.pairwise_append.mp hsorted).2.1).1
        exact (htail _ hy).le
  by_cases hj : j = id
  · subst hj
    simp only [Function.update_self, Option.isSome_some, le_refl, and_true, true_iff]
    exact ⟨x, hmem⟩
  · have hsame : Function.update g.pending id (some 1) j = g.pending j :=
      Function.update_of_ne hj ..
    show (Function.update g.pending id (some 1) j).isSome = true ↔ _
    rw [hsame, h.pending]
    refine and_congr_right fun ⟨y, hy⟩ => ⟨fun hle => hle.trans hlt.le, fun hle => ?_⟩
    by_contra hgt
    exact hj (le_antisymm hle (hfirst y hy (not_le.mp hgt)))

/-- `XAUTOCLAIM` of an entry. -/
theorem Tracks.claim (h : g.Tracks s) (hs : s.Valid) {found : Option (StreamId × φ)}
    (hclaim : g.claim s j = (found, g')) : g'.Tracks s := by
  cases found with
  | some e =>
      obtain ⟨id, x⟩ := e
      obtain ⟨rfl, -, n, hn, rfl⟩ := claim_some hs hclaim
      refine ⟨h.le, fun i => ?_⟩
      show (Function.update g.pending j (some (n + 1)) i).isSome = true ↔ _
      rw [← h.pending]
      by_cases hi : i = j
      · subst hi
        simp [hn]
      · rw [Function.update_of_ne hi]
  | none =>
      obtain ⟨hdelivered, hfewer, hsame⟩ := claim_none hs hclaim
      refine ⟨hdelivered ▸ h.le, fun i => ?_⟩
      rw [hdelivered, ← h.pending]
      constructor
      · intro hi
        obtain ⟨m, hm⟩ := Option.isSome_iff_exists.mp hi
        obtain ⟨n, hn⟩ := hfewer i m hm
        exact Option.isSome_iff_exists.mpr ⟨n, hn⟩
      · intro hi
        obtain ⟨⟨y, hy⟩, -⟩ := (h.pending i).mp hi
        rwa [hsame i y hy]

/-- What one command does to a stream and its group. -/
inductive Commanded (g : ConsumerGroup) (s : EntryStream φ) :
    ConsumerGroup → EntryStream φ → Prop where
  | quiet : Commanded g s g s
  | added (now : Nat) (x : φ) : Commanded g s g (s.add now x).2
  | removed (id : StreamId) : Commanded g s (g.ack id) (s.del id)
  | read {id : StreamId} {x : φ} {g' : ConsumerGroup} : g.read s = (some (id, x), g') →
      Commanded g s g' s
  | claimed {id : StreamId} {found : Option (StreamId × φ)} {g' : ConsumerGroup} :
      g.claim s id = (found, g') → Commanded g s g' s
  | counted (id : StreamId) (n : Nat) : Commanded g s (g.setCount id n) s

/-- A stream in order, and a group that keeps up with it. -/
structure Kept (g : ConsumerGroup) (s : EntryStream φ) : Prop where
  valid : s.Valid
  ordered : s.Ordered
  tracks : g.Tracks s

theorem kept_new : new.Kept (EntryStream.empty : EntryStream φ) :=
  ⟨EntryStream.valid_empty, EntryStream.ordered_empty, tracks_new⟩

/-- Every command keeps them. -/
theorem Commanded.kept {s' : EntryStream φ} (hc : g.Commanded s g' s') (h : g.Kept s) :
    g'.Kept s' := by
  cases hc with
  | quiet => exact h
  | added now x => exact ⟨h.valid.add now x, h.ordered.add now x, h.tracks.add now x⟩
  | removed id => exact ⟨h.valid.del id, h.ordered.del id, h.tracks.remove id⟩
  | read hread => exact ⟨h.valid, h.ordered, h.tracks.read h.ordered hread⟩
  | claimed hclaim => exact ⟨h.valid, h.ordered, h.tracks.claim h.valid hclaim⟩
  | counted id n => exact ⟨h.valid, h.ordered, h.tracks.setCount id n⟩

/-- The last entry handed out is never an older one than before. -/
theorem Commanded.delivered_le {s' : EntryStream φ} (hc : g.Commanded s g' s') (hs : s.Valid) :
    g.delivered ≤ g'.delivered := by
  cases hc with
  | read hread =>
      obtain ⟨-, hlt, rfl⟩ := read_some hread
      exact hlt.le
  | @claimed id found _ hclaim =>
      cases found with
      | some e =>
          obtain ⟨-, -, n, -, rfl⟩ := claim_some hs hclaim
          exact le_refl _
      | none => exact (claim_none hs hclaim).1.ge
  | counted id n => exact (setCount_delivered n).ge
  | _ => exact le_refl _

/-! ## What is pending -/

/-- The pending ids are those of the entries up to the last one handed out. -/
theorem Tracks.pendingIds_eq (h : g.Tracks s) (hs : s.Valid) :
    g.pendingIds s = (s.entries.map Prod.fst).filter fun id => id ≤ g.delivered := by
  have hsub : ((s.entries.map Prod.fst).filter fun id => id ≤ g.delivered).Sublist
      (s.log.map Prod.fst) := List.filter_sublist.trans (hs.sub.map _)
  refine (hsub.eq_filter hs.keyed fun id _ => ?_).symm
  rw [h.pending, List.mem_filter, decide_eq_true_iff]
  simp

/-- The entries are those pending and those still to be read. -/
theorem Tracks.length_entries (h : g.Tracks s) (hs : s.Valid) :
    s.entries.length = (g.pendingIds s).length + (g.unread s).length := by
  have hnot : (g.unread s).length =
      (s.entries.filter fun e => !decide (e.1 ≤ g.delivered)).length := by
    simp only [unread, ← not_le, decide_not]
  rw [h.pendingIds_eq hs, List.filter_map, List.length_map, hnot]
  exact (List.length_eq_length_filter_add _)

/-- The oldest pending entry is the oldest entry. -/
theorem Tracks.min?_pendingIds (h : g.Tracks s) (hs : s.Valid) (ho : s.Ordered)
    {id : StreamId} (hmin : (g.pendingIds s).min? = some id) :
    ∃ x, s.entries.head? = some (id, x) := by
  rw [h.pendingIds_eq hs, List.min?_eq_some_iff] at hmin
  obtain ⟨hmem, hleast⟩ := hmin
  obtain ⟨hmem, hle⟩ := List.mem_filter.mp hmem
  obtain ⟨⟨id, x⟩, hx, rfl⟩ := List.mem_map.mp hmem
  cases hentries : s.entries with
  | nil =>
      rw [hentries] at hx
      cases hx
  | cons e es =>
      have hsorted := (List.pairwise_cons.mp (hentries ▸ ho.sorted)).1
      rw [hentries] at hx
      rcases List.mem_cons.mp hx with rfl | hx
      · exact ⟨x, rfl⟩
      · -- an older entry was handed out as well
        have holder := hsorted _ hx
        have hhead : e.1 ∈ (s.entries.map Prod.fst).filter fun id => id ≤ g.delivered := by
          rw [hentries]
          exact List.mem_filter.mpr ⟨List.mem_cons_self .., decide_eq_true
            (holder.le.trans (of_decide_eq_true hle))⟩
        exact absurd (hleast _ hhead) (not_le.mpr holder)

/-- An entry that is pending can be claimed. -/
theorem Tracks.claimable (h : g.Tracks s) (hs : s.Valid) (hx : (id, x) ∈ s.entries)
    (hle : id ≤ g.delivered) : (g.claim s id).1 = some (id, x) := by
  obtain ⟨n, hn⟩ := Option.isSome_iff_exists.mp ((h.pending id).mpr ⟨⟨x, hx⟩, hle⟩)
  simp [ConsumerGroup.claim, hn, (EntryStream.get?_iff hs).mpr hx]

/-- A read hands out the first entry that was not handed out. -/
theorem read_eq (g : ConsumerGroup) (s : EntryStream φ) : (g.read s).1 = (g.unread s).head? := by
  rw [unread, List.head?_filter, ConsumerGroup.read]
  split
  next id x hfind => rw [hfind]
  next hfind => rw [hfind]

end ConsumerGroup
