import Mathlib.Data.List.TakeDrop
import Mathlib.Data.Prod.Lex
import Mathlib.Logic.Function.Basic
import Mathlib.Order.Basic
import FreightAP.Lib.Table

/-!
# Streams and consumer groups

The streams of Redis.  An entry has an id, a pair of a time and a sequence
number, and ids grow.  A consumer group hands every entry out once, and keeps
how often each entry that is not acknowledged was delivered.

The log holds all entries ever added, so it only grows, and an id names one
entry of it.  Idle times are left out: any pending entry can be claimed.
-/

/-! ## Ids -/

/-- A stream id, ordered by its time and then by its sequence number. -/
abbrev StreamId := Nat ×ₗ Nat

namespace StreamId

/-- The id that `*` stands for. -/
def next (last : StreamId) (now : Nat) : StreamId :=
  if (ofLex last).1 < now then toLex (now, 0)
  else toLex ((ofLex last).1, (ofLex last).2 + 1)

theorem lt_next (last : StreamId) (now : Nat) : last < last.next now := by
  unfold next
  split
  next h => exact Prod.Lex.lt_iff.mpr (.inl h)
  next => exact Prod.Lex.lt_iff.mpr (.inr ⟨rfl, Nat.lt_succ_self _⟩)

/-- The text of an id. -/
def text (id : StreamId) : String := (ofLex id).1.repr ++ "-" ++ (ofLex id).2.repr

/-- A number in a text, of one digit at least. -/
def number? (cs : List Char) : Option Nat :=
  if cs ≠ [] ∧ cs.all Char.isDigit then some (Nat.ofDigitChars 10 cs 0) else none

/-- The id a text stands for.  Leading zeros are read over. -/
def parse (s : String) : Option StreamId :=
  let (ms, rest) := s.toList.span (· ≠ '-')
  match rest with
  | _ :: seq => (number? ms).bind fun ms => (number? seq).map fun seq => toLex (ms, seq)
  | [] => none

theorem number?_repr (n : Nat) : number? n.repr.toList = some n := by
  have hne : n.repr.toList ≠ [] := by
    rw [Nat.toList_repr]
    exact Nat.toDigits_ne_nil
  have hall : n.repr.toList.all Char.isDigit = true := by
    rw [Nat.toList_repr, List.all_eq_true]
    exact fun c hc => Nat.isDigit_of_mem_toDigits (by decide) (by decide) hc
  rw [number?, if_pos ⟨hne, hall⟩, Nat.toList_repr, Nat.ofDigitChars_ten_toDigits]

/-- A text names the id it was printed from. -/
theorem parse_text (id : StreamId) : parse id.text = some id := by
  have hms : ∀ c ∈ (ofLex id).1.repr.toList, decide (c ≠ '-') = true := by
    intro c hc
    rw [Nat.toList_repr] at hc
    have hd := Nat.isDigit_of_mem_toDigits (by decide) (by decide) hc
    rw [decide_eq_true_iff]
    rintro rfl
    exact absurd hd (by decide)
  have hspan : id.text.toList.span (fun c => decide (c ≠ '-')) =
      ((ofLex id).1.repr.toList, '-' :: (ofLex id).2.repr.toList) := by
    rw [List.span_eq_takeWhile_dropWhile]
    have : id.text.toList = (ofLex id).1.repr.toList ++ '-' :: (ofLex id).2.repr.toList := by
      simp [text]
    rw [this, List.takeWhile_append_of_pos hms, List.dropWhile_append_of_pos hms]
    simp
  unfold parse
  rw [hspan]
  show (number? _).bind (fun ms => (number? _).map fun seq => toLex (ms, seq)) = some id
  rw [number?_repr, number?_repr]
  rfl

theorem text_injective : Function.Injective text := by
  intro a b h
  have hparse := congrArg parse h
  rw [parse_text, parse_text] at hparse
  exact Option.some.inj hparse

theorem text_ne_empty (id : StreamId) : id.text ≠ "" := by
  intro h
  have hparse := parse_text id
  rw [h] at hparse
  cases hparse

end StreamId

/-! ## Streams -/

/-- A stream: its entries, the last id given out, and all entries ever added. -/
structure EntryStream (φ : Type) where
  entries : List (StreamId × φ)
  lastId : StreamId
  log : List (StreamId × φ)

namespace EntryStream

variable {φ : Type}

/-- A stream of no entry. -/
def empty : EntryStream φ := ⟨[], toLex (0, 0), []⟩

/-- `XADD` with `*`: the id and the stream. -/
def add (s : EntryStream φ) (now : Nat) (x : φ) : StreamId × EntryStream φ :=
  let id := s.lastId.next now
  (id, ⟨s.entries ++ [(id, x)], id, s.log ++ [(id, x)]⟩)

/-- `XDEL`. -/
def del (s : EntryStream φ) (id : StreamId) : EntryStream φ :=
  { s with entries := s.entries.filter (·.1 ≠ id) }

/-- `XRANGE` from an id to itself. -/
def get? (s : EntryStream φ) (id : StreamId) : Option φ := (Table.get? Prod.fst id s.entries).map (·.2)

/-- What holds of every stream. -/
structure Valid (s : EntryStream φ) : Prop where
  sub : s.entries.Sublist s.log
  keyed : Table.Keyed Prod.fst s.log
  le : ∀ e ∈ s.log, e.1 ≤ s.lastId

section

variable {s : EntryStream φ} {now : Nat} {x y : φ} {id : StreamId}

theorem valid_empty : Valid (empty : EntryStream φ) where
  sub := List.Sublist.refl _
  keyed := List.nodup_nil
  le e he := by cases he

theorem Valid.add (h : s.Valid) (now : Nat) (x : φ) : (s.add now x).2.Valid where
  sub := h.sub.append (List.Sublist.refl _)
  keyed := Table.keyed_concat h.keyed fun e he =>
    ne_of_lt (lt_of_le_of_lt (h.le e he) (StreamId.lt_next ..))
  le e he := by
    rcases List.mem_append.mp he with he | he
    · exact (h.le e he).trans (StreamId.lt_next ..).le
    · rw [List.mem_singleton.mp he]
      exact le_refl _

theorem Valid.del (h : s.Valid) (id : StreamId) : (s.del id).Valid where
  sub := List.filter_sublist.trans h.sub
  keyed := h.keyed
  le := h.le

/-- The entries have different ids. -/
theorem Valid.entries (h : s.Valid) : Table.Keyed Prod.fst s.entries :=
  List.Nodup.sublist (h.sub.map Prod.fst) h.keyed

/-- The new id is no old one. -/
theorem Valid.new (h : s.Valid) (hx : (id, x) ∈ s.log) : id ≠ (s.add now y).1 :=
  ne_of_lt (lt_of_le_of_lt (h.le _ hx) (StreamId.lt_next ..))

/-- An id names one entry of the log. -/
theorem Valid.eq_of_id (h : s.Valid) (hx : (id, x) ∈ s.log) (hy : (id, y) ∈ s.log) : x = y :=
  congrArg Prod.snd (Table.eq_of_key h.keyed hx hy rfl)

theorem Valid.mem_log (h : s.Valid) (hx : (id, x) ∈ s.entries) : (id, x) ∈ s.log := h.sub.subset hx

theorem get?_iff (h : s.Valid) : s.get? id = some x ↔ (id, x) ∈ s.entries := by
  unfold get?
  constructor
  · intro hx
    obtain ⟨e, he, hx⟩ := Option.map_eq_some_iff.mp hx
    have hid : e.1 = id := Table.get?_some_key he
    rw [← hid, ← hx]
    exact Table.get?_some_mem he
  · intro hx
    rw [show Table.get? Prod.fst id s.entries = some (id, x) from Table.get?_of_mem h.entries hx]
    rfl

@[simp] theorem mem_entries_add : (id, x) ∈ (s.add now y).2.entries ↔
    (id, x) ∈ s.entries ∨ id = (s.add now y).1 ∧ x = y := by
  simp [EntryStream.add]

@[simp] theorem mem_log_add : (id, x) ∈ (s.add now y).2.log ↔
    (id, x) ∈ s.log ∨ id = (s.add now y).1 ∧ x = y := by
  simp [EntryStream.add]

theorem mem_entries_del {j : StreamId} : (j, x) ∈ (s.del id).entries ↔ (j, x) ∈ s.entries ∧ j ≠ id := by
  simp [EntryStream.del]

end

end EntryStream

/-! ## Groups -/

/-- A consumer group: the last id it handed out, and how often each pending
entry was delivered. -/
structure ConsumerGroup where
  delivered : StreamId
  pending : StreamId → Option Nat

namespace ConsumerGroup

variable {φ : Type}

/-- A group that starts at the first entry. -/
def new : ConsumerGroup := ⟨toLex (0, 0), fun _ => none⟩

/-- `XREADGROUP` of the entries never handed out: the next one. -/
def read (g : ConsumerGroup) (s : EntryStream φ) : Option (StreamId × φ) × ConsumerGroup :=
  match s.entries.find? (g.delivered < ·.1) with
  | some (id, x) => (some (id, x), ⟨id, Function.update g.pending id (some 1)⟩)
  | none => (none, g)

/-- `XAUTOCLAIM` of one entry.  An entry that was deleted is not pending any
more. -/
def claim (g : ConsumerGroup) (s : EntryStream φ) (id : StreamId) : Option (StreamId × φ) × ConsumerGroup :=
  match g.pending id, s.get? id with
  | some n, some x => (some (id, x), { g with pending := Function.update g.pending id (some (n + 1)) })
  | some _, none => (none, { g with pending := Function.update g.pending id none })
  | none, _ => (none, g)

/-- `XCLAIM` with a retry count, of an entry that is pending. -/
def setCount (g : ConsumerGroup) (id : StreamId) (n : Nat) : ConsumerGroup :=
  match g.pending id with
  | some _ => { g with pending := Function.update g.pending id (some n) }
  | none => g

/-- `XACK`. -/
def ack (g : ConsumerGroup) (id : StreamId) : ConsumerGroup :=
  { g with pending := Function.update g.pending id none }

section

variable {g g' : ConsumerGroup} {s : EntryStream φ} {id j : StreamId} {x : φ}

/-- What is read is an entry that was not handed out, and it is pending now. -/
theorem read_some (h : g.read s = (some (id, x), g')) :
    (id, x) ∈ s.entries ∧ g.delivered < id ∧
      g' = ⟨id, Function.update g.pending id (some 1)⟩ := by
  unfold read at h
  cases hf : s.entries.find? (fun e => decide (g.delivered < e.1)) with
  | none =>
      rw [hf] at h
      cases h
  | some e =>
      rw [hf] at h
      obtain ⟨i, y⟩ := e
      cases h
      exact ⟨List.mem_of_find?_eq_some hf, of_decide_eq_true (List.find?_some hf :), rfl⟩

/-- What is claimed is a pending entry, with one more delivery. -/
theorem claim_some (hs : s.Valid) (h : g.claim s j = (some (id, x), g')) :
    j = id ∧ (id, x) ∈ s.entries ∧ ∃ n, g.pending id = some n ∧
      g' = { g with pending := Function.update g.pending id (some (n + 1)) } := by
  unfold claim at h
  cases hp : g.pending j with
  | none =>
      simp only [hp] at h
      cases h
  | some n =>
      cases hx : s.get? j with
      | none =>
          simp only [hp, hx] at h
          cases h
      | some y =>
          simp only [hp, hx] at h
          cases h
          exact ⟨rfl, (EntryStream.get?_iff hs).mp hx, n, hp, rfl⟩

/-- A claim of nothing forgets an entry that is not in the stream. -/
theorem claim_none (hs : s.Valid) (h : g.claim s j = (none, g')) :
    g'.delivered = g.delivered ∧ (∀ i m, g'.pending i = some m → ∃ n, g.pending i = some n) ∧
      ∀ i y, (i, y) ∈ s.entries → g'.pending i = g.pending i := by
  unfold claim at h
  cases hp : g.pending j with
  | none =>
      simp only [hp] at h
      cases h
      exact ⟨rfl, fun _ n hn => ⟨n, hn⟩, fun _ _ _ => rfl⟩
  | some n =>
      cases hx : s.get? j with
      | some y =>
          simp only [hp, hx] at h
          cases h
      | none =>
          simp only [hp, hx] at h
          cases h
          refine ⟨rfl, fun i m hm => ?_, fun i y hi => Function.update_of_ne ?_ ..⟩
          · by_cases hi : i = j
            · exact ⟨n, hi ▸ hp⟩
            · exact ⟨m, (Function.update_of_ne hi ..).symm.trans hm⟩
          rintro rfl
          rw [(EntryStream.get?_iff hs).mpr hi] at hx
          cases hx

theorem setCount_delivered (n : Nat) : (g.setCount id n).delivered = g.delivered := by
  unfold setCount
  split <;> rfl

/-- The count of a pending entry is set. -/
theorem setCount_pending (n : Nat) : (g.setCount id n).pending j =
    if j = id then (g.pending id).map fun _ => n else g.pending j := by
  unfold setCount
  cases hp : g.pending id with
  | none =>
      by_cases hj : j = id
      · rw [if_pos hj, hj]
        exact hp
      · rw [if_neg hj]
  | some m =>
      by_cases hj : j = id
      · rw [if_pos hj, hj]
        exact Function.update_self ..
      · rw [if_neg hj]
        exact Function.update_of_ne hj ..

/-- Only pending entries have a count set. -/
theorem setCount_some {n m : Nat} (h : (g.setCount id n).pending j = some m) :
    ∃ k, g.pending j = some k := by
  rw [setCount_pending] at h
  split at h
  next hj =>
    obtain ⟨k, hk, -⟩ := Option.map_eq_some_iff.mp h
    exact ⟨k, hj ▸ hk⟩
  · exact ⟨m, h⟩

theorem ack_some {n : Nat} (h : (g.ack id).pending j = some n) : ∃ k, g.pending j = some k := by
  by_cases hj : j = id
  · subst hj
    exact absurd ((Function.update_self ..).symm.trans h) (Option.some_ne_none n).symm
  · exact ⟨n, (Function.update_of_ne hj ..).symm.trans h⟩

theorem ack_pending (hj : j ≠ id) : (g.ack id).pending j = g.pending j :=
  Function.update_of_ne hj ..

end

end ConsumerGroup
