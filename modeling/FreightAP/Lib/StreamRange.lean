import FreightAP.Lib.Stream

/-!
# Ranges of an ordered stream

The ids of a stream grow along its entries (`Ordered`), whatever is added and
deleted.  So the entries below an id are the first ones (`filter_lt_eq_take`),
and a page of the newest entries below an id splits them in two: those of the
page, and those below its last one (`mem_newest_or_lt`).
-/

namespace EntryStream

variable {φ : Type}

/-- The ids grow, up to the last id given out. -/
structure Ordered (s : EntryStream φ) : Prop where
  sorted : s.entries.Pairwise fun a b => a.1 < b.1
  le : ∀ e ∈ s.entries, e.1 ≤ s.lastId

/-- `XADD` with an id above the last one. -/
def append (s : EntryStream φ) (id : StreamId) (x : φ) : EntryStream φ :=
  ⟨s.entries ++ [(id, x)], id, s.log ++ [(id, x)]⟩

/-- `XREVRANGE` from below an id, or from the end: the newest entries. -/
def newest (s : EntryStream φ) (bound : Option StreamId) : List (StreamId × φ) :=
  (s.entries.filter fun e => bound.all fun id => e.1 < id).reverse

section

variable {s : EntryStream φ} {id : StreamId} {x : φ} {now : Nat}

theorem add_eq_append : (s.add now x).2 = s.append (s.lastId.next now) x := rfl

theorem ordered_empty : Ordered (empty : EntryStream φ) where
  sorted := List.Pairwise.nil
  le e he := by cases he

theorem Ordered.append (h : s.Ordered) (hid : s.lastId < id) : (s.append id x).Ordered where
  sorted := by
    refine List.pairwise_append.mpr ⟨h.sorted, List.pairwise_singleton .., ?_⟩
    intro e he e' he'
    rw [List.mem_singleton.mp he']
    exact (h.le e he).trans_lt hid
  le e he := by
    rcases List.mem_append.mp he with he | he
    · exact (h.le e he).trans hid.le
    · rw [List.mem_singleton.mp he]
      exact le_refl _

theorem Ordered.add (h : s.Ordered) (now : Nat) (x : φ) : (s.add now x).2.Ordered := by
  rw [add_eq_append]
  exact h.append (StreamId.lt_next ..)

theorem Ordered.del (h : s.Ordered) (id : StreamId) : (s.del id).Ordered where
  sorted := h.sorted.filter _
  le e he := h.le e (List.mem_of_mem_filter he)

end

/-! ## The oldest entries -/

/-- The entries below an id are the first ones. -/
theorem filter_lt_eq_take {es : List (StreamId × φ)} (h : es.Pairwise fun a b => a.1 < b.1)
    (cutoff : StreamId) :
    es.filter (fun e => e.1 < cutoff) =
      es.take (es.filter fun e => e.1 < cutoff).length := by
  induction es with
  | nil => rfl
  | cons e es ih =>
      obtain ⟨he, hes⟩ := List.pairwise_cons.mp h
      cases hlt : decide (e.1 < cutoff) with
      | true =>
          have hcons : (e :: es).filter (fun e => e.1 < cutoff) =
              e :: es.filter fun e => e.1 < cutoff := List.filter_cons_of_pos hlt
          rw [hcons, List.length_cons, List.take_succ_cons, ← ih hes]
      | false =>
          -- the ids after one that is not below are not below either
          have hge : cutoff ≤ e.1 := not_lt.mp (of_decide_eq_false hlt)
          have hnil : es.filter (fun e => e.1 < cutoff) = [] := by
            rw [List.filter_eq_nil_iff]
            intro e' he'
            simpa using hge.trans (he e' he').le
          simp [hlt, hnil]

/-! ## The newest entries -/

section

variable {s : EntryStream φ} {bound : Option StreamId} {e : StreamId × φ}

theorem mem_newest : e ∈ s.newest bound ↔ e ∈ s.entries ∧ ∀ id ∈ bound, e.1 < id := by
  cases bound <;> simp [newest]

theorem Ordered.newest (h : s.Ordered) (bound : Option StreamId) :
    (s.newest bound).Pairwise fun a b => b.1 < a.1 := by
  rw [EntryStream.newest, List.pairwise_reverse]
  exact h.sorted.filter _

/-- A decreasing list is its first entries and those below the last of them. -/
theorem mem_take_or_lt {es : List (StreamId × φ)} (h : es.Pairwise fun a b => b.1 < a.1)
    {n : Nat} {last : StreamId × φ} (hlast : (es.take n).getLast? = some last) (he : e ∈ es) :
    e ∈ es.take n ∨ e.1 < last.1 := by
  rw [← List.take_append_drop n es] at he h
  rcases List.mem_append.mp he with he | he
  · exact .inl he
  · obtain ⟨-, -, hlt⟩ := List.pairwise_append.mp h
    exact .inr (hlt last (List.mem_of_getLast? hlast) e he)

/-- The last of a decreasing list has the least id. -/
theorem last_le {es : List (StreamId × φ)} (h : es.Pairwise fun a b => b.1 < a.1)
    {last : StreamId × φ} (hlast : es.getLast? = some last) (he : e ∈ es) : last.1 ≤ e.1 := by
  obtain ⟨front, rfl⟩ := List.getLast?_eq_some_iff.mp hlast
  rcases List.mem_append.mp he with he | he
  · obtain ⟨-, -, hlt⟩ := List.pairwise_append.mp h
    exact (hlt e he last (List.mem_singleton_self _)).le
  · rw [List.mem_singleton.mp he]

/-- Fewer entries are below the last entry of a page than below its cursor. -/
theorem newest_length_lt {last : StreamId × φ} (hlast : last ∈ s.newest bound) :
    (s.newest (some last.1)).length < (s.newest bound).length := by
  obtain ⟨hmem, hbound⟩ := mem_newest.mp hlast
  have hsub : (s.newest (some last.1)).Sublist (s.newest bound) := by
    refine (List.monotone_filter_right _ fun e he => ?_).reverse
    cases bound with
    | none => rfl
    | some id => simpa using (show e.1 < last.1 by simpa using he).trans (hbound id rfl)
  refine lt_of_le_of_ne hsub.length_le fun hlen => ?_
  rw [← hsub.eq_of_length hlen] at hlast
  exact lt_irrefl _ ((mem_newest.mp hlast).2 _ rfl)

end

/-! ## Changes between two reads -/

/-- What other clients do to a stream: they add entries with larger ids, and
delete entries. -/
inductive Changed : EntryStream φ → EntryStream φ → Prop
  | refl (s : EntryStream φ) : Changed s s
  | append {s s' : EntryStream φ} (id : StreamId) (x : φ) :
      Changed s s' → s'.lastId < id → Changed s (s'.append id x)
  | del {s s' : EntryStream φ} (id : StreamId) : Changed s s' → Changed s (s'.del id)

section

variable {s s' : EntryStream φ}

theorem Changed.lastId (h : Changed s s') : s.lastId ≤ s'.lastId := by
  induction h with
  | refl => exact le_refl _
  | append id x _ hid ih => exact ih.trans hid.le
  | del id _ ih => exact ih

theorem Changed.ordered (h : Changed s s') (hs : s.Ordered) : s'.Ordered := by
  induction h with
  | refl => exact hs
  | append id x _ hid ih => exact ih.append hid
  | del id _ ih => exact ih.del id

/-- An entry under an id that was given out was there. -/
theorem Changed.mem_old (h : Changed s s') {id : StreamId} {x : φ} (hid : id ≤ s.lastId)
    (hx : (id, x) ∈ s'.entries) : (id, x) ∈ s.entries := by
  induction h with
  | refl => exact hx
  | @append s' j y hs hj ih =>
      rcases List.mem_append.mp hx with hx | hx
      · exact ih hx
      · cases List.mem_singleton.mp hx
        exact absurd (hid.trans hs.lastId) (not_le_of_gt hj)
  | del j _ ih => exact ih (List.mem_of_mem_filter hx)

/-- Below an id that was given out, entries only go. -/
theorem Changed.newest_sublist (h : Changed s s') {bound : StreamId} (hbound : bound ≤ s.lastId) :
    (s'.newest (some bound)).Sublist (s.newest (some bound)) := by
  induction h with
  | refl => exact List.Sublist.refl _
  | @append s' id x hs hid ih =>
      have hge : ¬id < bound := not_lt.mpr ((hbound.trans hs.lastId).trans hid.le)
      have heq : (s'.append id x).newest (some bound) = s'.newest (some bound) := by
        simp [newest, EntryStream.append, hge]
      rw [heq]
      exact ih
  | @del s' id _ ih =>
      have hsub : ((s'.del id).newest (some bound)).Sublist (s'.newest (some bound)) :=
        (List.filter_sublist.filter _).reverse
      exact hsub.trans ih

end

end EntryStream
