import Mathlib.Data.List.Nodup

/-!
# Keyed tables

A table is a list of rows, each with a key read off the row.  `Table.get?`
finds the first row of a key and `Table.put` replaces the row of a key in
place, or appends it when the key is new.  A table grows at its end only, so
the order of the rows is the order of their insertion.

Nothing here knows what a row is.  The lemmas say what a write does to a
lookup by key (`get?_put_self`, `get?_put_of_ne`), to a lookup by another
property (`find?_put_of_not`), and to the keys (`mem_put`, `nodup_put`).
-/

namespace Table

variable {ρ κ : Type} [DecidableEq κ]

/-- The first row of a key. -/
def get? (key : ρ → κ) (k : κ) (rows : List ρ) : Option ρ :=
  rows.find? fun r => decide (key r = k)

/-- Write a row: in the place of the row of the same key, else at the end. -/
def put (key : ρ → κ) (row : ρ) : List ρ → List ρ
  | [] => [row]
  | r :: rows => if key r = key row then row :: rows else r :: put key row rows

/-- The keys of a table are pairwise different. -/
def Keyed (key : ρ → κ) (rows : List ρ) : Prop := (rows.map key).Nodup

section

variable {key : ρ → κ} {row : ρ} {rows : List ρ}

theorem get?_some_key {k : κ} {r : ρ} (h : get? key k rows = some r) : key r = k := by
  have := List.find?_some h
  simpa using this

theorem get?_some_mem {k : κ} {r : ρ} (h : get? key k rows = some r) : r ∈ rows :=
  List.mem_of_find?_eq_some h

@[simp] theorem get?_nil (k : κ) : get? key k [] = none := rfl

@[simp] theorem get?_put_self : get? key (key row) (put key row rows) = some row := by
  induction rows with
  | nil => simp [get?, put]
  | cons r rows ih =>
      by_cases h : key r = key row
      · simp [get?, put, h]
      · simpa [get?, put, h, List.find?_cons] using ih

theorem get?_put_of_ne {k : κ} (h : key row ≠ k) :
    get? key k (put key row rows) = get? key k rows := by
  induction rows with
  | nil => simp [get?, put, h]
  | cons r rows ih =>
      by_cases hr : key r = key row
      · have hk : key r ≠ k := fun e => h (hr ▸ e)
        simp [get?, put, hr, h]
      · by_cases hk : key r = k
        · simp [get?, put, hk, Ne.symm h]
        · simpa [get?, put, hr, hk, List.find?_cons] using ih

theorem mem_put_self : row ∈ put key row rows := by
  induction rows with
  | nil => simp [put]
  | cons r rows ih =>
      by_cases h : key r = key row
      · simp [put, h]
      · simp [put, h, ih]

/-- A row of a new key goes to the end. -/
theorem put_of_new (h : ∀ r ∈ rows, key r ≠ key row) : put key row rows = rows ++ [row] := by
  induction rows with
  | nil => rfl
  | cons r rows ih =>
      rw [put, if_neg (h r (List.mem_cons_self ..)),
        ih fun r' hr' => h r' (List.mem_cons_of_mem _ hr')]
      rfl

/-- A row of the written table is the written row or an old row. -/
theorem mem_put {r : ρ} (h : r ∈ put key row rows) : r = row ∨ r ∈ rows := by
  induction rows with
  | nil => simpa [put] using h
  | cons r' rows ih =>
      rw [put] at h
      split at h
      · rcases List.mem_cons.mp h with h | h
        · exact Or.inl h
        · exact Or.inr (List.mem_cons_of_mem _ h)
      · rcases List.mem_cons.mp h with h | h
        · exact Or.inr (h ▸ List.mem_cons_self ..)
        · exact (ih h).imp_right (List.mem_cons_of_mem _)

/-- An old row of another key stays. -/
theorem mem_put_of_ne {r : ρ} (h : r ∈ rows) (hk : key r ≠ key row) : r ∈ put key row rows := by
  induction rows with
  | nil => cases h
  | cons r' rows ih =>
      rw [put]
      rcases List.mem_cons.mp h with rfl | h
      · rw [if_neg hk]
        exact List.mem_cons_self ..
      · split
        · exact List.mem_cons_of_mem _ h
        · exact List.mem_cons_of_mem _ (ih h)

/-- A write of a row without a property, over rows of its key without it,
leaves the search for the property as it was. -/
theorem find?_put_of_not {p : ρ → Bool} (hrow : p row = false)
    (hold : ∀ r ∈ rows, key r = key row → p r = false) :
    (put key row rows).find? p = rows.find? p := by
  induction rows with
  | nil => simp [put, hrow]
  | cons r rows ih =>
      rw [put]
      split
      next h =>
        have hr : p r = false := hold r (List.mem_cons_self ..) h
        simp [hrow, hr]
      next =>
        have ih' := ih fun r' hr' => hold r' (List.mem_cons_of_mem _ hr')
        simp [List.find?_cons, ih']

/-- A write of a row with a property that no row has is what the search for the
property finds. -/
theorem find?_put_of_none {p : ρ → Bool} (hrow : p row = true) (hold : rows.find? p = none) :
    (put key row rows).find? p = some row := by
  induction rows with
  | nil => simp [put, hrow]
  | cons r rows ih =>
      have hr : ¬p r = true := List.find?_eq_none.mp hold r (List.mem_cons_self ..)
      rw [List.find?_cons_of_neg hr] at hold
      rw [put]
      split
      · exact List.find?_cons_of_pos hrow
      · rw [List.find?_cons_of_neg hr]
        exact ih hold

/-- A write over the row that a search finds is found in its place. -/
theorem find?_put_of_found {p : ρ → Bool} {r : ρ} (h : Keyed key rows) (hrow : p row = true)
    (hr : rows.find? p = some r) (hk : key r = key row) :
    (put key row rows).find? p = some row := by
  induction rows with
  | nil => cases hr
  | cons r' rows ih =>
      obtain ⟨hn, hd⟩ := List.nodup_cons.mp h
      rw [put]
      by_cases hp : p r' = true
      · rw [List.find?_cons_of_pos hp, Option.some.injEq] at hr
        rw [if_pos (hr ▸ hk)]
        exact List.find?_cons_of_pos hrow
      · rw [List.find?_cons_of_neg hp] at hr
        have hne : key r' ≠ key row := by
          intro he
          exact hn (he.trans hk.symm ▸ List.mem_map_of_mem (List.mem_of_find?_eq_some hr))
        rw [if_neg hne, List.find?_cons_of_neg hp]
        exact ih hd hr

theorem map_key_put : (put key row rows).map key =
    if key row ∈ rows.map key then rows.map key else rows.map key ++ [key row] := by
  induction rows with
  | nil => simp [put]
  | cons r rows ih =>
      by_cases h : key r = key row
      · simp [put, h]
      · have h' : key row ≠ key r := Ne.symm h
        rw [put, if_neg h, List.map_cons, ih]
        by_cases hm : key row ∈ rows.map key
        · rw [if_pos hm, if_pos (by simp [hm])]
          rfl
        · rw [if_neg hm, if_neg (by simp [h', hm])]
          rfl

/-- The keys of the rows with a property, when a row that has it is written over
by one that has not. -/
theorem map_filter_put {p q : ρ → Bool} {r : ρ} (h : Keyed key rows) (hr : r ∈ rows)
    (hk : key r = key row) (hp : p r = true) (hq : q row = false)
    (hsame : ∀ r' ∈ rows, key r' ≠ key row → q r' = p r') :
    ((put key row rows).filter q).map key = ((rows.filter p).map key).erase (key row) := by
  induction rows with
  | nil => cases hr
  | cons r' rows ih =>
      obtain ⟨hn, hd⟩ := List.nodup_cons.mp h
      by_cases he : key r' = key row
      · have hrest : rows.filter q = rows.filter p := by
          refine List.filter_congr fun r'' hr'' => hsame r'' (List.mem_cons_of_mem _ hr'') ?_
          exact fun e => hn ((he.trans e.symm) ▸ List.mem_map_of_mem hr'')
        have hr' : r = r' := by
          rcases List.mem_cons.mp hr with rfl | hr
          · rfl
          · exact absurd ((he.trans hk.symm) ▸ List.mem_map_of_mem hr) hn
        rw [put, if_pos he, List.filter_cons_of_neg (by simp [hq]), hrest,
          List.filter_cons_of_pos (hr' ▸ hp), List.map_cons, he, List.erase_cons_head]
      · have hne : r ≠ r' := fun e => he (e ▸ hk)
        have ih' := ih hd ((List.mem_cons.mp hr).resolve_left hne)
          fun r'' hr'' => hsame r'' (List.mem_cons_of_mem _ hr'')
        have hq' := hsame r' (List.mem_cons_self ..) he
        rw [put, if_neg he]
        cases hpr : p r' with
        | true =>
            rw [List.filter_cons_of_pos (hq'.trans hpr), List.filter_cons_of_pos hpr,
              List.map_cons, List.map_cons, ih', List.erase_cons_tail (by simpa using he)]
        | false =>
            rw [List.filter_cons_of_neg (by simp [hq', hpr]), List.filter_cons_of_neg (by simp [hpr]),
              ih']

/-- Writes keep the keys pairwise different. -/
theorem nodup_put (h : Keyed key rows) : Keyed key (put key row rows) := by
  unfold Keyed at *
  rw [map_key_put]
  split
  · exact h
  next hm =>
    rw [List.nodup_append]
    refine ⟨h, by simp, ?_⟩
    intro a ha b hb
    rw [List.mem_singleton.mp hb]
    exact fun e => hm (e ▸ ha)

omit [DecidableEq κ] in
/-- A row of a new key at the end. -/
theorem keyed_concat (h : Keyed key rows) (hnew : ∀ r ∈ rows, key r ≠ key row) :
    Keyed key (rows ++ [row]) := by
  unfold Keyed at *
  rw [List.map_append, List.map_singleton, List.nodup_append]
  refine ⟨h, List.nodup_singleton _, fun a ha b hb => ?_⟩
  obtain ⟨r, hr, rfl⟩ := List.mem_map.mp ha
  rw [List.mem_singleton.mp hb]
  exact hnew r hr

omit [DecidableEq κ] in
/-- Rows of one key are one row. -/
theorem eq_of_key (h : Keyed key rows) {r r' : ρ} (hr : r ∈ rows) (hr' : r' ∈ rows)
    (hk : key r = key r') : r = r' :=
  List.inj_on_of_nodup_map h hr hr' hk

/-- In a keyed table the lookup of a row's key finds that row. -/
theorem get?_of_mem (h : Keyed key rows) {r : ρ} (hr : r ∈ rows) :
    get? key (key r) rows = some r := by
  induction rows with
  | nil => cases hr
  | cons r' rows ih =>
      obtain ⟨hn, hd⟩ := List.nodup_cons.mp h
      rcases List.mem_cons.mp hr with rfl | hr
      · simp [get?]
      · have hne : key r' ≠ key r := fun e => hn (e ▸ List.mem_map_of_mem hr)
        simpa [get?, List.find?_cons, hne] using ih hd hr

omit [DecidableEq κ] in
/-- The only row with a property is the whole result of a query for it. -/
theorem filter_eq_singleton (h : Keyed key rows) {p : ρ → Bool} {r : ρ} (hr : r ∈ rows)
    (hp : p r = true) (hall : ∀ r' ∈ rows, p r' = true → r' = r) : rows.filter p = [r] := by
  have hmem : ∀ r' ∈ rows.filter p, r' = r := by
    intro r' hr'
    obtain ⟨hr', hp'⟩ := List.mem_filter.mp hr'
    exact hall r' hr' hp'
  have hnodup : (rows.filter p).Nodup := (List.Nodup.of_map key h).filter p
  cases hf : rows.filter p with
  | nil => exact absurd (List.mem_filter.mpr ⟨hr, hp⟩) (hf ▸ List.not_mem_nil)
  | cons a as =>
      rw [hf] at hmem hnodup
      cases as with
      | nil => rw [hmem a (List.mem_cons_self ..)]
      | cons b bs =>
          have hab : a = b := (hmem a (by simp)).trans (hmem b (by simp)).symm
          exact absurd (hab ▸ List.mem_cons_self ..) (List.nodup_cons.mp hnodup).1

omit [DecidableEq κ] in
/-- A property that one row has at most. -/
theorem length_filter_le_one (h : Keyed key rows) {p : ρ → Bool}
    (hall : ∀ r ∈ rows, ∀ r' ∈ rows, p r = true → p r' = true → r = r') :
    (rows.filter p).length ≤ 1 := by
  cases hf : rows.filter p with
  | nil => exact Nat.zero_le 1
  | cons r rest =>
      have hr : r ∈ rows.filter p := hf ▸ List.mem_cons_self ..
      obtain ⟨hr, hp⟩ := List.mem_filter.mp hr
      rw [← hf, filter_eq_singleton h hr hp fun r' hr' hp' => hall r' hr' r hr hp' hp]
      exact Nat.le_refl 1

omit [DecidableEq κ] in
/-- A row at the end, when one row at most has a property. -/
theorem length_filter_concat {p : ρ → Bool} (h : (rows.filter p).length ≤ 1) :
    ((rows ++ [row]).filter p).length ≤ 1 ↔ (p row = true → ∀ r ∈ rows, p r = false) := by
  rw [List.filter_append, List.filter_singleton, List.length_append]
  cases hp : p row with
  | false => exact iff_of_true h fun e => by cases e
  | true =>
      show (rows.filter p).length + 1 ≤ 0 + 1 ↔ _
      rw [Nat.add_le_add_iff_right, Nat.le_zero, List.length_eq_zero_iff, List.filter_eq_nil_iff]
      simp only [Bool.not_eq_true, forall_const]

/-! ## Several writes -/

/-- Write a list of rows, in order. -/
def puts (key : ρ → κ) (new rows : List ρ) : List ρ := new.foldl (fun rows r => put key r rows) rows

@[simp] theorem puts_nil : puts key [] rows = rows := rfl

@[simp] theorem puts_cons (new : List ρ) :
    puts key (row :: new) rows = puts key new (put key row rows) := rfl

theorem nodup_puts {new : List ρ} (h : Keyed key rows) : Keyed key (puts key new rows) := by
  induction new generalizing rows with
  | nil => exact h
  | cons r new ih => exact ih (nodup_put h)

/-- A row of the written table is a written row or an old row. -/
theorem mem_puts {new : List ρ} {r : ρ} (h : r ∈ puts key new rows) : r ∈ new ∨ r ∈ rows := by
  induction new generalizing rows with
  | nil => exact .inr h
  | cons r' new ih =>
      rcases ih h with h | h
      · exact .inl (List.mem_cons_of_mem _ h)
      · rcases mem_put h with rfl | h
        · exact .inl (List.mem_cons_self ..)
        · exact .inr h

/-- The lookup of a key that is not written. -/
theorem get?_puts_of_ne {new : List ρ} {k : κ} (h : ∀ r ∈ new, key r ≠ k) :
    get? key k (puts key new rows) = get? key k rows := by
  induction new generalizing rows with
  | nil => rfl
  | cons r new ih =>
      rw [puts_cons, ih fun r' hr' => h r' (List.mem_cons_of_mem _ hr'),
        get?_put_of_ne (h r (List.mem_cons_self ..))]

/-- A key that is there stays there. -/
theorem get?_puts_isSome {new : List ρ} {k : κ} (h : (get? key k rows).isSome = true) :
    (get? key k (puts key new rows)).isSome = true := by
  induction new generalizing rows with
  | nil => exact h
  | cons r new ih =>
      refine ih ?_
      by_cases hk : key r = k
      · subst hk
        rw [get?_put_self]
        rfl
      · rwa [get?_put_of_ne hk]

/-- Writes of rows of one key without a property, over rows of that key without
it, leave the search for the property as it was. -/
theorem find?_puts_of_not {p : ρ → Bool} {k : κ} {new : List ρ}
    (hnew : ∀ r ∈ new, key r = k ∧ p r = false)
    (hold : ∀ r ∈ rows, key r = k → p r = false) :
    (puts key new rows).find? p = rows.find? p := by
  induction new generalizing rows with
  | nil => rfl
  | cons r new ih =>
      obtain ⟨hk, hp⟩ := hnew r (List.mem_cons_self ..)
      rw [puts_cons, ih (fun r' hr' => hnew r' (List.mem_cons_of_mem _ hr')) ?_,
        find?_put_of_not hp fun r' hr' hkr => hold r' hr' (hkr.trans hk)]
      intro r' hr' hkr
      rcases mem_put hr' with rfl | hr'
      · exact hp
      · exact hold r' hr' hkr

/-- Writes of rows of one key with a property, over the row that the search for
the property finds or over none, leave the last of them to be found. -/
theorem find?_puts_of_found {p : ρ → Bool} {k : κ} {new : List ρ} (h : Keyed key rows)
    (hnew : ∀ r ∈ new, key r = k ∧ p r = true) (hold : ∀ r, rows.find? p = some r → key r = k) :
    (puts key new rows).find? p = (new.getLast?.or (rows.find? p)) := by
  induction new generalizing rows with
  | nil => rfl
  | cons r new ih =>
      obtain ⟨hk, hp⟩ := hnew r (List.mem_cons_self ..)
      have hput : (put key r rows).find? p = some r := by
        cases hf : rows.find? p with
        | none => exact find?_put_of_none hp hf
        | some r' => exact find?_put_of_found h hp hf ((hold r' hf).trans hk.symm)
      rw [puts_cons, ih (nodup_put h) (fun r' hr' => hnew r' (List.mem_cons_of_mem _ hr')) ?_,
        hput, List.getLast?_cons]
      · cases new.getLast? <;> rfl
      · intro r' hr'
        rw [hput] at hr'
        exact Option.some.inj hr' ▸ hk

end

end Table
