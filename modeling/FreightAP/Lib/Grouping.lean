import Mathlib.Data.List.MinMax
import FreightAP.Lib.Table

/-!
# Dictionaries filled in one pass

A dictionary in the order of its keys' first use, filled row by row: every row
is appended to the group of its key (`group`), only the first row of a key is
kept (`firsts`), or the rows are counted (`counter`).

What stands under a key is what a search for the key in the rows finds
(`group_eq`, `get?_firsts`), so a pass that fills a dictionary agrees with one
search per key.
-/

namespace Grouping

variable {ρ κ : Type} [DecidableEq κ] {key : ρ → κ} {row : ρ} {rows : List ρ}

/-! ## Groups -/

/-- Append a row to the group of its key. -/
def add (key : ρ → κ) (row : ρ) : List (κ × List ρ) → List (κ × List ρ)
  | [] => [(key row, [row])]
  | (k, rows) :: groups =>
      if k = key row then (k, rows ++ [row]) :: groups else (k, rows) :: add key row groups

/-- The groups of the rows. -/
def group (key : ρ → κ) (rows : List ρ) : List (κ × List ρ) :=
  rows.foldl (fun groups row => add key row groups) []

/-- The keys, in the order of their first use. -/
def keys (key : ρ → κ) (rows : List ρ) : List κ :=
  rows.foldl (fun ks row => if key row ∈ ks then ks else ks ++ [key row]) []

theorem keys_snoc : keys key (rows ++ [row]) =
    if key row ∈ keys key rows then keys key rows else keys key rows ++ [key row] := by
  rw [keys, List.foldl_append]
  rfl

theorem mem_keys {k : κ} : k ∈ keys key rows ↔ ∃ row ∈ rows, key row = k := by
  induction rows using List.reverseRecOn with
  | nil => simp [keys]
  | append_singleton rows row ih =>
      rw [keys_snoc]
      split
      next h =>
        rw [ih]
        constructor
        · rintro ⟨r, hr, hk⟩
          exact ⟨r, List.mem_append_left _ hr, hk⟩
        · rintro ⟨r, hr, hk⟩
          rcases List.mem_append.mp hr with hr | hr
          · exact ⟨r, hr, hk⟩
          · rw [List.mem_singleton.mp hr] at hk
            exact ih.mp (hk ▸ h)
      next h =>
        rw [List.mem_append, ih, List.mem_singleton]
        constructor
        · rintro (⟨r, hr, hk⟩ | rfl)
          · exact ⟨r, List.mem_append_left _ hr, hk⟩
          · exact ⟨row, List.mem_append_right _ (List.mem_singleton_self row), rfl⟩
        · rintro ⟨r, hr, hk⟩
          rcases List.mem_append.mp hr with hr | hr
          · exact .inl ⟨r, hr, hk⟩
          · exact .inr (hk.symm.trans (congrArg key (List.mem_singleton.mp hr)))

theorem nodup_keys : (keys key rows).Nodup := by
  induction rows using List.reverseRecOn with
  | nil => exact List.nodup_nil
  | append_singleton rows row ih =>
      rw [keys_snoc]
      split
      · exact ih
      next h => exact List.nodup_append.mpr ⟨ih, List.nodup_singleton _, fun a ha b hb e =>
          h (List.mem_singleton.mp hb ▸ e ▸ ha)⟩

/-- A row that is added to the groups of some keys. -/
theorem add_map {ks : List κ} (hks : ks.Nodup) (f : κ → List ρ) :
    add key row (ks.map fun k => (k, f k)) =
      if key row ∈ ks then ks.map fun k => (k, if k = key row then f k ++ [row] else f k)
      else (ks.map fun k => (k, f k)) ++ [(key row, [row])] := by
  induction ks with
  | nil => rfl
  | cons k ks ih =>
      obtain ⟨hk, hks⟩ := List.nodup_cons.mp hks
      simp only [List.map_cons, add, ih hks]
      by_cases he : k = key row
      · subst he
        simp only [if_true, List.mem_cons_self, List.cons.injEq, true_and]
        refine List.map_congr_left fun k' hk' => ?_
        have hne : k' ≠ key row := fun e => hk (e ▸ hk')
        rw [if_neg hne]
      · rw [if_neg he, if_neg he]
        by_cases hm : key row ∈ ks
        · rw [if_pos hm, if_pos (List.mem_cons_of_mem _ hm)]
        · have hm' : key row ∉ k :: ks := fun h => by
            rcases List.mem_cons.mp h with h | h
            · exact he h.symm
            · exact hm h
          rw [if_neg hm, if_neg hm']
          rfl

/-- The group of a key holds its rows, in their order. -/
theorem group_eq : group key rows =
    (keys key rows).map fun k => (k, rows.filter fun r => key r = k) := by
  induction rows using List.reverseRecOn with
  | nil => rfl
  | append_singleton rows row ih =>
      have hstep : group key (rows ++ [row]) = add key row (group key rows) := by
        rw [group, List.foldl_append]
        rfl
      rw [hstep, ih, add_map nodup_keys, keys_snoc]
      have hfilter : ∀ k, (rows ++ [row]).filter (fun r => key r = k) =
          if k = key row then rows.filter (fun r => key r = k) ++ [row]
          else rows.filter (fun r => key r = k) := by
        intro k
        rw [List.filter_append]
        by_cases he : k = key row
        · subst he
          simp
        · have hne : key row ≠ k := Ne.symm he
          simp [he, hne]
      by_cases hm : key row ∈ keys key rows
      · rw [if_pos hm, if_pos hm]
        exact List.map_congr_left fun k _ => congrArg _ (hfilter k).symm
      · rw [if_neg hm, if_neg hm, List.map_append]
        congr 1
        · refine List.map_congr_left fun k hk => ?_
          have hne : k ≠ key row := fun e => hm (e ▸ hk)
          rw [hfilter, if_neg hne]
        · have hnil : rows.filter (fun r => key r = key row) = [] :=
            List.filter_eq_nil_iff.mpr fun r hr he =>
              hm (mem_keys.mpr ⟨r, hr, of_decide_eq_true he⟩)
          rw [List.map_singleton, hfilter, if_pos rfl, hnil]
          rfl

/-! ## First rows -/

/-- Keep the first row of every key. -/
def firsts (key : ρ → κ) (rows : List ρ) : List (κ × ρ) :=
  rows.foldl (fun kept row => if (Table.get? Prod.fst (key row) kept).isSome then kept
    else kept ++ [(key row, row)]) []

/-- What is kept for a key is what a search for it finds. -/
theorem get?_firsts (k : κ) : (Table.get? Prod.fst k (firsts key rows)).map Prod.snd =
    rows.find? fun r => decide (key r = k) := by
  induction rows using List.reverseRecOn with
  | nil => rfl
  | append_singleton rows row ih =>
      have hstep : firsts key (rows ++ [row]) =
          if (Table.get? Prod.fst (key row) (firsts key rows)).isSome then firsts key rows
          else firsts key rows ++ [(key row, row)] := by
        rw [firsts, List.foldl_append]
        rfl
      rw [hstep, List.find?_append, ← ih]
      cases hk : Table.get? Prod.fst k (firsts key rows) with
      | some kept =>
          split
          · rw [hk]
            rfl
          · rw [Table.get?] at hk ⊢
            rw [List.find?_append, hk]
            rfl
      | none =>
          by_cases he : key row = k
          · subst he
            rw [hk, Option.isSome_none, if_neg Bool.false_ne_true]
            rw [Table.get?] at hk ⊢
            rw [List.find?_append, hk]
            simp
          · split
            · rw [hk]
              simp [he]
            · rw [Table.get?] at hk ⊢
              rw [List.find?_append, hk]
              simp [he]

/-! ## Rows of different keys -/

/-- Rows of new and different keys go to the end. -/
theorem puts_of_new {new : List ρ} (h : Table.Keyed key (rows ++ new)) :
    Table.puts key new rows = rows ++ new := by
  induction new generalizing rows with
  | nil => exact (List.append_nil rows).symm
  | cons row new ih =>
      have hrow : ∀ r ∈ rows, key r ≠ key row := by
        intro r hr
        rw [Table.Keyed, List.map_append] at h
        exact (List.nodup_append.mp h).2.2 _ (List.mem_map_of_mem hr) _
          (List.mem_map_of_mem List.mem_cons_self)
      rw [Table.puts_cons, Table.put_of_new hrow]
      have h' : Table.Keyed key (rows ++ [row] ++ new) := by
        rwa [List.append_assoc]
      rw [ih h', List.append_assoc]
      rfl

/-- A dictionary of rows of different keys holds the rows. -/
theorem puts_of_keyed (h : Table.Keyed key rows) : Table.puts key rows [] = rows := puts_of_new h

/-! ## Counts -/

/-- How often every element is there. -/
def counter (xs : List κ) : List (κ × Nat) := (group id xs).map fun g => (g.1, g.2.length)

/-- The element that is there most often, the first one of several. -/
def mostCommon (xs : List κ) : Option κ := ((counter xs).argmax Prod.snd).map Prod.fst

theorem mem_counter {xs : List κ} {x : κ} {n : Nat} :
    (x, n) ∈ counter xs ↔ x ∈ xs ∧ n = xs.countP fun y => decide (y = x) := by
  have hcounter : counter xs =
      (keys id xs).map fun k => (k, xs.countP fun y => decide (y = k)) := by
    rw [counter, group_eq, List.map_map]
    exact List.map_congr_left fun k _ => congrArg (Prod.mk k) List.countP_eq_length_filter.symm
  rw [hcounter, List.mem_map]
  constructor
  · rintro ⟨k, hk, he⟩
    cases he
    obtain ⟨y, hy, rfl⟩ := mem_keys.mp hk
    exact ⟨hy, rfl⟩
  · rintro ⟨hx, rfl⟩
    exact ⟨x, mem_keys.mpr ⟨x, hx, rfl⟩, rfl⟩

theorem mostCommon_eq_none {xs : List κ} : mostCommon xs = none ↔ xs = [] := by
  rw [mostCommon, Option.map_eq_none_iff, List.argmax_eq_none]
  constructor
  · intro h
    cases xs with
    | nil => rfl
    | cons x xs =>
        have hx : (x, _) ∈ counter (x :: xs) := mem_counter.mpr ⟨List.mem_cons_self, rfl⟩
        rw [h] at hx
        cases hx
  · rintro rfl
    rfl

/-- No element is there more often. -/
theorem mostCommon_spec {xs : List κ} {x : κ} (h : mostCommon xs = some x) :
    x ∈ xs ∧ ∀ y, (xs.countP fun z => decide (z = y)) ≤ xs.countP fun z => decide (z = x) := by
  obtain ⟨⟨x, n⟩, hmax, rfl⟩ := Option.map_eq_some_iff.mp h
  obtain ⟨hx, rfl⟩ := mem_counter.mp (List.argmax_mem (Option.mem_def.mpr hmax))
  refine ⟨hx, fun y => ?_⟩
  by_cases hy : y ∈ xs
  · exact List.le_of_mem_argmax (mem_counter.mpr ⟨hy, rfl⟩) (Option.mem_def.mpr hmax)
  · have hzero : (xs.countP fun z => decide (z = y)) = 0 :=
      List.countP_eq_zero.mpr fun z hz he => hy (of_decide_eq_true he ▸ hz)
    rw [hzero]
    exact Nat.zero_le _

end Grouping
