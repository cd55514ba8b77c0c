import FreightAP.Lib.Table
import Mathlib.Data.List.DropRight
import Mathlib.Data.List.Infix
import Mathlib.Data.List.Sort

/-!
# Statements over tables

What the statements of a migration do to a table whose rows are a list: rows
inserted unless their key is there (`insertAll`), a check constraint added to
rows that are there (`check`), the first row of each key in an order
(`distinctOn`), and the two kinds of pattern `LIKE` is used with.

Nothing here knows what a row is.
-/

namespace Sql

/-! ## Patterns -/

/-- `s LIKE 'pattern%'`, for a pattern without wildcards. -/
def startsWith (pattern s : String) : Bool := pattern.toList.isPrefixOf s.toList

/-- `s LIKE '%pattern%'`, for a pattern without wildcards. -/
def contains (pattern s : String) : Bool := s.toList.tails.any pattern.toList.isPrefixOf

/-- A text has every character of a pattern that it contains. -/
theorem mem_of_contains {pattern s : String} (h : contains pattern s = true) {c : Char}
    (hc : c ∈ pattern.toList) : c ∈ s.toList := by
  obtain ⟨tail, htail, hprefix⟩ := List.any_eq_true.mp h
  exact ((List.mem_tails ..).mp htail).subset ((List.isPrefixOf_iff_prefix.mp hprefix).subset hc)

/-! ## Trimmed texts

`regexp_replace(s, '^[[:space:]]+|[[:space:]]+$', '', 'g')`, with the class of
blank characters as a parameter. -/

section

variable {α : Type} {blank : α → Bool} {cs : List α}

/-- A text without the blanks at its two ends. -/
def trim (blank : α → Bool) (cs : List α) : List α := (cs.dropWhile blank).rdropWhile blank

/-- No blank at either end. -/
structure Bare (blank : α → Bool) (cs : List α) : Prop where
  head : ∀ c ∈ cs.head?, blank c = false
  last : ∀ c ∈ cs.getLast?, blank c = false

theorem trim_bare : Bare blank (trim blank cs) := by
  constructor
  · intro c hc
    have hhead : (cs.dropWhile blank).head? = some c := by
      obtain ⟨rest, hrest⟩ : trim blank cs <+: cs.dropWhile blank := List.rdropWhile_prefix ..
      rw [← hrest, List.head?_append, Option.mem_def.mp hc]
      rfl
    have hnot := List.head?_dropWhile_not blank cs
    rw [hhead] at hnot
    simpa using hnot
  · intro c hc
    obtain ⟨hne, hlast⟩ := List.mem_getLast?_eq_getLast hc
    have hnot : ¬ blank ((trim blank cs).getLast hne) = true := List.rdropWhile_last_not _ _ hne
    simpa [← hlast] using hnot

theorem trim_of_bare (h : Bare blank cs) : trim blank cs = cs := by
  have hfront : cs.dropWhile blank = cs := by
    cases cs with
    | nil => rfl
    | cons c cs => simp [h.head c rfl]
  rw [trim, hfront, List.rdropWhile_eq_self_iff]
  intro hne
  have hlast := h.last (cs.getLast hne) (List.getLast?_eq_getLast_of_ne_nil hne ▸ rfl)
  simp [hlast]

/-- Characters written as texts without blanks leave the ends bare. -/
theorem Bare.flatMap {f : α → List α} (h : Bare blank cs) (hne : ∀ c, f c ≠ [])
    (hf : ∀ c, blank c = false → ∀ d ∈ f c, blank d = false) : Bare blank (cs.flatMap f) := by
  constructor
  · intro d hd
    cases cs with
    | nil => cases hd
    | cons c cs =>
        rw [List.flatMap_cons, List.head?_append_of_ne_nil _ (hne c)] at hd
        exact hf c (h.head c rfl) d (List.mem_of_mem_head? hd)
  · intro d hd
    rcases List.eq_nil_or_concat cs with rfl | ⟨init, c, rfl⟩
    · cases hd
    · rw [List.concat_eq_append] at h hd
      have hc : blank c = false := h.last c (by simp)
      rw [List.flatMap_append, List.flatMap_singleton,
        List.getLast?_append_of_ne_nil _ (hne c)] at hd
      exact hf c hc d (List.mem_of_mem_getLast? hd)

end

/-! ## Rows of a key -/

variable {ρ κ ε : Type} [DecidableEq κ]

/-- The row `DISTINCT ON (key)` keeps of the rows of one key, where `before`
orders the rows. -/
def distinctOn (key : ρ → κ) (before : ρ → ρ → Bool) (rows : List ρ) (k : κ) : Option ρ :=
  (rows.insertionSort fun a b => before a b).find? fun row => key row = k

section

variable {key : ρ → κ} {before : ρ → ρ → Bool} {rows : List ρ} {k : κ}

/-- In a total order no row of the key comes before the one that is kept. -/
theorem distinctOn_first (htotal : ∀ a b, before a b = true ∨ before b a = true)
    (htrans : ∀ a b c, before a b = true → before b c = true → before a c = true) {first : ρ}
    (h : distinctOn key before rows k = some first) :
    first ∈ rows ∧ key first = k ∧ ∀ row ∈ rows, key row = k → before first row = true := by
  have _ : Std.Total fun a b => before a b = true := ⟨htotal⟩
  have _ : IsTrans ρ fun a b => before a b = true := ⟨htrans⟩
  have hsorted := List.pairwise_insertionSort (fun a b => before a b = true) rows
  have hmem := List.mem_of_find?_eq_some h
  obtain ⟨hkey, earlier, later, hrows, hearlier⟩ := List.find?_eq_some_iff_append.mp h
  refine ⟨(List.mem_insertionSort _).mp hmem, of_decide_eq_true hkey, ?_⟩
  intro row hrow hrowKey
  have hplace := (List.mem_insertionSort fun a b => before a b = true).mpr hrow
  rw [hrows] at hsorted hplace
  rcases List.mem_append.mp hplace with hplace | hplace
  · -- The rows before the first one of the key have other keys.
    have hother := hearlier row hplace
    simp [hrowKey] at hother
  · rcases List.mem_cons.mp hplace with rfl | hplace
    · exact (htotal row row).elim id id
    · exact (List.pairwise_cons.mp (List.pairwise_append.mp hsorted).2.1).1 row hplace

end

/-- A keyed table has one row of a key at most. -/
theorem length_filter_key {key : ρ → κ} {rows : List ρ} (h : Table.Keyed key rows) (k : κ) :
    (rows.filter fun row => key row = k).length ≤ 1 := by
  have hcount : (rows.map key).count k ≤ 1 := List.nodup_iff_count_le_one.mp h k
  rw [List.count, List.countP_map] at hcount
  rw [← List.countP_eq_length_filter]
  simpa [Function.comp_def, beq_eq_decide] using hcount

/-! ## Inserts -/

/-- `INSERT … ON CONFLICT (key) DO NOTHING` of one row. -/
def insertNew (key : ρ → κ) (rows : List ρ) (row : ρ) : List ρ :=
  if key row ∈ rows.map key then rows else rows ++ [row]

/-- `INSERT … SELECT … ON CONFLICT (key) DO NOTHING`. -/
def insertAll (key : ρ → κ) (rows new : List ρ) : List ρ := new.foldl (insertNew key) rows

section

variable {key : ρ → κ} {rows new : List ρ} {row : ρ}

theorem insertNew_keyed (h : Table.Keyed key rows) : Table.Keyed key (insertNew key rows row) := by
  rw [insertNew]
  split
  case isTrue => exact h
  case isFalse hnew =>
      apply Table.keyed_concat h
      intro r hr he
      exact hnew (he ▸ List.mem_map_of_mem hr)

/-- Inserts that do nothing on a conflict keep the keys pairwise different. -/
theorem insertAll_keyed (h : Table.Keyed key rows) :
    Table.Keyed key (insertAll key rows new) := by
  induction new generalizing rows with
  | nil => exact h
  | cons row new ih => exact ih (insertNew_keyed h)

/-- Rows of new and pairwise different keys are all inserted. -/
theorem insertAll_eq_append (h : Table.Keyed key (rows ++ new)) :
    insertAll key rows new = rows ++ new := by
  induction new generalizing rows with
  | nil => simp [insertAll]
  | cons row new ih =>
      have hnew : key row ∉ rows.map key := by
        intro hmem
        rw [Table.Keyed, List.map_append, List.map_cons] at h
        exact (List.nodup_append.mp h).2.2 _ hmem _ (List.mem_cons_self ..) rfl
      have hone : insertNew key rows row = rows ++ [row] := by simp [insertNew, hnew]
      have hkeyed : Table.Keyed key ((rows ++ [row]) ++ new) := by simpa using h
      show insertAll key (insertNew key rows row) new = rows ++ row :: new
      rw [hone, ih hkeyed, List.append_assoc]
      rfl

end

/-! ## Selections -/

section

variable {σ : Type} {key : ρ → κ} {key' : σ → κ} {f : ρ → Option σ} {rows : List ρ}

omit [DecidableEq κ] in
/-- Rows selected under the keys of the rows they come from. -/
theorem keyed_filterMap (hf : ∀ row s, f row = some s → key' s = key row)
    (h : Table.Keyed key rows) : Table.Keyed key' (rows.filterMap f) := by
  induction rows with
  | nil => exact h
  | cons row rows ih =>
      obtain ⟨hrow, hrows⟩ := List.nodup_cons.mp h
      cases hs : f row with
      | none =>
          rw [List.filterMap_cons_none hs]
          exact ih hrows
      | some s =>
          rw [List.filterMap_cons_some hs, Table.Keyed, List.map_cons, List.nodup_cons]
          constructor
          · intro hmem
            obtain ⟨s', hs', hk⟩ := List.mem_map.mp hmem
            obtain ⟨row', hrow', hfrow'⟩ := List.mem_filterMap.mp hs'
            rw [hf row' s' hfrow', hf row s hs] at hk
            exact hrow (hk ▸ List.mem_map_of_mem hrow')
          · exact ih hrows

omit [DecidableEq κ] in
/-- The selected row of a row's key is the one selected from that row. -/
theorem mem_filterMap_key (hf : ∀ row s, f row = some s → key' s = key row)
    (h : Table.Keyed key rows) {row : ρ} (hrow : row ∈ rows) {s : σ} :
    s ∈ rows.filterMap f ∧ key' s = key row ↔ f row = some s := by
  constructor
  · rintro ⟨hs, hk⟩
    obtain ⟨row', hrow', hfrow'⟩ := List.mem_filterMap.mp hs
    have hsame : row' = row := Table.eq_of_key h hrow' hrow ((hf row' s hfrow').symm.trans hk)
    exact hsame ▸ hfrow'
  · intro hs
    exact ⟨List.mem_filterMap.mpr ⟨row, hrow, hs⟩, hf row s hs⟩

end

/-! ## Updates -/

/-- An update that succeeds on every row. -/
theorem mapM_eq_map {σ : Type} {f : ρ → Except ε σ} {g : ρ → σ} {rows : List ρ}
    (h : ∀ row ∈ rows, f row = .ok (g row)) : rows.mapM f = .ok (rows.map g) := by
  induction rows with
  | nil => rfl
  | cons row rows ih =>
      have hrow := h row (List.mem_cons_self ..)
      have hrows := ih fun r hr => h r (List.mem_cons_of_mem _ hr)
      rw [List.mapM_cons, hrow, hrows]
      rfl

/-! ## Updates under a unique index

An `UPDATE` writes one row after another, in an order the database picks, and a
unique index is asked at each of them: it sees the rows written so far and the
old rows behind them. -/

section

variable {ι : Type} [DecidableEq ι]

/-- One row of `UPDATE … SET … WHERE p`, refused when another row holds the new
key then. -/
def updateRow (id : ρ → ι) (key : ρ → κ) (p : ρ → Bool) (set : ρ → ρ) (violation : ε)
    (rows : List ρ) (i : ι) : Except ε (List ρ) :=
  match Table.get? id i rows with
  | none => .ok rows
  | some row =>
      if p row then
        if ∃ r ∈ rows, id r ≠ i ∧ key r = key (set row) then .error violation
        else .ok (rows.map fun r => if id r = i then set r else r)
      else .ok rows

/-- An `UPDATE` that visits the rows of `order`. -/
def updateRows (id : ρ → ι) (key : ρ → κ) (p : ρ → Bool) (set : ρ → ρ) (violation : ε)
    (order : List ι) (rows : List ρ) : Except ε (List ρ) :=
  order.foldlM (updateRow id key p set violation) rows

/-- A row after its visit. -/
def updated (p : ρ → Bool) (set : ρ → ρ) (r : ρ) : ρ := if p r then set r else r

variable {id : ρ → ι} {key : ρ → κ} {p : ρ → Bool} {set : ρ → ρ} {violation : ε} {rows : List ρ}

/-- The table after the rows of `seen` are visited. -/
def visited (id : ρ → ι) (f : ρ → ρ) (seen : List ι) (rows : List ρ) : List ρ :=
  rows.map fun r => if id r ∈ seen then f r else r

section

variable {f : ρ → ρ} {seen : List ι}

omit [DecidableEq κ] in
theorem visited_nil : visited id f [] rows = rows := by simp [visited]

omit [DecidableEq κ] in
theorem visited_all (h : ∀ r ∈ rows, id r ∈ seen) : visited id f seen rows = rows.map f :=
  List.map_congr_left fun r hr => by rw [if_pos (h r hr)]

omit [DecidableEq κ] in
/-- A visit to no row that changes. -/
theorem visited_concat {i : ι} (h : ∀ r ∈ rows, id r = i → f r = r) :
    visited id f (seen ++ [i]) rows = visited id f seen rows := by
  refine List.map_congr_left fun r hr => ?_
  by_cases hi : id r = i
  · simp [hi, h r hr hi]
  · simp [hi]

omit [DecidableEq κ] in
/-- A row that is not visited yet is found as it was. -/
theorem get?_visited {i : ι} (hf : ∀ r ∈ rows, id (f r) = id r) (hi : i ∉ seen) :
    Table.get? id i (visited id f seen rows) = Table.get? id i rows := by
  induction rows with
  | nil => rfl
  | cons r rows ih =>
      have hrest := ih fun r hr => hf r (List.mem_cons_of_mem _ hr)
      have hkey : id (if id r ∈ seen then f r else r) = id r := by
        split
        case isTrue => exact hf r (List.mem_cons_self ..)
        case isFalse => rfl
      show ((if id r ∈ seen then f r else r) :: visited id f seen rows).find? _ =
        (r :: rows).find? _
      rw [List.find?_cons, List.find?_cons, hkey]
      by_cases hr : id r = i
      · rw [decide_eq_true hr, if_neg (hr ▸ hi)]
      · rw [decide_eq_false hr]
        exact hrest

end

/-- What makes an `UPDATE` safe for its unique index: keys that are written
stay, and are pairwise different. -/
structure Writable (id : ρ → ι) (key : ρ → κ) (f : ρ → ρ) (rows : List ρ) : Prop where
  ids : Table.Keyed id rows
  keeps : ∀ r ∈ rows, id (f r) = id r
  stays : ∀ r ∈ rows, ∀ s ∈ rows, key r = key (f s) → key (f r) = key (f s)
  keys : Table.Keyed (fun r => key (f r)) rows

omit [DecidableEq ι] [DecidableEq κ] in
theorem Writable.eq_of_key {f : ρ → ρ} (h : Writable id key f rows) {r s : ρ} (hr : r ∈ rows)
    (hs : s ∈ rows) (hkey : key r = key (f s) ∨ key (f r) = key (f s)) : r = s := by
  have hboth : key (f r) = key (f s) := by
    rcases hkey with hold | hnew
    · exact h.stays r hr s hs hold
    · exact hnew
  exact Table.eq_of_key h.keys hr hs hboth

/-- The index refuses no visit. -/
theorem updateRow_visited (h : Writable id key (updated p set) rows) {seen : List ι} {i : ι}
    (hi : i ∉ seen) :
    updateRow id key p set violation (visited id (updated p set) seen rows) i =
      .ok (visited id (updated p set) (seen ++ [i]) rows) := by
  rw [updateRow, get?_visited h.keeps hi]
  cases hrow : Table.get? id i rows with
  | none =>
      have hnone : ∀ r ∈ rows, id r = i → updated p set r = r := by
        intro r hr he
        exact absurd (decide_eq_true he) (List.find?_eq_none.mp hrow r hr)
      rw [visited_concat hnone]
  | some row =>
      have hmem := Table.get?_some_mem hrow
      have hid := Table.get?_some_key hrow
      have honly : ∀ r ∈ rows, id r = i → r = row := fun r hr he =>
        Table.eq_of_key h.ids hr hmem (he.trans hid.symm)
      cases hp : p row with
      | false =>
          have hkept : ∀ r ∈ rows, id r = i → updated p set r = r := by
            intro r hr he
            rw [honly r hr he, updated, hp]
            rfl
          rw [visited_concat hkept]
          simp only [hp, Bool.false_eq_true, if_false]
      | true =>
          have hset : updated p set row = set row := by rw [updated, if_pos hp]
          have hfree : ¬ ∃ r ∈ visited id (updated p set) seen rows,
              id r ≠ i ∧ key r = key (set row) := by
            rintro ⟨r', hr', hne, hkey⟩
            obtain ⟨r, hr, rfl⟩ := List.mem_map.mp hr'
            rw [← hset] at hkey
            by_cases hseen : id r ∈ seen
            · rw [if_pos hseen] at hne hkey
              have hsame := h.eq_of_key hr hmem (.inr hkey)
              exact hne (hsame ▸ (h.keeps row hmem).trans hid)
            · rw [if_neg hseen] at hne hkey
              have hsame := h.eq_of_key hr hmem (.inl hkey)
              exact hne (hsame ▸ hid)
          simp only [hp, if_true]
          rw [if_neg hfree, visited, List.map_map]
          congr 1
          refine List.map_congr_left fun r hr => ?_
          by_cases he : id r = i
          · simp [hi, honly r hr he, hset, hid]
          · have hkeep : id (if id r ∈ seen then updated p set r else r) ≠ i := by
              split
              case isTrue => exact (h.keeps r hr).symm ▸ he
              case isFalse => exact he
            rw [Function.comp_apply, if_neg hkeep]
            simp [he]

/-- An `UPDATE` that is safe for its unique index writes all its rows, in
whichever order it visits them. -/
theorem updateRows_eq_map (h : Writable id key (updated p set) rows) {order : List ι}
    (horder : order.Perm (rows.map id)) :
    updateRows id key p set violation order rows = .ok (rows.map (updated p set)) := by
  have hrun : ∀ (rest seen : List ι), (seen ++ rest).Nodup →
      rest.foldlM (updateRow id key p set violation) (visited id (updated p set) seen rows) =
        .ok (visited id (updated p set) (seen ++ rest) rows) := by
    intro rest
    induction rest with
    | nil =>
        intro seen _
        rw [List.append_nil]
        rfl
    | cons i rest ih =>
        intro seen hnodup
        have hi : i ∉ seen := fun hmem =>
          (List.nodup_append.mp hnodup).2.2 i hmem i (List.mem_cons_self ..) rfl
        have hsplit : seen ++ i :: rest = (seen ++ [i]) ++ rest := by simp
        rw [List.foldlM_cons, updateRow_visited h hi]
        rw [hsplit] at hnodup ⊢
        exact ih (seen ++ [i]) hnodup
  have hall : ∀ r ∈ rows, id r ∈ order := fun r hr =>
    horder.symm.subset (List.mem_map_of_mem hr)
  have hnodup : ([] ++ order).Nodup := horder.symm.nodup h.ids
  have hdone := hrun order [] hnodup
  rw [visited_nil, List.nil_append, visited_all hall] at hdone
  exact hdone

end

/-! ## Check constraints -/

/-- A constraint is added to a table when all rows meet it. -/
def check (violation : ε) (constraint : ρ → Bool) (rows : List ρ) : Except ε Unit :=
  if rows.all constraint then .ok () else .error violation

theorem check_eq_ok {violation : ε} {constraint : ρ → Bool} {rows : List ρ}
    (h : ∀ row ∈ rows, constraint row = true) : check violation constraint rows = .ok () := by
  have hall : rows.all constraint = true := by simpa using h
  simp [check, hall]

end Sql
