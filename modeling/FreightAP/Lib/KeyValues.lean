import Mathlib.Data.List.DropRight

/-!
# Records of key-value text

A record is written as its fields `key=value`, a comma and a space between them,
and nothing is escaped.  A reader splits the text at every comma and each part at
its first equals sign, and of two fields of one key it keeps the later.

So a value is read up to its first comma, and what comes after it can be read as
fields of its own.  `valueOf_write` says what is read of any record.
-/

namespace KeyValues

variable {α : Type}

/-! ## Characters of a text -/

section

variable {cs part : List α} {c : α}

/-- A part of a split text has no other characters than the text. -/
theorem mem_of_mem_splitOnP {p : α → Bool} (hpart : part ∈ cs.splitOnP p) (hc : c ∈ part) :
    c ∈ cs := by
  induction cs generalizing part with
  | nil =>
      rw [List.splitOnP_nil, List.mem_singleton] at hpart
      exact hpart ▸ hc
  | cons x cs ih =>
      rw [List.splitOnP_cons_eq_if_modifyHead] at hpart
      split at hpart
      · rcases List.mem_cons.mp hpart with rfl | hpart
        · cases hc
        · exact List.mem_cons_of_mem _ (ih hpart hc)
      · -- The character joins the first part of the rest.
        cases hparts : cs.splitOnP p with
        | nil => exact absurd hparts (List.splitOnP_ne_nil _ _)
        | cons first parts =>
            rw [hparts, List.modifyHead_cons] at hpart
            rw [hparts] at ih
            rcases List.mem_cons.mp hpart with rfl | hpart
            · rcases List.mem_cons.mp hc with rfl | hc
              · exact List.mem_cons_self ..
              · exact List.mem_cons_of_mem _ (ih (List.mem_cons_self ..) hc)
            · exact List.mem_cons_of_mem _ (ih (List.mem_cons_of_mem _ hpart) hc)

/-- Parts without a character, and a separator without it. -/
theorem not_mem_intercalate {sep : List α} (hsep : c ∉ sep) :
    ∀ {parts : List (List α)}, (∀ part ∈ parts, c ∉ part) → c ∉ sep.intercalate parts
  | [], _ => List.not_mem_nil
  | [part], h => by
      rw [List.intercalate_singleton]
      exact h part (List.mem_singleton.mpr rfl)
  | part :: next :: parts, h => by
      obtain ⟨hpart, hrest⟩ := List.forall_mem_cons.mp h
      rw [List.intercalate_cons_cons, List.mem_append, List.mem_append]
      rintro ((hc | hc) | hc)
      · exact hpart hc
      · exact hsep hc
      · exact not_mem_intercalate hsep hrest hc

end

/-! ## Records -/

/-- The characters that have a meaning, and those that are trimmed. -/
structure Format (α : Type) where
  comma : α
  equals : α
  space : α
  blank : α → Bool
  blank_space : blank space = true
  blank_comma : blank comma = false
  blank_equals : blank equals = false
  comma_ne_equals : comma ≠ equals

namespace Format

/-! ## Reading and writing -/

section

variable [DecidableEq α] (F : Format α)

/-- A text without the blanks at its ends. -/
def trim (cs : List α) : List α := (cs.dropWhile F.blank).rdropWhile F.blank

/-- A part of the text as a field. -/
def readField (part : List α) : Option (List α × List α) :=
  if F.equals ∈ part then
    some (F.trim (part.takeWhile (· ≠ F.equals)), F.trim (part.dropWhile (· ≠ F.equals)).tail)
  else none

/-- The fields of a text. -/
def read (cs : List α) : List (List α × List α) := (cs.splitOn F.comma).filterMap F.readField

/-- The last value of a key. -/
def valueOf (key cs : List α) : Option (List α) := (F.read cs).reverse.lookup key

/-- Parts with a comma and a space between them. -/
def join (parts : List (List α)) : List α := [F.comma, F.space].intercalate parts

/-- The text of a field. -/
def writeField (field : List α × List α) : List α := field.1 ++ F.equals :: field.2

/-- The text of a record. -/
def write (fields : List (List α × List α)) : List α := F.join (fields.map F.writeField)

/-- A value up to its first comma. -/
def head (value : List α) : List α := F.trim (value.takeWhile (· ≠ F.comma))

/-- What comes after the first comma of a value. -/
def rest (value : List α) : List α := (value.dropWhile (· ≠ F.comma)).tail

/-- What a field gives for a key: a field that is read in the rest of its value,
or else the value itself. -/
def shown (key : List α) (field : List α × List α) : Option (List α) :=
  (F.valueOf key (F.rest field.2)).or (if F.trim field.1 = key then some (F.head field.2) else none)

end

section

variable {F : Format α} {cs part : List α} {c : α}

/-! ## Blanks -/

theorem space_ne_comma : F.space ≠ F.comma := fun h => by
  simpa [h, F.blank_comma] using F.blank_space

theorem space_ne_equals : F.space ≠ F.equals := fun h => by
  simpa [h, F.blank_equals] using F.blank_space

@[simp] theorem join_singleton : F.join [part] = part := List.intercalate_singleton

@[simp] theorem join_cons_cons {next : List α} {parts : List (List α)} :
    F.join (part :: next :: parts) = part ++ F.comma :: F.space :: F.join (next :: parts) := by
  rw [join, List.intercalate_cons_cons, List.append_assoc]
  rfl

@[simp] theorem trim_space : F.trim (F.space :: cs) = F.trim cs := by
  rw [trim, List.dropWhile_cons_of_pos F.blank_space, trim]

/-- A text without blanks is trimmed already. -/
theorem trim_eq_self (h : ∀ c ∈ cs, F.blank c = false) : F.trim cs = cs := by
  have hdrop : cs.dropWhile F.blank = cs := by
    cases cs with
    | nil => rfl
    | cons c cs => exact List.dropWhile_cons_of_neg (by simp [h c (List.mem_cons_self ..)])
  rw [trim, hdrop, List.rdropWhile_eq_self_iff]
  intro hne
  simp [h _ (List.getLast_mem hne)]

end

section

variable [DecidableEq α] {F : Format α} {cs key part value : List α} {c : α}

/-- A space in front of a part is not seen. -/
@[simp] theorem readField_space : F.readField (F.space :: part) = F.readField part := by
  have htake : (F.space :: part).takeWhile (· ≠ F.equals) =
      F.space :: part.takeWhile (· ≠ F.equals) :=
    List.takeWhile_cons_of_pos (by simpa using space_ne_equals)
  have hdrop : (F.space :: part).dropWhile (· ≠ F.equals) = part.dropWhile (· ≠ F.equals) :=
    List.dropWhile_cons_of_pos (by simpa using space_ne_equals)
  simp only [readField, List.mem_cons, space_ne_equals.symm, false_or, htake, hdrop, trim_space]

theorem read_space : F.read (F.space :: cs) = F.read cs := by
  have hspace : (F.space == F.comma) = false := beq_eq_false_iff_ne.mpr space_ne_comma
  rw [read, read, List.splitOn_cons_eq_if_modifyHead, hspace, if_neg Bool.false_ne_true]
  cases hparts : cs.splitOn F.comma with
  | nil => exact absurd hparts (List.splitOn_ne_nil _ _)
  | cons part parts => simp only [List.modifyHead_cons, List.filterMap_cons, readField_space]

/-! ## Values -/

@[simp] theorem valueOf_nil : F.valueOf key [] = none := rfl

theorem valueOf_space : F.valueOf key (F.space :: cs) = F.valueOf key cs := by
  rw [valueOf, read_space, valueOf]

/-- Of two texts the later one comes first. -/
theorem valueOf_append {cs' : List α} :
    F.valueOf key (cs ++ F.comma :: cs') = (F.valueOf key cs').or (F.valueOf key cs) := by
  rw [valueOf, read, List.splitOn_append_cons_self, List.filterMap_append, List.reverse_append,
    List.lookup_append]
  rfl

theorem valueOf_part (h : F.comma ∉ part) :
    F.valueOf key part =
      (F.readField part).bind fun field => if field.1 = key then some field.2 else none := by
  rw [valueOf, read, List.splitOn_eq_singleton h]
  cases hfield : F.readField part with
  | none => simp [hfield]
  | some field =>
      obtain ⟨k, v⟩ := field
      simp only [List.filterMap_cons, hfield, List.filterMap_nil, List.reverse_singleton,
        Option.bind_some, List.lookup_cons, List.lookup_nil]
      by_cases hk : k = key
      · simp [hk]
      · simp [hk, beq_eq_false_iff_ne.mpr (Ne.symm hk)]

theorem readField_writeField (h : F.equals ∉ key) :
    F.readField (F.writeField (key, value)) = some (F.trim key, F.trim value) := by
  have hall : ∀ c ∈ key, (decide (c ≠ F.equals)) = true := fun c hc => by
    simpa using fun e : c = F.equals => h (e ▸ hc)
  rw [readField, writeField, if_pos (List.mem_append_right _ (List.mem_cons_self ..)),
    List.takeWhile_append_of_pos hall, List.dropWhile_append_of_pos hall,
    List.takeWhile_cons_of_neg (by simp), List.dropWhile_cons_of_neg (by simp), List.append_nil,
    List.tail_cons]

theorem head_of_not_mem (h : F.comma ∉ value) : F.head value = F.trim value := by
  rw [head, List.takeWhile_eq_self_iff.mpr fun c hc => ?_]
  simpa using fun e : c = F.comma => h (e ▸ hc)

theorem rest_of_not_mem (h : F.comma ∉ value) : F.rest value = [] := by
  rw [rest, List.dropWhile_eq_nil_iff.mpr fun c hc => ?_, List.tail_nil]
  simpa using fun e : c = F.comma => h (e ▸ hc)

/-- A value with a comma. -/
theorem head_rest (h : F.comma ∈ value) :
    value = value.takeWhile (· ≠ F.comma) ++ F.comma :: F.rest value := by
  have hsplit := (List.takeWhile_append_dropWhile (p := fun c => decide (c ≠ F.comma))
    (l := value)).symm
  cases hdrop : value.dropWhile (· ≠ F.comma) with
  | nil =>
      have hall := List.dropWhile_eq_nil_iff.mp hdrop F.comma h
      simp at hall
  | cons c cs =>
      have hc : c = F.comma := by
        have hne := List.head_dropWhile_not (fun c => decide (c ≠ F.comma))
          (l := value) (by rw [hdrop]; exact List.cons_ne_nil _ _)
        simp only [hdrop, List.head_cons, decide_eq_false_iff_not, not_not] at hne
        exact hne
      rw [rest, hdrop, List.tail_cons]
      rw [hdrop, hc] at hsplit
      exact hsplit

theorem valueOf_writeField (hcomma : F.comma ∉ part) (hequals : F.equals ∉ part) :
    F.valueOf key (F.writeField (part, value)) = F.shown key (part, value) := by
  have hfield : ∀ v : List α, F.comma ∉ v → F.valueOf key (F.writeField (part, v)) =
      if F.trim part = key then some (F.trim v) else none := fun v hv => by
    have hmem : F.comma ∉ F.writeField (part, v) := by
      simp [writeField, hcomma, hv, F.comma_ne_equals]
    rw [valueOf_part hmem, readField_writeField hequals, Option.bind_some]
  by_cases hmem : F.comma ∈ value
  · have htake : F.comma ∉ value.takeWhile (· ≠ F.comma) := fun h => by
      simpa using List.mem_takeWhile_imp h
    rw [shown, head, ← hfield _ htake, ← valueOf_append]
    congr 1
    conv_lhs => rw [head_rest hmem]
    simp [writeField]
  · rw [shown, rest_of_not_mem hmem, valueOf_nil, Option.none_or, head_of_not_mem hmem,
      hfield value hmem]

/-- What is read of a record: the last field that gives something for the key. -/
theorem valueOf_write {fields : List (List α × List α)}
    (h : ∀ field ∈ fields, F.comma ∉ field.1 ∧ F.equals ∉ field.1) :
    F.valueOf key (F.write fields) = fields.reverse.findSome? (F.shown key) := by
  induction fields with
  | nil => rfl
  | cons field fields ih =>
      obtain ⟨⟨hcomma, hequals⟩, hfields⟩ := List.forall_mem_cons.mp h
      have hfirst : F.valueOf key (F.writeField field) = F.shown key field :=
        valueOf_writeField hcomma hequals
      cases fields with
      | nil => simpa [write] using hfirst
      | cons next fields =>
          have hwrite : F.write (field :: next :: fields) =
              F.writeField field ++ F.comma :: F.space :: F.write (next :: fields) :=
            join_cons_cons
          have hreverse : (field :: next :: fields).reverse = (next :: fields).reverse ++ [field] :=
            List.reverse_cons
          rw [hwrite, valueOf_append, valueOf_space, ih hfields, hfirst, hreverse,
            List.findSome?_append, List.findSome?_singleton]

/-! ## Parts -/

/-- A text without a character of the key has no value of it. -/
theorem valueOf_eq_none (hkey : c ∈ key) (hc : c ∉ cs) : F.valueOf key cs = none := by
  refine List.lookup_eq_none_iff.mpr fun field hfield => ?_
  obtain ⟨part, hpart, hread⟩ := List.mem_filterMap.mp (List.mem_reverse.mp hfield)
  unfold readField at hread
  split at hread
  · cases hread
    rw [bne_iff_ne]
    rintro rfl
    have hmem : c ∈ part := List.takeWhile_subset _
      ((List.dropWhile_sublist _).subset ((List.rdropWhile_prefix _ _).subset hkey))
    rw [List.splitOn_eq_splitOnP] at hpart
    exact hc (mem_of_mem_splitOnP hpart hmem)
  · cases hread

/-- Parts without commas and without blanks come back. -/
theorem splitOn_join {parts : List (List α)} (hne : parts ≠ [])
    (h : ∀ part ∈ parts, F.comma ∉ part ∧ ∀ c ∈ part, F.blank c = false) :
    ((F.join parts).splitOn F.comma).map F.trim = parts := by
  induction parts with
  | nil => exact absurd rfl hne
  | cons part parts ih =>
      obtain ⟨⟨hcomma, hblank⟩, hparts⟩ := List.forall_mem_cons.mp h
      cases parts with
      | nil =>
          rw [join_singleton, List.splitOn_eq_singleton hcomma, List.map_singleton,
            trim_eq_self hblank]
      | cons next parts =>
          have ih := ih (List.cons_ne_nil _ _) hparts
          have hspace : (F.space == F.comma) = false := beq_eq_false_iff_ne.mpr space_ne_comma
          rw [join_cons_cons, List.splitOn_append_cons_self_of_not_mem hcomma, List.map_cons,
            trim_eq_self hblank, List.splitOn_cons_eq_if_modifyHead, hspace,
            if_neg Bool.false_ne_true]
          refine congrArg (List.cons part) (Eq.trans ?_ ih)
          cases (F.join (next :: parts)).splitOn F.comma with
          | nil => rfl
          | cons first others => simp only [List.modifyHead_cons, List.map_cons, trim_space]

end

end Format

end KeyValues
