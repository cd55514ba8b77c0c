import Mathlib.Data.List.Basic

/-!
# Flat JSON objects

The texts of JSON objects whose members are texts, and a reader of them.
Members of other types are read over: the reader says only that they are there.
Control characters are not escaped.
-/

namespace FlatJson

/-- The characters of a text between quotes. -/
def escape : List Char → List Char
  | [] => []
  | c :: cs => if c = '"' ∨ c = '\\' then '\\' :: c :: escape cs else c :: escape cs

/-- The text up to the closing quote, and what comes after the quote. -/
def unescape : List Char → Option (List Char × List Char)
  | [] => none
  | [c] => if c = '"' then some ([], []) else none
  | c :: e :: cs =>
      if c = '"' then some ([], e :: cs)
      else if c = '\\' then (unescape cs).map fun (text, rest) => (e :: text, rest)
      else (unescape (e :: cs)).map fun (text, rest) => (c :: text, rest)

/-- A text in quotes. -/
def quote (cs : List Char) : List Char := '"' :: (escape cs ++ ['"'])

/-- A member of an object. -/
def member (k v : List Char) : List Char := quote k ++ ':' :: ' ' :: quote v

/-- The members of an object and the closing brace. -/
def members : List (List Char × List Char) → List Char
  | [] => ['}']
  | [(k, v)] => member k v ++ ['}']
  | (k, v) :: rest => member k v ++ ',' :: ' ' :: members rest

/-- The text of an object. -/
def encode (fields : List (List Char × List Char)) : List Char := '{' :: members fields

/-- What comes after white space. -/
def skip (cs : List Char) : List Char := cs.dropWhile (· = ' ')

/-- A value and what comes after it.  Other values than texts end at the next
comma or brace. -/
def value : List Char → Option (Option String × List Char)
  | '"' :: cs => (unescape cs).map fun (text, rest) => (some (String.ofList text), rest)
  | cs => some (none, cs.dropWhile fun c => c ≠ ',' ∧ c ≠ '}')

/-- A member and what comes after it. -/
def readMember : List Char → Option ((String × Option String) × List Char)
  | '"' :: cs =>
      match unescape cs with
      | some (k, ':' :: cs) => (value (skip cs)).map fun (v, rest) => ((String.ofList k, v), rest)
      | _ => none
  | _ => none

/-- The members of an object, `n` of them at most. -/
def readMembers : Nat → List Char → Option (List (String × Option String))
  | 0, _ => none
  | n + 1, cs =>
      match readMember cs with
      | some (m, ['}']) => some [m]
      | some (m, ',' :: rest) => (readMembers n (skip rest)).map (m :: ·)
      | _ => none

/-- The members of the object in a text. -/
def decode : List Char → Option (List (String × Option String))
  | ['{', '}'] => some []
  | '{' :: cs => readMembers cs.length cs
  | _ => none

/-! ## Round trip -/

theorem unescape_escape (cs rest : List Char) :
    unescape (escape cs ++ '"' :: rest) = some (cs, rest) := by
  induction cs with
  | nil => cases rest <;> rfl
  | cons c cs ih =>
      rw [escape]
      split
      · show ((unescape (escape cs ++ '"' :: rest)).map fun (text, rest) => (c :: text, rest)) = _
        rw [ih]
        rfl
      next hc =>
        have hcons : ∃ e es, escape cs ++ '"' :: rest = e :: es := by
          cases hes : escape cs with
          | nil => exact ⟨_, _, rfl⟩
          | cons e es => exact ⟨_, _, rfl⟩
        obtain ⟨e, es, hes⟩ := hcons
        rw [List.cons_append, hes, unescape, if_neg fun h => hc (.inl h),
          if_neg fun h => hc (.inr h), ← hes, ih]
        rfl

theorem value_quote (v rest : List Char) :
    value (skip (' ' :: (quote v ++ rest))) = some (some (String.ofList v), rest) := by
  have hskip : skip (' ' :: (quote v ++ rest)) = '"' :: (escape v ++ '"' :: rest) := by
    simp [skip, quote]
  rw [hskip, value, unescape_escape]
  rfl

theorem readMember_member (k v rest : List Char) :
    readMember (member k v ++ rest) = some ((String.ofList k, some (String.ofList v)), rest) := by
  have hmember : member k v ++ rest =
      '"' :: (escape k ++ '"' :: ':' :: ' ' :: (quote v ++ rest)) := by
    simp [member, quote]
  rw [hmember, readMember, unescape_escape]
  show (value (skip (' ' :: (quote v ++ rest)))).map _ = _
  rw [value_quote]
  rfl

theorem readMembers_members {fields : List (List Char × List Char)} (hne : fields ≠ []) :
    ∀ {n : Nat}, fields.length ≤ n → readMembers n (members fields) =
      some (fields.map fun (k, v) => (String.ofList k, some (String.ofList v))) := by
  induction fields with
  | nil => exact absurd rfl hne
  | cons kv fields ih =>
      obtain ⟨k, v⟩ := kv
      intro n hn
      obtain ⟨n, rfl⟩ := Nat.exists_eq_add_of_le' (Nat.le_trans (Nat.succ_pos _) hn)
      cases fields with
      | nil =>
          rw [members, readMembers, readMember_member]
          rfl
      | cons kv' fields =>
          rw [members, readMembers, readMember_member]
          · show (readMembers n (skip (' ' :: members (kv' :: fields)))).map _ = _
            have hskip : skip (' ' :: members (kv' :: fields)) = members (kv' :: fields) := by
              cases fields <;> simp [skip, members, member, quote]
            rw [hskip, ih (List.cons_ne_nil _ _) (Nat.le_of_succ_le_succ hn)]
            rfl
          · exact fun h => by cases h

theorem members_cons (kv : List Char × List Char) (fields : List (List Char × List Char)) :
    ∃ cs, members (kv :: fields) = '"' :: cs ∧ fields.length ≤ cs.length := by
  induction fields generalizing kv with
  | nil => exact ⟨_, rfl, Nat.zero_le _⟩
  | cons kv' fields ih =>
      obtain ⟨k, v⟩ := kv
      obtain ⟨cs, hcs, hlen⟩ := ih kv'
      refine ⟨escape k ++ ['"'] ++ ':' :: ' ' :: quote v ++ ',' :: ' ' :: members (kv' :: fields),
        rfl, ?_⟩
      rw [hcs]
      simp only [List.length_append, List.length_cons]
      omega

/-- What is read is what was written. -/
theorem decode_encode (fields : List (List Char × List Char)) : decode (encode fields) =
    some (fields.map fun (k, v) => (String.ofList k, some (String.ofList v))) := by
  unfold encode
  cases fields with
  | nil => rfl
  | cons kv fields =>
      obtain ⟨cs, hcs, hlen⟩ := members_cons kv fields
      have hread := readMembers_members (List.cons_ne_nil kv fields)
        (n := (members (kv :: fields)).length) (by rw [hcs]; exact Nat.succ_le_succ hlen)
      rw [hcs] at hread ⊢
      exact hread

end FlatJson
