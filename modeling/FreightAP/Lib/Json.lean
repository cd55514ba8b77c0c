import Mathlib.Data.List.Basic

/-!
# JSON values

The values of a JSON document, and the operators of a JSON column on them.  A
number is its text.  The members of an object are pairwise different and stay
in the order in which they are held.
-/

/-- A JSON value. -/
inductive Json where
  | null
  | bool (b : Bool)
  | number (text : String)
  | string (s : String)
  | array (items : List Json)
  | object (members : List (String × Json))
deriving Inhabited

namespace Json

/-! ## Texts -/

/-- The digit of a number below sixteen. -/
def hexDigit (n : Nat) : Char := "0123456789abcdef".toList.getD n '0'

/-- A character inside a JSON string. -/
def escapeChar (c : Char) : List Char :=
  match c with
  | '"' => ['\\', '"']
  | '\\' => ['\\', '\\']
  | '\x08' => ['\\', 'b']
  | '\x0c' => ['\\', 'f']
  | '\n' => ['\\', 'n']
  | '\r' => ['\\', 'r']
  | '\t' => ['\\', 't']
  | c =>
      if c.toNat < 32 then ['\\', 'u', '0', '0', hexDigit (c.toNat / 16), hexDigit (c.toNat % 16)]
      else [c]

/-- A JSON string. -/
def quote (s : String) : String :=
  String.ofList ('"' :: s.toList.flatMap escapeChar ++ ['"'])

mutual

/-- The text of a value. -/
def print : Json → String
  | .null => "null"
  | .bool b => if b then "true" else "false"
  | .number text => text
  | .string s => quote s
  | .array items => "[" ++ printItems items ++ "]"
  | .object members => "\x7b" ++ printMembers members ++ "\x7d"

/-- The items of an array, with commas between them. -/
def printItems : List Json → String
  | [] => ""
  | [item] => print item
  | item :: items => print item ++ ", " ++ printItems items

/-- The members of an object, with commas between them. -/
def printMembers : List (String × Json) → String
  | [] => ""
  | [(key, value)] => quote key ++ ": " ++ print value
  | (key, value) :: members => quote key ++ ": " ++ print value ++ ", " ++ printMembers members

end

/-- A value as text: a string without its quotes, and nothing for `null`. -/
def text? : Json → Option String
  | .null => none
  | .string s => some s
  | value => some value.print

/-! ## Members -/

/-- The members of an object. -/
abbrev Members := List (String × Json)

namespace Members

/-- `members ->> key`. -/
def text? (members : Members) (key : String) : Option String :=
  (members.lookup key).bind Json.text?

/-- `members - key`. -/
def erase (members : Members) (key : String) : Members := members.filter (·.1 ≠ key)

/-- `members || {key: value}`. -/
def set (members : Members) (key : String) (value : Json) : Members :=
  members.erase key ++ [(key, value)]

section

variable {members : Members} {key other : String} {value : Json}

@[simp] theorem lookup_erase_self : (members.erase key).lookup key = none := by
  rw [List.lookup_eq_none_iff]
  intro member h
  rw [erase, List.mem_filter] at h
  simpa using Ne.symm (of_decide_eq_true h.2)

theorem lookup_erase_of_ne (h : other ≠ key) :
    (members.erase key).lookup other = members.lookup other := by
  induction members with
  | nil => rfl
  | cons member members ih =>
      obtain ⟨k, v⟩ := member
      by_cases hk : k = key
      · subst hk
        have hne : (other == k) = false := by simpa using h
        simpa [erase, List.lookup_cons, hne] using ih
      · simp only [erase, ne_eq, hk, not_false_eq_true, decide_true, List.filter_cons_of_pos,
          List.lookup_cons]
        cases other == k
        case true => rfl
        case false => exact ih

@[simp] theorem lookup_set_self : (members.set key value).lookup key = some value := by
  simp [set, List.lookup_append]

theorem lookup_set_of_ne (h : other ≠ key) :
    (members.set key value).lookup other = members.lookup other := by
  have hne : (other == key) = false := by simpa using h
  simp [set, List.lookup_append, lookup_erase_of_ne h, List.lookup_cons, hne]

end

end Members

end Json
