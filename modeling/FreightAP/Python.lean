import Mathlib.Algebra.Order.Ring.Rat

/-!
# Python values

The parts of the Python runtime that the services read document data with.

A *scalar* is a value of an extracted-data dictionary.  The writers of
`extracted_data` are the extraction schemas and `rate_confirmation_extraction`,
and nothing looks inside a list or a dictionary in it.  Floats are exact
rationals.  An *extraction* is a dictionary of scalars, read with `dict.get`.

The Unicode tables and the text formats of floats, dates and timestamps are
the instance `PyRuntime`, so that nothing below depends on how they look.
Dates are counted in days and timestamps in microseconds.
-/

namespace FreightAP

/-- The tables of the runtime: `str.isspace` and `str.upper` of one character,
`float` and `datetime.fromisoformat` of a string, and the texts of a float, a
date and a timestamp. -/
class PyRuntime where
  /-- Whether a character is white space for `strip` and `split`. -/
  isspace : Char → Bool
  /-- The full upper-case mapping of a character. -/
  upperChar : Char → List Char
  /-- `float(s)`, `none` for a `ValueError`. -/
  float : String → Option ℚ
  /-- `datetime.fromisoformat(s).date()`, `none` for a `ValueError`. -/
  fromisoformat : String → Option Int
  /-- `str` of a float. -/
  floatText : ℚ → String
  /-- `isoformat` of a date. -/
  dateText : Int → String
  /-- `isoformat` of a timestamp. -/
  datetimeText : Int → String

/-! ## Scalars and dictionaries -/

/-- A value of a dictionary.  Of a list or a dictionary in it there is whether
it has an element, and its text. -/
inductive Scalar where
  | none
  | bool (b : Bool)
  | int (n : Int)
  | float (q : ℚ)
  | str (s : String)
  | nested (nonempty : Bool) (text : String)
deriving DecidableEq, Inhabited

namespace Scalar

/-- `bool(value)`. -/
def truthy : Scalar → Bool
  | .none => false
  | .bool b => b
  | .int n => n ≠ 0
  | .float q => q ≠ 0
  | .str s => s ≠ ""
  | .nested nonempty _ => nonempty

/-- `a or b`. -/
def or (a b : Scalar) : Scalar := if a.truthy then a else b

/-- `str(value)`. -/
def text [PyRuntime] : Scalar → String
  | .none => "None"
  | .bool b => if b then "True" else "False"
  | .int n => toString n
  | .float q => PyRuntime.floatText q
  | .str s => s
  | .nested _ text => text

/-- `float(value)`, `none` for a `TypeError` or a `ValueError`. -/
def toFloat [PyRuntime] : Scalar → Option ℚ
  | .none => Option.none
  | .bool b => some (if b then 1 else 0)
  | .int n => some n
  | .float q => some q
  | .str s => PyRuntime.float s
  | .nested _ _ => Option.none

/-- The string a text column takes from a scalar. -/
def toText : Scalar → Option String
  | .str s => some s
  | _ => Option.none

@[simp] theorem truthy_none : Scalar.none.truthy = false := rfl

@[simp] theorem truthy_str (s : String) : (Scalar.str s).truthy = decide (s ≠ "") := rfl

end Scalar

/-- A dictionary of scalars. -/
abbrev Extraction := List (String × Scalar)

/-- `extraction.get(key)`. -/
def Extraction.get (e : Extraction) (key : String) : Scalar :=
  (e.lookup key).getD .none

@[simp] theorem Extraction.get_nil (key : String) : Extraction.get [] key = .none := rfl

/-! ## Strings -/

section

variable [PyRuntime]

/-- `s.strip()`. -/
def strip (s : String) : String :=
  let front := s.toList.dropWhile PyRuntime.isspace
  String.ofList (front.reverse.dropWhile PyRuntime.isspace).reverse

/-- `s.upper()`. -/
def upper (s : String) : String := String.ofList (s.toList.flatMap PyRuntime.upperChar)

/-- `s.split()`: the maximal runs without white space. -/
def split (s : String) : List String :=
  ((s.toList.splitOnP PyRuntime.isspace).filter (· ≠ [])).map String.ofList

/-- `normalize_load_number`: the canonical identity used to assemble shipments,
or the message of the `ValueError`. -/
def normalizeLoadNumber : Option String → Except String (Option String)
  | none => .ok none
  | some value =>
      let normalized := upper (strip value)
      if normalized = "" then .error "load_number cannot be empty" else .ok (some normalized)

end

/-! ## An ASCII runtime

Enough of a runtime for concrete runs: ASCII letters and blanks, dates of the
form `YYYY-MM-DD`, and floats written as fractions when they are not whole. -/

/-- The day count of a civil date, with 1970-01-01 as day `0`. -/
def daysFromCivil (year month day : Int) : Int :=
  let y := if month ≤ 2 then year - 1 else year
  let era := y / 400
  let yoe := y - era * 400
  let doy := (153 * (month + (if month > 2 then -3 else 9)) + 2) / 5 + day - 1
  era * 146097 + (yoe * 365 + yoe / 4 - yoe / 100 + doy) - 719468

/-- The civil date of a day count: year, month and day. -/
def civilFromDays (days : Int) : Int × Int × Int :=
  let z := days + 719468
  let era := z / 146097
  let doe := z - era * 146097
  let yoe := (doe - doe / 1460 + doe / 36524 - doe / 146096) / 365
  let doy := doe - (365 * yoe + yoe / 4 - yoe / 100)
  let mp := (5 * doy + 2) / 153
  let month := if mp < 10 then mp + 3 else mp - 9
  (yoe + era * 400 + (if month ≤ 2 then 1 else 0), month, doy - (153 * mp + 2) / 5 + 1)

/-- A number with at least two digits. -/
def twoDigits (n : Int) : String := if n < 10 then "0" ++ toString n else toString n

/-- The number a list of ASCII digits writes. -/
def digits (cs : List Char) : Option Int :=
  if cs.all Char.isDigit then
    some (cs.foldl (fun n c => 10 * n + (c.toNat - '0'.toNat : Nat)) 0)
  else none

/-- `YYYY-MM-DD` as a day count.  The round trip rejects 2026-02-30. -/
def isoDate (s : String) : Option Int :=
  match s.toList with
  | [y₁, y₂, y₃, y₄, '-', m₁, m₂, '-', d₁, d₂] => do
      let year ← digits [y₁, y₂, y₃, y₄]
      let month ← digits [m₁, m₂]
      let day ← digits [d₁, d₂]
      let days := daysFromCivil year month day
      if civilFromDays days = (year, month, day) then some days else none
  | _ => none

/-- A day count as `YYYY-MM-DD`. -/
def isoDateText (days : Int) : String :=
  let (year, month, day) := civilFromDays days
  toString year ++ "-" ++ twoDigits month ++ "-" ++ twoDigits day

/-- The runtime on ASCII text.  It reads no number out of a string. -/
@[reducible] def asciiRuntime : PyRuntime where
  isspace c := c ∈ [' ', '\t', '\n', '\r']
  upperChar c := [c.toUpper]
  float _ := none
  fromisoformat := isoDate
  floatText q :=
    if q.den = 1 then toString q.num ++ ".0" else toString q.num ++ "/" ++ toString q.den
  dateText := isoDateText
  datetimeText t :=
    let seconds := t / 1000000
    isoDateText (seconds / 86400) ++ "T" ++ twoDigits (seconds / 3600 % 24) ++ ":" ++
      twoDigits (seconds / 60 % 60) ++ ":" ++ twoDigits (seconds % 60) ++ "+00:00"

example : letI := asciiRuntime
    normalizeLoadNumber (some "  ld-001 ") = .ok (some "LD-001") := by decide +kernel

example : isoDate "2026-07-19" = some 20653 := by decide +kernel

/-! ### Its texts -/

/-- An upper-case text has no lower-case letter. -/
theorem toUpper_ne_lower {c d : Char} (hd : 97 ≤ d.val.toNat ∧ d.val.toNat ≤ 122) :
    c.toUpper ≠ d := by
  rintro rfl
  unfold Char.toUpper at hd
  split at hd
  next hlower =>
    have hlow := UInt32.le_iff_toNat_le.mp hlower.1
    have hhigh := UInt32.le_iff_toNat_le.mp hlower.2
    simp at hd hlow hhigh
    omega
  next hother =>
    exact hother ⟨UInt32.le_iff_toNat_le.mpr hd.1, UInt32.le_iff_toNat_le.mpr hd.2⟩

/-- A text of digits and signs, as numbers and dates are written. -/
def Numeral (text : String) : Prop :=
  ∀ c ∈ text.toList, c.isDigit = true ∨ c ∈ ['-', '.', '/']

theorem Numeral.append {a b : String} (ha : Numeral a) (hb : Numeral b) : Numeral (a ++ b) := by
  intro c hc
  rw [String.toList_append, List.mem_append] at hc
  exact hc.elim (ha c) (hb c)

theorem numeral_sign {sign : String} (h : sign.toList ⊆ ['-', '.', '/']) : Numeral sign :=
  fun _ hc => .inr (h hc)

theorem numeral_dot : Numeral "." := numeral_sign (by decide)

theorem numeral_natRepr (n : Nat) : Numeral n.repr := by
  intro c hc
  rw [Nat.toList_repr] at hc
  exact .inl (Nat.isDigit_of_mem_toDigits (by decide) (by decide) hc)

theorem numeral_intRepr (n : Int) : Numeral n.repr := by
  cases n with
  | ofNat n => exact numeral_natRepr n
  | negSucc n => exact (numeral_sign (by decide)).append (numeral_natRepr _)

theorem numeral_twoDigits (n : Int) : Numeral (twoDigits n) := by
  unfold twoDigits
  split
  · exact Numeral.append (numeral_natRepr 0) (numeral_intRepr n)
  · exact numeral_intRepr n

theorem numeral_isoDateText (days : Int) : Numeral (isoDateText days) := by
  have hdash : Numeral "-" := numeral_sign (by decide)
  exact ((((numeral_intRepr _).append hdash).append (numeral_twoDigits _)).append hdash).append
    (numeral_twoDigits _)

theorem numeral_floatText (q : ℚ) : Numeral (asciiRuntime.floatText q) := by
  have htext : Numeral (if q.den = 1 then toString q.num ++ ".0"
      else toString q.num ++ "/" ++ toString q.den) := by
    split
    · exact (numeral_intRepr _).append
        ((numeral_dot).append (numeral_natRepr 0))
    · exact ((numeral_intRepr _).append (numeral_sign (by decide))).append (numeral_natRepr _)
  exact htext

end FreightAP
