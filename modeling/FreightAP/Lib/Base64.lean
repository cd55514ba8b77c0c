import Mathlib.Data.List.Basic
import Mathlib.Tactic.NormNum

/-!
# Base64

Octets as text: the coding of `binascii.b2a_base64`, and the decoder of
`binascii.a2b_base64`, which reads its text one character at a time.  The
decoder skips what is no digit, unless it is strict.
-/

/-- A string of octets. -/
abbrev Octets := List UInt8

namespace Base64

/-! ## Digits -/

/-- The sixty-four digits. -/
def alphabet : List Char :=
  "ABCDEFGHIJKLMNOPQRSTUVWXYZabcdefghijklmnopqrstuvwxyz0123456789+/".toList

/-- The digit of a number below 64. -/
def digit (n : Nat) : Char := alphabet.getD n '='

/-- The number that a character is the digit of. -/
def value? (c : Char) : Option Nat := alphabet.idxOf? c

theorem digit_spec : ∀ n < 64, digit n ≠ '=' ∧ value? (digit n) = some n := by decide +kernel

/-! ## The coding -/

/-- `b2a_base64`, without a newline at the end. -/
def encode : Octets → List Char
  | [] => []
  | [a] => [digit (a.toNat / 4), digit (a.toNat % 4 * 16), '=', '=']
  | [a, b] =>
      [digit (a.toNat / 4), digit (a.toNat % 4 * 16 + b.toNat / 16), digit (b.toNat % 16 * 4), '=']
  | a :: b :: c :: rest =>
      digit (a.toNat / 4) :: digit (a.toNat % 4 * 16 + b.toNat / 16) ::
        digit (b.toNat % 16 * 4 + c.toNat / 64) :: digit (c.toNat % 64) :: encode rest

/-- Three octets are four characters. -/
theorem encode_length (octets : Octets) :
    (encode octets).length = 4 * ((octets.length + 2) / 3) := by
  induction octets using encode.induct with
  | case1 => rfl
  | case2 a => simp [encode]
  | case3 a b => simp [encode]
  | case4 a b c rest ih =>
      simp only [encode, List.length_cons, ih]
      omega

/-! ## The decoder -/

/-- Where the decoder is: its place in a group of four digits, the bits left
over from the last one, the padding of the group, and whether there was any. -/
structure Place where
  quadPos : Nat
  leftchar : Nat
  pads : Nat
  paddingStarted : Bool

/-- The place before the first character. -/
def Place.start : Place := ⟨0, 0, 0, false⟩

/-- The loop of `a2b_base64`, `none` for a `binascii.Error`. -/
def scan (strict : Bool) : Place → List Char → Option Octets
  | p, [] => if p.quadPos = 0 then some [] else none
  | p, c :: cs =>
      if c = '=' then
        if 2 ≤ p.quadPos ∧ 4 ≤ p.quadPos + p.pads + 1 then
          -- The group is over, and the rest of the text is not read.
          if strict ∧ cs ≠ [] then none else some []
        else
          let pads := if 2 ≤ p.quadPos then p.pads + 1 else p.pads
          scan strict { p with pads, paddingStarted := true } cs
      else
        match value? c with
        | none => if strict then none else scan strict p cs
        | some v =>
            if strict ∧ p.paddingStarted then none
            else
              match p.quadPos with
              | 0 => scan strict ⟨1, v, 0, p.paddingStarted⟩ cs
              | 1 =>
                  (scan strict ⟨2, v % 16, 0, p.paddingStarted⟩ cs).map
                    (UInt8.ofNat (p.leftchar * 4 + v / 16) :: ·)
              | 2 =>
                  (scan strict ⟨3, v % 4, 0, p.paddingStarted⟩ cs).map
                    (UInt8.ofNat (p.leftchar * 16 + v / 4) :: ·)
              | _ =>
                  (scan strict ⟨0, 0, 0, p.paddingStarted⟩ cs).map
                    (UInt8.ofNat (p.leftchar * 64 + v) :: ·)

/-- `a2b_base64`. -/
def decode (strict : Bool) (text : List Char) : Option Octets :=
  if strict ∧ text.head? = some '=' then none else scan strict .start text

/-! ## The round trip -/

section

variable {strict : Bool} {n left : Nat} {cs : List Char}

/-- The first digit of a group. -/
theorem scan_digit_zero (hn : n < 64) :
    scan strict .start (digit n :: cs) = scan strict ⟨1, n, 0, false⟩ cs := by
  obtain ⟨hpad, hvalue⟩ := digit_spec n hn
  simp [scan, hpad, hvalue, Place.start]

/-- The second digit of a group ends its first octet. -/
theorem scan_digit_one (hn : n < 64) :
    scan strict ⟨1, left, 0, false⟩ (digit n :: cs) =
      (scan strict ⟨2, n % 16, 0, false⟩ cs).map (UInt8.ofNat (left * 4 + n / 16) :: ·) := by
  obtain ⟨hpad, hvalue⟩ := digit_spec n hn
  simp [scan, hpad, hvalue]

/-- The third digit of a group ends its second octet. -/
theorem scan_digit_two (hn : n < 64) :
    scan strict ⟨2, left, 0, false⟩ (digit n :: cs) =
      (scan strict ⟨3, n % 4, 0, false⟩ cs).map (UInt8.ofNat (left * 16 + n / 4) :: ·) := by
  obtain ⟨hpad, hvalue⟩ := digit_spec n hn
  simp [scan, hpad, hvalue]

/-- The fourth digit of a group ends its third octet. -/
theorem scan_digit_three (hn : n < 64) :
    scan strict ⟨3, left, 0, false⟩ (digit n :: cs) =
      (scan strict .start cs).map (UInt8.ofNat (left * 64 + n) :: ·) := by
  obtain ⟨hpad, hvalue⟩ := digit_spec n hn
  simp [scan, hpad, hvalue, Place.start]

/-- A padding of two characters. -/
theorem scan_pad_two : scan strict ⟨2, left, 0, false⟩ ['=', '='] = some [] := by
  simp [scan]

/-- A padding of one character. -/
theorem scan_pad_one : scan strict ⟨3, left, 0, false⟩ ['='] = some [] := by
  simp [scan]

end

theorem scan_encode (strict : Bool) (octets : Octets) :
    scan strict .start (encode octets) = some octets := by
  induction octets using encode.induct with
  | case1 => rfl
  | case2 a =>
      have ha := a.toNat_lt
      have hoctet : a.toNat / 4 * 4 + a.toNat % 4 * 16 / 16 = a.toNat := by omega
      rw [encode, scan_digit_zero (by omega), scan_digit_one (by omega), scan_pad_two, hoctet]
      simp
  | case3 a b =>
      have ha := a.toNat_lt
      have hb := b.toNat_lt
      have hfirst : a.toNat / 4 * 4 + (a.toNat % 4 * 16 + b.toNat / 16) / 16 = a.toNat := by omega
      have hsecond : (a.toNat % 4 * 16 + b.toNat / 16) % 16 * 16 + b.toNat % 16 * 4 / 4 =
          b.toNat := by omega
      rw [encode, scan_digit_zero (by omega), scan_digit_one (by omega),
        scan_digit_two (by omega), scan_pad_one, hfirst, hsecond]
      simp
  | case4 a b c rest ih =>
      have ha := a.toNat_lt
      have hb := b.toNat_lt
      have hc := c.toNat_lt
      have hfirst : a.toNat / 4 * 4 + (a.toNat % 4 * 16 + b.toNat / 16) / 16 = a.toNat := by omega
      have hsecond : (a.toNat % 4 * 16 + b.toNat / 16) % 16 * 16 +
          (b.toNat % 16 * 4 + c.toNat / 64) / 4 = b.toNat := by omega
      have hthird : (b.toNat % 16 * 4 + c.toNat / 64) % 4 * 64 + c.toNat % 64 = c.toNat := by omega
      rw [encode, scan_digit_zero (by omega), scan_digit_one (by omega),
        scan_digit_two (by omega), scan_digit_three (by omega), hfirst, hsecond, hthird, ih]
      simp

/-- A coding does not start with a padding. -/
theorem encode_head? (octets : Octets) : (encode octets).head? ≠ some '=' := by
  cases octets using encode.fun_cases with
  | case1 => simp [encode]
  | case2 a =>
      have ha := a.toNat_lt
      simpa [encode] using (digit_spec (a.toNat / 4) (by omega)).1
  | case3 a b =>
      have ha := a.toNat_lt
      simpa [encode] using (digit_spec (a.toNat / 4) (by omega)).1
  | case4 a b c rest =>
      have ha := a.toNat_lt
      simpa [encode] using (digit_spec (a.toNat / 4) (by omega)).1

/-- What was coded is decoded, strictly or not. -/
theorem decode_encode (strict : Bool) (octets : Octets) :
    decode strict (encode octets) = some octets := by
  simp [decode, encode_head?, scan_encode]

/-! ## The URL-safe coding -/

/-- The digit of the URL-safe alphabet. -/
def urlSafe (c : Char) : Char := if c = '+' then '-' else if c = '/' then '_' else c

/-- The digit of the standard alphabet. -/
def standard (c : Char) : Char := if c = '-' then '+' else if c = '_' then '/' else c

/-- `urlsafe_b64encode`. -/
def urlEncode (octets : Octets) : List Char := (encode octets).map urlSafe

/-- A text codes octets in the URL-safe alphabet, with its padding or without. -/
def UrlCodes (text : String) (octets : Octets) : Prop :=
  text.toList = urlEncode octets ∨ text.toList = (urlEncode octets).filter (· ≠ '=')

section

variable {octets : Octets} {c : Char} {text : String}

theorem urlSafe_spec : ∀ n < 64, urlSafe (digit n) ≠ '=' ∧ (urlSafe (digit n)).toNat < 128 ∧
    standard (urlSafe (digit n)) = digit n := by decide +kernel

/-- A coding is a row of digits and a padding that fills up its last group. -/
theorem encode_padded (octets : Octets) :
    ∃ digits : List Nat, (∀ n ∈ digits, n < 64) ∧
      encode octets = digits.map digit ++
        List.replicate ((4 - digits.length % 4) % 4) '=' := by
  induction octets using encode.induct with
  | case1 => exact ⟨[], by simp, by simp [encode]⟩
  | case2 a =>
      have ha := a.toNat_lt
      refine ⟨[a.toNat / 4, a.toNat % 4 * 16], ?_, rfl⟩
      simp only [List.mem_cons, List.not_mem_nil, or_false, forall_eq_or_imp, forall_eq]
      omega
  | case3 a b =>
      have ha := a.toNat_lt
      have hb := b.toNat_lt
      refine ⟨[a.toNat / 4, a.toNat % 4 * 16 + b.toNat / 16, b.toNat % 16 * 4], ?_, rfl⟩
      simp only [List.mem_cons, List.not_mem_nil, or_false, forall_eq_or_imp, forall_eq]
      omega
  | case4 a b c rest ih =>
      have ha := a.toNat_lt
      have hb := b.toNat_lt
      have hc := c.toNat_lt
      obtain ⟨digits, hdigits, hrest⟩ := ih
      refine ⟨a.toNat / 4 :: (a.toNat % 4 * 16 + b.toNat / 16) ::
        (b.toNat % 16 * 4 + c.toNat / 64) :: (c.toNat % 64) :: digits, ?_, ?_⟩
      · simp only [List.mem_cons, forall_eq_or_imp]
        exact ⟨by omega, by omega, by omega, by omega, hdigits⟩
      · rw [encode, hrest]
        have hlength : (digits.length + 1 + 1 + 1 + 1) % 4 = digits.length % 4 := by omega
        simp [hlength]

/-- The same of the URL-safe coding. -/
theorem urlEncode_padded (octets : Octets) :
    ∃ digits : List Nat, (∀ n ∈ digits, n < 64) ∧
      encode octets = digits.map digit ++ List.replicate ((4 - digits.length % 4) % 4) '=' ∧
      urlEncode octets = digits.map (fun n => urlSafe (digit n)) ++
        List.replicate ((4 - digits.length % 4) % 4) '=' ∧
      (urlEncode octets).filter (· ≠ '=') = digits.map (fun n => urlSafe (digit n)) := by
  obtain ⟨digits, hdigits, hencode⟩ := encode_padded octets
  have hurl : urlEncode octets = digits.map (fun n => urlSafe (digit n)) ++
      List.replicate ((4 - digits.length % 4) % 4) '=' := by
    rw [urlEncode, hencode, List.map_append, List.map_map, List.map_replicate]
    rfl
  refine ⟨digits, hdigits, hencode, hurl, ?_⟩
  rw [hurl, List.filter_append, List.filter_eq_self.mpr, List.filter_eq_nil_iff.mpr,
    List.append_nil]
  · intro c hc
    simp [List.eq_of_mem_replicate hc]
  · intro c hc
    obtain ⟨n, hn, rfl⟩ := List.mem_map.mp hc
    simpa using (urlSafe_spec n (hdigits n hn)).1

/-- Filled up to whole groups, a coded text is the URL-safe coding. -/
theorem UrlCodes.padded (h : UrlCodes text octets) :
    text.toList ++ List.replicate ((4 - text.length % 4) % 4) '=' = urlEncode octets := by
  obtain ⟨digits, -, -, hurl, hfilter⟩ := urlEncode_padded octets
  rw [← String.length_toList]
  rcases h with h | h
  · rw [h]
    have hwhole : (urlEncode octets).length % 4 = 0 := by
      rw [urlEncode, List.length_map, encode_length]
      omega
    simp [hwhole]
  · rw [h, hfilter, hurl]
    simp

theorem mem_urlEncode (h : c ∈ urlEncode octets) : c.toNat < 128 := by
  obtain ⟨digits, hdigits, -, hurl, -⟩ := urlEncode_padded octets
  rw [hurl] at h
  rcases List.mem_append.mp h with h | h
  · obtain ⟨n, hn, rfl⟩ := List.mem_map.mp h
    exact (urlSafe_spec n (hdigits n hn)).2.1
  · rw [List.eq_of_mem_replicate h]
    decide

/-- Back in the standard alphabet it is the coding. -/
theorem standard_urlEncode : (urlEncode octets).map standard = encode octets := by
  obtain ⟨digits, hdigits, hencode, hurl, -⟩ := urlEncode_padded octets
  rw [hurl, hencode, List.map_append, List.map_map, List.map_replicate]
  congr 1
  apply List.map_congr_left
  intro n hn
  exact (urlSafe_spec n (hdigits n hn)).2.2

end

end Base64
