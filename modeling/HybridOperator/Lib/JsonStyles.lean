/-
  The printers of JSON that the two services use, as styles.

  `dumps` is Python's "json.dumps" with its defaults, which writes ASCII only: every other
  character is written as its UTF-16 code units. `compact` is the same without white space, which
  is what Flask's `jsonify` asks for. `encoder` is Go's `json.Encoder`, which leaves text as it is
  but for what could end a script or a line of one. All of them write a number such as 9.8, with one
  digit behind the point, digit by digit (`tenths`).

  Proved: each of them is a `Style`, so `decode` reads back whatever character was written, and
  `tenths` are read back too.
-/
import HybridOperator.Lib.JsonPrint

namespace HybridOperator.Lib.JsonStyles

open GoStrings JsonText JsonPrint

/-! ## Ways to write a character -/

/-- The letter that stands for a control character behind a backslash. -/
def controlLetter (n : Nat) : Option Char :=
  if n = 8 then some 'b'
  else if n = 12 then some 'f'
  else if n = 10 then some 'n'
  else if n = 13 then some 'r'
  else if n = 9 then some 't'
  else none

def unit (n : Nat) : List Char := '\\' :: 'u' :: hex 4 n

def surrogates (n : Nat) : List Char :=
  unit (0xD800 + (n - 0x10000) / 0x400) ++ unit (0xDC00 + (n - 0x10000) % 0x400)

theorem element_backslash {c : Char} (h : c.toNat = 34 ∨ c.toNat = 92) (rest : List Char) :
    element ('\\' :: c :: rest) = some (some c, rest) := by
  rcases h with h | h
  · obtain rfl : c = '"' := Char.toNat_inj.mp h
    rfl
  · obtain rfl : c = '\\' := Char.toNat_inj.mp h
    rfl

theorem element_controlLetter {c e : Char} (h : controlLetter c.toNat = some e)
    (rest : List Char) : element ('\\' :: e :: rest) = some (some c, rest) := by
  have hsimple : ∀ n, c.toNat = n → simpleEscape e = some (Char.ofNat n) → e ≠ 'u' →
      element ('\\' :: e :: rest) = some (some c, rest) := by
    intro n hn he hu
    rw [element_escape e rest hu, he, ← hn, Char.ofNat_toNat]
    rfl
  unfold controlLetter at h
  split at h
  · rename_i hn
    obtain rfl := Option.some.inj h
    exact hsimple 8 hn rfl (by decide)
  split at h
  · rename_i hn
    obtain rfl := Option.some.inj h
    exact hsimple 12 hn rfl (by decide)
  split at h
  · rename_i hn
    obtain rfl := Option.some.inj h
    exact hsimple 10 hn rfl (by decide)
  split at h
  · rename_i hn
    obtain rfl := Option.some.inj h
    exact hsimple 13 hn rfl (by decide)
  split at h
  · rename_i hn
    obtain rfl := Option.some.inj h
    exact hsimple 9 hn rfl (by decide)
  · cases h

theorem element_unit {c : Char} (h : c.toNat < 65536) (rest : List Char) :
    element (unit c.toNat ++ rest) = some (some c, rest) := by
  show element ('\\' :: 'u' :: (hex 4 c.toNat ++ rest)) = _
  rw [element_unicode, unicodeEscape_hex h]
  rfl

/-- Two code units that belong together. -/
theorem element_pair {high low : Nat} (hhigh : isHighSurrogate high = true)
    (hlow : isLowSurrogate low = true) (rest : List Char) :
    element (unit high ++ (unit low ++ rest)) =
      some (some (Char.ofNat (0x10000 + (high - 0xD800) * 0x400 + (low - 0xDC00))), rest) := by
  have hhighlt : high < 65536 := by
    have := of_decide_eq_true hhigh
    omega
  have hlowlt : low < 65536 := by
    have := of_decide_eq_true hlow
    omega
  have hslash : ∀ cs, expect '\\' ('\\' :: cs) = some cs := fun _ => rfl
  have hu : ∀ cs, expect 'u' ('u' :: cs) = some cs := fun _ => rfl
  have hsecond : lowSurrogate (unit low ++ rest) = some (low, rest) := by
    simp only [lowSurrogate, unit, List.cons_append, hslash, hu, Option.bind_eq_bind,
      Option.bind_some, hexFour_hex hlowlt, hlow, if_true]
  rw [unit, List.cons_append, List.cons_append, element_unicode, unicodeEscape,
    hexFour_hex hhighlt]
  simp only [Option.bind_eq_bind, Option.bind_some, hhigh, if_true, hsecond, Option.map_some]

theorem element_surrogates {c : Char} (h : 65536 ≤ c.toNat) (rest : List Char) :
    element (surrogates c.toNat ++ rest) = some (some c, rest) := by
  have hvalid : c.toNat < 55296 ∨ 57343 < c.toNat ∧ c.toNat < 1114112 := c.valid
  have hhigh : isHighSurrogate (0xD800 + (c.toNat - 0x10000) / 0x400) = true :=
    decide_eq_true (by omega)
  have hlow : isLowSurrogate (0xDC00 + (c.toNat - 0x10000) % 0x400) = true :=
    decide_eq_true (by omega)
  have hvalue : 0x10000 + (0xD800 + (c.toNat - 0x10000) / 0x400 - 0xD800) * 0x400 +
      (0xDC00 + (c.toNat - 0x10000) % 0x400 - 0xDC00) = c.toNat := by omega
  rw [surrogates, List.append_assoc, element_pair hhigh hlow, hvalue, Char.ofNat_toNat]

/-! ## Python -/

/-- One character under `ensure_ascii`. -/
def asciiEscape (c : Char) : List Char :=
  let n := c.toNat
  if n = 34 ∨ n = 92 then ['\\', c]
  else match controlLetter n with
    | some e => ['\\', e]
    | none =>
        if 32 ≤ n ∧ n ≤ 126 then [c]
        else if n < 65536 then unit n
        else surrogates n

theorem element_asciiEscape (c : Char) (rest : List Char) :
    element (asciiEscape c ++ rest) = some (some c, rest) := by
  unfold asciiEscape
  dsimp only
  split
  · rename_i h
    exact element_backslash h rest
  · rename_i hplain
    split
    · rename_i e he
      exact element_controlLetter he rest
    · split
      · rename_i h
        exact element_plain rest (by omega) (by omega) h.1
      · split
        · rename_i h
          exact element_unit h rest
        · rename_i h
          exact element_surrogates (Nat.le_of_not_lt h) rest

theorem isSpace_blank_text : ∀ c ∈ [' '], isSpace c = true := fun _ hc =>
  List.mem_singleton.mp hc ▸ rfl

def dumps : Style where
  afterComma := [' ']
  afterColon := [' ']
  escape := asciiEscape
  comma_space := isSpace_blank_text
  colon_space := isSpace_blank_text
  escape_read := element_asciiEscape

def compact : Style where
  afterComma := []
  afterColon := []
  escape := asciiEscape
  comma_space := List.forall_mem_nil _
  colon_space := List.forall_mem_nil _
  escape_read := element_asciiEscape

/-! ## Go -/

/-- The characters of a plain text that are escaped all the same: `&`, `<`, `>` and the two line
    separators. -/
def htmlUnsafe : List Nat := [38, 60, 62, 0x2028, 0x2029]

/-- One character under `SetEscapeHTML(true)`, the default. -/
def htmlEscape (c : Char) : List Char :=
  let n := c.toNat
  if n = 34 ∨ n = 92 then ['\\', c]
  else match controlLetter n with
    | some e => ['\\', e]
    | none => if n < 32 ∨ n ∈ htmlUnsafe then unit n else [c]

theorem element_htmlEscape (c : Char) (rest : List Char) :
    element (htmlEscape c ++ rest) = some (some c, rest) := by
  unfold htmlEscape
  dsimp only
  split
  · rename_i h
    exact element_backslash h rest
  · rename_i hplain
    split
    · rename_i e he
      exact element_controlLetter he rest
    · split
      · rename_i h
        have hlt : c.toNat < 65536 := by
          rcases h with h | h
          · omega
          · simp only [htmlUnsafe, List.mem_cons, List.not_mem_nil, or_false] at h
            omega
        exact element_unit hlt rest
      · rename_i h
        exact element_plain rest (by omega) (by omega) (Nat.le_of_not_lt fun hlt => h (Or.inl hlt))

def encoder : Style where
  afterComma := []
  afterColon := []
  escape := htmlEscape
  comma_space := List.forall_mem_nil _
  colon_space := List.forall_mem_nil _
  escape_read := element_htmlEscape

/-! ## Numbers with one digit behind the point -/

/-- A number that is no whole one, as the score 9.8 is. -/
def IsTenths (q : ℚ) : Prop := ∃ n : Nat, n % 10 ≠ 0 ∧ q = mkRat n 10

/-- `n / 10`. -/
def tenthsText (n : Nat) : List Char := Nat.toDigits 10 (n / 10) ++ ['.', (n % 10).digitChar]

theorem decimal_tenths (n : Nat) :
    decimal (Nat.toDigits 10 (n / 10) ++ [(n % 10).digitChar]) = n := by
  have hdigit : n % 10 < 10 := Nat.mod_lt n (by omega)
  show Nat.ofDigitChars 10 (_ ++ _) 0 = n
  rw [Nat.ofDigitChars_append, Nat.ofDigitChars_ten_toDigits,
    Nat.ofDigitChars_cons_digitChar_of_lt_ten hdigit, Nat.ofDigitChars_nil]
  exact Nat.div_add_mod n 10

theorem number_tenthsText (n : Nat) {rest : List Char} (h : Ends rest) :
    number (tenthsText n ++ rest) = some (.float (mkRat n 10), rest) := by
  have hdigit : (n % 10).digitChar.isDigit = true :=
    Nat.isDigit_digitChar.trans (decide_eq_true (Nat.mod_lt n (by omega)))
  have hints : intDigits (Nat.toDigits 10 (n / 10) ++ '.' :: (n % 10).digitChar :: rest) =
      some (Nat.toDigits 10 (n / 10), '.' :: (n % 10).digitChar :: rest) :=
    intDigits_toDigits (n / 10) fun c hc => Option.some.inj hc ▸ rfl
  have hfraction : fraction ('.' :: (n % 10).digitChar :: rest) =
      some ([(n % 10).digitChar], rest) := by
    have hone : ∀ d ∈ [(n % 10).digitChar], d.isDigit = true :=
      List.forall_mem_singleton.mpr hdigit
    obtain ⟨htake, hdrop⟩ := takeWhile_digits hone fun _ => isDigit_ends h
    rw [List.singleton_append] at htake hdrop
    show someDigits _ = _
    rw [someDigits, htake, hdrop, if_neg (List.cons_ne_nil _ _)]
  unfold tenthsText number
  simp only [List.append_assoc, List.cons_append, List.nil_append, expect_minus_toDigits,
    Option.getD_none, Option.isSome_none, hints, hfraction, exponent_ends h, decimal_tenths,
    Option.bind_eq_bind, Option.bind_some, List.cons_ne_nil, Bool.false_eq_true, if_false,
    false_and]
  rfl

/-- The printers write the digits of such a number. -/
def tenths : Floats where
  IsFloat := IsTenths
  text q := tenthsText (q * 10).num.toNat
  text_read := by
    rintro _ ⟨n, -, rfl⟩ rest h
    have hten : mkRat n 10 * 10 = n := by
      rw [Rat.mkRat_eq_div]
      exact div_mul_cancel₀ _ (by norm_num)
    rw [hten]
    exact number_tenthsText n h

example : IsTenths 9.8 ∧ String.ofList (tenths.text 9.8) = "9.8" :=
  ⟨⟨98, by decide, by norm_num [Rat.mkRat_eq_div]⟩, by decide +kernel⟩

end HybridOperator.Lib.JsonStyles
