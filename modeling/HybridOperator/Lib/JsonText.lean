/-
  The JSON grammar (RFC 8259) as a decoder of texts.

  `decode` reads one value with white space around it and gives `none` when the text is not JSON.
  Each function takes the characters that are left and gives back what it read and what is left
  then. Values nest, so the three that read values and string literals count down `fuel`; twice
  the length of the text is more than any text needs. Members of an object are put in front of
  those before them: of two with one name the later one counts. A surrogate that is not part of a
  pair reads as U+FFFD. An integer literal that fits an `int64` is one; other numbers are kept
  exactly.

  Proved: what a string literal written by `strconv.Quote` reads as.
  * `element_escapeRune`: one escaped character is read back, or it is no JSON at all.
  * `string_quoted`: so is the whole literal, exactly when every character survives.
-/
import HybridOperator.Lib.Json
import HybridOperator.Lib.GoStrings

namespace HybridOperator.Lib.JsonText

/-! ## Strings -/

def isSpace (c : Char) : Bool := c = ' ' ∨ c = '\t' ∨ c = '\n' ∨ c = '\r'

def skipSpace (cs : List Char) : List Char := cs.dropWhile isSpace

/-- Reads this character. -/
def expect (c : Char) : List Char → Option (List Char)
  | [] => none
  | d :: rest => if d = c then some rest else none

def hexVal (c : Char) : Option Nat :=
  let n := c.toNat
  if 48 ≤ n ∧ n ≤ 57 then some (n - 48)
  else if 97 ≤ n ∧ n ≤ 102 then some (n - 87)
  else if 65 ≤ n ∧ n ≤ 70 then some (n - 55)
  else none

/-- Four hexadecimal digits. -/
def hexFour : List Char → Option (Nat × List Char)
  | a :: b :: c :: d :: rest => do
      let w ← hexVal a
      let x ← hexVal b
      let y ← hexVal c
      let z ← hexVal d
      some (((w * 16 + x) * 16 + y) * 16 + z, rest)
  | _ => none

def isHighSurrogate (n : Nat) : Bool := 0xD800 ≤ n ∧ n < 0xDC00

def isLowSurrogate (n : Nat) : Bool := 0xDC00 ≤ n ∧ n < 0xE000

/-- The low half of a surrogate pair, as an escape of its own. -/
def lowSurrogate (cs : List Char) : Option (Nat × List Char) := do
  let rest ← expect '\\' cs
  let rest ← expect 'u' rest
  let (n, rest) ← hexFour rest
  if isLowSurrogate n then some (n, rest) else none

/-- What stands behind `\u`. -/
def unicodeEscape (cs : List Char) : Option (Char × List Char) := do
  let (n, rest) ← hexFour cs
  if isHighSurrogate n then
    match lowSurrogate rest with
    | some (m, rest') => some (Char.ofNat (0x10000 + (n - 0xD800) * 0x400 + (m - 0xDC00)), rest')
    | none => some (Char.ofNat 0xFFFD, rest)
  else if isLowSurrogate n then some (Char.ofNat 0xFFFD, rest)
  else some (Char.ofNat n, rest)

/-- The character a one-letter escape stands for. -/
def simpleEscape (e : Char) : Option Char :=
  if e = '"' ∨ e = '\\' ∨ e = '/' then some e
  else if e = 'b' then some (Char.ofNat 8)
  else if e = 'f' then some (Char.ofNat 12)
  else if e = 'n' then some (Char.ofNat 10)
  else if e = 'r' then some (Char.ofNat 13)
  else if e = 't' then some (Char.ofNat 9)
  else none

/-- What stands behind a backslash. -/
def escape : List Char → Option (Char × List Char)
  | [] => none
  | e :: rest =>
      if e = 'u' then unicodeEscape rest else (simpleEscape e).map fun c => (c, rest)

/-- The next element of a string literal: a character, or its end. -/
def element : List Char → Option (Option Char × List Char)
  | [] => none
  | c :: rest =>
      if c = '"' then some (none, rest)
      else if c = '\\' then (escape rest).map fun (d, rest) => (some d, rest)
      else if c.toNat < 32 then none
      else some (some c, rest)

/-- A string literal from behind its opening quote. -/
def string : Nat → List Char → Option (List Char × List Char)
  | 0, _ => none
  | fuel + 1, cs =>
      match element cs with
      | none => none
      | some (none, rest) => some ([], rest)
      | some (some c, rest) => (string fuel rest).map fun (s, rest) => (c :: s, rest)

/-! ## Numbers -/

/-- The digits of the integer part: no zero stands in front of another digit. -/
def intDigits : List Char → Option (List Char × List Char)
  | [] => none
  | c :: rest =>
      if c = '0' then some ([c], rest)
      else if c.isDigit then some (c :: rest.takeWhile Char.isDigit, rest.dropWhile Char.isDigit)
      else none

/-- One or more digits. -/
def someDigits (cs : List Char) : Option (List Char × List Char) :=
  if cs.takeWhile Char.isDigit = [] then none
  else some (cs.takeWhile Char.isDigit, cs.dropWhile Char.isDigit)

/-- The digits of the fraction, none when there is no point. -/
def fraction (cs : List Char) : Option (List Char × List Char) :=
  match expect '.' cs with
  | none => some ([], cs)
  | some rest => someDigits rest

def decimal (digits : List Char) : Nat :=
  digits.foldl (fun n d => 10 * n + (d.toNat - 48)) 0

/-- The exponent, if there is one. -/
def exponent (cs : List Char) : Option (Option Int × List Char) :=
  match (expect 'e' cs).or (expect 'E' cs) with
  | none => some (none, cs)
  | some rest =>
      match expect '-' rest with
      | some rest => (someDigits rest).map fun (ds, rest) => (some (-(decimal ds : Int)), rest)
      | none =>
          (someDigits ((expect '+' rest).getD rest)).map fun (ds, rest) =>
            (some (decimal ds : Int), rest)

/-- `n * 10 ^ e`. -/
def scaled (n e : Int) : ℚ :=
  if 0 ≤ e then mkRat (n * Nat.pow 10 e.toNat) 1 else mkRat n (Nat.pow 10 (-e).toNat)

def number (cs : List Char) : Option (Json × List Char) := do
  let negative := (expect '-' cs).isSome
  let (ints, rest) ← intDigits ((expect '-' cs).getD cs)
  let (fracs, rest) ← fraction rest
  let (exp, rest) ← exponent rest
  let n : Int := if negative then -(decimal (ints ++ fracs)) else decimal (ints ++ fracs)
  if fracs = [] ∧ exp = none ∧ -9223372036854775808 ≤ n ∧ n < 9223372036854775808 then
    some (.int n, rest)
  else some (.float (scaled n (exp.getD 0 - fracs.length)), rest)

/-! ## Values -/

/-- Reads this word. -/
def literal (word : List Char) (j : Json) (cs : List Char) : Option (Json × List Char) :=
  if word.isPrefixOf cs then some (j, cs.drop word.length) else none

mutual
/-- A value, from its first character on. -/
def value : Nat → List Char → Option (Json × List Char)
  | 0, _ => none
  | _ + 1, [] => none
  | fuel + 1, c :: rest =>
      if c = '\x7b' then
        match expect '\x7d' (skipSpace rest) with
        | some rest => some (.obj [], rest)
        | none => (members fuel [] rest).map fun (m, rest) => (.obj m, rest)
      else if c = '[' then
        match expect ']' (skipSpace rest) with
        | some rest => some (.arr [], rest)
        | none => (items fuel rest).map fun (l, rest) => (.arr l, rest)
      else if c = '"' then (string fuel rest).map fun (s, rest) => (.str (String.ofList s), rest)
      else if c = 't' then literal "true".toList (.bool true) (c :: rest)
      else if c = 'f' then literal "false".toList (.bool false) (c :: rest)
      else if c = 'n' then literal "null".toList .null (c :: rest)
      else number (c :: rest)

/-- The members of an object up to its closing brace; `before` are those already read. -/
def members : Nat → JMap → List Char → Option (JMap × List Char)
  | 0, _, _ => none
  | fuel + 1, before, cs => do
      let rest ← expect '"' (skipSpace cs)
      let (name, rest) ← string fuel rest
      let rest ← expect ':' (skipSpace rest)
      let (v, rest) ← value fuel (skipSpace rest)
      let read := (String.ofList name, v) :: before
      match expect ',' (skipSpace rest) with
      | some rest => members fuel read rest
      | none => (expect '\x7d' (skipSpace rest)).map fun rest => (read, rest)

/-- The elements of an array up to its closing bracket. -/
def items : Nat → List Char → Option (List Json × List Char)
  | 0, _ => none
  | fuel + 1, cs => do
      let (v, rest) ← value fuel (skipSpace cs)
      match expect ',' (skipSpace rest) with
      | some rest => (items fuel rest).map fun (l, rest) => (v :: l, rest)
      | none => (expect ']' (skipSpace rest)).map fun rest => ([v], rest)
end

/-- The value a JSON text denotes; `none` when the text is not JSON. -/
def decode (text : String) : Option Json :=
  match value (2 * text.toList.length + 2) (skipSpace text.toList) with
  | some (j, rest) => if skipSpace rest = [] then some j else none
  | none => none

example : (decode "\x7b\"a\": [1, -2.5e1, true], \"b\": \"\\u00e9\\ud83d\\ude00\"\x7d").isSome := by
  decide +kernel

/-! ## Literals written by `strconv.Quote` -/

open GoStrings

theorem hexVal_digitChar : ∀ d, d < 16 → hexVal d.digitChar = some d := by decide

theorem hexFour_hex {n : Nat} (h : n < 65536) (rest : List Char) :
    hexFour (hex 4 n ++ rest) = some (n, rest) := by
  have hone : hex 1 (n / 16 / 16 / 16) = [Nat.digitChar (n / 16 / 16 / 16)] := by
    rw [hex, Nat.toDigits_of_lt_base (by omega)]
    rfl
  have hdigits : hex 4 n = [Nat.digitChar (n / 16 / 16 / 16), Nat.digitChar (n / 16 / 16 % 16),
      Nat.digitChar (n / 16 % 16), Nat.digitChar (n % 16)] := by
    rw [hex_succ _ (by omega), hex_succ _ (by omega), hex_succ _ (by omega), hone]
    rfl
  have hvalue : ((n / 16 / 16 / 16 * 16 + n / 16 / 16 % 16) * 16 + n / 16 % 16) * 16 + n % 16 = n :=
    by omega
  rw [hdigits]
  show hexFour (_ :: _ :: _ :: _ :: rest) = some (n, rest)
  rw [hexFour, hexVal_digitChar _ (by omega), hexVal_digitChar _ (by omega),
    hexVal_digitChar _ (by omega), hexVal_digitChar _ (by omega)]
  simp only [Option.bind_eq_bind, Option.bind_some, hvalue]

/-- A character is no surrogate. -/
theorem unicodeEscape_hex {c : Char} (h : c.toNat < 65536) (rest : List Char) :
    unicodeEscape (hex 4 c.toNat ++ rest) = some (c, rest) := by
  have hvalid : c.toNat < 55296 ∨ 57343 < c.toNat ∧ c.toNat < 1114112 := c.valid
  have hhigh : isHighSurrogate c.toNat = false := decide_eq_false (by omega)
  have hlow : isLowSurrogate c.toNat = false := decide_eq_false (by omega)
  unfold unicodeEscape
  rw [hexFour_hex h]
  simp only [Option.bind_eq_bind, Option.bind_some, hhigh, hlow, Char.ofNat_toNat,
    Bool.false_eq_true, if_false]

/-- What `strconv.Quote` writes for the character is JSON for it: the character itself, or an
    escape that JSON has. The escapes `\a`, `\v`, `\x` and `\U` it does not have. -/
def Survives (isPrint : Char → Bool) (c : Char) : Prop :=
  ¬ (c.toNat < 8 ∨ c.toNat = 11 ∨ 14 ≤ c.toNat ∧ c.toNat < 32 ∨ c.toNat = 127) ∧
    (65536 ≤ c.toNat → isPrint c = true)

instance (isPrint : Char → Bool) : DecidablePred (Survives isPrint) :=
  fun _ => inferInstanceAs (Decidable (_ ∧ _))

/-- All characters of a text survive. -/
def AllSurvive (isPrint : Char → Bool) (cs : List Char) : Prop := ∀ c ∈ cs, Survives isPrint c

instance (isPrint : Char → Bool) (cs : List Char) : Decidable (AllSurvive isPrint cs) :=
  List.decidableBAll _ cs

theorem element_plain {c : Char} (rest : List Char) (hquote : c.toNat ≠ 34)
    (hslash : c.toNat ≠ 92) (hcontrol : 32 ≤ c.toNat) :
    element (c :: rest) = some (some c, rest) := by
  have hq : c ≠ '"' := fun h => hquote (congrArg Char.toNat h)
  have hs : c ≠ '\\' := fun h => hslash (congrArg Char.toNat h)
  rw [element, if_neg hq, if_neg hs, if_neg (by omega)]

theorem element_escape (e : Char) (rest : List Char) (he : e ≠ 'u') :
    element ('\\' :: e :: rest) = (simpleEscape e).map fun c => (some c, rest) := by
  rw [element, if_neg (by decide), if_pos rfl, escape, if_neg he, Option.map_map]
  rfl

theorem element_unicode (cs : List Char) :
    element ('\\' :: 'u' :: cs) = (unicodeEscape cs).map fun (c, rest) => (some c, rest) := by
  rw [element, if_neg (by decide), if_pos rfl, escape, if_pos rfl]

/-- One escaped character is read back, or it is no JSON at all. -/
theorem element_escapeRune {isPrint : Char → Bool}
    (hprint : ∀ c : Char, c.toNat < 32 ∨ c.toNat = 127 → isPrint c = false) (c : Char)
    (rest : List Char) :
    element (escapeRune isPrint c ++ rest) =
      if Survives isPrint c then some (some c, rest) else none := by
  have hsimple : ∀ e n, simpleEscape e = some (Char.ofNat n) → e ≠ 'u' → c.toNat = n →
      Survives isPrint c → element ('\\' :: e :: rest) =
        if Survives isPrint c then some (some c, rest) else none := by
    intro e n he hu hc hs
    rw [element_escape e rest hu, he, if_pos hs, ← hc, Char.ofNat_toNat]
    rfl
  have hnone : ∀ e cs, simpleEscape e = none → e ≠ 'u' → ¬ Survives isPrint c →
      element ('\\' :: e :: cs) = if Survives isPrint c then some (some c, rest) else none := by
    intro e cs he hu hs
    rw [element_escape e cs hu, he, if_neg hs]
    rfl
  have hform := escaped_escapeRune isPrint c
  generalize escapeRune isPrint c = written at hform ⊢
  cases hform with
  | backslash h =>
    have hs : Survives isPrint c := ⟨by omega, by omega⟩
    rcases h with h | h
    · obtain rfl : c = '"' := Char.toNat_inj.mp h
      exact hsimple _ 34 rfl (by decide) rfl hs
    · obtain rfl : c = '\\' := Char.toNat_inj.mp h
      exact hsimple _ 92 rfl (by decide) rfl hs
  | printed h hp =>
    have hcontrol : ¬ (c.toNat < 32 ∨ c.toNat = 127) := fun h => by simp [hprint c h] at hp
    rw [if_pos ⟨by omega, fun _ => hp⟩]
    exact element_plain rest (by omega) (by omega) (by omega)
  | letter e h =>
    simp only [letterEscapes, List.mem_cons, Prod.mk.injEq, List.not_mem_nil, or_false] at h
    obtain ⟨h, rfl⟩ | ⟨h, rfl⟩ | ⟨h, rfl⟩ | ⟨h, rfl⟩ | ⟨h, rfl⟩ | ⟨h, rfl⟩ | ⟨h, rfl⟩ := h
    · exact hnone 'a' rest rfl (by decide) fun hs => hs.1 (by omega)
    · exact hsimple 'b' 8 rfl (by decide) h ⟨by omega, by omega⟩
    · exact hsimple 'f' 12 rfl (by decide) h ⟨by omega, by omega⟩
    · exact hsimple 'n' 10 rfl (by decide) h ⟨by omega, by omega⟩
    · exact hsimple 'r' 13 rfl (by decide) h ⟨by omega, by omega⟩
    · exact hsimple 't' 9 rfl (by decide) h ⟨by omega, by omega⟩
    · exact hnone 'v' rest rfl (by decide) fun hs => hs.1 (by omega)
  | control h =>
    exact hnone 'x' (hex 2 c.toNat ++ rest) rfl (by decide) fun hs => hs.1 (by omega)
  | short h =>
    rw [if_pos ⟨by omega, by omega⟩]
    show element ('\\' :: 'u' :: (hex 4 c.toNat ++ rest)) = _
    rw [element_unicode, unicodeEscape_hex h.2.2]
    rfl
  | long h hp =>
    refine hnone 'U' (hex 8 c.toNat ++ rest) rfl (by decide) fun hs => ?_
    rw [hs.2 h] at hp
    cases hp

/-- A literal written by `strconv.Quote` reads as its characters exactly when all survive; else
    it is no JSON. -/
theorem string_quoted {isPrint : Char → Bool}
    (hprint : ∀ c : Char, c.toNat < 32 ∨ c.toNat = 127 → isPrint c = false) (cs rest : List Char)
    {fuel : Nat} (hfuel : cs.length < fuel) :
    string fuel (cs.flatMap (escapeRune isPrint) ++ '"' :: rest) =
      if AllSurvive isPrint cs then some (cs, rest) else none := by
  induction cs generalizing fuel with
  | nil =>
    obtain ⟨n, rfl⟩ := Nat.exists_eq_succ_of_ne_zero (Nat.ne_of_gt hfuel)
    have hnil : AllSurvive isPrint [] := List.forall_mem_nil _
    rw [if_pos hnil]
    rfl
  | cons c cs ih =>
    obtain ⟨n, rfl⟩ := Nat.exists_eq_succ_of_ne_zero (Nat.ne_of_gt (Nat.zero_lt_of_lt hfuel))
    have hn : cs.length < n := Nat.lt_of_succ_lt_succ hfuel
    have hcons : AllSurvive isPrint (c :: cs) ↔ Survives isPrint c ∧ AllSurvive isPrint cs :=
      List.forall_mem_cons
    rw [List.flatMap_cons, List.append_assoc, string, element_escapeRune hprint]
    by_cases hc : Survives isPrint c
    · rw [if_pos hc]
      show (string n _).map _ = _
      rw [ih hn]
      by_cases hcs : AllSurvive isPrint cs
      · rw [if_pos hcs, if_pos (hcons.mpr ⟨hc, hcs⟩)]
        rfl
      · rw [if_neg hcs, if_neg fun h => hcs (hcons.mp h).2]
        rfl
    · rw [if_neg hc, if_neg fun h => hc (hcons.mp h).1]

theorem skipSpace_cons {c : Char} (h : isSpace c = false) (cs : List Char) :
    skipSpace (c :: cs) = c :: cs := by
  rw [skipSpace, List.dropWhile_cons, if_neg (by rw [h]; exact Bool.false_ne_true)]

theorem value_string (fuel : Nat) (cs : List Char) :
    value (fuel + 1) ('"' :: cs) =
      (string fuel cs).map fun (s, rest) => (.str (String.ofList s), rest) := by
  rw [value, if_neg (by decide), if_neg (by decide), if_pos rfl]

section Member

variable {fuel : Nat} {cs name rest : List Char} {c : Char}

/-- A member from behind its opening quote: the value is read, then what stands behind it. -/
theorem members_eq (hname : string fuel cs = some (name, ':' :: c :: rest))
    (hc : isSpace c = false) :
    members (fuel + 1) [] ('"' :: cs) = (value fuel (c :: rest)).bind fun (v, rest) =>
      match expect ',' (skipSpace rest) with
      | some rest => members fuel [(String.ofList name, v)] rest
      | none => (expect '\x7d' (skipSpace rest)).map fun rest =>
          ([(String.ofList name, v)], rest) := by
  have hquote : expect '"' ('"' :: cs) = some cs := rfl
  have hcolon : expect ':' (':' :: c :: rest) = some (c :: rest) := rfl
  rw [members, skipSpace_cons (by decide)]
  simp only [Option.bind_eq_bind, Option.bind_some, hquote, hname, hcolon, skipSpace_cons hc,
    skipSpace_cons (by decide : isSpace ':' = false)]

theorem value_object (fuel : Nat) (cs : List Char) :
    value (fuel + 1) ('\x7b' :: '"' :: cs) =
      (members fuel [] ('"' :: cs)).map fun (m, rest) => (.obj m, rest) := by
  have hclose : expect '\x7d' (skipSpace ('"' :: cs)) = none := by
    rw [skipSpace_cons (by decide)]
    rfl
  rw [value, if_pos rfl, hclose]

/-- An object with one member and no space in it. -/
theorem value_member (hname : string fuel cs = some (name, ':' :: c :: rest))
    (hc : isSpace c = false) {v : Json} {rest' : List Char}
    (hvalue : value fuel (c :: rest) = some (v, '\x7d' :: rest')) :
    value (fuel + 2) ('\x7b' :: '"' :: cs) = some (.obj [(String.ofList name, v)], rest') := by
  rw [value_object, members_eq hname hc, hvalue, Option.bind_some]
  simp only [skipSpace_cons (by decide : isSpace '\x7d' = false)]
  rfl

/-- It is no JSON when the value is none. -/
theorem value_member_none (hname : string fuel cs = some (name, ':' :: c :: rest))
    (hc : isSpace c = false) (hvalue : value fuel (c :: rest) = none) :
    value (fuel + 2) ('\x7b' :: '"' :: cs) = none := by
  rw [value_object, members_eq hname hc, hvalue]
  rfl

end Member

end HybridOperator.Lib.JsonText
