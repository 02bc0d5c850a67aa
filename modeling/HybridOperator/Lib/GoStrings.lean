/-
  The functions of Go's `strings` package that the model uses, on the characters of a string.
  They are written over `List Char`, so that they evaluate and Mathlib's list lemmas apply.

  Proved: `split_join` (splitting at a separator undoes joining with it),
  `not_mem_of_mem_splitOn` (no piece of a split contains the separator).
-/
import Mathlib.Data.List.TakeWhile
import Mathlib.Data.List.Infix

namespace HybridOperator.Lib.GoStrings

/-- `strings.HasPrefix`. -/
def hasPrefix (s p : String) : Bool := p.toList.isPrefixOf s.toList

/-- `strings.Contains`. -/
def contains (s sub : String) : Bool := sub.toList <:+: s.toList

/-- `strings.ToLower` on ASCII letters. -/
def toLower (s : String) : String := String.ofList (s.toList.map Char.toLower)

/-- `strings.Split` at a one-character separator. -/
def split (s : String) (sep : Char) : List String := (s.toList.splitOn sep).map String.ofList

/-- `strings.SplitN(s, sep, 2)`, when it gives two parts. -/
def splitN2 (s : String) (sep : Char) : Option (String × String) :=
  match s.toList.dropWhile (· ≠ sep) with
  | [] => none
  | _ :: rest => some (String.ofList (s.toList.takeWhile (· ≠ sep)), String.ofList rest)

/-- `strings.Join` with a one-character separator. -/
def join (parts : List String) (sep : Char) : String :=
  String.ofList ([sep].intercalate (parts.map String.toList))

/-- The lower-case hexadecimal digits of `n`, padded with zeros to `width`. -/
def hex (width n : Nat) : List Char :=
  let ds := Nat.toDigits 16 n
  List.replicate (width - ds.length) '0' ++ ds

/-- One character as `strconv.Quote` writes it; `isPrint` is `strconv.IsPrint`. -/
def escapeRune (isPrint : Char → Bool) (c : Char) : List Char :=
  let n := c.toNat
  if n = 34 ∨ n = 92 then "\\".toList ++ [c]
  else if isPrint c then [c]
  else if n = 7 then "\\a".toList
  else if n = 8 then "\\b".toList
  else if n = 12 then "\\f".toList
  else if n = 10 then "\\n".toList
  else if n = 13 then "\\r".toList
  else if n = 9 then "\\t".toList
  else if n = 11 then "\\v".toList
  else if n < 32 ∨ n = 127 then "\\x".toList ++ hex 2 n
  else if n < 65536 then "\\u".toList ++ hex 4 n
  else "\\U".toList ++ hex 8 n

/-- `%q` of a string. -/
def quote (isPrint : Char → Bool) (s : String) : String :=
  "\"" ++ String.ofList (s.toList.flatMap (escapeRune isPrint)) ++ "\""

/-- The last digit stands last. -/
theorem hex_succ {width : Nat} (n : Nat) (h : 0 < width) :
    hex (width + 1) n = hex width (n / 16) ++ [Nat.digitChar (n % 16)] := by
  by_cases hn : n < 16
  · have hzero : Nat.toDigits 16 (n / 16) = ['0'] := by rw [Nat.div_eq_of_lt hn, Nat.toDigits_zero]
    obtain ⟨w, rfl⟩ := Nat.exists_eq_succ_of_ne_zero (Nat.ne_of_gt h)
    rw [hex, hex, hzero, Nat.toDigits_of_lt_base hn, Nat.mod_eq_of_lt hn]
    simp only [List.length_singleton, Nat.succ_eq_add_one, Nat.add_sub_cancel,
      List.replicate_succ']
  · have hlast := Nat.toDigits_of_base_le (by omega : 1 < 16) (Nat.le_of_not_lt hn)
    rw [hex, hex, hlast, List.length_append, List.length_singleton, Nat.add_sub_add_right,
      List.append_assoc]

/-- The characters that have an escape of one letter in Go, and the letter. -/
def letterEscapes : List (Nat × Char) :=
  [(7, 'a'), (8, 'b'), (12, 'f'), (10, 'n'), (13, 'r'), (9, 't'), (11, 'v')]

/-- How a character is written: as itself, or as one of Go's escapes. -/
inductive Escaped (isPrint : Char → Bool) (c : Char) : List Char → Prop where
  | backslash (h : c.toNat = 34 ∨ c.toNat = 92) : Escaped isPrint c ['\\', c]
  | printed (h : ¬ (c.toNat = 34 ∨ c.toNat = 92)) (hprint : isPrint c = true) :
      Escaped isPrint c [c]
  | letter (e : Char) (h : (c.toNat, e) ∈ letterEscapes) : Escaped isPrint c ['\\', e]
  | control (h : c.toNat < 7 ∨ 13 < c.toNat ∧ c.toNat < 32 ∨ c.toNat = 127) :
      Escaped isPrint c ('\\' :: 'x' :: hex 2 c.toNat)
  | short (h : 32 ≤ c.toNat ∧ c.toNat ≠ 127 ∧ c.toNat < 65536) :
      Escaped isPrint c ('\\' :: 'u' :: hex 4 c.toNat)
  | long (h : 65536 ≤ c.toNat) (hprint : isPrint c = false) :
      Escaped isPrint c ('\\' :: 'U' :: hex 8 c.toNat)

theorem escaped_escapeRune (isPrint : Char → Bool) (c : Char) :
    Escaped isPrint c (escapeRune isPrint c) := by
  have hletter : ∀ n e, c.toNat = n → (n, e) ∈ letterEscapes → Escaped isPrint c ['\\', e] := by
    intro n e hn he
    exact .letter e (by rw [hn]; exact he)
  unfold escapeRune
  dsimp only
  by_cases hquote : c.toNat = 34 ∨ c.toNat = 92
  · rw [if_pos hquote]
    exact .backslash hquote
  rw [if_neg hquote]
  by_cases hprint : isPrint c = true
  · rw [if_pos hprint]
    exact .printed hquote hprint
  rw [if_neg hprint]
  by_cases h7 : c.toNat = 7
  · rw [if_pos h7]
    exact hletter 7 'a' h7 (by decide)
  rw [if_neg h7]
  by_cases h8 : c.toNat = 8
  · rw [if_pos h8]
    exact hletter 8 'b' h8 (by decide)
  rw [if_neg h8]
  by_cases h12 : c.toNat = 12
  · rw [if_pos h12]
    exact hletter 12 'f' h12 (by decide)
  rw [if_neg h12]
  by_cases h10 : c.toNat = 10
  · rw [if_pos h10]
    exact hletter 10 'n' h10 (by decide)
  rw [if_neg h10]
  by_cases h13 : c.toNat = 13
  · rw [if_pos h13]
    exact hletter 13 'r' h13 (by decide)
  rw [if_neg h13]
  by_cases h9 : c.toNat = 9
  · rw [if_pos h9]
    exact hletter 9 't' h9 (by decide)
  rw [if_neg h9]
  by_cases h11 : c.toNat = 11
  · rw [if_pos h11]
    exact hletter 11 'v' h11 (by decide)
  rw [if_neg h11]
  by_cases hcontrol : c.toNat < 32 ∨ c.toNat = 127
  · rw [if_pos hcontrol]
    exact .control (by omega)
  rw [if_neg hcontrol]
  by_cases hshort : c.toNat < 65536
  · rw [if_pos hshort]
    exact .short (by omega)
  · rw [if_neg hshort]
    exact .long (by omega) (Bool.eq_false_iff.mpr hprint)

theorem Escaped.ne_nil {isPrint : Char → Bool} {c : Char} {cs : List Char}
    (h : Escaped isPrint c cs) : cs ≠ [] := by
  cases h with
  | backslash => exact List.cons_ne_nil _ _
  | printed => exact List.cons_ne_nil _ _
  | letter => exact List.cons_ne_nil _ _
  | control => exact List.cons_ne_nil _ _
  | short => exact List.cons_ne_nil _ _
  | long => exact List.cons_ne_nil _ _

theorem length_le_flatMap_escapeRune (isPrint : Char → Bool) (cs : List Char) :
    cs.length ≤ (cs.flatMap (escapeRune isPrint)).length := by
  induction cs with
  | nil => exact Nat.le_refl 0
  | cons c cs ih =>
    have := List.length_pos_iff.mpr (escaped_escapeRune isPrint c).ne_nil
    rw [List.flatMap_cons, List.length_append, List.length_cons]
    omega

/-- What stands before the first separator. -/
theorem takeWhile_ne_append {sep : Char} {xs ys : List Char} (hx : sep ∉ xs)
    (hy : ∀ c ∈ ys.head?, c = sep) : (xs ++ ys).takeWhile (· ≠ sep) = xs := by
  have hall : ∀ c ∈ xs, decide (c ≠ sep) = true := by
    intro c hc
    rw [decide_eq_true_eq]
    rintro rfl
    exact hx hc
  rw [List.takeWhile_append_of_pos hall]
  cases ys with
  | nil => exact List.append_nil xs
  | cons c ys =>
    obtain rfl : c = sep := hy c rfl
    rw [List.takeWhile_cons_of_neg (by simp), List.append_nil]

theorem takeWhile_ne_append_cons {sep : Char} {xs : List Char} (hx : sep ∉ xs)
    (ys : List Char) : (xs ++ sep :: ys).takeWhile (· ≠ sep) = xs :=
  takeWhile_ne_append hx fun _ hc => (Option.some.inj hc).symm

theorem append_left_cancel {p s t : String} (h : p ++ s = p ++ t) : s = t := by
  have hl := congrArg String.toList h
  rw [String.toList_append, String.toList_append] at hl
  exact String.toList_inj.mp (List.append_cancel_left hl)

/-- Texts of two parts are told apart by both when the separator is not in the first. -/
theorem separated_cancel {sep : Char} {xs ys ss ts : List Char} (hx : sep ∉ xs) (hy : sep ∉ ys)
    (h : xs ++ sep :: ss = ys ++ sep :: ts) : xs = ys ∧ ss = ts := by
  induction xs generalizing ys with
  | nil =>
    cases ys with
    | nil => exact ⟨rfl, (List.cons.inj h).2⟩
    | cons y ys =>
      have hsep : sep = y := (List.cons.inj h).1
      exact absurd (hsep ▸ List.mem_cons_self) hy
  | cons x xs ih =>
    cases ys with
    | nil =>
      have hsep : x = sep := (List.cons.inj h).1
      exact absurd (hsep ▸ List.mem_cons_self) hx
    | cons y ys =>
      obtain ⟨rfl, htail⟩ := List.cons.inj h
      obtain ⟨rfl, hss⟩ := ih (List.not_mem_of_not_mem_cons hx) (List.not_mem_of_not_mem_cons hy)
        htail
      exact ⟨rfl, hss⟩

theorem map_ofList_toList (parts : List String) :
    (parts.map String.toList).map String.ofList = parts := by
  rw [List.map_map]
  exact (List.map_congr_left fun s _ => String.ofList_toList).trans (List.map_id _)

theorem join_singleton (s : String) (sep : Char) : join [s] sep = s := by
  simp [join]

theorem join_cons_cons (s t : String) (ts : List String) (sep : Char) :
    join (s :: t :: ts) sep = s ++ String.singleton sep ++ join (t :: ts) sep := by
  apply String.toList_inj.mp
  simp [join, List.intercalate_cons_cons]

theorem not_mem_join {c sep : Char} (hne : c ≠ sep) {parts : List String}
    (h : ∀ p ∈ parts, c ∉ p.toList) : c ∉ (join parts sep).toList := by
  induction parts with
  | nil =>
    rw [join, String.toList_ofList]
    exact List.not_mem_nil
  | cons part parts ih =>
    have hpart := h part List.mem_cons_self
    cases parts with
    | nil =>
      rw [join_singleton]
      exact hpart
    | cons next parts =>
      rw [join_cons_cons, String.toList_append, String.toList_append, String.toList_singleton]
      have hrest := ih fun p hp => h p (List.mem_cons_of_mem part hp)
      simp only [List.mem_append, List.mem_singleton, not_or]
      exact ⟨⟨hpart, hne⟩, hrest⟩

theorem not_mem_of_mem_splitOn {xs piece : List Char} {sep : Char} (h : piece ∈ xs.splitOn sep) :
    sep ∉ piece := by
  induction xs generalizing piece with
  | nil => simp_all
  | cons c xs ih =>
    rw [List.splitOn_cons_eq_if_modifyHead] at h
    split at h
    · rcases List.mem_cons.mp h with rfl | h
      · exact List.not_mem_nil
      · exact ih h
    · rename_i hc
      cases hpieces : xs.splitOn sep with
      | nil => exact absurd hpieces (List.splitOn_ne_nil sep xs)
      | cons first rest =>
        rw [hpieces, List.modifyHead_cons] at h
        rcases List.mem_cons.mp h with rfl | h
        · have hfirst := ih (hpieces ▸ List.mem_cons_self)
          have hne : sep ≠ c := fun heq => hc (by simp [heq])
          exact List.not_mem_cons_of_ne_of_not_mem hne hfirst
        · exact ih (hpieces ▸ List.mem_cons_of_mem first h)

/-- Splitting undoes joining when no part contains the separator. -/
theorem split_join {parts : List String} {sep : Char} (hne : parts ≠ [])
    (hsep : ∀ p ∈ parts, sep ∉ p.toList) : split (join parts sep) sep = parts := by
  have h : ∀ l ∈ parts.map String.toList, sep ∉ l := by
    intro l hl
    obtain ⟨p, hp, rfl⟩ := List.mem_map.mp hl
    exact hsep p hp
  rw [split, join, String.toList_ofList, List.splitOn_intercalate sep h (by simpa using hne),
    map_ofList_toList]

end HybridOperator.Lib.GoStrings
