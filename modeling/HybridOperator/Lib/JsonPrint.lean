/-
  JSON texts as libraries print them, and what `decode` reads back.

  A `Style` is what printers differ in: the white space behind a comma and a colon, and how a
  character of a string is written. It carries the proofs that the first two are white space and
  that a written character is read back. A `Floats` is how numbers that are no `int64` are
  printed; only those in `IsFloat` have to be read back, for `decode` keeps every number exactly.

  Proved: every printer's text is read back.
  * `decode_print`: as the document with the members of its objects in reverse, which is the
    same document.
  * `print_sorted_inj`: of sorted documents only the same ones are printed alike.
-/
import HybridOperator.Lib.JsonSame
import HybridOperator.Lib.JsonText
import Mathlib.Tactic.IntervalCases

namespace HybridOperator.Lib.JsonPrint

open JsonText JsonSame

/-! ## Printing -/

/-- What printers of JSON differ in. -/
structure Style where
  afterComma : List Char
  afterColon : List Char
  escape : Char → List Char
  comma_space : ∀ c ∈ afterComma, isSpace c = true
  colon_space : ∀ c ∈ afterColon, isSpace c = true
  escape_read : ∀ c rest, element (escape c ++ rest) = some (some c, rest)

/-- What can stand behind a value. -/
def Ends (rest : List Char) : Prop :=
  ∀ c ∈ rest.head?, isSpace c = true ∨ c = ',' ∨ c = ']' ∨ c = '\x7d'

/-- How numbers that are no `int64` are printed. -/
structure Floats where
  IsFloat : ℚ → Prop
  text : ℚ → List Char
  text_read : ∀ q, IsFloat q → ∀ rest, Ends rest →
    number (text q ++ rest) = some (.float q, rest)

def intText (n : Int) : List Char :=
  if n < 0 then '-' :: Nat.toDigits 10 n.natAbs else Nat.toDigits 10 n.natAbs

def FitsInt64 (n : Int) : Prop := -9223372036854775808 ≤ n ∧ n < 9223372036854775808

section Print

variable (style : Style) (floats : Floats)

def stringText (s : String) : List Char := '"' :: (s.toList.flatMap style.escape ++ ['"'])

mutual
def print : Json → List Char
  | .null => "null".toList
  | .bool true => "true".toList
  | .bool false => "false".toList
  | .int n => intText n
  | .float q => floats.text q
  | .str s => stringText style s
  | .arr l => '[' :: (printItems l ++ [']'])
  | .obj m => '\x7b' :: (printMembers m ++ ['\x7d'])

def printItems : List Json → List Char
  | [] => []
  | j :: l => print j ++ if l.isEmpty then [] else ',' :: (style.afterComma ++ printItems l)

def printMembers : JMap → List Char
  | [] => []
  | (k, j) :: m =>
      stringText style k ++ ':' :: (style.afterColon ++ (print j ++
        if m.isEmpty then [] else ',' :: (style.afterComma ++ printMembers m)))
end

/-- The documents that are read back: their numbers are, and the members of an object have names of
    their own. -/
inductive Printable : Json → Prop where
  | null : Printable .null
  | bool (b : Bool) : Printable (.bool b)
  | int {n : Int} (h : FitsInt64 n) : Printable (.int n)
  | float {q : ℚ} (h : floats.IsFloat q) : Printable (.float q)
  | str (s : String) : Printable (.str s)
  | arr {l : List Json} (h : ∀ j ∈ l, Printable j) : Printable (.arr l)
  | obj {m : JMap} (hkeys : (m.map Prod.fst).Nodup) (h : ∀ kv ∈ m, Printable kv.2) :
      Printable (.obj m)

end Print

mutual
/-- The document as `decode` leaves it: the members of every object in reverse. -/
def back : Json → Json
  | .null => .null
  | .bool b => .bool b
  | .int n => .int n
  | .float q => .float q
  | .str s => .str s
  | .arr l => .arr (backSlice l)
  | .obj m => .obj (backMap m).reverse

def backSlice : List Json → List Json
  | [] => []
  | j :: l => back j :: backSlice l

def backMap : JMap → JMap
  | [] => []
  | (k, j) :: m => (k, back j) :: backMap m
end

/-! ## Reading a number -/

theorem expect_ends {rest : List Char} (h : Ends rest) {c : Char}
    (hc : ¬ (isSpace c = true ∨ c = ',' ∨ c = ']' ∨ c = '\x7d')) : expect c rest = none := by
  cases rest with
  | nil => rfl
  | cons d rest =>
    have hne : d ≠ c := by
      rintro rfl
      exact hc (h d rfl)
    rw [expect, if_neg hne]

theorem ends_cons {c : Char} (hc : isSpace c = true ∨ c = ',' ∨ c = ']' ∨ c = '\x7d')
    (rest : List Char) : Ends (c :: rest) := by
  rintro _ ⟨⟩
  exact hc

theorem isDigit_ends {rest : List Char} (h : Ends rest) {c : Char} (hc : c ∈ rest.head?) :
    c.isDigit = false := by
  rcases h c hc with hspace | rfl | rfl | rfl
  · simp only [isSpace, decide_eq_true_eq] at hspace
    rcases hspace with rfl | rfl | rfl | rfl <;> rfl
  all_goals rfl

theorem takeWhile_digits {ds rest : List Char} (hds : ∀ d ∈ ds, d.isDigit = true)
    (h : ∀ c ∈ rest.head?, c.isDigit = false) : (ds ++ rest).takeWhile Char.isDigit = ds ∧
      (ds ++ rest).dropWhile Char.isDigit = rest := by
  rw [List.takeWhile_append_of_pos hds, List.dropWhile_append_of_pos hds]
  cases rest with
  | nil => exact ⟨List.append_nil ds, rfl⟩
  | cons c rest =>
    have hc : ¬ c.isDigit = true := by
      rw [h c rfl]
      exact Bool.false_ne_true
    rw [List.takeWhile_cons_of_neg hc, List.dropWhile_cons_of_neg hc]
    exact ⟨List.append_nil ds, rfl⟩

/-- No zero stands in front of another digit. -/
theorem toDigits_head {n : Nat} (hn : 0 < n) :
    ∃ d ds, Nat.toDigits 10 n = d :: ds ∧ d ≠ '0' := by
  induction n using Nat.strongRecOn with
  | ind n ih =>
    by_cases h : n < 10
    · refine ⟨n.digitChar, [], Nat.toDigits_of_lt_base h, ?_⟩
      interval_cases n <;> decide
    · obtain ⟨d, ds, hds, hd⟩ := ih (n / 10) (by omega) (by omega)
      refine ⟨d, ds ++ [(n % 10).digitChar], ?_, hd⟩
      rw [Nat.toDigits_of_base_le (by omega) (by omega), hds]
      rfl

theorem isDigit_toDigits (n : Nat) : ∀ d ∈ Nat.toDigits 10 n, d.isDigit = true :=
  fun _ hd => Nat.isDigit_of_mem_toDigits (by omega) (by omega) hd

theorem intDigits_toDigits (n : Nat) {rest : List Char}
    (h : ∀ c ∈ rest.head?, c.isDigit = false) :
    intDigits (Nat.toDigits 10 n ++ rest) = some (Nat.toDigits 10 n, rest) := by
  rcases Nat.eq_zero_or_pos n with rfl | hn
  · rfl
  · obtain ⟨d, ds, hds, hd⟩ := toDigits_head hn
    have hdigits := isDigit_toDigits n
    rw [hds] at hdigits ⊢
    obtain ⟨htake, hdrop⟩ :=
      takeWhile_digits (fun c hc => hdigits c (List.mem_cons_of_mem d hc)) h
    rw [List.cons_append, intDigits, if_neg hd, if_pos (hdigits d List.mem_cons_self), htake,
      hdrop]

theorem decimal_toDigits (n : Nat) : decimal (Nat.toDigits 10 n) = n :=
  Nat.ofDigitChars_ten_toDigits

theorem expect_minus_toDigits (n : Nat) (rest : List Char) :
    expect '-' (Nat.toDigits 10 n ++ rest) = none := by
  obtain ⟨d, ds, hds⟩ := List.exists_cons_of_ne_nil (Nat.toDigits_ne_nil (n := n) (b := 10))
  have hd := isDigit_toDigits n d (hds ▸ List.mem_cons_self)
  have hne : d ≠ '-' := by
    rintro rfl
    exact absurd hd (by decide)
  rw [hds, List.cons_append, expect, if_neg hne]

theorem exponent_ends {rest : List Char} (h : Ends rest) : exponent rest = some (none, rest) := by
  rw [exponent, expect_ends h (by decide), expect_ends h (by decide)]
  rfl

theorem number_intText {n : Int} (hn : FitsInt64 n) {rest : List Char} (h : Ends rest) :
    number (intText n ++ rest) = some (.int n, rest) := by
  have hfraction : fraction rest = some ([], rest) := by
    rw [fraction, expect_ends h (by decide)]
  have hints : intDigits (Nat.toDigits 10 n.natAbs ++ rest) =
      some (Nat.toDigits 10 n.natAbs, rest) :=
    intDigits_toDigits n.natAbs fun _ => isDigit_ends h
  unfold FitsInt64 at hn
  unfold intText number
  split
  · rename_i hneg
    have hvalue : -(n.natAbs : Int) = n := by omega
    have hminus : expect '-' ('-' :: (Nat.toDigits 10 n.natAbs ++ rest)) =
        some (Nat.toDigits 10 n.natAbs ++ rest) := rfl
    simp only [List.cons_append, hminus, Option.getD_some, Option.isSome_some, hints, hfraction,
      exponent_ends h, Option.bind_eq_bind, Option.bind_some, List.append_nil, decimal_toDigits,
      if_true, hvalue, hn, and_self]
  · rename_i hneg
    have hvalue : (n.natAbs : Int) = n := by omega
    simp only [expect_minus_toDigits, Option.getD_none, Option.isSome_none, hints, hfraction,
      exponent_ends h, Option.bind_eq_bind, Option.bind_some, List.append_nil, decimal_toDigits,
      Bool.false_eq_true, if_false, hvalue, hn, and_self, if_true]

/-! ## Reading what was printed -/

theorem backSlice_eq (l : List Json) : backSlice l = l.map back := by
  induction l with
  | nil => rfl
  | cons j l ih => rw [backSlice, ih, List.map_cons]

theorem skipSpace_append {space : List Char} (h : ∀ c ∈ space, isSpace c = true)
    (cs : List Char) : skipSpace (space ++ cs) = skipSpace cs :=
  List.dropWhile_append_of_pos h

/-- A number starts with a minus sign or a digit. -/
theorem number_head {cs : List Char} {read : Json × List Char} (h : number cs = some read) :
    ∃ c rest, cs = c :: rest ∧ (c = '-' ∨ c.isDigit = true) := by
  cases cs with
  | nil => simp [number, expect, intDigits] at h
  | cons c rest =>
    refine ⟨c, rest, rfl, ?_⟩
    by_contra hc
    obtain ⟨hminus, hdigit⟩ := not_or.mp hc
    have hzero : c ≠ '0' := by
      rintro rfl
      exact hdigit rfl
    simp [number, expect, intDigits, hminus, hzero, hdigit] at h

/-- So the other readers pass it by. -/
theorem number_head_ne {c : Char} (h : c = '-' ∨ c.isDigit = true) :
    c ∉ ['\x7b', '[', '"', 't', 'f', 'n', ' ', '\t', '\n', '\r', ']', '\x7d'] := by
  intro hc
  simp only [List.mem_cons, List.not_mem_nil, or_false] at hc
  rcases hc with rfl | rfl | rfl | rfl | rfl | rfl | rfl | rfl | rfl | rfl | rfl | rfl <;>
    exact absurd h (by decide)

theorem value_number {fuel : Nat} {cs : List Char} {read : Json × List Char}
    (h : number cs = some read) : value (fuel + 1) cs = some read := by
  obtain ⟨c, rest, rfl, hc⟩ := number_head h
  have hne := number_head_ne hc
  simp only [List.mem_cons, List.not_mem_nil, or_false, not_or] at hne
  obtain ⟨h1, h2, h3, h4, h5, h6, -⟩ := hne
  rw [value, if_neg h1, if_neg h2, if_neg h3, if_neg h4, if_neg h5, if_neg h6, h]

/-- A value starts with no white space and no closing bracket. -/
theorem value_head {fuel : Nat} {cs : List Char} {read : Json × List Char}
    (h : value fuel cs = some read) : skipSpace cs = cs ∧ expect ']' cs = none := by
  cases fuel with
  | zero => simp [value] at h
  | succ fuel =>
    cases cs with
    | nil => simp [value] at h
    | cons c rest =>
      suffices hc : isSpace c = false ∧ c ≠ ']' by
        exact ⟨skipSpace_cons hc.1 rest, by rw [expect, if_neg hc.2]⟩
      by_cases hword : c ∈ ['\x7b', '[', '"', 't', 'f', 'n']
      · simp only [List.mem_cons, List.not_mem_nil, or_false] at hword
        rcases hword with rfl | rfl | rfl | rfl | rfl | rfl <;> decide
      · simp only [List.mem_cons, List.not_mem_nil, or_false, not_or] at hword
        obtain ⟨h1, h2, h3, h4, h5, h6⟩ := hword
        rw [value, if_neg h1, if_neg h2, if_neg h3, if_neg h4, if_neg h5, if_neg h6] at h
        obtain ⟨_, _, heq, hc⟩ := number_head h
        obtain ⟨rfl, -⟩ := List.cons.inj heq
        have hne := number_head_ne hc
        simp only [List.mem_cons, List.not_mem_nil, or_false, not_or] at hne
        obtain ⟨-, -, -, -, -, -, h7, h8, h9, h10, h11, -⟩ := hne
        exact ⟨by simp [isSpace, h7, h8, h9, h10], h11⟩

section Read

variable (style : Style) (floats : Floats)

theorem Style.escape_ne_nil (c : Char) : style.escape c ≠ [] := by
  intro h
  have hread := style.escape_read c []
  rw [h] at hread
  cases hread

theorem length_le_flatMap_escape (cs : List Char) :
    cs.length ≤ (cs.flatMap style.escape).length := by
  induction cs with
  | nil => exact Nat.le_refl 0
  | cons c cs ih =>
    have hc := List.length_pos_iff.mpr (style.escape_ne_nil c)
    rw [List.flatMap_cons, List.length_append, List.length_cons]
    omega

theorem string_text (cs rest : List Char) {fuel : Nat} (hfuel : cs.length < fuel) :
    string fuel (cs.flatMap style.escape ++ '"' :: rest) = some (cs, rest) := by
  induction cs generalizing fuel with
  | nil =>
    obtain ⟨n, rfl⟩ := Nat.exists_eq_succ_of_ne_zero (Nat.ne_of_gt hfuel)
    rfl
  | cons c cs ih =>
    obtain ⟨n, rfl⟩ := Nat.exists_eq_succ_of_ne_zero (Nat.ne_of_gt (Nat.zero_lt_of_lt hfuel))
    rw [List.flatMap_cons, List.append_assoc, string, style.escape_read]
    show (string n _).map _ = _
    rw [ih (Nat.lt_of_succ_lt_succ hfuel)]
    rfl

/-- What was printed for the document is read back, whatever value ends it. -/
def Reads (j : Json) : Prop :=
  ∀ fuel rest, (print style floats j).length < fuel → Ends rest →
    value fuel (print style floats j ++ rest) = some (back j, rest)

variable {style floats}

theorem reads_word {j : Json} {word : List Char} (hprint : print style floats j = word)
    (h : ∀ fuel rest, value (fuel + 1) (word ++ rest) = some (back j, rest)) :
    Reads style floats j := by
  intro fuel rest hfuel _
  rw [hprint] at hfuel ⊢
  obtain ⟨n, rfl⟩ := Nat.exists_eq_succ_of_ne_zero (Nat.ne_of_gt (Nat.zero_lt_of_lt hfuel))
  exact h n rest

theorem reads_number {j : Json} (hback : back j = j)
    (h : ∀ rest, Ends rest → number (print style floats j ++ rest) = some (j, rest)) :
    Reads style floats j := by
  intro fuel rest hfuel hrest
  obtain ⟨n, rfl⟩ := Nat.exists_eq_succ_of_ne_zero (Nat.ne_of_gt (Nat.zero_lt_of_lt hfuel))
  rw [hback]
  exact value_number (h rest hrest)

theorem reads_str (s : String) : Reads style floats (.str s) := by
  intro fuel rest hfuel _
  have hlen := length_le_flatMap_escape style s.toList
  simp only [print, stringText, List.length_cons, List.length_append, List.length_nil] at hfuel
  obtain ⟨n, rfl⟩ := Nat.exists_eq_succ_of_ne_zero (Nat.ne_of_gt (Nat.zero_lt_of_lt hfuel))
  have hs : s.toList.length < n := by omega
  have htext : print style floats (.str s) ++ rest =
      '"' :: (s.toList.flatMap style.escape ++ '"' :: rest) := by
    simp [print, stringText]
  rw [htext, value_string, string_text style s.toList rest hs]
  show some (Json.str (String.ofList s.toList), rest) = _
  rw [String.ofList_toList]
  rfl

/-! ### Arrays -/

theorem items_skipSpace (fuel : Nat) {space : List Char} (h : ∀ c ∈ space, isSpace c = true)
    (cs : List Char) : items fuel (space ++ cs) = items fuel cs := by
  cases fuel with
  | zero => rfl
  | succ fuel => rw [items, items, skipSpace_append h]

theorem expect_comma (cs : List Char) : expect ',' (skipSpace (',' :: cs)) = some cs := by
  rw [skipSpace_cons (by decide)]
  rfl

theorem items_print {l : List Json} (hne : l ≠ []) (h : ∀ j ∈ l, Reads style floats j)
    {fuel : Nat} (hfuel : (printItems style floats l).length + 1 < fuel) (rest : List Char) :
    items fuel (printItems style floats l ++ ']' :: rest) = some (backSlice l, rest) := by
  induction l generalizing fuel with
  | nil => exact absurd rfl hne
  | cons j l ih =>
    obtain ⟨n, rfl⟩ := Nat.exists_eq_succ_of_ne_zero (Nat.ne_of_gt (Nat.zero_lt_of_lt hfuel))
    simp only [printItems, List.length_append] at hfuel
    have hj := h j List.mem_cons_self
    cases l with
    | nil =>
      have hread := hj n (']' :: rest) (by omega) (ends_cons (by decide) _)
      have htext : printItems style floats [j] ++ ']' :: rest =
          print style floats j ++ ']' :: rest := by simp [printItems]
      have hcomma : expect ',' (skipSpace (']' :: rest)) = none := by
        rw [skipSpace_cons (by decide)]
        rfl
      have hclose : expect ']' (skipSpace (']' :: rest)) = some rest := by
        rw [skipSpace_cons (by decide)]
        rfl
      rw [htext, items, (value_head hread).1, hread]
      simp only [Option.bind_eq_bind, Option.bind_some, hcomma, hclose, Option.map_some]
      rfl
    | cons j' l =>
      have htext : printItems style floats (j :: j' :: l) ++ ']' :: rest = print style floats j ++
          ',' :: (style.afterComma ++ (printItems style floats (j' :: l) ++ ']' :: rest)) := by
        simp [printItems]
      have hlen : (printItems style floats (j' :: l)).length + 1 < n := by
        simp at hfuel ⊢
        omega
      have hread := hj n
        (',' :: (style.afterComma ++ (printItems style floats (j' :: l) ++ ']' :: rest)))
        (by omega) (ends_cons (by decide) _)
      have hrest := ih (List.cons_ne_nil j' l) (fun i hi => h i (List.mem_cons_of_mem j hi)) hlen
      rw [htext, items, (value_head hread).1, hread]
      simp only [Option.bind_eq_bind, Option.bind_some, expect_comma,
        items_skipSpace n style.comma_space, hrest, Option.map_some]
      rfl

/-! ### Objects -/

theorem members_skipSpace (fuel : Nat) (before : JMap) {space : List Char}
    (h : ∀ c ∈ space, isSpace c = true) (cs : List Char) :
    members fuel before (space ++ cs) = members fuel before cs := by
  cases fuel with
  | zero => rfl
  | succ fuel => rw [members, members, skipSpace_append h]

/-- What `members` does behind the value of a member. -/
def afterMember (fuel : Nat) (read : JMap) (rest : List Char) : Option (JMap × List Char) :=
  match expect ',' (skipSpace rest) with
  | some rest => members fuel read rest
  | none => (expect '\x7d' (skipSpace rest)).map fun rest => (read, rest)

theorem members_member {j : Json} (hj : Reads style floats j) (k : String) (before : JMap)
    {n : Nat} (hkey : k.toList.length < n) (hlen : (print style floats j).length < n)
    {rest : List Char} (hrest : Ends rest) :
    members (n + 1) before (stringText style k ++
        ':' :: (style.afterColon ++ (print style floats j ++ rest))) =
      afterMember n ((k, back j) :: before) rest := by
  have hread := hj n rest hlen hrest
  have hquote : ∀ cs, expect '"' ('"' :: cs) = some cs := fun _ => rfl
  have hcolon : ∀ cs, expect ':' (':' :: cs) = some cs := fun _ => rfl
  have htext : stringText style k ++ ':' :: (style.afterColon ++ (print style floats j ++ rest)) =
      '"' :: (k.toList.flatMap style.escape ++
        '"' :: ':' :: (style.afterColon ++ (print style floats j ++ rest))) := by
    simp [stringText]
  rw [htext, members, skipSpace_cons (by decide)]
  simp only [Option.bind_eq_bind, Option.bind_some, hquote, hcolon, string_text style _ _ hkey,
    skipSpace_cons (by decide : isSpace ':' = false), skipSpace_append style.colon_space,
    (value_head hread).1, hread, String.ofList_toList]
  rfl

theorem members_print {m : JMap} (hne : m ≠ []) (h : ∀ kv ∈ m, Reads style floats kv.2)
    (before : JMap) {fuel : Nat} (hfuel : (printMembers style floats m).length + 1 < fuel)
    (rest : List Char) :
    members fuel before (printMembers style floats m ++ '\x7d' :: rest) =
      some ((backMap m).reverse ++ before, rest) := by
  induction m generalizing fuel before with
  | nil => exact absurd rfl hne
  | cons kv m ih =>
    obtain ⟨k, j⟩ := kv
    obtain ⟨n, rfl⟩ := Nat.exists_eq_succ_of_ne_zero (Nat.ne_of_gt (Nat.zero_lt_of_lt hfuel))
    have hkey := length_le_flatMap_escape style k.toList
    have hj : Reads style floats j := h (k, j) List.mem_cons_self
    simp only [printMembers, stringText, List.length_append, List.length_cons,
      List.length_nil] at hfuel
    cases m with
    | nil =>
      have htext : printMembers style floats [(k, j)] ++ '\x7d' :: rest = stringText style k ++
          ':' :: (style.afterColon ++ (print style floats j ++ '\x7d' :: rest)) := by
        simp [printMembers]
      have hcomma : expect ',' (skipSpace ('\x7d' :: rest)) = none := by
        rw [skipSpace_cons (by decide)]
        rfl
      have hclose : expect '\x7d' (skipSpace ('\x7d' :: rest)) = some rest := by
        rw [skipSpace_cons (by decide)]
        rfl
      rw [htext, members_member hj k before (by omega) (by omega)
        (ends_cons (by decide) _), afterMember, hcomma, hclose]
      rfl
    | cons kv' m =>
      have htext : printMembers style floats ((k, j) :: kv' :: m) ++ '\x7d' :: rest =
          stringText style k ++ ':' :: (style.afterColon ++ (print style floats j ++
            ',' :: (style.afterComma ++ (printMembers style floats (kv' :: m) ++
              '\x7d' :: rest)))) := by
        simp [printMembers]
      have hlen : (printMembers style floats (kv' :: m)).length + 1 < n := by
        simp at hfuel ⊢
        omega
      have hm := ih (List.cons_ne_nil kv' m) (fun i hi => h i (List.mem_cons_of_mem _ hi))
        ((k, back j) :: before) hlen
      rw [htext, members_member hj k before (by omega) (by omega)
        (ends_cons (by decide) _), afterMember, expect_comma]
      have hback : backMap ((k, j) :: kv' :: m) = (k, back j) :: backMap (kv' :: m) := rfl
      rw [hback, List.reverse_cons, List.append_assoc]
      exact (members_skipSpace n _ style.comma_space _).trans hm

/-! ### Documents -/

/-- What is read as the elements of an array does not start with its end. -/
theorem items_head {fuel : Nat} {cs : List Char} {read : List Json × List Char}
    (h : items fuel cs = some read) : expect ']' (skipSpace cs) = none := by
  cases fuel with
  | zero => simp [items] at h
  | succ fuel =>
    rw [items] at h
    obtain ⟨first, hfirst, -⟩ := Option.bind_eq_some_iff.mp h
    exact (value_head hfirst).2

theorem reads_arr {l : List Json} (h : ∀ j ∈ l, Reads style floats j) :
    Reads style floats (.arr l) := by
  intro fuel rest hfuel _
  simp only [print, List.length_cons, List.length_append, List.length_nil] at hfuel
  obtain ⟨n, rfl⟩ := Nat.exists_eq_succ_of_ne_zero (Nat.ne_of_gt (Nat.zero_lt_of_lt hfuel))
  cases l with
  | nil => rfl
  | cons j l =>
    have hitems := items_print (List.cons_ne_nil j l) h (by omega : _ < n) rest
    have htext : print style floats (.arr (j :: l)) ++ rest =
        '[' :: (printItems style floats (j :: l) ++ ']' :: rest) := by simp [print]
    rw [htext, value, if_neg (by decide), if_pos rfl, items_head hitems, hitems]
    rfl

theorem reads_obj {m : JMap} (h : ∀ kv ∈ m, Reads style floats kv.2) :
    Reads style floats (.obj m) := by
  intro fuel rest hfuel _
  simp only [print, List.length_cons, List.length_append, List.length_nil] at hfuel
  obtain ⟨n, rfl⟩ := Nat.exists_eq_succ_of_ne_zero (Nat.ne_of_gt (Nat.zero_lt_of_lt hfuel))
  cases m with
  | nil => rfl
  | cons kv m =>
    have hmembers := members_print (List.cons_ne_nil kv m) h [] (by omega : _ < n) rest
    have htext : print style floats (.obj (kv :: m)) ++ rest =
        '\x7b' :: (printMembers style floats (kv :: m) ++ '\x7d' :: rest) := by simp [print]
    obtain ⟨cs, hcs⟩ : ∃ cs, printMembers style floats (kv :: m) ++ '\x7d' :: rest = '"' :: cs :=
      ⟨_, rfl⟩
    rw [htext, hcs, value_object, ← hcs, hmembers, List.append_nil]
    rfl

variable (style) in
theorem reads_of_printable {j : Json} (h : Printable floats j) : Reads style floats j := by
  induction h with
  | null => exact reads_word rfl fun _ _ => rfl
  | bool b => cases b <;> exact reads_word rfl fun _ _ => rfl
  | int h => exact reads_number rfl fun rest hrest => number_intText h hrest
  | float h => exact reads_number rfl (floats.text_read _ h)
  | str s => exact reads_str s
  | arr _ ih => exact reads_arr ih
  | obj _ _ ih => exact reads_obj ih

variable (style) in
/-- What was printed is read back, the members of objects in reverse. -/
theorem decode_print {j : Json} (h : Printable floats j) {space : List Char}
    (hspace : ∀ c ∈ space, isSpace c = true) :
    decode (String.ofList (print style floats j ++ space)) = some (back j) := by
  have hends : Ends space := fun c hc => Or.inl (hspace c (List.mem_of_mem_head? hc))
  have hread := reads_of_printable style h
    (2 * (print style floats j ++ space).length + 2) space (by simp; omega) hends
  have hrest : skipSpace space = [] := List.dropWhile_eq_nil_iff.mpr hspace
  rw [decode, String.toList_ofList, (value_head hread).1, hread]
  simp only [hrest, if_true]

end Read

/-! ## What is the same -/

theorem map_fst_backMap (m : JMap) : (backMap m).map Prod.fst = m.map Prod.fst := by
  induction m with
  | nil => rfl
  | cons kv m ih => rw [backMap, List.map_cons, List.map_cons, ih]

theorem mem_backMap {m : JMap} {kv : String × Json} (h : kv ∈ backMap m) :
    ∃ j, (kv.1, j) ∈ m ∧ kv.2 = back j := by
  induction m with
  | nil => cases h
  | cons kv' m ih =>
    rcases List.mem_cons.mp h with rfl | h
    · exact ⟨kv'.2, List.mem_cons_self, rfl⟩
    · obtain ⟨j, hj, heq⟩ := ih h
      exact ⟨j, List.mem_cons_of_mem kv' hj, heq⟩

theorem printable_back {floats : Floats} {j : Json} (h : Printable floats j) :
    Printable floats (back j) := by
  induction h with
  | null => exact .null
  | bool b => exact .bool b
  | int h => exact .int h
  | float h => exact .float h
  | str s => exact .str s
  | arr _ ih =>
    rw [back, backSlice_eq]
    refine .arr fun j hj => ?_
    obtain ⟨i, hi, rfl⟩ := List.mem_map.mp hj
    exact ih i hi
  | obj hkeys _ ih =>
    rw [back]
    refine .obj ?_ fun kv hkv => ?_
    · rw [List.map_reverse, List.nodup_reverse, map_fst_backMap]
      exact hkeys
    · obtain ⟨j, hj, heq⟩ := mem_backMap (List.mem_reverse.mp hkv)
      rw [heq]
      exact ih _ hj

theorem printable_sorted {floats : Floats} {j : Json} (h : Printable floats j) :
    Printable floats (sorted j) := by
  induction h with
  | null => exact .null
  | bool b => exact .bool b
  | int h => exact .int h
  | float h => exact .float h
  | str s => exact .str s
  | arr _ ih =>
    rw [sorted, sortedSlice_eq]
    refine .arr fun j hj => ?_
    obtain ⟨i, hi, rfl⟩ := List.mem_map.mp hj
    exact ih i hi
  | @obj m _ _ ih =>
    rw [sorted]
    refine .obj (nodup_sortKeys _) fun kv hkv => ?_
    have hlookup := mem_sortKeys.mp hkv
    rw [lookup_sortedMap] at hlookup
    obtain ⟨j, hj, heq⟩ := Option.map_eq_some_iff.mp hlookup
    rw [← heq]
    exact ih _ (mem_of_lookup hj)

theorem lookup_backMap (m : JMap) (k : String) : (backMap m).lookup k = (m.lookup k).map back := by
  induction m with
  | nil => rfl
  | cons kv m ih =>
    rw [backMap, List.lookup_cons, List.lookup_cons]
    split
    · rfl
    · exact ih

/-- Where names are not used twice, their order does not matter. -/
theorem lookup_reverse {m : JMap} (h : (m.map Prod.fst).Nodup) (k : String) :
    m.reverse.lookup k = m.lookup k := by
  have hreverse : (m.reverse.map Prod.fst).Nodup := by
    rw [List.map_reverse, List.nodup_reverse]
    exact h
  exact Option.ext fun j => by
    rw [lookup_eq_some hreverse, lookup_eq_some h, List.mem_reverse]

theorem same_back {floats : Floats} {j : Json} (h : Printable floats j) : Same (back j) j := by
  unfold Same
  induction h with
  | null | bool b | int h | float h | str s => rfl
  | arr _ ih =>
    simp only [back, backSlice_eq, sorted, sortedSlice_eq, List.map_map]
    exact congrArg Json.arr (List.map_congr_left ih)
  | obj hkeys _ ih =>
    rw [back]
    refine (same_obj_iff _ _).mpr fun k => ?_
    rw [lookup_reverse (by rw [map_fst_backMap]; exact hkeys), lookup_backMap, Option.map_map]
    cases hk : List.lookup k _ with
    | none => rfl
    | some j =>
      exact congrArg some (ih (k, j) (mem_of_lookup hk))

theorem same_sorted (j : Json) : Same (sorted j) j := sorted_sorted j

/-- What is read back is the same document. -/
theorem decode_print_same (style : Style) {floats : Floats} {j : Json} (h : Printable floats j)
    {space : List Char} (hspace : ∀ c ∈ space, isSpace c = true) :
    ∃ read, decode (String.ofList (print style floats j ++ space)) = some read ∧
      Printable floats read ∧ Same read j :=
  ⟨back j, decode_print style h hspace, printable_back h, same_back h⟩

/-- Of sorted documents only the same ones are printed alike. -/
theorem print_sorted_inj {style : Style} {floats : Floats} {a b : Json} (ha : Printable floats a)
    (hb : Printable floats b) :
    print style floats (sorted a) = print style floats (sorted b) ↔ Same a b := by
  constructor
  · intro h
    have hread : ∀ {j}, Printable floats j →
        decode (String.ofList (print style floats (sorted j))) = some (back (sorted j)) := by
      intro j hj
      have hspace := decode_print style (printable_sorted hj) (List.forall_mem_nil _)
      rwa [List.append_nil] at hspace
    have hback : some (back (sorted a)) = some (back (sorted b)) := by
      rw [← hread ha, ← hread hb, h]
    calc sorted a = sorted (sorted a) := (sorted_sorted a).symm
      _ = sorted (back (sorted a)) := (same_back (printable_sorted ha)).symm
      _ = sorted (back (sorted b)) := by rw [Option.some.inj hback]
      _ = sorted (sorted b) := same_back (printable_sorted hb)
      _ = sorted b := sorted_sorted b
  · intro h
    unfold Same at h
    rw [h]

end HybridOperator.Lib.JsonPrint
