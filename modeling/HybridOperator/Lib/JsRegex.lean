/-
  What the dashboard's script uses of JavaScript's strings: the characters that `trim` and `\s`
  take for blank and that `.` does not match, the order of `sort`, and patterns between `^` and
  `$` that are a sequence of characters, repetitions `x*` and lazy groups `(x+?)`.

  A lazy group takes one character more whenever the rest of the pattern does not match after it.
  When the rest cannot start with a character of a word, the group takes the word as a whole
  (`exec_lazy_word`).
-/
import Mathlib.Data.List.Basic
import Mathlib.Data.List.Lex

namespace HybridOperator.Lib.JsRegex

/-! ## Characters -/

/-- The characters that end a line. -/
def lineTerminator (c : Char) : Bool :=
  let n := c.toNat
  n == 10 || n == 13 || n == 0x2028 || n == 0x2029

/-- What `\s` matches. -/
def blank (c : Char) : Bool :=
  let n := c.toNat
  (9 ≤ n && n ≤ 13) || n == 32 || n == 0xA0 || n == 0x1680 || (0x2000 ≤ n && n ≤ 0x200A) ||
    n == 0x2028 || n == 0x2029 || n == 0x202F || n == 0x205F || n == 0x3000 || n == 0xFEFF

/-- What `.` matches. -/
def dotChar (c : Char) : Bool := !lineTerminator c

/-- `s.trim()`. -/
def trim (s : String) : String :=
  String.ofList (((s.toList.dropWhile blank).reverse.dropWhile blank).reverse)

theorem trim_of_no_blank {s : String} (h : ∀ c ∈ s.toList, blank c = false) : trim s = s := by
  have hdrop : ∀ cs : List Char, (∀ c ∈ cs, blank c = false) → cs.dropWhile blank = cs := by
    intro cs hcs
    cases cs with
    | nil => rfl
    | cons c cs =>
      rw [List.dropWhile_cons, hcs c List.mem_cons_self]
      rfl
  rw [trim, hdrop _ h, hdrop _ fun c hc => h c (List.mem_reverse.mp hc), List.reverse_reverse,
    String.ofList_toList]

/-! ## Order -/

/-- A character in UTF-16. -/
def codeUnits (c : Char) : List Nat :=
  let n := c.toNat
  if n < 0x10000 then [n] else [0xD800 + (n - 0x10000) / 0x400, 0xDC00 + (n - 0x10000) % 0x400]

/-- `sort()` of strings, which compares their code units. -/
def sort (strings : List String) : List String :=
  strings.mergeSort fun s t => s.toList.flatMap codeUnits ≤ t.toList.flatMap codeUnits

theorem sort_perm (strings : List String) : (sort strings).Perm strings :=
  List.mergeSort_perm strings _

/-! ## Patterns -/

/-- One part of a pattern. -/
inductive Part where
  | lit (c : Char)
  /-- `x*` -/
  | star (cls : Char → Bool)
  /-- `(x+?)` -/
  | lazy (cls : Char → Bool)

/-- The longest repetition first. -/
def starThen (cls : Char → Bool) (k : List Char → Option (List String)) :
    List Char → Option (List String)
  | [] => k []
  | c :: s => if cls c then (starThen cls k s).or (k (c :: s)) else k (c :: s)

/-- The shortest first. `taken` is what the group has so far. -/
def lazyThen (cls : Char → Bool) (k : List Char → List Char → Option (List String)) :
    List Char → List Char → Option (List String)
  | _, [] => none
  | taken, c :: s =>
      if cls c then (k (taken ++ [c]) s).or (lazyThen cls k (taken ++ [c]) s) else none

/-- The groups of the first way to match the whole text. -/
def exec : List Part → List Char → Option (List String)
  | [], [] => some []
  | [], _ :: _ => none
  | .lit _ :: _, [] => none
  | .lit c :: r, d :: s => if c = d then exec r s else none
  | .star cls :: r, s => starThen cls (exec r) s
  | .lazy cls :: r, s =>
      lazyThen cls (fun taken rest => (exec r rest).map fun groups => String.ofList taken :: groups)
        [] s

theorem exec_lit (c d : Char) (r : List Part) (s : List Char) :
    exec (.lit c :: r) (d :: s) = if c = d then exec r s else none := rfl

theorem exec_lits (cs : List Char) (r : List Part) (t : List Char) :
    exec (cs.map .lit ++ r) (cs ++ t) = exec r t := by
  induction cs with
  | nil => rfl
  | cons c cs ih =>
    rw [List.map_cons, List.cons_append, List.cons_append, exec_lit, if_pos rfl]
    exact ih

/-- A repetition that the text does not go on with takes nothing. -/
theorem exec_star_cons {cls : Char → Bool} {d : Char} (h : cls d = false) (r : List Part)
    (s : List Char) : exec (.star cls :: r) (d :: s) = exec r (d :: s) := by
  show starThen cls (exec r) (d :: s) = exec r (d :: s)
  rw [starThen, h]
  rfl

/-- A repetition takes one character and stops at the next, when the rest matches there. -/
theorem exec_star_one {cls : Char → Bool} {b d : Char} (hb : cls b = true) (hd : cls d = false)
    {r : List Part} {s : List Char} {groups : List String} (h : exec r (d :: s) = some groups) :
    exec (.star cls :: r) (b :: d :: s) = some groups := by
  show starThen cls (exec r) (b :: d :: s) = some groups
  rw [starThen, if_pos hb]
  have hone : starThen cls (exec r) (d :: s) = some groups := (exec_star_cons hd r s).trans h
  rw [hone, Option.some_or]

/-- A lazy group takes a word none of whose characters the rest can start with. -/
theorem exec_lazy_word {cls : Char → Bool} {r : List Part} {w t : List Char} (hne : w ≠ [])
    (hw : ∀ c ∈ w, cls c = true) (hr : ∀ c ∈ w, ∀ s, exec r (c :: s) = none)
    {groups : List String} (ht : exec r t = some groups) :
    exec (.lazy cls :: r) (w ++ t) = some (String.ofList w :: groups) := by
  have hword : ∀ taken, lazyThen cls
      (fun taken rest => (exec r rest).map fun groups => String.ofList taken :: groups)
      taken (w ++ t) = some (String.ofList (taken ++ w) :: groups) := by
    induction w with
    | nil => exact absurd rfl hne
    | cons c w ih =>
      intro taken
      rw [List.cons_append, lazyThen, if_pos (hw c List.mem_cons_self)]
      cases w with
      | nil =>
        rw [List.nil_append, ht]
        rfl
      | cons d w =>
        have hnot := hr d (List.mem_cons_of_mem c List.mem_cons_self) (w ++ t)
        have hrest := ih (List.cons_ne_nil d w) (fun e he => hw e (List.mem_cons_of_mem c he))
          (fun e he => hr e (List.mem_cons_of_mem c he)) (taken ++ [c])
        rw [List.cons_append] at hrest ⊢
        rw [hnot, Option.map_none, Option.none_or, hrest, List.append_assoc]
        rfl
  exact hword []

end HybridOperator.Lib.JsRegex
