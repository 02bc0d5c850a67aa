/-
  Versions: `parseSemver` and `isVersionGreater` of collector.go.

  `parseSemver` takes the leftmost match of `(\d+)\.(\d+)\.(\d+)` and gives `(0, 0, 0)` when
  there is none. `Atoi`'s error is dropped, and out of range it still returns the largest
  `int`, so a component saturates. Hence a component is always in `[0, 2^63)`, which its type
  says: every `Semver` is one `parseSemver` can return (`parseSemver_sprintf`).

  Proved:
  * `parseSemver_sprintf`: parsing inverts the `%d.%d.%d` the collector prints versions with.
  * `isVersionGreater_iff`: the comparison is the strict lexicographic order of the triples
    (`Semver.key`), hence irreflexive.
-/
import Mathlib.Algebra.Group.Nat.Defs
import Mathlib.Data.List.TakeWhile
import Mathlib.Data.Prod.Lex

namespace HybridOperator.Collector

/-- `[3]int` as `parseSemver` fills it. -/
structure Semver where
  major : Fin (2 ^ 63)
  minor : Fin (2 ^ 63)
  patch : Fin (2 ^ 63)
deriving DecidableEq

/-- `strconv.Atoi` on a run of digits, its error dropped. -/
def atoi (ds : List Char) : Fin (2 ^ 63) :=
  ⟨min (Nat.ofDigitChars 10 ds 0) (2 ^ 63 - 1), by omega⟩

/-- `\d+`, greedy: the digits in front and what follows them. -/
def digits (cs : List Char) : Option (List Char × List Char) :=
  match cs.takeWhile Char.isDigit with
  | [] => none
  | d :: ds => some (d :: ds, cs.dropWhile Char.isDigit)

/-- `\.` -/
def dot : List Char → Option (List Char)
  | '.' :: cs => some cs
  | _ => none

/-- The three groups of a match of `(\d+)\.(\d+)\.(\d+)` that starts here. A run of digits is
    followed by the dot only where it ends, so the greedy runs never have to be shortened. -/
def matchHere (cs : List Char) : Option (List Char × List Char × List Char) :=
  (digits cs).bind fun (major, rest) =>
  (dot rest).bind fun rest =>
  (digits rest).bind fun (minor, rest) =>
  (dot rest).bind fun rest =>
  (digits rest).map fun (patch, _) => (major, minor, patch)

/-- `FindStringSubmatch`: the leftmost match. -/
def findStringSubmatch : List Char → Option (List Char × List Char × List Char)
  | [] => none
  | c :: cs => (matchHere (c :: cs)).or (findStringSubmatch cs)

def parseSemver (versionStr : String) : Semver :=
  match findStringSubmatch versionStr.toList with
  | some (major, minor, patch) => ⟨atoi major, atoi minor, atoi patch⟩
  | none => ⟨0, 0, 0⟩

def isVersionGreater (target current : Semver) : Bool :=
  if target.major ≠ current.major then target.major > current.major
  else if target.minor ≠ current.minor then target.minor > current.minor
  else target.patch > current.patch

/-- `fmt.Sprintf("%d.%d.%d", v[0], v[1], v[2])`. -/
def sprintfSemver (v : Semver) : String :=
  toString v.major.val ++ "." ++ toString v.minor.val ++ "." ++ toString v.patch.val

/-- The string contains a number of the form `x.y.z`. -/
def HasSemver (s : String) : Prop := findStringSubmatch s.toList ≠ none

instance (s : String) : Decidable (HasSemver s) := inferInstanceAs (Decidable (_ ≠ _))

/-! ## Printing and parsing -/

theorem atoi_toDigits (n : Fin (2 ^ 63)) : atoi (Nat.toDigits 10 n.val) = n := by
  apply Fin.ext
  show min _ _ = n.val
  rw [Nat.ofDigitChars_ten_toDigits]
  have := n.isLt
  omega

theorem isDigit_toDigits (n : Nat) : ∀ c ∈ Nat.toDigits 10 n, Char.isDigit c = true :=
  fun _ hc => Nat.isDigit_of_mem_toDigits (by decide) (by decide) hc

/-- A run of digits is read off whole when no digit follows it. -/
theorem digits_append {ds rest : List Char} (hne : ds ≠ [])
    (hds : ∀ c ∈ ds, Char.isDigit c = true) (hrest : rest.takeWhile Char.isDigit = []) :
    digits (ds ++ rest) = some (ds, rest) := by
  have hdrop : rest.dropWhile Char.isDigit = rest := by
    have h := List.takeWhile_append_dropWhile (p := Char.isDigit) (l := rest)
    rwa [hrest, List.nil_append] at h
  unfold digits
  rw [List.takeWhile_append_of_pos hds, List.dropWhile_append_of_pos hds, hrest, hdrop,
    List.append_nil]
  cases ds with
  | nil => exact absurd rfl hne
  | cons d ds => rfl

theorem digits_toDigits (n : Nat) {rest : List Char} (hrest : rest.takeWhile Char.isDigit = []) :
    digits (Nat.toDigits 10 n ++ rest) = some (Nat.toDigits 10 n, rest) :=
  digits_append Nat.toDigits_ne_nil (isDigit_toDigits n) hrest

/-- Three numbers with dots between them, and no digit after the last. -/
theorem matchHere_numbers (a b c : Nat) {rest : List Char}
    (hrest : rest.takeWhile Char.isDigit = []) :
    matchHere (Nat.toDigits 10 a ++ '.' :: (Nat.toDigits 10 b ++
        '.' :: (Nat.toDigits 10 c ++ rest))) =
      some (Nat.toDigits 10 a, Nat.toDigits 10 b, Nat.toDigits 10 c) := by
  have hdot : ∀ rest : List Char, ('.' :: rest).takeWhile Char.isDigit = [] :=
    fun rest => List.takeWhile_cons_of_neg (by decide)
  simp only [matchHere, digits_toDigits a (hdot _), digits_toDigits b (hdot _),
    digits_toDigits c hrest, dot, Option.bind_some, Option.map_some]

theorem matchHere_printed (a b c : Nat) :
    matchHere (Nat.toDigits 10 a ++ '.' :: (Nat.toDigits 10 b ++ '.' :: Nat.toDigits 10 c)) =
      some (Nat.toDigits 10 a, Nat.toDigits 10 b, Nat.toDigits 10 c) := by
  have h := matchHere_numbers a b c (show ([] : List Char).takeWhile Char.isDigit = [] from rfl)
  rwa [List.append_nil] at h

theorem toList_sprintfSemver (v : Semver) :
    (sprintfSemver v).toList = Nat.toDigits 10 v.major ++
      '.' :: (Nat.toDigits 10 v.minor ++ '.' :: Nat.toDigits 10 v.patch) := by
  simp [sprintfSemver]

theorem findStringSubmatch_of_matchHere {cs : List Char} {m : List Char × List Char × List Char}
    (h : matchHere cs = some m) : findStringSubmatch cs = some m := by
  cases cs with
  | nil => cases h
  | cons c cs => rw [findStringSubmatch, h, Option.some_or]

/-- Parsing a printed version gives the version back. -/
theorem parseSemver_sprintf (v : Semver) : parseSemver (sprintfSemver v) = v := by
  have h : findStringSubmatch (sprintfSemver v).toList =
      some (Nat.toDigits 10 v.major, Nat.toDigits 10 v.minor, Nat.toDigits 10 v.patch) := by
    rw [toList_sprintfSemver]
    exact findStringSubmatch_of_matchHere (matchHere_printed _ _ _)
  simp only [parseSemver, h, atoi_toDigits]

theorem parseSemver_of_not_hasSemver {s : String} (h : ¬ HasSemver s) :
    parseSemver s = ⟨0, 0, 0⟩ := by
  have hn : findStringSubmatch s.toList = none := not_not.mp h
  rw [parseSemver, hn]

/-! ## The order -/

/-- A version as a point of the lexicographic order. -/
def Semver.key (v : Semver) : ℕ ×ₗ ℕ ×ₗ ℕ := toLex (v.major.val, toLex (v.minor.val, v.patch.val))

theorem isVersionGreater_iff (target current : Semver) :
    isVersionGreater target current = true ↔ current.key < target.key := by
  simp only [isVersionGreater, Semver.key, Prod.Lex.toLex_lt_toLex, ne_eq, ite_not,
    Fin.ext_iff, gt_iff_lt, Fin.lt_def]
  split_ifs <;> simp only [decide_eq_true_eq] <;> omega

theorem isVersionGreater_irrefl (v : Semver) : isVersionGreater v v = false := by
  rw [← Bool.not_eq_true, isVersionGreater_iff]
  exact lt_irrefl _

/-- Nothing is older than the version of a string without a number. -/
theorem isVersionGreater_zero (v : Semver) : isVersionGreater ⟨0, 0, 0⟩ v = false := by
  rw [← Bool.not_eq_true, isVersionGreater_iff]
  simp [Semver.key, Prod.Lex.toLex_lt_toLex]

example : parseSemver "etcdoperator.v0.9.4-clusterwide" = ⟨0, 9, 4⟩ := by decide
example : parseSemver "1..2.3" = ⟨0, 0, 0⟩ := by decide

end HybridOperator.Collector
