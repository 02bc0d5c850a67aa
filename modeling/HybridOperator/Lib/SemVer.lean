/-
  Semantic Versioning 2.0: the versions, their text and their precedence.

  A `Version` carries the proof that its identifiers are well formed, so its text is a valid
  SemVer string, and every valid string is the text of one. Numeric identifiers are numbers: the
  text of a number has no leading zeros.

  Precedence compares the three numbers first. Of two versions with the same numbers the one
  without a pre-release is the higher one, and two pre-releases are compared identifier by
  identifier; build metadata has no part in it.

  Proved: `toList_print`, the text begins with the three numbers, and no digit follows the last.
-/
import Mathlib.Data.Prod.Lex
import Mathlib.Algebra.Group.Nat.Defs
import Mathlib.Data.List.TakeWhile

namespace HybridOperator.Lib.SemVer

/-- `[0-9A-Za-z-]` -/
def identifierChar (c : Char) : Bool := c.isAlphanum || c = '-'

/-- A dot-separated identifier of a pre-release. -/
inductive Identifier where
  | numeric (n : Nat)
  | alphanumeric (text : String)
deriving DecidableEq

namespace Identifier

/-- Other than a number, an identifier has some character that is no digit. -/
def WellFormed : Identifier → Prop
  | numeric _ => True
  | alphanumeric text =>
      text.toList.all identifierChar = true ∧ text.toList.all Char.isDigit = false

def print : Identifier → String
  | numeric n => toString n
  | alphanumeric text => text

/-- Numbers are compared as numbers and are lower than the others, which are compared as texts. -/
def precedes : Identifier → Identifier → Bool
  | numeric m, numeric n => m < n
  | numeric _, alphanumeric _ => true
  | alphanumeric _, numeric _ => false
  | alphanumeric s, alphanumeric t => s < t

end Identifier

structure Version where
  major : Nat
  minor : Nat
  patch : Nat
  preRelease : List Identifier
  build : List String
  preRelease_wf : ∀ x ∈ preRelease, x.WellFormed
  build_wf : ∀ b ∈ build, b ≠ "" ∧ b.toList.all identifierChar = true

/-- The first identifiers that differ decide; a longer list is higher than its beginnings. -/
def identifiersPrecede : List Identifier → List Identifier → Bool
  | _, [] => false
  | [], _ :: _ => true
  | x :: xs, y :: ys => x.precedes y || (x = y && identifiersPrecede xs ys)

/-- A version without a pre-release is higher than those with one. -/
def preReleasePrecedes (p q : List Identifier) : Bool :=
  match p, q with
  | [], _ => false
  | _ :: _, [] => true
  | p, q => identifiersPrecede p q

namespace Version

/-- `-` and the pre-release, if there is one. -/
def preReleaseText (v : Version) : String :=
  if v.preRelease = [] then "" else "-" ++ ".".intercalate (v.preRelease.map Identifier.print)

/-- `+` and the build metadata, if there are any. -/
def buildText (v : Version) : String :=
  if v.build = [] then "" else "+" ++ ".".intercalate v.build

def print (v : Version) : String :=
  toString v.major ++ "." ++ toString v.minor ++ "." ++ toString v.patch ++
    v.preReleaseText ++ v.buildText

def core (v : Version) : ℕ ×ₗ ℕ ×ₗ ℕ := toLex (v.major, toLex (v.minor, v.patch))

/-- `w` has strictly higher precedence than `v`. -/
def Precedes (v w : Version) : Prop :=
  v.core < w.core ∨ v.core = w.core ∧ preReleasePrecedes v.preRelease w.preRelease = true

theorem preRelease_wf_nil : ∀ x ∈ ([] : List Identifier), x.WellFormed :=
  fun _ h => absurd h List.not_mem_nil

theorem build_wf_nil : ∀ b ∈ ([] : List String), b ≠ "" ∧ b.toList.all identifierChar = true :=
  fun _ h => absurd h List.not_mem_nil

/-- The version without its pre-release and its build metadata. -/
def release (v : Version) : Version :=
  ⟨v.major, v.minor, v.patch, [], [], preRelease_wf_nil, build_wf_nil⟩

theorem release_precedes_iff (v w : Version) : v.release.Precedes w.release ↔ v.core < w.core :=
  or_iff_left fun h => absurd h.2 Bool.false_ne_true

theorem toList_suffix (v : Version) :
    (v.preReleaseText ++ v.buildText).toList.takeWhile Char.isDigit = [] := by
  rw [String.toList_append]
  unfold preReleaseText buildText
  by_cases hpre : v.preRelease = []
  · rw [if_pos hpre]
    by_cases hbuild : v.build = []
    · rw [if_pos hbuild]
      rfl
    · rw [if_neg hbuild, String.toList_append]
      exact List.takeWhile_cons_of_neg (by decide)
  · rw [if_neg hpre, String.toList_append]
    exact List.takeWhile_cons_of_neg (by decide)

/-- The text begins with the three numbers, and no digit follows the last. -/
theorem toList_print (v : Version) :
    ∃ rest, rest.takeWhile Char.isDigit = [] ∧
      v.print.toList = Nat.toDigits 10 v.major ++
        '.' :: (Nat.toDigits 10 v.minor ++ '.' :: (Nat.toDigits 10 v.patch ++ rest)) := by
  refine ⟨_, v.toList_suffix, ?_⟩
  simp [print]

end Version

end HybridOperator.Lib.SemVer
