/-
  The decimal digits of Unicode 14, the characters of category Nd: what `\d` matches in a Python
  string and `int` reads. They stand in runs of ten, from zero to nine; `digitZeros` are the
  first of each run, beginning with the ASCII digits.

  Proved: `number_of_ascii`, a run of ASCII digits has its usual value.
-/
import Mathlib.Data.List.Basic

namespace HybridOperator.Lib

/-- The code points of the digits zero. -/
def digitZeros : List Nat :=
  [0x30, 0x660, 0x6f0, 0x7c0, 0x966, 0x9e6, 0xa66, 0xae6, 0xb66, 0xbe6, 0xc66, 0xce6, 0xd66, 0xde6,
    0xe50, 0xed0, 0xf20, 0x1040, 0x1090, 0x17e0, 0x1810, 0x1946, 0x19d0, 0x1a80, 0x1a90, 0x1b50,
    0x1bb0, 0x1c40, 0x1c50, 0xa620, 0xa8d0, 0xa900, 0xa9d0, 0xa9f0, 0xaa50, 0xabf0, 0xff10,
    0x104a0, 0x10d30, 0x11066, 0x110f0, 0x11136, 0x111d0, 0x112f0, 0x11450, 0x114d0, 0x11650,
    0x116c0, 0x11730, 0x118e0, 0x11950, 0x11c50, 0x11d50, 0x11da0, 0x16a60, 0x16ac0, 0x16b50,
    0x1d7ce, 0x1d7d8, 0x1d7e2, 0x1d7ec, 0x1d7f6, 0x1e140, 0x1e2f0, 0x1e950, 0x1fbf0]

/-- The character is in the run of ten that starts at `start`. -/
def inRun (c : Char) (start : Nat) : Bool := start ≤ c.toNat && c.toNat < start + 10

/-- The value of a decimal digit. -/
def digitValue (c : Char) : Option Nat := (digitZeros.find? (inRun c)).map (c.toNat - ·)

/-- `\d` -/
def isDecimalDigit (c : Char) : Bool := (digitValue c).isSome

/-- `int` of a run of decimal digits. -/
def number (ds : List Char) : Nat := ds.foldl (fun n d => 10 * n + (digitValue d).getD 0) 0

theorem digitValue_of_isDigit {c : Char} (h : c.isDigit = true) :
    digitValue c = some (c.toNat - 48) := by
  obtain ⟨hlow, hhigh⟩ := Char.isDigit_iff_toNat.mp h
  have hrun : inRun c 48 = true := by
    rw [inRun, Bool.and_eq_true, decide_eq_true_eq, decide_eq_true_eq]
    exact ⟨hlow, Nat.lt_succ_of_le hhigh⟩
  have hfind : digitZeros.find? (inRun c) = some 48 := List.find?_cons_of_pos hrun
  rw [digitValue, hfind]
  rfl

theorem isDecimalDigit_of_isDigit {c : Char} (h : c.isDigit = true) : isDecimalDigit c = true := by
  rw [isDecimalDigit, digitValue_of_isDigit h]
  rfl

theorem number_of_ascii {ds : List Char} (h : ∀ c ∈ ds, c.isDigit = true) :
    number ds = Nat.ofDigitChars 10 ds 0 := by
  have hfold : ∀ init, ds.foldl (fun n d => 10 * n + (digitValue d).getD 0) init =
      Nat.ofDigitChars 10 ds init := by
    induction ds with
    | nil => exact fun _ => rfl
    | cons c ds ih =>
      intro init
      have hc := digitValue_of_isDigit (h c List.mem_cons_self)
      rw [List.foldl_cons, hc, Nat.ofDigitChars_cons]
      exact ih (fun d hd => h d (List.mem_cons_of_mem c hd)) _
  exact hfold 0

end HybridOperator.Lib
