/-
  Go's `int64`, which is Lean's `Int64`: additions wrap, and a division of numbers that are not
  negative rounds down.

  When numbers are divided one by one and then added, what each division leaves is lost
  (`sum_div_add_sum_mod`). Against the quotient of the sum the error is less than one exactly
  when what is left adds up to less than the divisor and the sum fits (`sum_div_error_lt_iff`).
-/
import Mathlib.Algebra.BigOperators.Group.List.Basic
import Mathlib.Algebra.Order.Field.Basic
import Mathlib.Algebra.Order.Field.Rat
import Mathlib.Data.Rat.Cast.Order
import Mathlib.Tactic.FieldSimp
import Mathlib.Tactic.Linarith
import Mathlib.Tactic.Ring

namespace HybridOperator.Lib.GoInt

theorem sum_div_add_sum_mod (ns : List Nat) (m : Nat) :
    m * (ns.map (· / m)).sum + (ns.map (· % m)).sum = ns.sum := by
  induction ns with
  | nil => rfl
  | cons n ns ih =>
    have hn := Nat.div_add_mod n m
    rw [List.map_cons, List.map_cons, List.sum_cons, List.sum_cons, List.sum_cons, Nat.mul_add]
    omega

theorem toInt_foldl_add (xs : List Int64) (a : Int64) :
    (xs.foldl (· + ·) a).toInt = (a.toInt + (xs.map Int64.toInt).sum).bmod (2 ^ 64) := by
  induction xs generalizing a with
  | nil =>
    rw [List.foldl_nil, List.map_nil, List.sum_nil, Int.add_zero]
    exact (Int64.toInt_bmod_size a).symm
  | cons x xs ih =>
    rw [List.foldl_cons, ih, Int64.toInt_add, Int.bmod_add_bmod, List.map_cons, List.sum_cons,
      Int.add_assoc]

theorem foldl_add (xs : List Int64) (a : Int64) :
    xs.foldl (· + ·) a = a + xs.foldl (· + ·) 0 := by
  induction xs generalizing a with
  | nil => exact (Int64.add_zero a).symm
  | cons x xs ih =>
    rw [List.foldl_cons, List.foldl_cons, ih (a + x), ih (0 + x), Int64.zero_add,
      Int64.add_assoc]

/-- A number from `2 ^ 63` on is not what it is wrapped to. -/
theorem bmod_eq_or_lt {n : Nat} :
    (n < 2 ^ 63 ∧ (n : Int).bmod (2 ^ 64) = n) ∨
      (2 ^ 63 ≤ n ∧ (n : Int).bmod (2 ^ 64) + 1 ≤ n) := by
  rcases Nat.lt_or_ge n (2 ^ 63) with h | h
  · exact Or.inl ⟨h, Int.bmod_eq_of_le (by omega) (by omega)⟩
  · have hlt : (n : Int).bmod (2 ^ 64) < ((2 ^ 64 : Nat) + 1) / 2 :=
      Int.bmod_lt (by decide)
    exact Or.inr ⟨h, by omega⟩

theorem sum_div_error_lt_iff (ns : List Nat) {m : Nat} (hm : 0 < m) :
    |((((ns.map (· / m)).sum : Nat) : Int).bmod (2 ^ 64) : ℚ) - (ns.sum : ℚ) / m| < 1 ↔
      (ns.map (· % m)).sum < m ∧ (ns.map (· / m)).sum < 2 ^ 63 := by
  have hsum := sum_div_add_sum_mod ns m
  generalize (ns.map (· / m)).sum = quotients at hsum ⊢
  generalize (ns.map (· % m)).sum = left at hsum ⊢
  have hmq : (0 : ℚ) < m := Nat.cast_pos.mpr hm
  have hexact : (ns.sum : ℚ) / m = quotients + left / m := by
    rw [← hsum]
    push_cast
    field_simp
  have hleft : (0 : ℚ) ≤ left / m := div_nonneg (Nat.cast_nonneg left) hmq.le
  rw [hexact]
  rcases bmod_eq_or_lt (n := quotients) with ⟨hfits, hwrap⟩ | ⟨hlarge, hwrap⟩
  · rw [hwrap, and_iff_left hfits]
    have herror : |((quotients : Int) : ℚ) - (quotients + left / m)| = left / m := by
      rw [Int.cast_natCast, sub_add_cancel_left, abs_neg, abs_of_nonneg hleft]
    rw [herror, div_lt_one hmq, Nat.cast_lt]
  · refine iff_of_false (fun herror => ?_) fun h => absurd h.2 (Nat.not_lt.mpr hlarge)
    generalize (quotients : Int).bmod (2 ^ 64) = wrapped at hwrap herror
    have hone : (wrapped : ℚ) + 1 ≤ quotients := by exact_mod_cast hwrap
    have hlow := (abs_lt.mp herror).1
    linarith

end HybridOperator.Lib.GoInt
