/-
  Counting by classes: the elements of a list, counted class by class over a list of classes
  without repetition that misses none of them, are counted once each.
-/
import Mathlib.Data.List.Dedup
import Mathlib.Algebra.BigOperators.Group.List.Basic
import Mathlib.Algebra.GroupWithZero.Nat

namespace HybridOperator.Lib.Tally

variable {α κ : Type} [DecidableEq κ]

theorem sum_map_indicator (ks : List κ) (k₀ : κ) :
    (ks.map fun k => if k₀ = k then 1 else 0).sum = ks.count k₀ := by
  induction ks with
  | nil => rfl
  | cons k ks ih =>
    rw [List.map_cons, List.sum_cons, ih, List.count_cons, Nat.add_comm]
    simp only [beq_iff_eq, eq_comm (a := k₀)]

/-- The elements whose class satisfies `p`, counted over the classes that satisfy `p`. -/
theorem sum_countP_filter (xs : List α) (f : α → κ) (ks : List κ) (hnd : ks.Nodup)
    (p : κ → Bool) (hcov : ∀ x ∈ xs, f x ∈ ks) :
    ((ks.filter p).map fun k => xs.countP fun x => f x = k).sum = xs.countP fun x => p (f x) := by
  induction xs with
  | nil => simp
  | cons x xs ih =>
    have hx : f x ∈ ks := hcov x List.mem_cons_self
    have hone : ((ks.filter p).map fun k => if f x = k then 1 else 0).sum =
        if p (f x) then 1 else 0 := by
      rw [sum_map_indicator]
      split
      · rename_i hp
        exact List.count_eq_one_of_mem (hnd.filter p) (List.mem_filter.mpr ⟨hx, hp⟩)
      · rename_i hp
        exact List.count_eq_zero.mpr fun h => hp (List.mem_filter.mp h).2
    simp only [List.countP_cons, decide_eq_true_eq]
    rw [List.sum_map_add, hone, ih fun y hy => hcov y (List.mem_cons_of_mem _ hy)]

theorem sum_map_filter {ι : Type} (ks : List ι) (p : ι → Bool) (f : ι → Nat) :
    ((ks.filter p).map f).sum = (ks.map fun k => if p k then f k else 0).sum := by
  induction ks with
  | nil => rfl
  | cons k ks ih =>
    rw [List.map_cons, List.sum_cons, List.filter_cons]
    split
    · rw [List.map_cons, List.sum_cons, ih]
    · rw [ih, Nat.zero_add]

end HybridOperator.Lib.Tally
