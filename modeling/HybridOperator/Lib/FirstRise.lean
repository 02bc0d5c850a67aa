/-
  Comparing two lists at their first difference. `rise xs ys` is the place of it when `ys` is the
  greater one there, as versions are compared component by component.

  Proved: `rise_map_iff`. A monotone map may identify values. It leaves the rise as it is exactly
  when it keeps the values at the first difference apart, or the second list is the smaller one
  there and what follows the difference does not rise either (`Kept`).
-/
import Mathlib.Order.Lattice

namespace HybridOperator.Lib

variable {α β : Type} [LinearOrder α] [LinearOrder β]

/-- The place of the first difference of two lists, when the second is greater there. -/
def rise : List α → List α → Option Nat
  | x :: xs, y :: ys =>
      if x < y then some 0 else if y < x then none else (rise xs ys).map (· + 1)
  | _, _ => none

/-- The map does not hide the first difference, or hides one that is no rise behind none. -/
def Kept (f : α → β) (xs ys : List α) : Prop :=
  ∀ same x y xs' ys', xs = same ++ x :: xs' → ys = same ++ y :: ys' → x ≠ y →
    f x ≠ f y ∨ y < x ∧ rise (xs'.map f) (ys'.map f) = none

theorem rise_nil_left (ys : List α) : rise [] ys = none := by
  cases ys <;> rfl

theorem rise_of_lt {x y : α} (h : x < y) (xs ys : List α) : rise (x :: xs) (y :: ys) = some 0 :=
  if_pos h

theorem rise_of_gt {x y : α} (h : y < x) (xs ys : List α) : rise (x :: xs) (y :: ys) = none :=
  (if_neg (not_lt_of_gt h)).trans (if_pos h)

theorem rise_of_eq {x y : α} (h : x = y) (xs ys : List α) :
    rise (x :: xs) (y :: ys) = (rise xs ys).map (· + 1) := by
  rw [rise, h, if_neg (lt_irrefl y), if_neg (lt_irrefl y)]

theorem rise_lt_length {xs ys : List α} {k : Nat} (h : rise xs ys = some k) : k < xs.length := by
  induction xs generalizing ys k with
  | nil =>
    rw [rise_nil_left] at h
    cases h
  | cons x xs ih =>
    cases ys with
    | nil => cases h
    | cons y ys =>
      rcases lt_trichotomy x y with hlt | heq | hgt
      · rw [rise_of_lt hlt] at h
        obtain rfl := Option.some.inj h
        exact Nat.succ_pos _
      · rw [rise_of_eq heq, Option.map_eq_some_iff] at h
        obtain ⟨j, hj, rfl⟩ := h
        exact Nat.succ_lt_succ (ih hj)
      · rw [rise_of_gt hgt] at h
        cases h

/-! ## Through a monotone map -/

theorem kept_nil_left (f : α → β) (ys : List α) : Kept f [] ys := by
  intro same x y xs' ys' hx
  exact absurd hx.symm (by simp)

theorem kept_nil_right (f : α → β) (xs : List α) : Kept f xs [] := by
  intro same x y xs' ys' _ hy
  exact absurd hy.symm (by simp)

theorem kept_cons_self (f : α → β) (x : α) (xs ys : List α) :
    Kept f (x :: xs) (x :: ys) ↔ Kept f xs ys := by
  constructor
  · intro h same u v us vs hu hv hne
    exact h (x :: same) u v us vs (by rw [hu]; rfl) (by rw [hv]; rfl) hne
  · intro h same u v us vs hu hv hne
    cases same with
    | nil =>
      obtain ⟨rfl, rfl⟩ := List.cons.inj hu
      obtain ⟨rfl, rfl⟩ := List.cons.inj hv
      exact absurd rfl hne
    | cons w same =>
      exact h same u v us vs (List.cons.inj hu).2 (List.cons.inj hv).2 hne

theorem kept_cons_of_ne (f : α → β) {x y : α} (hne : x ≠ y) (xs ys : List α) :
    Kept f (x :: xs) (y :: ys) ↔ f x ≠ f y ∨ y < x ∧ rise (xs.map f) (ys.map f) = none := by
  constructor
  · intro h
    exact h [] x y xs ys rfl rfl hne
  · intro h same u v us vs hu hv _
    cases same with
    | nil =>
      obtain ⟨rfl, rfl⟩ := List.cons.inj hu
      obtain ⟨rfl, rfl⟩ := List.cons.inj hv
      exact h
    | cons w same =>
      exact absurd ((List.cons.inj hu).1.trans (List.cons.inj hv).1.symm) hne

theorem rise_map_iff {f : α → β} (hf : Monotone f) (xs ys : List α) :
    rise (xs.map f) (ys.map f) = rise xs ys ↔ Kept f xs ys := by
  induction xs generalizing ys with
  | nil =>
    rw [List.map_nil, rise_nil_left, rise_nil_left]
    exact iff_of_true rfl (kept_nil_left f ys)
  | cons x xs ih =>
    cases ys with
    | nil => exact iff_of_true rfl (kept_nil_right f _)
    | cons y ys =>
      rw [List.map_cons, List.map_cons]
      rcases lt_trichotomy x y with hlt | rfl | hgt
      · rw [kept_cons_of_ne f (ne_of_lt hlt), rise_of_lt hlt]
        rcases lt_or_eq_of_le (hf (le_of_lt hlt)) with hflt | hfeq
        · exact iff_of_true (rise_of_lt hflt _ _) (Or.inl (ne_of_lt hflt))
        · refine iff_of_false ?_ ?_
          · rw [rise_of_eq hfeq, Option.map_eq_some_iff]
            exact fun ⟨k, _, hk⟩ => Nat.succ_ne_zero k hk
          · rw [not_or]
            exact ⟨not_not.mpr hfeq, fun h => lt_asymm hlt h.1⟩
      · rw [kept_cons_self, rise_of_eq rfl, rise_of_eq rfl, ← ih]
        exact ⟨fun h => Option.map_injective Nat.succ_injective h, fun h => by rw [h]⟩
      · rw [kept_cons_of_ne f (ne_of_gt hgt), rise_of_gt hgt]
        rcases lt_or_eq_of_le (hf (le_of_lt hgt)) with hfgt | hfeq
        · exact iff_of_true (rise_of_gt hfgt _ _) (Or.inl (ne_of_gt hfgt))
        · rw [rise_of_eq hfeq.symm, Option.map_eq_none_iff]
          exact ⟨fun h => Or.inr ⟨hgt, h⟩, fun h => (h.resolve_left (not_not.mpr hfeq.symm)).2⟩

end HybridOperator.Lib
