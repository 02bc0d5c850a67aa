/-
  Bounded windows over an unbounded history.

  A buffer that appends and then drops from the front until at most `n` elements are left
  holds the last `n` elements of everything ever appended. Both usual ways of trimming are
  covered: re-slicing to the last `n` (`push`), and dropping one element when the bound is
  exceeded (`shift`).

  Proved: `push_rtake` and `shift_rtake`, the steps from the last `n` of a history to the last
  `n` of the history with one more element.
-/
import Mathlib.Data.List.DropRight

namespace HybridOperator.Lib.Window

variable {α : Type}

/-- Append, then keep the last `n`. -/
def push (n : Nat) (w : List α) (x : α) : List α :=
  if (w ++ [x]).length > n then (w ++ [x]).drop ((w ++ [x]).length - n) else w ++ [x]

/-- Append, then drop the oldest element when there are more than `n`. -/
def shift (n : Nat) (w : List α) (x : α) : List α :=
  if (w ++ [x]).length > n then (w ++ [x]).tail else w ++ [x]

theorem rtake_of_length_le {l : List α} {n : Nat} (h : l.length ≤ n) : l.rtake n = l := by
  rw [List.rtake, Nat.sub_eq_zero_of_le h, List.drop_zero]

theorem length_rtake (l : List α) (n : Nat) : (l.rtake n).length = min n l.length := by
  rw [List.rtake, List.length_drop]
  omega

/-- Elements outside the window do not come back: only the window of the past counts. -/
theorem rtake_append_rtake (l m : List α) (n : Nat) :
    (l.rtake n ++ m).rtake n = (l ++ m).rtake n := by
  simp only [List.rtake_eq_reverse_take_reverse, List.reverse_append, List.reverse_reverse,
    List.take_append, List.take_take]
  congr 3
  omega

theorem push_eq_rtake (n : Nat) (w : List α) (x : α) : push n w x = (w ++ [x]).rtake n := by
  unfold push
  split
  · rfl
  · exact (rtake_of_length_le (by omega)).symm

theorem push_rtake (n : Nat) (h : List α) (x : α) :
    push n (h.rtake n) x = (h ++ [x]).rtake n := by
  rw [push_eq_rtake, rtake_append_rtake]

/-- Dropping one element is enough as long as the window was within its bound. -/
theorem shift_eq_push (n : Nat) (w : List α) (x : α) (hw : w.length ≤ n) :
    shift n w x = push n w x := by
  unfold shift push
  split
  · have hlen : (w ++ [x]).length - n = 1 := by
      simp only [List.length_append, List.length_singleton] at *
      omega
    rw [hlen, List.drop_one]
  · rfl

theorem shift_rtake (n : Nat) (h : List α) (x : α) :
    shift n (h.rtake n) x = (h ++ [x]).rtake n := by
  rw [shift_eq_push n _ x (by rw [length_rtake]; omega), push_rtake]

end HybridOperator.Lib.Window
