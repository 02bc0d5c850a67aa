/-
  The restart decision of `receive_telemetry` in exact arithmetic.

  The assumption is `ExactNumpy`: `np.polyfit` returns the slope of a least squares line, and the
  sum and the comparisons on it are those of the rational numbers. Rounding is left out.

  `action` is the action that is decided when the limit is another rational number.

  Proved: `restart_law`. Readings that do not rise never restart a pod; readings that do not
  fall, are not all equal and end at the limit do; readings that rise in equal steps do exactly
  when the next one would exceed the limit; and the readings and the limit may be shifted.
-/
import Mathlib.Algebra.BigOperators.Fin
import Mathlib.Data.Fin.VecNotation
import Mathlib.Tactic.FinCases
import HybridOperator.Brain.TelemetryRuns
import HybridOperator.Lib.LeastSquares

namespace HybridOperator.Brain

open HybridOperator.Lib HybridOperator.Lib.LeastSquares

/-- The readings are numbers, `y 0, y 1, …`. -/
structure Reads {n : Nat} (history : List Json) (y : Fin n → ℚ) : Prop where
  numbers : ∀ m ∈ history, isNumber m = true
  values : history.map exactValue = List.ofFn y

/-- `np.arange(n)` -/
def arange (n : Nat) (i : Fin n) : ℚ := (i : ℕ)

/-- Nothing is rounded. -/
structure ExactNumpy (np : Numpy ℚ) : Prop where
  polyfit : ∀ {n : Nat} {history : List Json} {y : Fin n → ℚ}, 2 ≤ n → Reads history y →
    ∃ slope intercept, np.polyfit history = some slope ∧ IsFit (arange n) y slope intercept
  positive : ∀ slope, np.positive slope = true ↔ 0 < slope
  add : ∀ m slope, isNumber m = true → np.add m slope = exactValue m + slope
  exceeds : ∀ projectedMem limit, np.exceeds projectedMem limit = true ↔ limit < projectedMem

/-- The action, with `limit` for `MEMORY_LIMIT_MB`. -/
def action (np : Numpy ℚ) (limit : ℚ) (history : List Json) : Option String :=
  if history.length ≥ 3 then
    match np.polyfit history with
    | none => none
    | some slope =>
        if np.positive slope then
          let projectedMem := np.add (history.getLastD .null) slope
          if projectedMem > limit then some "RESTART_PROACTIVE" else some "NONE"
        else some "NONE"
  else some "NONE"

theorem decision_action {np : Numpy ℚ} (hnp : ExactNumpy np) (history : List Json) :
    (decision np history).map Decision.action = action np memoryLimitMB history := by
  unfold decision action
  dsimp only
  split
  · cases np.polyfit history with
    | none => rfl
    | some slope =>
      dsimp only
      split
      · by_cases hexceeds : np.exceeds (np.add (history.getLastD .null) slope) memoryLimitMB
        · rw [if_pos hexceeds, if_pos ((hnp.exceeds _ _).mp hexceeds)]
          rfl
        · rw [if_neg hexceeds, if_neg fun h => hexceeds ((hnp.exceeds _ _).mpr h)]
          rfl
      · rfl
  · rfl

/-! ## The slope of a window -/

theorem strictMono_arange (n : Nat) : StrictMono (arange n) := fun _ _ h => Nat.cast_lt.mpr h

theorem cov_arange_pos {n : Nat} (hn : 0 < n) :
    0 < cov (arange (n + 1)) (arange (n + 1)) := by
  have hlt : (0 : Fin (n + 1)) < Fin.last n := by
    rw [Fin.lt_def, Fin.val_zero, Fin.val_last]
    exact hn
  exact cov_self_pos (strictMono_arange (n + 1) hlt)

section Fit

variable {n : Nat} {y : Fin (n + 1) → ℚ} {slope intercept : ℚ}

theorem slope_nonpos (hn : 2 ≤ n) (hfit : IsFit (arange (n + 1)) y slope intercept)
    (hy : Antitone y) : slope ≤ 0 :=
  hfit.slope_nonpos (cov_arange_pos (by omega)) ((strictMono_arange (n + 1)).monotone.antivary hy)

theorem slope_pos (hn : 2 ≤ n) (hfit : IsFit (arange (n + 1)) y slope intercept)
    (hy : Monotone y) (hne : ∃ i j, y i ≠ y j) : 0 < slope := by
  obtain ⟨i, j, hij⟩ : ∃ i j, y i < y j := by
    obtain ⟨i, j, hij⟩ := hne
    rcases lt_or_gt_of_ne hij with hlt | hlt
    · exact ⟨i, j, hlt⟩
    · exact ⟨j, i, hlt⟩
  have hvary := (strictMono_arange (n + 1)).monotone.monovary hy
  exact hfit.slope_pos (cov_arange_pos (by omega)) hvary
    (strictMono_arange (n + 1) (hy.reflect_lt hij)) hij

end Fit

/-! ## The decision -/

section Decision

variable {np : Numpy ℚ} {n : Nat} {history : List Json} {y : Fin (n + 1) → ℚ}

theorem last_reading (hy : Reads history y) :
    isNumber (history.getLastD .null) = true ∧
      exactValue (history.getLastD .null) = y (Fin.last n) := by
  have hvalues := hy.values
  rw [List.ofFn_succ_last] at hvalues
  obtain ⟨before, last, rfl⟩ : ∃ before last, history = before ++ [last] := by
    refine ⟨history.dropLast, history.getLast ?_, (List.dropLast_append_getLast _).symm⟩
    rintro rfl
    simp at hvalues
  rw [List.map_append, List.map_singleton] at hvalues
  have hlast := List.append_inj_right' hvalues rfl
  rw [List.getLastD_concat]
  exact ⟨hy.numbers last (by simp), List.singleton_inj.mp hlast⟩

/-- What is decided, by the slope of a least squares line. -/
theorem action_of_reads (hnp : ExactNumpy np) (hn : 2 ≤ n) (hy : Reads history y) :
    ∃ slope intercept, IsFit (arange (n + 1)) y slope intercept ∧ ∀ limit,
      action np limit history = some
        (if 0 < slope ∧ limit < y (Fin.last n) + slope then "RESTART_PROACTIVE" else "NONE") := by
  obtain ⟨slope, intercept, hslope, hfit⟩ := hnp.polyfit (by omega) hy
  obtain ⟨hnumber, hlast⟩ := last_reading hy
  have hlength : history.length ≥ 3 := by
    have hmap := congrArg List.length hy.values
    rw [List.length_map, List.length_ofFn] at hmap
    omega
  refine ⟨slope, intercept, hfit, fun limit => ?_⟩
  rw [action, if_pos hlength, hslope]
  dsimp only
  rw [hnp.add _ _ hnumber, hlast]
  by_cases hpos : 0 < slope
  · rw [if_pos ((hnp.positive slope).mpr hpos)]
    by_cases hlimit : limit < y (Fin.last n) + slope
    · rw [if_pos hlimit, if_pos ⟨hpos, hlimit⟩]
    · rw [if_neg hlimit, if_neg fun h => hlimit h.2]
  · rw [if_neg fun h => hpos ((hnp.positive slope).mp h), if_neg fun h => hpos h.1]

theorem restart_law (hnp : ExactNumpy np) (hn : 2 ≤ n) (hy : Reads history y) :
    (Antitone y → (decision np history).map Decision.action = some "NONE") ∧
    (Monotone y → (∃ i j, y i ≠ y j) → memoryLimitMB ≤ y (Fin.last n) →
      (decision np history).map Decision.action = some "RESTART_PROACTIVE") ∧
    (∀ d, 0 < d → (∀ i, y i = y 0 + i * d) →
      ((decision np history).map Decision.action = some "RESTART_PROACTIVE" ↔
        memoryLimitMB < y (Fin.last n) + d)) ∧
    (decision np history).map Decision.action = action np memoryLimitMB history ∧
    ∀ c history', Reads history' (fun i => y i + c) →
      ∀ limit, action np (limit + c) history' = action np limit history := by
  obtain ⟨slope, intercept, hfit, haction⟩ := action_of_reads hnp hn hy
  have hdecision := decision_action hnp history
  refine ⟨fun hanti => ?_, fun hmono hne hlast => ?_, fun d hd hline => ?_, hdecision,
    fun c history' hy' limit => ?_⟩
  · have hslope := slope_nonpos hn hfit hanti
    rw [hdecision, haction, if_neg fun h => absurd h.1 (not_lt.mpr hslope)]
  · have hslope := slope_pos hn hfit hmono hne
    have hexceeds : (memoryLimitMB : ℚ) < y (Fin.last n) + slope := by linarith
    rw [hdecision, haction, if_pos ⟨hslope, hexceeds⟩]
  · have hslope : slope = d := by
      refine hfit.slope_line (cov_arange_pos (by omega)) (e := y 0) fun i => ?_
      rw [hline i, arange]
      ring
    rw [hdecision, haction, hslope]
    split
    · rename_i h
      exact iff_of_true rfl h.2
    · rename_i h
      exact iff_of_false (by decide) fun hlimit => h ⟨hd, hlimit⟩
  · obtain ⟨slope', intercept', hfit', haction'⟩ := action_of_reads hnp hn hy'
    have hslope : slope' = slope := hfit.slope_add_const (cov_arange_pos (by omega)) hfit'
    have hlimit : limit + c < y (Fin.last n) + c + slope ↔ limit < y (Fin.last n) + slope := by
      rw [add_right_comm, add_lt_add_iff_right]
    rw [haction', haction, hslope]
    exact congrArg some (if_congr (and_congr_right fun _ => hlimit) rfl rfl)

end Decision

/-! ### numpy in exact arithmetic -/

/-- `exactNumpy` for numbers of any size. -/
def rationalNumpy : Numpy ℚ where
  polyfit history :=
    if history.all isNumber then some (leastSquares (history.map exactValue)) else none
  positive := exactNumpy.positive
  add := exactNumpy.add
  exceeds := exactNumpy.exceeds
  fixed1 := exactNumpy.fixed1
  polyfit_numbers history _ h := by
    have hnumbers : history.all isNumber = true :=
      List.all_eq_true.mpr fun m hm => isNumber_of_machineNumber (h m hm)
    rw [if_pos hnumbers]
    rfl
  polyfit_str history s h := by
    rw [if_neg]
    intro hall
    exact Bool.false_ne_true (List.all_eq_true.mp hall _ h)

theorem leastSquares_ofFn {n : Nat} (y : Fin n → ℚ) :
    leastSquares (List.ofFn y) = cov (arange n) y / cov (arange n) (arange n) := by
  have hxs : ((List.range n).map fun i => (i : ℚ) : List ℚ) = List.ofFn (arange n) := by
    rw [List.map_id', bind_pure_comp, List.map_eq_map]
    refine List.ext_getElem (by simp) fun i hi hi' => ?_
    simp [arange]
  have hmul : ∀ x z : Fin n → ℚ, List.zipWith (· * ·) (List.ofFn x) (List.ofFn z) =
      List.ofFn fun i => x i * z i := by
    intro x z
    refine List.ext_getElem (by simp) fun i hi hi' => ?_
    simp
  rw [leastSquares, List.length_ofFn, hxs, hmul, List.map_ofFn, List.sum_ofFn, List.sum_ofFn,
    List.sum_ofFn, List.sum_ofFn, cov, cov, Fintype.card_fin]
  rfl

theorem exact_rationalNumpy : ExactNumpy rationalNumpy where
  polyfit {n history y} hn hy := by
    obtain ⟨k, rfl⟩ : ∃ k, n = k + 1 := ⟨n - 1, by omega⟩
    have hnumbers : history.all isNumber = true := List.all_eq_true.mpr hy.numbers
    refine ⟨_, _, ?_, exists_isFit ?_ y⟩
    · rw [← leastSquares_ofFn, ← hy.values]
      exact if_pos hnumbers
    · exact cov_arange_pos (by omega)
  positive slope := decide_eq_true_iff
  add m slope _ := rfl
  exceeds projectedMem limit := decide_eq_true_iff

/-- 100, 300 and 500 MB: the next reading would exceed the limit. -/
theorem restart_law_leak :
    (decision rationalNumpy [.int 100, .int 300, .int 500]).map Decision.action =
        some "RESTART_PROACTIVE" ↔ memoryLimitMB < (500 : ℚ) + 200 := by
  have hy : Reads [.int 100, .int 300, .int 500] ![100, 300, 500] := by
    refine ⟨?_, ?_⟩
    · decide
    · decide
  exact (restart_law exact_rationalNumpy (by decide) hy).2.2.1 200 (by norm_num)
    fun i => by fin_cases i <;> norm_num

end HybridOperator.Brain
