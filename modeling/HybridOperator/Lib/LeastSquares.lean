/-
  The least squares line through finitely many points `(x i, y i)` over an ordered field.

  A line fits best when no other has a smaller sum of squared distances (`IsFit`), which the two
  normal equations say (`isFit_iff`). They determine the slope: it is `cov x y / cov x x`, with
  `cov` the covariance times the square of the number of points. Its sign is that of `cov x y`,
  which Chebyshev's sum inequality gives for values that go along with or against `x`; the strict
  case is a double sum (`two_mul_cov`) of which one term is positive.
-/
import Mathlib.Algebra.Order.Chebyshev
import Mathlib.Algebra.BigOperators.Ring.Finset
import Mathlib.Algebra.Order.BigOperators.Group.Finset
import Mathlib.Tactic.FieldSimp
import Mathlib.Tactic.Linarith
import Mathlib.Tactic.LinearCombination
import Mathlib.Tactic.Positivity
import Mathlib.Tactic.Ring

namespace HybridOperator.Lib.LeastSquares

variable {ι K : Type} [Fintype ι] [Field K] [LinearOrder K] [IsStrictOrderedRing K]

def squaredError (x y : ι → K) (a b : K) : K := ∑ i, (y i - (a * x i + b)) ^ 2

/-- No line is closer to the points than the one of slope `a` through `(0, b)`. -/
def IsFit (x y : ι → K) (a b : K) : Prop :=
  ∀ a' b', squaredError x y a b ≤ squaredError x y a' b'

def cov (x y : ι → K) : K := Fintype.card ι * ∑ i, x i * y i - (∑ i, x i) * ∑ i, y i

/-! ## The normal equations -/

/-- The distances add up to nothing, also when each counts `x i` times. -/
structure Normal (x y : ι → K) (a b : K) : Prop where
  sum_residual : ∑ i, (y i - (a * x i + b)) = 0
  sum_mul_residual : ∑ i, x i * (y i - (a * x i + b)) = 0

omit [LinearOrder K] [IsStrictOrderedRing K] in
/-- The error of another line. -/
theorem squaredError_add (x y : ι → K) (a b s t : K) :
    squaredError x y (a + s) (b + t) = squaredError x y a b -
      2 * (s * ∑ i, x i * (y i - (a * x i + b)) + t * ∑ i, (y i - (a * x i + b))) +
      ∑ i, (s * x i + t) ^ 2 := by
  simp only [squaredError, Finset.mul_sum, ← Finset.sum_add_distrib, ← Finset.sum_sub_distrib]
  exact Finset.sum_congr rfl fun i _ => by ring

omit [Fintype ι] in
/-- A parabola through the origin that is nowhere negative has a horizontal tangent there. -/
theorem eq_zero_of_parabola {c e : K} (hc : 0 ≤ c) (h : ∀ t, 0 ≤ c * t ^ 2 - 2 * (t * e)) :
    e = 0 := by
  have hpos : 0 < c + 1 := by linarith
  have hone := h (e / (c + 1))
  have hsquare : c * (e / (c + 1)) ^ 2 - 2 * (e / (c + 1) * e) =
      -((c + 2) * (e / (c + 1)) ^ 2) := by
    field_simp
    ring
  rw [hsquare] at hone
  have hzero : (e / (c + 1)) ^ 2 = 0 := by
    have hsq := sq_nonneg (e / (c + 1))
    nlinarith
  rcases div_eq_zero_iff.mp (pow_eq_zero_iff two_ne_zero |>.mp hzero) with he | hc1
  · exact he
  · exact absurd hc1 hpos.ne'

theorem isFit_iff {x y : ι → K} {a b : K} : IsFit x y a b ↔ Normal x y a b := by
  constructor
  · intro h
    constructor
    · refine eq_zero_of_parabola (Nat.cast_nonneg (Fintype.card ι)) fun t => ?_
      have ht := h (a + 0) (b + t)
      rw [squaredError_add] at ht
      simp only [zero_mul, zero_add, Finset.sum_const, Finset.card_univ, nsmul_eq_mul] at ht
      linarith
    · have hsquares : 0 ≤ ∑ i, x i ^ 2 := Finset.sum_nonneg fun i _ => sq_nonneg (x i)
      refine eq_zero_of_parabola hsquares fun t => ?_
      have ht := h (a + t) (b + 0)
      rw [squaredError_add] at ht
      simp only [zero_mul, add_zero, mul_pow, ← Finset.mul_sum] at ht
      linarith
  · intro h a' b'
    have herror := squaredError_add x y a b (a' - a) (b' - b)
    rw [h.sum_residual, h.sum_mul_residual, add_sub_cancel, add_sub_cancel] at herror
    have hsquares : 0 ≤ ∑ i, ((a' - a) * x i + (b' - b)) ^ 2 :=
      Finset.sum_nonneg fun i _ => sq_nonneg _
    rw [herror]
    linarith

omit [LinearOrder K] [IsStrictOrderedRing K] in
theorem Normal.cov_eq {x y : ι → K} {a b : K} (h : Normal x y a b) :
    cov x y = a * cov x x := by
  have hsum : ∑ i, y i = a * ∑ i, x i + Fintype.card ι * b := by
    have h0 := h.sum_residual
    simp only [Finset.sum_sub_distrib, Finset.sum_add_distrib, ← Finset.mul_sum,
      Finset.sum_const, Finset.card_univ, nsmul_eq_mul] at h0
    exact sub_eq_zero.mp h0
  have hmul : ∑ i, x i * y i = a * ∑ i, x i * x i + b * ∑ i, x i := by
    have h0 := h.sum_mul_residual
    have hterm : ∀ i, x i * (y i - (a * x i + b)) =
        x i * y i - (a * (x i * x i) + b * x i) := fun i => by ring
    simp only [hterm, Finset.sum_sub_distrib, Finset.sum_add_distrib, ← Finset.mul_sum] at h0
    exact sub_eq_zero.mp h0
  rw [cov, cov, hsum, hmul]
  ring

/-- Where the points are not above each other, a line fits best. -/
theorem exists_isFit {x : ι → K} (hx : 0 < cov x x) (y : ι → K) :
    IsFit x y (cov x y / cov x x)
      ((∑ i, y i - cov x y / cov x x * ∑ i, x i) / Fintype.card ι) := by
  have hcard : (Fintype.card ι : K) ≠ 0 := by
    intro hzero
    have hempty : IsEmpty ι := Fintype.card_eq_zero_iff.mp (Nat.cast_eq_zero.mp hzero)
    rw [cov, hzero, Finset.univ_eq_empty, Finset.sum_empty] at hx
    simp at hx
  have hslope : cov x y / cov x x * cov x x = cov x y := div_mul_cancel₀ _ hx.ne'
  generalize cov x y / cov x x = a at hslope ⊢
  have hheight : Fintype.card ι * ((∑ i, y i - a * ∑ i, x i) / Fintype.card ι) =
      ∑ i, y i - a * ∑ i, x i := mul_div_cancel₀ _ hcard
  generalize (∑ i, y i - a * ∑ i, x i) / Fintype.card ι = b at hheight ⊢
  refine isFit_iff.mpr ⟨?_, ?_⟩
  · simp only [Finset.sum_sub_distrib, Finset.sum_add_distrib, ← Finset.mul_sum,
      Finset.sum_const, Finset.card_univ, nsmul_eq_mul]
    linear_combination -hheight
  · have hterm : ∀ i, x i * (y i - (a * x i + b)) =
        x i * y i - (a * (x i * x i) + b * x i) := fun i => by ring
    simp only [hterm, Finset.sum_sub_distrib, Finset.sum_add_distrib, ← Finset.mul_sum]
    refine mul_left_cancel₀ hcard ?_
    rw [cov, cov] at hslope
    linear_combination -hslope - (∑ i, x i) * hheight

/-! ## The sign of the covariance -/

omit [LinearOrder K] [IsStrictOrderedRing K] in
theorem two_mul_cov (x y : ι → K) : 2 * cov x y = ∑ i, ∑ j, (x i - x j) * (y i - y j) := by
  have hterm : ∀ i j, (x i - x j) * (y i - y j) =
      x i * y i - x i * y j - x j * y i + x j * y j := fun i j => by ring
  simp only [hterm, Finset.sum_add_distrib, Finset.sum_sub_distrib, Finset.sum_const,
    Finset.card_univ, nsmul_eq_mul, ← Finset.mul_sum, ← Finset.sum_mul, cov]
  ring

/-- Values that go along with `x`, and somewhere strictly so. -/
theorem cov_pos {x y : ι → K} (h : Monovary x y) {i j : ι} (hx : x i < x j) (hy : y i < y j) :
    0 < cov x y := by
  have hterm : ∀ k l, 0 ≤ (x k - x l) * (y k - y l) :=
    fun k l => monovary_iff_forall_mul_nonneg.mp h l k
  have hrow : ∀ k, 0 ≤ ∑ l, (x k - x l) * (y k - y l) :=
    fun k => Finset.sum_nonneg fun l _ => hterm k l
  have hone : 0 < ∑ l, (x j - x l) * (y j - y l) :=
    Finset.sum_pos' (fun l _ => hterm j l)
      ⟨i, Finset.mem_univ i, mul_pos (sub_pos.mpr hx) (sub_pos.mpr hy)⟩
  have hsum : 0 < 2 * cov x y := by
    rw [two_mul_cov]
    exact Finset.sum_pos' (fun k _ => hrow k) ⟨j, Finset.mem_univ j, hone⟩
  linarith

theorem cov_nonpos {x y : ι → K} (h : Antivary x y) : cov x y ≤ 0 :=
  sub_nonpos.mpr h.card_mul_sum_le_sum_mul_sum

theorem cov_self_pos {x : ι → K} {i j : ι} (h : x i < x j) : 0 < cov x x :=
  cov_pos (monovary_self x) h h

/-! ## The slope -/

section Slope

variable {x y : ι → K} {a b : K}

theorem IsFit.slope_eq (h : IsFit x y a b) (hx : 0 < cov x x) : a = cov x y / cov x x :=
  (eq_div_iff hx.ne').mpr (isFit_iff.mp h).cov_eq.symm

theorem IsFit.slope_nonpos (h : IsFit x y a b) (hx : 0 < cov x x) (hxy : Antivary x y) :
    a ≤ 0 := by
  rw [h.slope_eq hx]
  exact div_nonpos_of_nonpos_of_nonneg (cov_nonpos hxy) hx.le

theorem IsFit.slope_pos (h : IsFit x y a b) (hx : 0 < cov x x) (hxy : Monovary x y) {i j : ι}
    (hi : x i < x j) (hj : y i < y j) : 0 < a := by
  rw [h.slope_eq hx]
  exact div_pos (cov_pos hxy hi hj) hx

/-- Points on a line have its slope. -/
theorem IsFit.slope_line (h : IsFit x y a b) (hx : 0 < cov x x) {d e : K}
    (hline : ∀ i, y i = d * x i + e) : a = d := by
  have hnormal : Normal x y d e := by
    constructor
    · exact Finset.sum_eq_zero fun i _ => by rw [hline, sub_self]
    · exact Finset.sum_eq_zero fun i _ => by rw [hline, sub_self, mul_zero]
  rw [h.slope_eq hx, hnormal.cov_eq, mul_div_cancel_right₀ d hx.ne']

omit [LinearOrder K] [IsStrictOrderedRing K] in
theorem cov_add_const (x y : ι → K) (c : K) : cov x (fun i => y i + c) = cov x y := by
  simp only [cov, mul_add, Finset.sum_add_distrib, ← Finset.sum_mul, Finset.sum_const,
    Finset.card_univ, nsmul_eq_mul]
  ring

/-- The slope does not depend on the height of the points. -/
theorem IsFit.slope_add_const (h : IsFit x y a b) (hx : 0 < cov x x) {c a' b' : K}
    (h' : IsFit x (fun i => y i + c) a' b') : a' = a := by
  rw [h.slope_eq hx, h'.slope_eq hx, cov_add_const]

end Slope

end HybridOperator.Lib.LeastSquares
