import Mathlib
import NmsLib.Oracle.Basic
import NmsLib.Float

/-!
# Oracles prune only the subtree away from the query

`RespectsSide d dq M`: `d` is one-sided only towards the query's side of the median, left-only
when `dq < M` and right-only when `M < dq`, so a query at the median visits both subtrees
(`RespectsSide.eq_kVisitBoth`), where objects at distance `M` from the pivot may lie.

* `classify_respects_side`: all three oracles respect the side for a non-negative radius, each
  by its own route (`PolynomialPruner` by `0 ^ e = 0`, `TriangIneq` by the sign of
  `α (M - dq)`, `SamplingOracle` by its explicit equality test).
* `triangIneq_classify_eq_polynomial`: with `dist_t = double`, `TriangIneq` decides as the
  polynomial pruner with exponents 1, except for a negative radius `MaxDist < αL (M - dq)`
  (rounded) with `M < dq`, where the triangle oracle goes left and the polynomial pruner right
  (in exact arithmetic: `triangIneq_classify_ne_polynomial`). With `dist_t = float` the two
  differ also at a non-negative radius (`classifyIn_float_differ`): the polynomial pruner
  rounds `M - dq` to `float`, the triangle oracle computes it in `double`.
-/

namespace Similarity

open VPTreeVisitDecision

variable {R : Type} [LinearOrderedField R]

/-- `d` is left-only only for a query left of the median, right-only only right of it. -/
def RespectsSide (d : VPTreeVisitDecision) (dq M : R) : Prop :=
  (d = kVisitLeft → dq < M) ∧ (d = kVisitRight → M < dq)

theorem RespectsSide.eq_kVisitBoth {d : VPTreeVisitDecision} {x : R} (h : RespectsSide d x x) :
    d = kVisitBoth := by
  cases d
  · exact absurd (h.1 rfl) (lt_irrefl x)
  · exact absurd (h.2 rfl) (lt_irrefl x)
  · rfl

/-- A radius below `α · 0 ^ e` with `e ≥ 1` is negative. -/
theorem neg_of_lt_mul_zero_pow {r α : R} {e : ℕ} (he : 1 ≤ e) (h : r < α * (0 : R) ^ e) : r < 0 := by
  rwa [zero_pow (by omega), mul_zero] at h

theorem PolynomialPruner.respectsSide {o : PolynomialPruner R} (hv : o.Valid) (dq M : R)
    {r : R} (hr : 0 ≤ r) : RespectsSide (o.Classify dq r M) dq M := by
  refine ⟨fun h => ?_, fun h => ?_⟩
  · obtain ⟨hle, hlt⟩ := (o.Classify_eq_kVisitLeft dq r M).1 h
    refine lt_of_le_of_ne hle fun he => ?_
    rw [he, sub_self] at hlt
    exact absurd (neg_of_lt_mul_zero_pow hv.exp_left_pos hlt) (not_lt.2 hr)
  · obtain ⟨-, hle, hlt⟩ := (o.Classify_eq_kVisitRight dq r M).1 h
    refine lt_of_le_of_ne hle fun he => ?_
    rw [he, sub_self] at hlt
    exact absurd (neg_of_lt_mul_zero_pow hv.exp_right_pos hlt) (not_lt.2 hr)

theorem TriangIneq.respectsSide {o : TriangIneq R} (hL : 0 < o.alpha_left_)
    (hR : 0 < o.alpha_right_) (dq M : R) {r : R} (hr : 0 ≤ r) :
    RespectsSide (o.Classify dq r M) dq M := by
  refine ⟨fun h => ?_, fun h => ?_⟩
  · have := (o.Classify_eq_kVisitLeft dq r M).1 h
    exact sub_pos.1 (pos_of_mul_pos_right (hr.trans_lt this) hL.le)
  · have := ((o.Classify_eq_kVisitRight dq r M).1 h).2
    exact sub_pos.1 (pos_of_mul_pos_right (hr.trans_lt this) hR.le)

theorem SamplingOracle.respectsSide (o : SamplingOracle R) (dq MaxDist M : R) :
    RespectsSide (o.Classify dq MaxDist M) dq M := by
  rw [o.Classify_eq]
  cases hq : o.pruneRadius dq M with
  | none => exact ⟨nofun, nofun⟩
  | some MaxQueryR =>
    have hne := o.pruneRadius_ne hq
    dsimp only
    split_ifs with h1 h2
    · exact ⟨nofun, nofun⟩
    · exact ⟨fun _ => h2, nofun⟩
    · exact ⟨nofun, fun _ => lt_of_le_of_ne (not_lt.1 h2) (Ne.symm hne)⟩

theorem classify_respects_side (p : PolynomialPruner R) (hp : p.Valid) (t : TriangIneq R)
    (ht : 0 < t.alpha_left_ ∧ 0 < t.alpha_right_) (s : SamplingOracle R) (dq MaxDist M : R)
    (hr : 0 ≤ MaxDist) :
    (RespectsSide (p.Classify dq MaxDist M) dq M ∧ RespectsSide (t.Classify dq MaxDist M) dq M ∧
      RespectsSide (s.Classify dq MaxDist M) dq M) ∧
    (p.Classify M MaxDist M = kVisitBoth ∧ t.Classify M MaxDist M = kVisitBoth ∧
      s.Classify M MaxDist M = kVisitBoth) :=
  ⟨⟨p.respectsSide hp dq M hr, t.respectsSide ht.1 ht.2 dq M hr, s.respectsSide dq MaxDist M⟩,
    (p.respectsSide hp M M hr).eq_kVisitBoth, (t.respectsSide ht.1 ht.2 M M hr).eq_kVisitBoth,
    (s.respectsSide M MaxDist M).eq_kVisitBoth⟩

theorem classify_respects_side_at_median :
    (PolynomialPruner.initial : PolynomialPruner ℚ).Valid ∧ (0 < (1 : ℚ) ∧ 0 < (1 : ℚ)) ∧
      (0 : ℚ) ≤ 0 ∧
      ((PolynomialPruner.initial.Classify (1 : ℚ) 0 1 = kVisitBoth ∧
        (TriangIneq.mk (1 : ℚ) 1).Classify 1 0 1 = kVisitBoth ∧
        (SamplingOracle.mk false [(1 : ℚ)] [2]).Classify 1 0 1 = kVisitBoth)) :=
  have hv : (PolynomialPruner.initial : PolynomialPruner ℚ).Valid :=
    ⟨one_pos, one_pos, le_rfl, le_rfl⟩
  ⟨hv, ⟨one_pos, one_pos⟩, le_rfl,
    (classify_respects_side PolynomialPruner.initial hv (TriangIneq.mk (1 : ℚ) 1) ⟨one_pos, one_pos⟩
      (SamplingOracle.mk false [(1 : ℚ)] [2]) 1 0 1 le_rfl).2⟩

/-! ## `TriangIneq` against the polynomial pruner

With `dist_t = double` both oracles compute their differences and products in `double`, so they
round with one `r`; the proofs use of `r` only that it is monotone and fixes `0`, so that it
keeps the sign of what it rounds. -/

/-- A monotone rounding fixing `0` keeps the sign of `α · r x` for `α > 0`. -/
theorem round_mul_round_nonneg {r : R → R} (hr : Monotone r) (h0 : r 0 = 0) {α x : R}
    (hα : 0 < α) (hx : 0 ≤ x) : 0 ≤ r (α * r x) :=
  h0 ▸ hr (mul_nonneg hα.le (h0 ▸ hr hx))

theorem round_mul_round_nonpos {r : R → R} (hr : Monotone r) (h0 : r 0 = 0) {α x : R}
    (hα : 0 < α) (hx : x ≤ 0) : r (α * r x) ≤ 0 :=
  h0 ▸ hr (mul_nonpos_of_nonneg_of_nonpos hα.le (h0 ▸ hr hx))

section Agree

variable {αL αR : R} (hL : 0 < αL) (hR : 0 < αR) {r : R → R} (hr : Monotone r) (h0 : r 0 = 0)
  (dq MaxDist M : R)
include hL hR hr h0

/-- Off the region `M < dq ∧ MaxDist < r (αL · r (M - dq))` the two oracles agree. -/
theorem triangIneq_eq_polynomial_of_not (h : ¬(M < dq ∧ MaxDist < r (αL * r (M - dq)))) :
    (TriangIneq.mk αL αR).ClassifyIn ⟨r, r⟩ dq MaxDist M =
      (PolynomialPruner.mk αL 1 αR 1).ClassifyIn ⟨r, r⟩ dq MaxDist M := by
  simp only [TriangIneq.ClassifyIn, PolynomialPruner.ClassifyIn, EfficientPow_eq, pow_one]
  push_neg at h
  by_cases hl : MaxDist < r (αL * r (M - dq))
  · rw [if_pos hl, if_pos ⟨not_lt.1 fun hm => (h hm).not_lt hl, hl⟩]
  · rw [if_neg hl, if_neg (show ¬(dq ≤ M ∧ _) from fun h' => hl h'.2)]
    by_cases hr' : MaxDist < r (αR * r (dq - M))
    · have hmd : M ≤ dq := by
        by_contra hmd
        have hlt := (not_le.1 hmd).le
        have h₁ := round_mul_round_nonneg hr h0 hL (sub_nonneg.2 hlt)
        have h₂ := round_mul_round_nonpos hr h0 hR (sub_nonpos.2 hlt)
        linarith [not_lt.1 hl]
      rw [if_pos hr', if_pos (show M ≤ dq ∧ _ from ⟨hmd, hr'⟩)]
    · rw [if_neg hr', if_neg (show ¬(M ≤ dq ∧ _) from fun h' => hr' h'.2)]

/-- In the region the triangle oracle goes left and the polynomial pruner right. -/
theorem triangIneq_left_polynomial_right (h : M < dq ∧ MaxDist < r (αL * r (M - dq))) :
    (TriangIneq.mk αL αR).ClassifyIn ⟨r, r⟩ dq MaxDist M = kVisitLeft ∧
      (PolynomialPruner.mk αL 1 αR 1).ClassifyIn ⟨r, r⟩ dq MaxDist M = kVisitRight := by
  have hneg := round_mul_round_nonpos hr h0 hL (sub_nonpos.2 h.1.le)
  have hpos := round_mul_round_nonneg hr h0 hR (sub_nonneg.2 h.1.le)
  simp only [TriangIneq.ClassifyIn, PolynomialPruner.ClassifyIn, EfficientPow_eq, pow_one]
  rw [if_pos h.2, if_neg (fun h' => h.1.not_le h'.1), if_pos ⟨h.1.le, by linarith [h.2]⟩]
  exact ⟨rfl, rfl⟩

/-- The region needs a negative radius, so for a non-negative one the two oracles agree. -/
theorem triangIneq_eq_polynomial_of_nonneg (hr0 : 0 ≤ MaxDist) :
    (TriangIneq.mk αL αR).ClassifyIn ⟨r, r⟩ dq MaxDist M =
      (PolynomialPruner.mk αL 1 αR 1).ClassifyIn ⟨r, r⟩ dq MaxDist M :=
  triangIneq_eq_polynomial_of_not hL hR hr h0 dq MaxDist M fun h =>
    absurd (hr0.trans_lt h.2) (not_lt.2 (round_mul_round_nonpos hr h0 hL (sub_nonpos.2 h.1.le)))

end Agree

/-! ### `dist_t = float`

The polynomial pruner subtracts in `float` and the triangle oracle in `double`: just below the
median the `float` difference rounds up to the radius. -/

theorem float_diff_rounds :
    binary32.round (1 - 3 / 2 ^ 26) = 1 - 1 / 2 ^ 24 := by
  rw [BinaryFormat.round_of_bounds (-1) (by rw [abs_of_pos (by norm_num)]; norm_num)
    (by rw [abs_of_pos (by norm_num)]; norm_num)]
  have hf : ⌊((1 : ℚ) - 3 / 2 ^ 26) / 2 ^ (max (-1) binary32.emin - binary32.prec + 1)⌋ =
      16777215 := by
    rw [Int.floor_eq_iff]; norm_num [binary32]
  rw [roundTiesEven, hf]
  norm_num [binary32]

theorem double_exact_of_float :
    binary64.round (1 - 1 / 2 ^ 24) = 1 - 1 / 2 ^ 24 ∧
      binary64.round (1 - 3 / 2 ^ 26) = 1 - 3 / 2 ^ 26 :=
  ⟨BinaryFormat.round_of_eq_mul 16777215 (-24) (by norm_num) (by norm_num [binary64])
    (by norm_num [binary64]),
    BinaryFormat.round_of_eq_mul 67108861 (-26) (by norm_num) (by norm_num [binary64])
      (by norm_num [binary64])⟩

/-- At `(dq, MaxDist, M) = (3 · 2⁻²⁶, 1 - 2⁻²⁴, 1)` with coefficients `1`, the triangle oracle
goes left and the polynomial pruner visits both subtrees. -/
theorem classifyIn_float_differ :
    (TriangIneq.mk (1 : ℚ) 1).ClassifyIn ⟨binary32.round, binary64.round⟩
        (3 / 2 ^ 26) (1 - 1 / 2 ^ 24) 1 = kVisitLeft ∧
      (PolynomialPruner.mk (1 : ℚ) 1 1 1).ClassifyIn ⟨binary32.round, binary64.round⟩
        (3 / 2 ^ 26) (1 - 1 / 2 ^ 24) 1 = kVisitBoth := by
  simp only [TriangIneq.ClassifyIn, PolynomialPruner.ClassifyIn, EfficientPow_eq, pow_one,
    one_mul, float_diff_rounds, double_exact_of_float]
  norm_num

theorem triangIneq_classify_eq_polynomial {αL αR : R} (hL : 0 < αL) (hR : 0 < αR) {r : R → R}
    (hr : Monotone r) (h0 : r 0 = 0) (dq MaxDist M : R) :
    (¬(M < dq ∧ MaxDist < r (αL * r (M - dq))) →
      (TriangIneq.mk αL αR).ClassifyIn ⟨r, r⟩ dq MaxDist M =
        (PolynomialPruner.mk αL 1 αR 1).ClassifyIn ⟨r, r⟩ dq MaxDist M) ∧
    (M < dq ∧ MaxDist < r (αL * r (M - dq)) →
      (TriangIneq.mk αL αR).ClassifyIn ⟨r, r⟩ dq MaxDist M = kVisitLeft ∧
        (PolynomialPruner.mk αL 1 αR 1).ClassifyIn ⟨r, r⟩ dq MaxDist M = kVisitRight) ∧
    (0 ≤ MaxDist →
      (TriangIneq.mk αL αR).ClassifyIn ⟨r, r⟩ dq MaxDist M =
        (PolynomialPruner.mk αL 1 αR 1).ClassifyIn ⟨r, r⟩ dq MaxDist M) ∧
    ((TriangIneq.mk (1 : ℚ) 1).ClassifyIn ⟨binary32.round, binary64.round⟩
        (3 / 2 ^ 26) (1 - 1 / 2 ^ 24) 1 = kVisitLeft ∧
      (PolynomialPruner.mk (1 : ℚ) 1 1 1).ClassifyIn ⟨binary32.round, binary64.round⟩
        (3 / 2 ^ 26) (1 - 1 / 2 ^ 24) 1 = kVisitBoth) :=
  ⟨triangIneq_eq_polynomial_of_not hL hR hr h0 dq MaxDist M,
    triangIneq_left_polynomial_right hL hR hr h0 dq MaxDist M,
    triangIneq_eq_polynomial_of_nonneg hL hR hr h0 dq MaxDist M, classifyIn_float_differ⟩

theorem triangIneq_classify_eq_polynomial_double :
    (0 : ℚ) < 1 ∧ Monotone binary64.round ∧ binary64.round 0 = 0 ∧
      (TriangIneq.mk (1 : ℚ) 1).ClassifyIn ⟨binary64.round, binary64.round⟩ 2 0 1 =
        (PolynomialPruner.mk (1 : ℚ) 1 1 1).ClassifyIn ⟨binary64.round, binary64.round⟩ 2 0 1 :=
  ⟨one_pos, BinaryFormat.round_mono, BinaryFormat.round_zero,
    (triangIneq_classify_eq_polynomial one_pos one_pos BinaryFormat.round_mono
      BinaryFormat.round_zero (2 : ℚ) 0 1).2.2.1 le_rfl⟩

/-- In exact arithmetic `TriangIneq` and the polynomial pruner differ at a negative radius:
`(dq, MaxDist, M) = (2, -2, 1)`. -/
theorem triangIneq_classify_ne_polynomial :
    (TriangIneq.mk (1 : ℝ) 1).Classify 2 (-2) 1 ≠ (PolynomialPruner.mk (1 : ℝ) 1 1 1).Classify 2 (-2) 1 := by
  norm_num [TriangIneq.Classify, PolynomialPruner.Classify]
  decide

end Similarity
