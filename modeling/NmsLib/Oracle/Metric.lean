import Mathlib
import NmsLib.Oracle.Basic

/-!
# Pruning is exact in a metric space

`PruneSound m p q M MaxDist d`: the subtree `d` skips holds no object within `MaxDist` of the
query `q`, where the left subtree of a node with pivot `p` and median `M` holds objects with
`d(p, x) ≤ M` and the right subtree objects with `M ≤ d(p, x)`.

* `pruners_sound`: under a metric, the polynomial pruner with exponents 1 and the stretched
  triangle oracle, both with coefficients in `(0, 1]`, decide soundly. The triangle inequality
  bounds `d(q, x)` from below by `M - d(q, p)` on the right of the median and by `d(q, p) - M`
  on the left (`le_dist_of_median_le`, `le_dist_of_le_median`), and a stretch `α ≤ 1` only
  lowers these bounds (`stretch_le`); a negative radius prunes nothing that is not already
  farther than it.
-/

namespace Similarity

open VPTreeVisitDecision

variable {α R : Type} [LinearOrderedField R]

/-- A metric on `α` with values in `R`. -/
structure MetricDistance (α R : Type) [LinearOrderedField R] where
  d : α → α → R
  nonneg : ∀ x y, 0 ≤ d x y
  symm : ∀ x y, d x y = d y x
  triangle : ∀ x y z, d x z ≤ d x y + d y z

/-- The distance `|x - y|` on the line. -/
def MetricDistance.line : MetricDistance R R where
  d x y := |x - y|
  nonneg _ _ := abs_nonneg _
  symm x y := abs_sub_comm x y
  triangle x y z := abs_sub_le x y z

/-- A one-sided decision skips only objects farther than `MaxDist` from the query. -/
def PruneSound (m : MetricDistance α R) (p q : α) (M MaxDist : R) (d : VPTreeVisitDecision) :
    Prop :=
  (d = kVisitLeft → ∀ x, M ≤ m.d p x → MaxDist < m.d q x) ∧
  (d = kVisitRight → ∀ x, m.d p x ≤ M → MaxDist < m.d q x)

section
variable (m : MetricDistance α R) {p q x : α} {M : R}

theorem le_dist_of_median_le (h : M ≤ m.d p x) : M - m.d q p ≤ m.d q x := by
  have := m.triangle p q x
  rw [m.symm p q] at this
  linarith

theorem le_dist_of_le_median (h : m.d p x ≤ M) : m.d q p - M ≤ m.d q x := by
  have := m.triangle q x p
  rw [m.symm x p] at this
  linarith

end

/-- A stretch `0 < a ≤ 1` of a lower bound `t` of a non-negative `y` is still one. -/
theorem stretch_le {a t y : R} (ha : 0 < a ∧ a ≤ 1) (hy : 0 ≤ y) (ht : t ≤ y) : a * t ≤ y := by
  rcases le_total 0 t with h | h
  · calc a * t ≤ 1 * t := mul_le_mul_of_nonneg_right ha.2 h
      _ = t := one_mul t
      _ ≤ y := ht
  · exact (mul_nonpos_of_nonneg_of_nonpos ha.1.le h).trans hy

/-- A decision that is left-only only below `αL (M - d(q, p))` and right-only only below
`αR (d(q, p) - M)` is sound. -/
theorem pruneSound_of_stretch (m : MetricDistance α R) (p q : α) {M MaxDist αL αR : R}
    (hL : 0 < αL ∧ αL ≤ 1) (hR : 0 < αR ∧ αR ≤ 1) {d : VPTreeVisitDecision}
    (hl : d = kVisitLeft → MaxDist < αL * (M - m.d q p))
    (hr : d = kVisitRight → MaxDist < αR * (m.d q p - M)) : PruneSound m p q M MaxDist d :=
  ⟨fun h x hx => (hl h).trans_le (stretch_le hL (m.nonneg q x) (le_dist_of_median_le m hx)),
    fun h x hx => (hr h).trans_le (stretch_le hR (m.nonneg q x) (le_dist_of_le_median m hx))⟩

theorem pruners_sound (m : MetricDistance α R) (p q : α) (M MaxDist αL αR : R)
    (hL : 0 < αL ∧ αL ≤ 1) (hR : 0 < αR ∧ αR ≤ 1) :
    PruneSound m p q M MaxDist ((PolynomialPruner.mk αL 1 αR 1).Classify (m.d q p) MaxDist M) ∧
      PruneSound m p q M MaxDist ((TriangIneq.mk αL αR).Classify (m.d q p) MaxDist M) := by
  refine ⟨pruneSound_of_stretch m p q hL hR (fun h => ?_) (fun h => ?_),
    pruneSound_of_stretch m p q hL hR (fun h => ?_) (fun h => ?_)⟩
  · simpa using ((PolynomialPruner.Classify_eq_kVisitLeft _ _ _ _).1 h).2
  · simpa using ((PolynomialPruner.Classify_eq_kVisitRight _ _ _ _).1 h).2.2
  · exact (TriangIneq.Classify_eq_kVisitLeft _ _ _ _).1 h
  · exact ((TriangIneq.Classify_eq_kVisitRight _ _ _ _).1 h).2

theorem pruners_sound_on_line :
    ((0 : ℚ) < 1 / 2 ∧ (1 / 2 : ℚ) ≤ 1) ∧ ((0 : ℚ) < 1 ∧ (1 : ℚ) ≤ 1) ∧
      PruneSound (MetricDistance.line : MetricDistance ℚ ℚ) 0 5 2 1
        ((PolynomialPruner.mk (1 / 2) 1 1 1).Classify
          ((MetricDistance.line : MetricDistance ℚ ℚ).d 5 0) 1 2) :=
  ⟨⟨by norm_num, by norm_num⟩, ⟨one_pos, le_rfl⟩,
    (pruners_sound (MetricDistance.line : MetricDistance ℚ ℚ) 0 5 2 1 (1 / 2) 1
      ⟨by norm_num, by norm_num⟩ ⟨one_pos, le_rfl⟩).1⟩

end Similarity
