import Mathlib
import NmsLib.Oracle.Basic

/-!
# Pruning is monotone in the radius and in the stretch

A k-NN search shrinks its radius as it finds neighbours, and the tuner moves the stretching
coefficients over a grid; both rely on the visited set moving one way only.

* `PolynomialPruner.classify_mono_radius`: a larger radius visits a superset;
* `PolynomialPruner.classify_anti_alpha`: larger coefficients visit a subset;
* `SamplingOracle.classify_mono_radius`: a larger radius visits a superset.

The polynomial cases turn on the median: a query at the median cannot be sent right, since the
left test `MaxDist < αL · 0 ^ eL` is tried first and is the same as the right one
(`PolynomialPruner.lt_of_classify_eq_kVisitRight`). With `e = 0` this fails.
-/

namespace Similarity

open VPTreeVisitDecision

variable {R : Type} [LinearOrderedField R]

namespace PolynomialPruner

variable {o : PolynomialPruner R} {dq r M : R}

/-- A right-only decision has the query strictly right of the median. -/
theorem lt_of_classify_eq_kVisitRight (he : 1 ≤ o.exp_left_ ∧ 1 ≤ o.exp_right_)
    (h : o.Classify dq r M = kVisitRight) : M < dq := by
  obtain ⟨hl, hle, hlt⟩ := (o.Classify_eq_kVisitRight dq r M).1 h
  refine lt_of_le_of_ne hle fun hm => hl ⟨hm.ge, ?_⟩
  rw [hm, sub_self, zero_pow (by omega), mul_zero] at hlt ⊢
  exact hlt

theorem classify_mono_radius (hv : o.Valid) {r r' : R} (hr : r ≤ r') :
    o.Classify dq r M ≤ o.Classify dq r' M := by
  cases h' : o.Classify dq r' M with
  | kVisitBoth => exact le_kVisitBoth _
  | kVisitLeft =>
    obtain ⟨hle, hlt⟩ := (o.Classify_eq_kVisitLeft dq r' M).1 h'
    rw [(o.Classify_eq_kVisitLeft dq r M).2 ⟨hle, hr.trans_lt hlt⟩]
  | kVisitRight =>
    have hm := lt_of_classify_eq_kVisitRight ⟨hv.exp_left_pos, hv.exp_right_pos⟩ h'
    obtain ⟨-, hle, hlt⟩ := (o.Classify_eq_kVisitRight dq r' M).1 h'
    rw [(o.Classify_eq_kVisitRight dq r M).2 ⟨fun h => hm.not_le h.1, hle, hr.trans_lt hlt⟩]

theorem classify_anti_alpha (hv : o.Valid) {a b : R} (ha : o.alpha_left_ ≤ a)
    (hb : o.alpha_right_ ≤ b) :
    ({ o with alpha_left_ := a, alpha_right_ := b } : PolynomialPruner R).Classify dq r M ≤
      o.Classify dq r M := by
  cases h : o.Classify dq r M with
  | kVisitBoth => exact le_kVisitBoth _
  | kVisitLeft =>
    obtain ⟨hle, hlt⟩ := (o.Classify_eq_kVisitLeft dq r M).1 h
    have hpow : 0 ≤ (M - dq) ^ o.exp_left_ := pow_nonneg (sub_nonneg.2 hle) _
    exact le_of_eq ((Classify_eq_kVisitLeft _ _ _ _).2
      ⟨hle, hlt.trans_le (mul_le_mul_of_nonneg_right ha hpow)⟩)
  | kVisitRight =>
    have hm := lt_of_classify_eq_kVisitRight ⟨hv.exp_left_pos, hv.exp_right_pos⟩ h
    obtain ⟨-, hle, hlt⟩ := (o.Classify_eq_kVisitRight dq r M).1 h
    have hpow : 0 ≤ (dq - M) ^ o.exp_right_ := pow_nonneg (sub_nonneg.2 hle) _
    exact le_of_eq ((Classify_eq_kVisitRight _ _ _ _).2
      ⟨fun h => hm.not_le h.1, hle, hlt.trans_le (mul_le_mul_of_nonneg_right hb hpow)⟩)

end PolynomialPruner

theorem SamplingOracle.classify_mono_radius (s : SamplingOracle R) (dq M : R) {r r' : R}
    (hr : r ≤ r') : s.Classify dq r M ≤ s.Classify dq r' M := by
  rw [s.Classify_eq, s.Classify_eq]
  cases s.pruneRadius dq M with
  | none => exact le_rfl
  | some MaxQueryR =>
    dsimp only
    by_cases h : MaxQueryR ≤ r
    · rw [if_pos h, if_pos (h.trans hr)]
    · rw [if_neg h]
      split_ifs <;> simp

theorem classify_monotone (o : PolynomialPruner R) (ho : o.Valid) (s : SamplingOracle R)
    (dq M : R) :
    (∀ r r' : R, r ≤ r' → o.Classify dq r M ≤ o.Classify dq r' M) ∧
    (∀ a b : R, o.alpha_left_ ≤ a → o.alpha_right_ ≤ b → ∀ r : R,
      ({ o with alpha_left_ := a, alpha_right_ := b } : PolynomialPruner R).Classify dq r M ≤
        o.Classify dq r M) ∧
    (∀ r r' : R, r ≤ r' → s.Classify dq r M ≤ s.Classify dq r' M) ∧
    (∀ r r' : R, r ≤ r' → o.Classify dq r M = kVisitBoth → o.Classify dq r' M = kVisitBoth) :=
  ⟨fun _ _ hr => PolynomialPruner.classify_mono_radius ho hr,
    fun _ _ ha hb _ => PolynomialPruner.classify_anti_alpha ho ha hb,
    fun _ _ hr => s.classify_mono_radius dq M hr,
    fun _ _ hr hb => (kVisitBoth_le_iff _).1 (hb ▸ PolynomialPruner.classify_mono_radius ho hr)⟩

theorem classify_monotone_initial :
    (PolynomialPruner.initial : PolynomialPruner ℚ).Valid ∧
      ∀ r r' : ℚ, r ≤ r' → PolynomialPruner.initial.Classify 1 r 2 ≤
        PolynomialPruner.initial.Classify 1 r' 2 :=
  have hv : (PolynomialPruner.initial : PolynomialPruner ℚ).Valid :=
    ⟨one_pos, one_pos, le_rfl, le_rfl⟩
  ⟨hv, (classify_monotone PolynomialPruner.initial hv (SamplingOracle.mk false [(1 : ℚ)] [2]) 1 2).1⟩

end Similarity
