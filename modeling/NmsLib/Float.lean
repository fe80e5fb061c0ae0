import Mathlib

/-!
# `float` and `double`

The code computes in `float` (`dist_t` of the dense spaces, `db_scan_frac_`) and in `double`
(the pruners' coefficients and their products). A finite number of an IEEE 754 binary format
with `prec` significand bits and least normal exponent `emin` is `m · 2 ^ k` with
`|m| < 2 ^ prec` and `emin - prec + 1 ≤ k`, kept here as the rational it denotes. An operation
computes the exact result and rounds it to the nearest number of the format, ties to even
(`BinaryFormat.round`): around `x`, with `2 ^ e ≤ |x| < 2 ^ (e + 1)`, those numbers are the
multiples of `ulp x = 2 ^ (max e emin - prec + 1)`. Overflow to infinity is not modelled.

* `round_mono`: rounding is monotone, and it fixes `0` (`round_zero`), so it keeps the sign of
  every result.
* `round_eq_self`: a multiple of the unit at `x` is its own rounding, so every number of the
  format is (`round_representable`), among them every power of two down to the least unit
  (`round_two_zpow`) and every natural number up to `2 ^ prec` (`round_natCast`).
* `round_of_bounds`: rounding at a known binary exponent, which evaluates it at a given input.
-/

namespace Similarity

/-- Round to the nearest integer, ties to even. -/
def roundTiesEven (q : ℚ) : ℤ :=
  if q - ⌊q⌋ < 1 / 2 then ⌊q⌋
  else if 1 / 2 < q - ⌊q⌋ then ⌊q⌋ + 1
  else if ⌊q⌋ % 2 = 0 then ⌊q⌋ else ⌊q⌋ + 1

/-- The rounded integer is within `1 / 2`, whichever way a tie goes. -/
theorem roundTiesEven_near (q : ℚ) :
    q - 1 / 2 ≤ roundTiesEven q ∧ (roundTiesEven q : ℚ) ≤ q + 1 / 2 := by
  have h₁ := Int.floor_le q
  have h₂ := Int.lt_floor_add_one q
  unfold roundTiesEven
  split_ifs <;> push_cast <;> constructor <;> linarith

@[simp] theorem roundTiesEven_intCast (k : ℤ) : roundTiesEven k = k := by
  simp [roundTiesEven]

theorem roundTiesEven_mono : Monotone roundTiesEven := by
  intro q q' h
  rcases h.eq_or_lt with rfl | hlt
  · exact le_rfl
  by_contra hc
  have hk : (roundTiesEven q' : ℚ) + 1 ≤ roundTiesEven q := by exact_mod_cast not_le.1 hc
  linarith [roundTiesEven_near q, roundTiesEven_near q']

/-- A binary floating-point format: `prec` significand bits (the leading one included) and least
normal exponent `emin`. -/
structure BinaryFormat where
  prec : ℕ
  emin : ℤ
  prec_pos : 0 < prec
  emin_nonpos : emin ≤ 0

/-- `float`. -/
def binary32 : BinaryFormat := ⟨24, -126, by decide, by decide⟩

/-- `double`. -/
def binary64 : BinaryFormat := ⟨53, -1022, by decide, by decide⟩

/-- `2 ^ a` is a multiple of `2 ^ b` for `b ≤ a`. -/
theorem zpow_two_eq_mul {a b : ℤ} (h : b ≤ a) : ∃ k : ℤ, (2 : ℚ) ^ a = k * 2 ^ b :=
  ⟨2 ^ (a - b).toNat, by
    rw [Int.cast_pow, Int.cast_ofNat, ← zpow_natCast, Int.toNat_of_nonneg (by omega),
      ← zpow_add₀ two_ne_zero, sub_add_cancel]⟩

theorem zpow_log_le {x : ℚ} (hx : 0 < x) : (2 : ℚ) ^ Int.log 2 x ≤ x := by
  simpa using Int.zpow_log_le_self (b := 2) one_lt_two hx

theorem lt_zpow_log_succ (x : ℚ) : x < (2 : ℚ) ^ (Int.log 2 x + 1) := by
  simpa using Int.lt_zpow_succ_log_self (b := 2) one_lt_two x

/-- The binary exponent of `x` from bounds on it. -/
theorem log_eq_of_bounds {x : ℚ} {e : ℤ} (h₁ : (2 : ℚ) ^ e ≤ x) (h₂ : x < 2 ^ (e + 1)) :
    Int.log 2 x = e := by
  have hx : 0 < x := (zpow_pos two_pos e).trans_le h₁
  have := (Int.zpow_le_iff_le_log (b := 2) one_lt_two hx).1 (by simpa using h₁)
  have := (Int.lt_zpow_iff_log_lt (b := 2) one_lt_two hx).1 (by simpa using h₂)
  omega

namespace BinaryFormat

variable (f : BinaryFormat)

/-- The exponent of the unit at `x`: the binary exponent of `x`, raised to `emin` below the
normal range. -/
def expo (x : ℚ) : ℤ := max (Int.log 2 |x|) f.emin

/-- The spacing of the format's numbers at `x`. -/
def ulp (x : ℚ) : ℚ := 2 ^ (f.expo x - f.prec + 1)

/-- Round to nearest, ties to even. -/
def round (x : ℚ) : ℚ := roundTiesEven (x / f.ulp x) * f.ulp x

theorem ulp_pos (x : ℚ) : 0 < f.ulp x := zpow_pos two_pos _

/-- A power of two at least the unit at `x` is a multiple of it. -/
theorem zpow_eq_mul_ulp {x : ℚ} {a : ℤ} (h : f.expo x - f.prec + 1 ≤ a) :
    ∃ k : ℤ, (2 : ℚ) ^ a = k * f.ulp x :=
  zpow_two_eq_mul h

variable {f}

/-- Rounding stays at or below a multiple of the unit at or above the input. -/
theorem round_le {x : ℚ} {k : ℤ} (h : x ≤ k * f.ulp x) : f.round x ≤ k * f.ulp x := by
  have hu := f.ulp_pos x
  have : roundTiesEven (x / f.ulp x) ≤ k := by
    simpa using roundTiesEven_mono ((div_le_iff₀ hu).2 h)
  exact mul_le_mul_of_nonneg_right (by exact_mod_cast this) hu.le

theorem le_round {x : ℚ} {k : ℤ} (h : k * f.ulp x ≤ x) : k * f.ulp x ≤ f.round x := by
  have hu := f.ulp_pos x
  have : k ≤ roundTiesEven (x / f.ulp x) := by
    simpa using roundTiesEven_mono ((le_div_iff₀ hu).2 h)
  exact mul_le_mul_of_nonneg_right (by exact_mod_cast this) hu.le

theorem round_eq_self {x : ℚ} {k : ℤ} (h : x = k * f.ulp x) : f.round x = x :=
  le_antisymm ((round_le h.le).trans_eq h.symm) (h.trans_le (le_round h.ge))

@[simp] theorem round_zero : f.round 0 = 0 := round_eq_self (k := 0) (by simp)

/-- Two inputs with the same unit round in order. -/
theorem round_le_round_of_ulp_eq {x y : ℚ} (hxy : x ≤ y) (hu : f.ulp x = f.ulp y) :
    f.round x ≤ f.round y := by
  unfold round
  rw [hu]
  have := roundTiesEven_mono (div_le_div_of_nonneg_right hxy (f.ulp_pos y).le)
  exact mul_le_mul_of_nonneg_right (by exact_mod_cast this) (f.ulp_pos y).le

/-- Two inputs separated by a multiple of both their units round in order. -/
theorem round_le_round_of_sep {x y m : ℚ} (hxm : x ≤ m) (hmy : m ≤ y)
    (hx : ∃ k : ℤ, m = k * f.ulp x) (hy : ∃ k : ℤ, m = k * f.ulp y) : f.round x ≤ f.round y := by
  obtain ⟨k, hk⟩ := hx
  obtain ⟨k', hk'⟩ := hy
  calc f.round x ≤ k * f.ulp x := round_le (hxm.trans_eq hk)
    _ = k' * f.ulp y := hk.symm.trans hk'
    _ ≤ f.round y := le_round (hk'.symm.trans_le hmy)

/-- Rounding of inputs of one sign: the units grow with `|x|`, and between two different units
lies a power of two, a multiple of both. -/
theorem round_le_round_of_pos {x y : ℚ} (hx : 0 < x) (hxy : x ≤ y) : f.round x ≤ f.round y := by
  have hlog := Int.log_mono_right (b := 2) hx hxy
  have hy : 0 < y := hx.trans_le hxy
  rcases (max_le_max hlog (le_refl f.emin)).eq_or_lt with he | hlt
  · exact round_le_round_of_ulp_eq hxy (by simp only [ulp, expo, abs_of_pos hx, abs_of_pos hy, he])
  · have hp := f.prec_pos
    have hyl : Int.log 2 x + 1 ≤ Int.log 2 y := by omega
    refine round_le_round_of_sep ((lt_zpow_log_succ x).le.trans (zpow_le_zpow_right₀ one_le_two hyl))
      (zpow_log_le hy) (f.zpow_eq_mul_ulp ?_) (f.zpow_eq_mul_ulp ?_) <;>
      simp only [expo, abs_of_pos hx, abs_of_pos hy] <;> omega

theorem round_neg_le_round_neg {x y : ℚ} (hy : y < 0) (hxy : x ≤ y) : f.round x ≤ f.round y := by
  have hlog := Int.log_mono_right (b := 2) (neg_pos.2 hy) (neg_le_neg hxy)
  have hx : x < 0 := hxy.trans_lt hy
  rcases (max_le_max hlog (le_refl f.emin)).eq_or_lt with he | hlt
  · exact round_le_round_of_ulp_eq hxy
      (by simp only [ulp, expo, abs_of_neg hx, abs_of_neg hy, he])
  · have hp := f.prec_pos
    have hxl : Int.log 2 (-y) + 1 ≤ Int.log 2 (-x) := by omega
    have hm : ∀ z, f.expo z - f.prec + 1 ≤ Int.log 2 (-x) →
        ∃ k : ℤ, -(2 : ℚ) ^ Int.log 2 (-x) = k * f.ulp z := fun z hz => by
      obtain ⟨k, hk⟩ := f.zpow_eq_mul_ulp hz
      exact ⟨-k, by rw [hk]; push_cast; ring⟩
    refine round_le_round_of_sep (le_neg.1 (zpow_log_le (neg_pos.2 hx)))
      (neg_le.1 ((lt_zpow_log_succ (-y)).le.trans (zpow_le_zpow_right₀ one_le_two hxl)))
      (hm x ?_) (hm y ?_) <;>
      simp only [expo, abs_of_neg hx, abs_of_neg hy] <;> omega

theorem round_nonpos {x : ℚ} (hx : x ≤ 0) : f.round x ≤ 0 := by
  simpa using round_le (f := f) (k := 0) (by simpa using hx)

theorem round_nonneg {x : ℚ} (hx : 0 ≤ x) : 0 ≤ f.round x := by
  simpa using le_round (f := f) (k := 0) (x := x) (by simpa using hx)

/-- Rounding is monotone: on each side of `0` by the units, across `0` by the sign. -/
theorem round_mono : Monotone f.round := by
  intro x y hxy
  rcases lt_or_le 0 x with hx | hx
  · exact round_le_round_of_pos hx hxy
  rcases lt_or_le y 0 with hy | hy
  · exact round_neg_le_round_neg hy hxy
  · exact (round_nonpos hx).trans (round_nonneg hy)

/-- A number of the format is its own rounding. -/
theorem round_representable (m k : ℤ) (hm : |m| < 2 ^ f.prec) (hk : f.emin - f.prec + 1 ≤ k) :
    f.round (m * 2 ^ k) = m * 2 ^ k := by
  rcases eq_or_ne m 0 with rfl | hm0
  · simp
  have hpos : 0 < |(m : ℚ) * 2 ^ k| := abs_pos.2 (mul_ne_zero (by exact_mod_cast hm0)
    (zpow_ne_zero _ two_ne_zero))
  have hlt : |(m : ℚ) * 2 ^ k| < 2 ^ ((f.prec : ℤ) + k) := by
    rw [abs_mul, abs_of_pos (zpow_pos (two_pos : (0 : ℚ) < 2) k), zpow_add₀ two_ne_zero, zpow_natCast]
    exact mul_lt_mul_of_pos_right (by exact_mod_cast hm) (zpow_pos two_pos k)
  have hlog := (Int.lt_zpow_iff_log_lt (b := 2) one_lt_two hpos).1 (by simpa using hlt)
  obtain ⟨j, hj⟩ := f.zpow_eq_mul_ulp (x := m * 2 ^ k) (a := k) (by
    simp only [expo]; omega)
  exact round_eq_self (k := m * j) (by push_cast; rw [mul_assoc, ← hj])

/-- A value written as a number of the format is its own rounding. -/
theorem round_of_eq_mul {x : ℚ} (m k : ℤ) (hx : x = m * 2 ^ k) (hm : |m| < 2 ^ f.prec)
    (hk : f.emin - f.prec + 1 ≤ k) : f.round x = x := by
  rw [hx]
  exact round_representable m k hm hk

theorem round_two_zpow (k : ℤ) (hk : f.emin - f.prec + 1 ≤ k) : f.round (2 ^ k) = 2 ^ k := by
  simpa using round_representable (f := f) 1 k
    (by simp only [abs_one]; exact_mod_cast Nat.one_lt_two_pow f.prec_pos.ne') hk

/-- Every natural number up to `2 ^ prec` is a number of the format. -/
theorem round_natCast {n : ℕ} (hn : n ≤ 2 ^ f.prec) : f.round n = n := by
  have hp := f.prec_pos
  have he := f.emin_nonpos
  rcases hn.lt_or_eq with hlt | rfl
  · simpa using round_representable (f := f) n 0
      (by simpa using (by exact_mod_cast hlt : (n : ℤ) < 2 ^ f.prec)) (by omega)
  · simpa using round_two_zpow (f := f) f.prec (by omega)

/-- Rounding at a known binary exponent `e`, `2 ^ e ≤ |x| < 2 ^ (e + 1)`. -/
theorem round_of_bounds {x : ℚ} (e : ℤ) (h₁ : (2 : ℚ) ^ e ≤ |x|) (h₂ : |x| < 2 ^ (e + 1)) :
    f.round x = roundTiesEven (x / 2 ^ (max e f.emin - f.prec + 1)) * 2 ^ (max e f.emin - f.prec + 1) := by
  simp only [round, ulp, expo, log_eq_of_bounds h₁ h₂]

end BinaryFormat

end Similarity
