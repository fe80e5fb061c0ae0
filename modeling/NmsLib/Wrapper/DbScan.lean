import NmsLib.Wrapper.QueryTime

/-!
# The candidate count of `ProjectionVPTree`'s k-NN search

`Search(KNNQuery)` asks the VP-tree over the projections for `computeDbScan(K)` candidates and
throws when that is `0`. In the `dbScanFrac` mode the count is `fracCandidates`: `data_.size()`
converted to `float`, multiplied by `db_scan_frac_`, rounded to `float` and truncated.

* `searchKNN_candidate_count`: with `knn_amp_` set and `K · knn_amp_` below `2 ^ 64`, the count
  is `min(K · knn_amp_, N)`, between `1` and `N`. With only `db_scan_frac_` set, in `[0, 1]`, the
  search throws exactly when `fracCandidates` is `0`; the count is at most `N` while `float`
  holds every size up to `N` (`N ≤ 2 ^ 24`, `fracCandidates_le`), and above that rounding can ask
  for more: a fraction `1` over `2 ^ 24 + 3` objects asks for `2 ^ 24 + 4` (`overFloat`).
* `searchRange_candidate_count`: the range search rejects a fraction outside `[0, 1]` (the k-NN
  search does not) and takes `fracCandidates` candidates, throwing when that is `0` and in the
  `knnAmp` mode, where it asks for none.

The count is not `⌈db_scan_frac_ · N⌉`: `db_scan_frac_ = 0.5` over three objects gives one
candidate (`searchKNN_truncates`).
-/

namespace Similarity.ProjectionVPTree

open BinaryFormat

variable {σ Obj : Type}

theorem toNat_min (a b : UInt64) : (min a b).toNat = min a.toNat b.toNat := by
  show (if a ≤ b then a else b).toNat = _
  by_cases h : a ≤ b
  · rw [if_pos h, min_eq_left (show a.toNat ≤ b.toNat from h)]
  · rw [if_neg h, min_eq_right (Nat.le_of_not_le (show ¬a.toNat ≤ b.toNat from h))]

theorem eq_zero_iff_toNat (a : UInt64) : a = 0 ↔ a.toNat = 0 :=
  ⟨fun h => h ▸ rfl, fun h => UInt64.ext h⟩

/-- The candidates the `dbScanFrac` mode asks for: `static_cast<size_t>(db_scan_frac_ *
data_.size())` in `float` arithmetic, before the cast wraps at `2 ^ 64`. -/
def fracCandidates (t : ProjectionVPTree σ Obj) : ℕ :=
  ⌊binary32.round (t.db_scan_frac_ * binary32.round t.data_.length)⌋.toNat

/-- A rounded product with a fraction at most `1` stays at or below a number of the format
above the other factor. -/
theorem round_frac_mul_le {q c m : ℚ} (h1 : q ≤ 1) (hc : 0 ≤ c) (hcm : c ≤ m)
    (hm : binary32.round m = m) : binary32.round (q * c) ≤ m :=
  hm ▸ round_mono ((mul_le_of_le_one_left hc h1).trans hcm)

theorem floor_toNat_le {x : ℚ} {n : ℕ} (h : x ≤ n) : ⌊x⌋.toNat ≤ n :=
  Int.toNat_le.2 ((Int.floor_le_floor h).trans (Int.floor_natCast n).le)

/-- Below `2 ^ 63` objects the count fits a `size_t`. -/
theorem fracCandidates_lt (t : ProjectionVPTree σ Obj) (h1 : t.db_scan_frac_ ≤ 1)
    (hN : t.data_.length < 2 ^ 63) : t.fracCandidates < 2 ^ 64 := by
  have h63 : binary32.round ((2 ^ 63 : ℕ) : ℚ) = (2 ^ 63 : ℕ) := by
    have e : ((2 ^ 63 : ℕ) : ℚ) = (2 : ℚ) ^ (63 : ℤ) := by norm_num
    rw [e]
    exact round_two_zpow 63 (by norm_num [binary32])
  have hc : binary32.round t.data_.length ≤ (2 ^ 63 : ℕ) :=
    h63 ▸ round_mono (by exact_mod_cast hN.le)
  exact (floor_toNat_le (round_frac_mul_le h1 (round_nonneg (Nat.cast_nonneg _)) hc h63)).trans_lt
    (by norm_num)

/-- While `float` holds every size up to `N`, the count is at most `N`. -/
theorem fracCandidates_le (t : ProjectionVPTree σ Obj) (h1 : t.db_scan_frac_ ≤ 1)
    (hN : t.data_.length ≤ 2 ^ 24) : t.fracCandidates ≤ t.data_.length := by
  have hr : binary32.round t.data_.length = t.data_.length := round_natCast hN
  exact floor_toNat_le (round_frac_mul_le h1 (by rw [hr]; exact Nat.cast_nonneg _) hr.le hr)

theorem computeDbScan_of_knnAmp (t : ProjectionVPTree σ Obj) (K : UInt64) (h : t.knn_amp_ ≠ 0)
    (hK : K.toNat * t.knn_amp_.toNat < UInt64.size) :
    (t.computeDbScan K).toNat = min (K.toNat * t.knn_amp_.toNat) t.data_.length := by
  rw [computeDbScan, if_pos h, toNat_min, UInt64.toNat_mul, Nat.mod_eq_of_lt hK,
    UInt64.toNat_ofNat_of_lt t.data_size_lt]

theorem computeDbScan_of_frac (t : ProjectionVPTree σ Obj) (K : UInt64) (h : t.knn_amp_ = 0)
    (h1 : t.db_scan_frac_ ≤ 1) (hN : t.data_.length < 2 ^ 63) :
    (t.computeDbScan K).toNat = t.fracCandidates := by
  rw [computeDbScan, if_neg (not_not.2 h), sizeTOfFloat]
  exact UInt64.toNat_ofNat_of_lt (fracCandidates_lt t h1 hN)

theorem SearchKNN_eq (t : ProjectionVPTree σ Obj) (K : UInt64) (S : ℕ → List ℕ) :
    t.SearchKNN K S =
      if (t.computeDbScan K).toNat = 0 then
        .error "You need to specify knnAmp > 0 or a sufficiently large dbScanFrac!"
      else .ok (t.candidates (S (t.computeDbScan K).toNat)) := by
  simp only [SearchKNN, eq_zero_iff_toNat]

/-- The object built over `2 ^ 24 + 3` objects with `dbScanFrac=1`. -/
def overFloat : ProjectionVPTree (PolynomialPruner ℚ) Unit :=
  ⟨List.replicate 16777219 (), by rw [List.length_replicate]; decide, 0, 1, some .initial⟩

/-- `2 ^ 24 + 3` lies halfway between the `float`s `2 ^ 24 + 2` and `2 ^ 24 + 4`, and the tie
goes to the even significand. -/
theorem round_size_overFloat : binary32.round 16777219 = 16777220 := by
  rw [round_of_bounds 24 (by norm_num) (by norm_num)]
  have hf : ⌊(16777219 : ℚ) / 2 ^ (max 24 binary32.emin - binary32.prec + 1)⌋ = 8388609 := by
    rw [Int.floor_eq_iff]; norm_num [binary32]
  rw [roundTiesEven, hf]
  norm_num [binary32]

theorem fracCandidates_overFloat : overFloat.fracCandidates = 16777220 := by
  have h : binary32.round 16777220 = 16777220 :=
    round_of_eq_mul 4194305 2 (by norm_num) (by norm_num [binary32]) (by norm_num [binary32])
  simp only [fracCandidates, overFloat, List.length_replicate, Nat.cast_ofNat,
    round_size_overFloat, one_mul, h]
  rfl

theorem searchKNN_candidate_count (t : ProjectionVPTree σ Obj) (K : UInt64) (S : ℕ → List ℕ)
    (hN : 1 ≤ t.data_.length) (hK : 1 ≤ K.toNat) :
    (t.knn_amp_ ≠ 0 → K.toNat * t.knn_amp_.toNat < 2 ^ 64 →
      t.SearchKNN K S = .ok (t.candidates (S (min (K.toNat * t.knn_amp_.toNat) t.data_.length))) ∧
        1 ≤ min (K.toNat * t.knn_amp_.toNat) t.data_.length ∧
        min (K.toNat * t.knn_amp_.toNat) t.data_.length ≤ t.data_.length) ∧
    (t.knn_amp_ = 0 → 0 ≤ t.db_scan_frac_ → t.db_scan_frac_ ≤ 1 → t.data_.length < 2 ^ 63 →
      (t.data_.length ≤ 2 ^ 24 → t.fracCandidates ≤ t.data_.length) ∧
      (t.fracCandidates = 0 →
        t.SearchKNN K S =
          .error "You need to specify knnAmp > 0 or a sufficiently large dbScanFrac!") ∧
      (t.fracCandidates ≠ 0 → t.SearchKNN K S = .ok (t.candidates (S t.fracCandidates)))) ∧
    (Reachable Ext.polynomial overFloat ∧ overFloat.data_.length = 16777219 ∧
      overFloat.fracCandidates = 16777220 ∧
      ∀ S, overFloat.SearchKNN 1 S = .ok (overFloat.candidates (S 16777220))) := by
  refine ⟨fun h hK' => ?_, fun h _ h1 hN' => ?_, ?_⟩
  · have hc := computeDbScan_of_knnAmp t K h hK'
    have hpos : 1 ≤ min (K.toNat * t.knn_amp_.toNat) t.data_.length :=
      le_min (Nat.one_le_iff_ne_zero.2 (Nat.mul_ne_zero (by omega)
        fun h' => h ((eq_zero_iff_toNat _).2 h'))) hN
    refine ⟨?_, hpos, min_le_right _ _⟩
    rw [SearchKNN_eq, hc, if_neg (by omega)]
  · have hc := computeDbScan_of_frac t K h h1 hN'
    refine ⟨fracCandidates_le t h1, fun hz => ?_, fun hz => ?_⟩
    · rw [SearchKNN_eq, hc, if_pos hz]
    · rw [SearchKNN_eq, hc, if_neg hz]
  · have hc := computeDbScan_of_frac overFloat 1 rfl (by norm_num [overFloat])
      (by simp only [overFloat, List.length_replicate]; norm_num)
    refine ⟨@Reachable.new _ _ _ (List.replicate 16777219 ()) overFloat.data_size_lt
      ⟨[("dbScanFrac", "1"), ("projDim", "16"), ("projType", "rand")], by decide⟩ _ rfl,
      List.length_replicate _ _, fracCandidates_overFloat, fun S => ?_⟩
    rw [SearchKNN_eq, hc, fracCandidates_overFloat]
    rfl

theorem searchKNN_candidate_count_knnAmp :
    1 ≤ ([()] : List Unit).length ∧ 1 ≤ (2 : UInt64).toNat ∧
      (⟨[()], by decide, 3, 0, none⟩ : ProjectionVPTree Unit Unit).SearchKNN 2 List.range =
        .ok [()] :=
  have h := (searchKNN_candidate_count (⟨[()], by decide, 3, 0, none⟩ : ProjectionVPTree Unit Unit)
    2 List.range (by decide) (by decide)).1 (by decide) (by decide)
  ⟨by decide, by decide, h.1⟩

/-- With a fraction at most `1`, `computeDbScan(0)` is `0` exactly in the `knnAmp` mode or when
`fracCandidates` is `0`. -/
theorem computeDbScan_zero_eq_zero (t : ProjectionVPTree σ Obj) (h1 : t.db_scan_frac_ ≤ 1)
    (hN : t.data_.length < 2 ^ 63) :
    t.computeDbScan 0 = 0 ↔ t.knn_amp_ ≠ 0 ∨ t.fracCandidates = 0 := by
  rw [eq_zero_iff_toNat]
  by_cases hk : t.knn_amp_ = 0
  · rw [computeDbScan_of_frac t 0 hk h1 hN]
    simp [hk]
  · rw [computeDbScan_of_knnAmp t 0 hk (by simp)]
    simp [hk]

/-- The range search checks the fraction, then takes `fracCandidates` candidates; in the
`knnAmp` mode it asks for `min(0 · knn_amp_, N) = 0` and throws. -/
theorem searchRange_candidate_count (t : ProjectionVPTree σ Obj) (S : ℕ → List ℕ)
    (hN : t.data_.length < 2 ^ 63) :
    t.SearchRange S =
      if t.db_scan_frac_ < 0 ∨ 1 < t.db_scan_frac_ then
        .error "proj_vptree requires that dbScanFrac is in the range [0,1]"
      else if t.knn_amp_ ≠ 0 ∨ t.fracCandidates = 0 then
        .error "For the range search you need to specify a sufficiently large dbScanFrac!"
      else .ok (t.candidates (S t.fracCandidates)) := by
  simp only [SearchRange]
  by_cases hr : t.db_scan_frac_ < 0 ∨ 1 < t.db_scan_frac_
  · rw [if_pos hr, if_pos hr]
  · have h1 : t.db_scan_frac_ ≤ 1 := le_of_not_lt fun h => hr (.inr h)
    rw [if_neg hr, if_neg hr, if_congr (computeDbScan_zero_eq_zero t h1 hN) rfl rfl]
    split_ifs with hz
    · rfl
    · push_neg at hz
      rw [computeDbScan_of_frac t 0 hz.1 h1 hN]

/-- `db_scan_frac_ = 0.5` over three objects: the object reached with `dbScanFrac=0.5` asks for
one candidate, not `⌈1.5⌉ = 2`. -/
theorem searchKNN_truncates :
    Reachable Ext.polynomial
        (⟨[0, 1, 2], by decide, 0, Converter.decimal.value "0.5", some .initial⟩ :
          ProjectionVPTree (PolynomialPruner ℚ) ℕ) ∧
      Converter.decimal.value "0.5" = 1 / 2 ∧ ⌈(1 / 2 : ℚ) * 3⌉ = 2 ∧
      (⟨[0, 1, 2], by decide, 0, Converter.decimal.value "0.5", some .initial⟩ :
          ProjectionVPTree (PolynomialPruner ℚ) ℕ).SearchKNN 1 List.range = .ok [0] := by
  have hv : Converter.decimal.value "0.5" = 1 / 2 := by
    have h : Converter.decimal.value "0.5" = ((0 : ℕ) : ℚ) + ((5 : ℕ) : ℚ) / 10 ^ 1 := rfl
    rw [h]; norm_num
  have h3 : binary32.round 3 = 3 := by
    simpa using BinaryFormat.round_natCast (f := binary32) (n := 3) (by norm_num [binary32])
  have hhalf : binary32.round (3 / 2) = 3 / 2 :=
    round_of_eq_mul 3 (-1) (by norm_num) (by norm_num [binary32]) (by norm_num [binary32])
  have hfl : ⌊(3 / 2 : ℚ)⌋ = 1 := by rw [Int.floor_eq_iff]; norm_num
  refine ⟨@Reachable.new _ _ _ [0, 1, 2] (by decide)
      ⟨[("dbScanFrac", "0.5"), ("projDim", "16"), ("projType", "rand")], by decide⟩ _ rfl,
    hv, by norm_num [Int.ceil_eq_iff], ?_⟩
  rw [SearchKNN, computeDbScan, hv]
  norm_num [sizeTOfFloat, candidates, h3, hhalf, hfl]
  rfl

end Similarity.ProjectionVPTree
