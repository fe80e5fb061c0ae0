import Mathlib
import NmsLib.Wrapper.Build
import NmsLib.Wrapper.DbScan
import NmsLib.Space.BitHamming

/-!
# The surrogate data of `PermBinVPTree`

The constructor ranks the `NumPivot` pivots by their distance to each data object
(`GetPermutation`), binarizes the ranks at `bin_threshold_` (bit `i` is set when pivot `i` is
among the `bin_threshold_` closest), checks that this gives `bin_perm_word_qty_` words, and makes
it surrogate object `i`. A search binarizes the query's permutation the same way and asks the
VP-tree over the surrogate objects for `db_scan_qty_` neighbours, offering the data object of
each.

* `permBin_db_scan_qty`: over `N ≥ 1` objects a built index asks for between `1` and `N`
  candidates, the constructor having kept `dbScanFrac` in `[0, 1]` (`dbScanQty_bounds`).
* `permBin_checks_pass`: with the pivot count the build map names (`16` without one), neither
  the constructor's loop nor a search fails its `CHECK`; surrogate object `i` is the binarized
  permutation of `data[i]`, with label `-1`.
* `binPerm_distance`: a binarized permutation of `NumPivot` pivots has `min(τ, NumPivot)` set
  bits (`popcount_Binarize`), and the bit-Hamming distance of two is the number of pivots that
  exactly one of them ranks below `τ` (`BitHamming_Binarize`): an even number, at most
  `2 · min(τ, NumPivot - τ)` (`countP_bne`).
-/

namespace Similarity

/-! ## The candidate count of the permutation wrappers -/

/-- `max(size_t(1), static_cast<size_t>(DbScanFrac * data.size()))` of `PermBinVPTree`, whose
fraction is a `double`: the product taken exactly, the cast as truncation. -/
def dbScanQty (frac : ℚ) (N : ℕ) : ℕ := max 1 ⌊frac * N⌋.toNat

/-- The same count for a `float` fraction: the size converted to `float` and the product rounded
to `float`. -/
def dbScanQtyFloat (frac : ℚ) (N : ℕ) : ℕ :=
  max 1 ⌊binary32.round (frac * binary32.round N)⌋.toNat

/-- `PermutationVPTree::ComputeDbScanQty` (`permutation_vptree.h`). -/
def PermutationVPTree.ComputeDbScanQty (DbScanFrac : ℚ) (N : ℕ) : ℕ :=
  dbScanQtyFloat DbScanFrac N

/-- `PermutationIndexIncremental::ComputeDbScan` (`permutation_index_incremental.h`). -/
def PermutationIndexIncremental.ComputeDbScan (db_scan_fraction : ℚ) (N : ℕ) : ℕ :=
  dbScanQtyFloat db_scan_fraction N

/-- At least one candidate, and at most `N` for a fraction at most `1`. -/
theorem dbScanQty_bounds (frac : ℚ) (N : ℕ) :
    1 ≤ dbScanQty frac N ∧ (frac ≤ 1 → 0 < N → dbScanQty frac N ≤ N) :=
  ⟨le_max_left _ _, fun h hN =>
    max_le hN (ProjectionVPTree.floor_toNat_le (mul_le_of_le_one_left (Nat.cast_nonneg N) h))⟩

/-! ## Counting below a threshold -/

theorem countP_lt_range (τ m : ℕ) : (List.range m).countP (fun i => decide (i < τ)) = min τ m := by
  induction m with
  | zero => simp
  | succ m ih =>
    rw [List.range_succ, List.countP_append, ih]
    by_cases h : m < τ <;> simp [h] <;> omega

theorem countP_zip_fst {α β : Type} (f : α → Bool) :
    ∀ (u : List α) (v : List β), u.length ≤ v.length → (u.zip v).countP (fun p => f p.1) = u.countP f
  | [], _, _ => rfl
  | _ :: u, _ :: v, h => by
    rw [List.zip_cons_cons, List.countP_cons, List.countP_cons,
      countP_zip_fst f u v (by simpa using h)]
  | _ :: _, [], h => by simp at h

theorem countP_zip_snd {α β : Type} (f : β → Bool) (u : List α) (v : List β)
    (h : v.length ≤ u.length) : (u.zip v).countP (fun p => f p.2) = v.countP f := by
  rw [← List.zip_swap, List.countP_map]
  exact countP_zip_fst f v u h

/-- Of two predicates, the places where exactly one holds, where both hold and where one holds. -/
theorem countP_bne {α : Type} (a b : α → Bool) (l : List α) :
    l.countP (fun x => a x != b x) + 2 * l.countP (fun x => a x && b x) =
        l.countP a + l.countP b ∧
      l.countP (fun x => a x || b x) + l.countP (fun x => a x && b x) =
        l.countP a + l.countP b := by
  induction l with
  | nil => simp
  | cons x l ih =>
    simp only [List.countP_cons]
    cases ha : a x <;> cases hb : b x <;> simp <;> omega

/-- The set bits of a binarized sequence are its values below the threshold. -/
theorem popcount_Binarize (u : List ℕ) (t : ℕ) :
    ((Binarize u t).map popcount).sum = u.countP fun i => decide (i < t) := by
  rw [← countP_zip_fst _ u u le_rfl,
    ← countP_getD (fun a _ => decide (a < t)) t (by simp) u u rfl
      (32 * ((u.length + 31) / 32)) (by omega), ← sum_countP_words, Binarize, List.map_map]
  refine congrArg List.sum (List.map_congr_left fun w _ => ?_)
  rw [Function.comp_apply, popcount]
  exact List.countP_congr fun j hj => by rw [Binarize_word u t w j (List.mem_range.1 hj)]

/-- The surrogate points: a binarized permutation of the `NumPivot` pivots has
`min(τ, NumPivot)` set bits, and the bit-Hamming distance of two is the number of pivots that
exactly one of the two ranks below `τ`: an even number, at most `2 · min(τ, NumPivot - τ)`. -/
theorem binPerm_distance (NumPivot τ : ℕ) (hm : 0 < NumPivot) (u v : List ℕ)
    (hu : u.Perm (List.range NumPivot)) (hv : v.Perm (List.range NumPivot)) :
    ((Binarize u τ).map popcount).sum = min τ NumPivot ∧
      ∃ d, SpaceBitHamming.HiddenDistance (Binarize u τ) (Binarize v τ) = .ok d ∧
        d = (u.zip v).countP (fun p => decide (p.1 < τ) != decide (p.2 < τ)) ∧
        Even d ∧ d ≤ 2 * min τ (NumPivot - τ) := by
  have hlu : u.length = NumPivot := by rw [hu.length_eq, List.length_range]
  have hlv : v.length = NumPivot := by rw [hv.length_eq, List.length_range]
  have hcu : u.countP (fun i => decide (i < τ)) = min τ NumPivot := by
    rw [hu.countP_eq, countP_lt_range]
  have hcv : v.countP (fun i => decide (i < τ)) = min τ NumPivot := by
    rw [hv.countP_eq, countP_lt_range]
  refine ⟨by rw [popcount_Binarize, hcu], _, ?_, rfl, ?_⟩
  · rw [SpaceBitHamming.HiddenDistance, if_neg (by simp; omega), if_neg (by simp [hlu, hlv]),
      Binarize_length, BitHamming_Binarize u v τ (hlu.trans hlv.symm)]
  · obtain ⟨h₁, h₂⟩ := countP_bne (fun p : ℕ × ℕ => decide (p.1 < τ))
      (fun p : ℕ × ℕ => decide (p.2 < τ)) (u.zip v)
    rw [countP_zip_fst (fun i => decide (i < τ)) u v (by omega), hcu,
      countP_zip_snd (fun i => decide (i < τ)) u v (by omega), hcv] at h₁ h₂
    have hor : (u.zip v).countP (fun p => decide (p.1 < τ) || decide (p.2 < τ)) ≤
        (u.zip v).length := List.countP_le_length _
    rw [List.length_zip, hlu, hlv, min_self] at hor
    exact ⟨⟨min τ NumPivot -
      (u.zip v).countP (fun p => decide (p.1 < τ) && decide (p.2 < τ)), by omega⟩, by omega⟩

/-- Four pivots ranked `1 0 2 3` and `3 2 0 1` at threshold `2`: two set bits each. -/
theorem binPerm_distance_four :
    ((Binarize [1, 0, 2, 3] 2).map popcount).sum = min 2 4 ∧
      ∃ d, SpaceBitHamming.HiddenDistance (Binarize [1, 0, 2, 3] 2) (Binarize [3, 2, 0, 1] 2) =
          .ok d ∧
        d = ([1, 0, 2, 3].zip [3, 2, 0, 1]).countP
          (fun p : ℕ × ℕ => decide (p.1 < 2) != decide (p.2 < 2)) ∧
        Even d ∧ d ≤ 2 * min 2 (4 - 2) :=
  binPerm_distance 4 2 (by decide) _ _ (by decide) (by decide)

/-! ## The surrogate data and the search -/

/-- `GetPermutation` (`permutation_utils.h`, not among the sources; modelled from the spec):
the ranks of the `NumPivot` pivots by their distance to a point, a permutation of
`0, …, NumPivot - 1`. -/
structure Permutations (α : Type) where
  GetPermutation : ℕ → α → List ℕ
  perm : ∀ NumPivot x, (GetPermutation NumPivot x).Perm (List.range NumPivot)

namespace PermBinVPTree

variable {σ Obj Q : Type} (E : Ext σ)

/-- The pivot count the constructor reads: `numPivot`, `16` without it. -/
def numPivotOf (P : AnyParams) : ℕ := ((P.lookup "numPivot").map E.ConvertSizeT.value).getD 16

/-- `CHECK(binPivot.size() == bin_perm_word_qty_)`, then `CreateObjFromVect(id, -1, binPivot)`. -/
def binPermObj (bin_perm_word_qty_ id : ℕ) (binPivot : List UInt32) :
    Except String (VecObject UInt32) :=
  if binPivot.length = bin_perm_word_qty_ then .ok ⟨id, -1, binPivot⟩
  else .error "Check failed: binPivot.size() == bin_perm_word_qty_"

/-- The constructor's loop `for (size_t i = 0; i < data.size(); ++i)`: the permutation of
`data[i]` binarized at `bin_threshold_`, checked, and made surrogate object `i`. -/
def BinPermData (Perm : Permutations Obj) (NumPivot bin_threshold_ bin_perm_word_qty_ : ℕ)
    (data : List Obj) : Except String (List (VecObject UInt32)) :=
  data.enum.mapM fun p =>
    binPermObj bin_perm_word_qty_ p.1 (Binarize (Perm.GetPermutation NumPivot p.2) bin_threshold_)

/-- `PermBinVPTree::Search`, the same for a range and a k-NN query: the query's permutation
binarized and checked like the data's (`QueryObject`), the `db_scan_qty_`-NN search of the
VP-tree for it (`VPTreeSearch o k`: the ids its result queue pops, in order), and `data_[id]`
offered for each. -/
def Search (b : PermBinVPTree σ) (Perm : Permutations Q) (NumPivot : ℕ) (data : List Obj)
    (VPTreeSearch : VecObject UInt32 → ℕ → List ℕ) (query : Q) : Except String (List Obj) :=
  (binPermObj b.bin_perm_word_qty_ 0
      (Binarize (Perm.GetPermutation NumPivot query) b.bin_threshold_)).map fun QueryObject =>
    (VPTreeSearch QueryObject b.db_scan_qty_).filterMap fun id => data[id]?

theorem binPermObj_ok {bin_perm_word_qty_ id : ℕ} {binPivot : List UInt32}
    (h : binPivot.length = bin_perm_word_qty_) :
    binPermObj bin_perm_word_qty_ id binPivot = .ok ⟨id, -1, binPivot⟩ := if_pos h

theorem mapM_except_ok {α β : Type} (f : α → Except String β) (g : α → β) :
    ∀ l : List α, (∀ a ∈ l, f a = .ok (g a)) → l.mapM f = .ok (l.map g)
  | [], _ => rfl
  | a :: l, h => by
    rw [List.mapM_cons, h a (List.mem_cons_self a l),
      mapM_except_ok f g l fun x hx => h x (List.mem_cons_of_mem a hx)]
    rfl

theorem readPermParams_NumPivot {P : AnyParams} {l₀ l : Locals}
    (h : readPermParams E P l₀ = .ok () l) :
    l.NumPivot = ((P.lookup "numPivot").map E.ConvertSizeT.value).getD l₀.NumPivot := by
  obtain ⟨_, l₁, h₁, h'⟩ := EStateM.bind_eq_ok h
  obtain ⟨_, l₂, h₂, h₃⟩ := EStateM.bind_eq_ok h'
  have e₁ := GetParamOptional_frame Locals.NumPivot (fun l v => { l with DbScanFrac := v })
    (fun _ _ => rfl) P "dbScanFrac" E.ConvertDouble l₀
  have e₂ := GetParamOptional_read Locals.NumPivot (fun l v => { l with NumPivot := v }) id
    (fun _ _ => rfl) P "numPivot" E.ConvertSizeT l₁
  have e₃ := GetParamOptional_frame Locals.NumPivot (fun l v => { l with bin_threshold_ := v })
    (fun _ _ => rfl) P "binThreshold" E.ConvertSizeT l₂
  rw [h₁] at e₁
  rw [h₂] at e₂
  rw [h₃] at e₃
  simp only [EStateM.Result.state_ok] at e₁ e₂ e₃
  rw [e₃, e₂, e₁]
  rfl

theorem readAlphas_frame {P : AnyParams} {l l' : Locals} (h : readAlphas E P l = .ok () l') :
    (l'.DbScanFrac, l'.NumPivot) = (l.DbScanFrac, l.NumPivot) := by
  have e : (fun l : Locals => (l.DbScanFrac, l.NumPivot)) (readAlphas E P l).state =
      (l.DbScanFrac, l.NumPivot) := by
    unfold readAlphas
    refine EStateM.bind_frame (fun l : Locals => (l.DbScanFrac, l.NumPivot)) (fun s => ?_)
      (fun _ s => ?_) l <;>
      exact GetParamOptional_frame (fun l : Locals => (l.DbScanFrac, l.NumPivot)) _
        (by intros; rfl) _ _ _ s
  rwa [h] at e

/-- What a built index holds: the word count of the pivot count the map names, and the candidate
count of a fraction at most `1`. -/
theorem new_fields {N : ℕ} {P : AnyParams} {b : PermBinVPTree σ} (h : new E N P = .ok b) :
    b.bin_perm_word_qty_ = (numPivotOf E P + 31) / 32 ∧
      ∃ DbScanFrac : ℚ, DbScanFrac ≤ 1 ∧ b.db_scan_qty_ = dbScanQty DbScanFrac N := by
  unfold new at h
  split at h; · cases h
  rename_i l hl
  split at h; · cases h
  rename_i hfrac
  split at h; · cases h
  rename_i l' hl'
  split at h; · cases h
  cases h
  obtain ⟨hf, hn⟩ := Prod.mk.inj (readAlphas_frame E hl')
  refine ⟨by rw [hn, readPermParams_NumPivot E hl]; rfl, l'.DbScanFrac, ?_, rfl⟩
  rw [hf]
  exact le_of_not_lt fun h₁ => hfrac (.inr h₁)

/-- Over `N ≥ 1` objects a built index asks the VP-tree for between `1` and `N` candidates. -/
theorem permBin_db_scan_qty {N : ℕ} (hN : 0 < N) {P : AnyParams} {b : PermBinVPTree σ}
    (h : new E N P = .ok b) : 1 ≤ b.db_scan_qty_ ∧ b.db_scan_qty_ ≤ N := by
  obtain ⟨-, f, hf, hq⟩ := new_fields E h
  rw [hq]
  exact ⟨(dbScanQty_bounds f N).1, (dbScanQty_bounds f N).2 hf hN⟩

/-- Built without parameters: `16` pivots in one word, threshold `8`, `dbScanFrac = 0.05`. -/
theorem new_polynomial_empty (N : ℕ) :
    new Ext.polynomial N ⟨[], List.nodup_nil⟩ =
      .ok ⟨8, 1, dbScanQty (5 / 100) N, PolynomialPruner.initial⟩ := by
  have h : readPermParams Ext.polynomial ⟨[], List.nodup_nil⟩ ⟨5 / 100, 16, 8, 1, 1⟩ =
      .ok () ⟨5 / 100, 16, 8, 1, 1⟩ := rfl
  rw [new, h]
  dsimp only
  rw [if_neg (by norm_num)]
  rfl

/-- Ten objects without parameters: `⌊0.05 · 10⌋ = 0`, raised to one candidate. -/
theorem permBin_db_scan_qty_ten :
    ∃ b, new Ext.polynomial 10 ⟨[], List.nodup_nil⟩ = .ok b ∧
      1 ≤ b.db_scan_qty_ ∧ b.db_scan_qty_ ≤ 10 :=
  ⟨_, new_polynomial_empty 10,
    permBin_db_scan_qty Ext.polynomial (by decide) (new_polynomial_empty 10)⟩

/-- With the pivot count the build map names, neither the constructor's loop nor a search fails
its `CHECK`: surrogate object `i` is the binarized permutation of `data[i]` with label `-1`, and
a search offers the data objects of the ids the VP-tree returns for the binarized query. -/
theorem permBin_checks_pass (Perm : Permutations Obj) (PermQ : Permutations Q)
    (data : List Obj) {P : AnyParams} {b : PermBinVPTree σ} (h : new E data.length P = .ok b) :
    BinPermData Perm (numPivotOf E P) b.bin_threshold_ b.bin_perm_word_qty_ data =
        .ok (data.enum.map fun p =>
          ⟨p.1, -1, Binarize (Perm.GetPermutation (numPivotOf E P) p.2) b.bin_threshold_⟩) ∧
      ∀ VPTreeSearch query, Search b PermQ (numPivotOf E P) data VPTreeSearch query =
        .ok ((VPTreeSearch
          ⟨0, -1, Binarize (PermQ.GetPermutation (numPivotOf E P) query) b.bin_threshold_⟩
            b.db_scan_qty_).filterMap fun id => data[id]?) := by
  have hw : ∀ {α : Type} (Pm : Permutations α) x,
      (Binarize (Pm.GetPermutation (numPivotOf E P) x) b.bin_threshold_).length =
        b.bin_perm_word_qty_ := fun Pm x => by
    rw [Binarize_length, (Pm.perm _ x).length_eq, List.length_range, (new_fields E h).1]
  refine ⟨mapM_except_ok _ _ _ fun p _ => binPermObj_ok (hw Perm p.2), fun VPTreeSearch query => ?_⟩
  rw [Search, binPermObj_ok (hw PermQ query)]
  rfl

end PermBinVPTree

end Similarity
