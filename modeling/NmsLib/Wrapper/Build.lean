import NmsLib.Wrapper.ProjVPTree

/-!
# What the surrogate wrappers hand to their VP-tree

Both wrappers build a `VPTree<..., PolynomialPruner>` over their surrogate data from the build
parameters they do not consume themselves (`RemainParams`).

* `ProjectionVPTree.new_pruner_params`: every parameter of `PolynomialPruner::GetParams`
  reaches the VP-tree with its value.
* `PermBinVPTree.new_pruner_params`: every one except `alphaLeft` and `alphaRight`, which the
  constructor reads into locals it never uses and leaves out of `RemainParams`; the VP-tree's
  pruner then keeps its initial coefficients (`permBin_drops_alphas`).
-/

namespace Similarity

variable {σ Obj : Type}

theorem ProjectionVPTree.lookup_RemainParams_pruner (P : AnyParams) {k : String}
    (hk : k ∈ PolynomialPruner.GetParams) : (ProjectionVPTree.RemainParams P).lookup k = P.lookup k := by
  have : k ∉ ProjectionVPTree.ProjParams := by
    simp only [PolynomialPruner.GetParams, List.mem_cons, List.not_mem_nil, or_false] at hk
    rcases hk with rfl | rfl | rfl | rfl | rfl | rfl | rfl | rfl | rfl | rfl | rfl | rfl | rfl |
      rfl | rfl | rfl <;> decide
  simp [ProjectionVPTree.RemainParams, this]

/-- A built projection VP-tree holds the VP-tree built from a map that agrees with the build map
on every pruner parameter. -/
theorem ProjectionVPTree.new_pruner_params {E : ProjectionVPTree.Ext σ} {data : List Obj}
    {hdata : data.length < UInt64.size} {P : AnyParams} {t : ProjectionVPTree σ Obj}
    (h : ProjectionVPTree.new E data hdata P = .ok t) :
    ∃ Q v, E.BuildVPTree Q = .ok v ∧ t.VPTreeIndex_ = some v ∧
      ∀ k ∈ PolynomialPruner.GetParams, Q.lookup k = P.lookup k := by
  obtain ⟨_, v, -, hv, rfl⟩ := ProjectionVPTree.new_inv E h
  exact ⟨_, v, hv, rfl, fun k hk => lookup_RemainParams_pruner P hk⟩

/-- The binarized-permutation VP-tree's parameters: the binarization threshold, the number of
32-bit words of a binarized permutation, the number of surrogate candidates, and the VP-tree
over the binarized permutations (its pivots and surrogate data are not modelled). -/
structure PermBinVPTree (σ : Type) where
  bin_threshold_ : ℕ
  bin_perm_word_qty_ : ℕ
  db_scan_qty_ : ℕ
  VPTreeIndex_ : σ

namespace PermBinVPTree

/-- What the constructor calls that is not among the sources: `ConvertStrToValue` for `size_t`
and `double`, the method's name `METH_PERM_BIN_VPTREE` (`perm_bin_vptree.h`), and building the
VP-tree over the binarized permutations from a parameter map. -/
structure Ext (σ : Type) where
  ConvertSizeT : Converter ℕ
  ConvertDouble : Converter ℚ
  METH_PERM_BIN_VPTREE : String
  BuildVPTree : AnyParams → Except String σ

/-- The constructor's locals and the field it reads into. -/
structure Locals where
  DbScanFrac : ℚ
  NumPivot : ℕ
  bin_threshold_ : ℕ
  AlphaLeft : ℚ
  AlphaRight : ℚ

variable (E : Ext σ)

/-- The parameters the constructor keeps from the VP-tree. -/
def PermParams : List String := ["dbScanFrac", "numPivot", "binThreshold", "alphaLeft", "alphaRight"]

/-- The parameters the constructor hands to the VP-tree. -/
def RemainParams (AllParams : AnyParams) : AnyParams := AllParams.ExtractParametersExcept PermParams

/-- The reads of `dbScanFrac`, `numPivot` and `binThreshold`. -/
def readPermParams (pmgr : AnyParams) : EStateM String Locals Unit := do
  GetParamOptional pmgr "dbScanFrac" E.ConvertDouble fun l v => { l with DbScanFrac := v }
  GetParamOptional pmgr "numPivot" E.ConvertSizeT fun l v => { l with NumPivot := v }
  GetParamOptional pmgr "binThreshold" E.ConvertSizeT fun l v => { l with bin_threshold_ := v }

/-- The reads of `alphaLeft` and `alphaRight`. -/
def readAlphas (pmgr : AnyParams) : EStateM String Locals Unit := do
  GetParamOptional pmgr "alphaLeft" E.ConvertDouble fun l v => { l with AlphaLeft := v }
  GetParamOptional pmgr "alphaRight" E.ConvertDouble fun l v => { l with AlphaRight := v }

/-- `PermBinVPTree::PermBinVPTree` over `N` objects (`LOG(LIB_FATAL)` ends the program, an
`error` here). -/
def new (N : ℕ) (AllParams : AnyParams) : Except String (PermBinVPTree σ) :=
  match readPermParams E AllParams ⟨5 / 100, 16, 8, 1, 1⟩ with
  | .error e _ => .error e
  | .ok _ l =>
    if l.DbScanFrac < 0 ∨ 1 < l.DbScanFrac then
      .error (E.METH_PERM_BIN_VPTREE ++ " requires that dbScanFrac is in the range [0,1]")
    else
      match readAlphas E AllParams { l with AlphaLeft := 1, AlphaRight := 1 } with
      | .error e _ => .error e
      | .ok _ l' =>
        match E.BuildVPTree (RemainParams AllParams) with
        | .error e => .error e
        | .ok v => .ok ⟨l'.bin_threshold_, (l'.NumPivot + 31) / 32,
            max 1 ⌊l'.DbScanFrac * N⌋.toNat, v⟩

theorem lookup_RemainParams_pruner (P : AnyParams) {k : String}
    (hk : k ∈ PolynomialPruner.GetParams) :
    (RemainParams P).lookup k = if k = "alphaLeft" ∨ k = "alphaRight" then none else P.lookup k := by
  simp only [PolynomialPruner.GetParams, List.mem_cons, List.not_mem_nil, or_false] at hk
  rcases hk with rfl | rfl | rfl | rfl | rfl | rfl | rfl | rfl | rfl | rfl | rfl | rfl | rfl |
    rfl | rfl | rfl <;> simp [RemainParams, PermParams]

/-- A built binarized-permutation VP-tree holds the VP-tree built from a map that agrees with
the build map on every pruner parameter but `alphaLeft` and `alphaRight`, which it lacks. -/
theorem new_pruner_params {N : ℕ} {P : AnyParams} {b : PermBinVPTree σ} (h : new E N P = .ok b) :
    ∃ Q, E.BuildVPTree Q = .ok b.VPTreeIndex_ ∧ ∀ k ∈ PolynomialPruner.GetParams,
      Q.lookup k = if k = "alphaLeft" ∨ k = "alphaRight" then none else P.lookup k := by
  unfold new at h
  split at h; · cases h
  split at h; · cases h
  split at h; · cases h
  split at h; · cases h
  next v hv => cases h; exact ⟨_, hv, fun k hk => lookup_RemainParams_pruner P hk⟩

/-- An environment in which values are plain decimal literals and the VP-tree's pruner is
set from its initial parameters by `SetParams`. -/
def Ext.polynomial : Ext (PolynomialPruner ℚ) where
  ConvertSizeT := Converter.natural
  ConvertDouble := Converter.decimal
  METH_PERM_BIN_VPTREE := "perm_bin_vptree"
  BuildVPTree := ProjectionVPTree.Ext.polynomial.BuildVPTree

end PermBinVPTree

/-- Built with `alphaLeft=2,alphaRight=3` (and, for the projection VP-tree, the projection's
required `projDim` and `projType`), the projection VP-tree's pruner has those coefficients and
the binarized-permutation VP-tree's pruner keeps `1` and `1`. -/
theorem permBin_drops_alphas :
    PermBinVPTree.RemainParams ⟨[("alphaLeft", "2"), ("alphaRight", "3")], by decide⟩ =
        ⟨[], List.nodup_nil⟩ ∧
      (PermBinVPTree.new PermBinVPTree.Ext.polynomial 10
          ⟨[("alphaLeft", "2"), ("alphaRight", "3")], by decide⟩).map (·.VPTreeIndex_) =
        .ok ⟨1, 1, 1, 1⟩ ∧
      (ProjectionVPTree.new ProjectionVPTree.Ext.polynomial [()] (by decide)
          ⟨[("alphaLeft", "2"), ("alphaRight", "3"), ("projDim", "16"), ("projType", "rand")],
            by decide⟩).map (·.VPTreeIndex_) =
        .ok (some ⟨Converter.decimal.value "2", 1, Converter.decimal.value "3", 1⟩) := by
  refine ⟨rfl, ?_, rfl⟩
  have h : PermBinVPTree.readPermParams PermBinVPTree.Ext.polynomial
      ⟨[("alphaLeft", "2"), ("alphaRight", "3")], by decide⟩ ⟨5 / 100, 16, 8, 1, 1⟩ =
      .ok () ⟨5 / 100, 16, 8, 1, 1⟩ := rfl
  rw [PermBinVPTree.new, h]
  dsimp only
  rw [if_neg (by norm_num)]
  rfl

end Similarity
