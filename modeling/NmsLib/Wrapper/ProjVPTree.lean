import Mathlib
import NmsLib.Oracle.Basic
import NmsLib.Float

/-!
# `ProjectionVPTree`

The VP-tree over projections (`proj_vptree.h`, `proj_vptree.cc`) as far as its parameters and
its candidate counts go. The object holds the data, the two query-time candidate modes
`knn_amp_` (a k-NN query for `K` neighbours takes `K · knn_amp_` surrogate candidates) and
`db_scan_frac_` (a fraction of the data), and the VP-tree over the projections, whose own
query-time state is `σ` (`NULL` until the constructor builds it).

The constructor first reads the projection's parameters, `projDim` and `projType` required
(`readProjectionParams`). `SetQueryTimeParamsInternal` forwards the whole map to the VP-tree
(`onIndex`), rejects a map naming both modes, clears the mode not named and reads the named one
(`modeResult`); `computeDbScan` is the number of candidates a search asks the VP-tree for, in
`float` arithmetic. What the wrapper calls outside the sources (conversions, the projection, the
VP-tree) is an `Ext`.
-/

namespace Similarity

/-- The object: `data_` (a `std::vector`, so fewer than `2 ^ 64` objects), the candidate modes
(`db_scan_frac_` a `float`, kept as the rational it denotes) and the VP-tree over the
projections. `space_`, `K_`, `projObj_`, `projData_`, `projDim_` and `VPTreeSpace_` serve only
the projection. -/
structure ProjectionVPTree (σ Obj : Type) where
  data_ : List Obj
  data_size_lt : data_.length < UInt64.size
  knn_amp_ : UInt64
  db_scan_frac_ : ℚ
  VPTreeIndex_ : Option σ

namespace ProjectionVPTree

/-- What the wrapper calls that is not among the sources: `ConvertStrToValue` for `size_t` and
`float`; creating the projection and its space (a `some` message is an exception); building the
VP-tree over the projected data from a parameter map; and the VP-tree's query-time setter, whose
exceptions may leave it changed. -/
structure Ext (σ : Type) where
  ConvertSizeT : Converter UInt64
  ConvertFloat : Converter ℚ
  CreateProjection : AnyParams → Option String
  BuildVPTree : AnyParams → Except String σ
  VPTreeSetQueryTimeParams : AnyParams → EStateM String σ Unit

variable {σ Obj : Type} (E : Ext σ)

/-- `if (VPTreeIndex_) VPTreeIndex_->...`: runs `m` on the VP-tree, if there is one. -/
def onIndex (m : EStateM String σ Unit) : EStateM String (ProjectionVPTree σ Obj) Unit := fun t =>
  match t.VPTreeIndex_ with
  | none => .ok () t
  | some v =>
    match m v with
    | .ok _ v' => .ok () { t with VPTreeIndex_ := some v' }
    | .error e v' => .error e { t with VPTreeIndex_ := some v' }

/-- `ProjectionVPTree::SetQueryTimeParamsInternal`. -/
def SetQueryTimeParamsInternal (pmgr : AnyParams) :
    EStateM String (ProjectionVPTree σ Obj) Unit := do
  let params := pmgr.ExtractParametersExcept []
  onIndex (E.VPTreeSetQueryTimeParams params)
  if pmgr.hasParam "dbScanFrac" && pmgr.hasParam "knnAmp" then
    throw "One shouldn't specify both parameters dbScanFrac and knnAmp"
  if pmgr.hasParam "knnAmp" then
    modify fun t => { t with db_scan_frac_ := 0 }
  else
    modify fun t => { t with knn_amp_ := 0 }
  if !pmgr.hasParam "dbScanFrac" && !pmgr.hasParam "knnAmp" then
    modify fun t => { t with db_scan_frac_ := 0, knn_amp_ := 0 }
  GetParamOptional pmgr "dbScanFrac" E.ConvertFloat fun t v => { t with db_scan_frac_ := v }
  GetParamOptional pmgr "knnAmp" E.ConvertSizeT fun t v => { t with knn_amp_ := v }

/-- The reads at the top of the constructor, whose values serve only the projection:
`intermDim`, the required `projDim` and `projType`, `binThreshold` and `projSpaceType`. The
message of the first that throws, if one does. -/
def readProjectionParams (ConvertSizeT : Converter UInt64) (P : AnyParams) : Option String :=
  let reads : EStateM String Unit Unit := do
    GetParamOptional P "intermDim" ConvertSizeT fun _ _ => ()
    GetParamRequired P "projDim" ConvertSizeT fun _ _ => ()
    GetParamRequired P "projType" Converter.text fun _ _ => ()
    GetParamOptional P "binThreshold" ConvertSizeT fun _ _ => ()
    GetParamOptional P "projSpaceType" Converter.text fun _ _ => ()
  match reads () with
  | .ok _ _ => none
  | .error e _ => some e

/-- The parameters the wrapper consumes itself. -/
def ProjParams : List String :=
  ["dbScanFrac", "knnAmp", "intermDim", "projDim", "projType", "binThreshold", "projSpaceType"]

/-- The parameters the constructor hands to the VP-tree over the projections. -/
def RemainParams (AllParams : AnyParams) : AnyParams := AllParams.ExtractParametersExcept ProjParams

/-- `ProjectionVPTree::ProjectionVPTree`: the projection's parameters are read, the query-time
parameters set on the fresh object (whose VP-tree is still `NULL`), the projection and its
space created, and the VP-tree built from `RemainParams`. -/
def new (data : List Obj) (hdata : data.length < UInt64.size) (AllParams : AnyParams) :
    Except String (ProjectionVPTree σ Obj) :=
  match readProjectionParams E.ConvertSizeT AllParams with
  | some e => .error e
  | none =>
    match SetQueryTimeParamsInternal E AllParams ⟨data, hdata, 0, 0, none⟩ with
    | .error e _ => .error e
    | .ok _ t =>
      match E.CreateProjection AllParams with
      | some e => .error e
      | none =>
        match E.BuildVPTree (RemainParams AllParams) with
        | .error e => .error e
        | .ok v => .ok { t with VPTreeIndex_ := some v }

/-- What a successful construction did: the query-time setter returned on the object with both
modes `0`, and the VP-tree was built from `RemainParams`. -/
theorem new_inv {data : List Obj} {hdata : data.length < UInt64.size} {AllParams : AnyParams}
    {t : ProjectionVPTree σ Obj} (h : new E data hdata AllParams = .ok t) :
    ∃ t₀ v, SetQueryTimeParamsInternal E AllParams ⟨data, hdata, 0, 0, none⟩ = .ok () t₀ ∧
      E.BuildVPTree (RemainParams AllParams) = .ok v ∧ t = { t₀ with VPTreeIndex_ := some v } := by
  unfold new at h
  split at h; · cases h
  split at h; · cases h
  rename_i t₀ hs
  split at h; · cases h
  split at h; · cases h
  rename_i v hv
  cases h
  exact ⟨t₀, v, hs, hv, rfl⟩

/-- The objects a run reaches: built by the constructor, then changed by any number of
`SetQueryTimeParams` calls (`Index::SetQueryTimeParams` hands the map to
`SetQueryTimeParamsInternal`), each of which may throw, leaving the object as the exception
finds it. -/
inductive Reachable : ProjectionVPTree σ Obj → Prop
  | new {data : List Obj} {hdata : data.length < UInt64.size} {AllParams : AnyParams}
      {t : ProjectionVPTree σ Obj} :
      ProjectionVPTree.new E data hdata AllParams = .ok t → Reachable t
  | set {t : ProjectionVPTree σ Obj} (p : AnyParams) :
      Reachable t → Reachable (SetQueryTimeParamsInternal E p t).state

/-! ## One step of `SetQueryTimeParamsInternal` -/

/-- What `SetQueryTimeParamsInternal` does once the VP-tree took the map: reject a map naming
both modes, or set the named mode and clear the other. -/
def modeResult (pmgr : AnyParams) (t : ProjectionVPTree σ Obj) :
    EStateM.Result String (ProjectionVPTree σ Obj) Unit :=
  match pmgr.lookup "dbScanFrac", pmgr.lookup "knnAmp" with
  | some _, some _ => .error "One shouldn't specify both parameters dbScanFrac and knnAmp" t
  | some s, none =>
    raiseIn (E.ConvertFloat.error s)
      { t with knn_amp_ := 0, db_scan_frac_ := E.ConvertFloat.value s }
  | none, some s =>
    raiseIn (E.ConvertSizeT.error s)
      { t with db_scan_frac_ := 0, knn_amp_ := E.ConvertSizeT.value s }
  | none, none => .ok () { t with knn_amp_ := 0, db_scan_frac_ := 0 }

theorem SetQueryTimeParamsInternal_eq (pmgr : AnyParams) (t : ProjectionVPTree σ Obj) :
    SetQueryTimeParamsInternal E pmgr t =
      match onIndex (E.VPTreeSetQueryTimeParams (pmgr.ExtractParametersExcept [])) t with
      | .ok _ t' => modeResult E pmgr t'
      | .error e t' => .error e t' := by
  simp only [SetQueryTimeParamsInternal, bind, EStateM.bind]
  cases onIndex (E.VPTreeSetQueryTimeParams (pmgr.ExtractParametersExcept [])) t with
  | error e t' => rfl
  | ok _ t' =>
    rcases hd : pmgr.lookup "dbScanFrac" with _ | s <;>
      rcases hk : pmgr.lookup "knnAmp" with _ | s' <;>
      simp [modeResult, GetParamOptional, AnyParams.hasParam, hd, hk, EStateM.bind, modify,
        modifyGet, MonadStateOf.modifyGet, EStateM.modifyGet, pure, EStateM.pure, throw, throwThe,
        MonadExceptOf.throw, EStateM.throw]
    cases h : E.ConvertFloat.error s <;> simp [raiseIn, h]

/-- `onIndex` changes only the VP-tree. -/
theorem onIndex_state (m : EStateM String σ Unit) (t : ProjectionVPTree σ Obj) :
    (onIndex m t).state.data_ = t.data_ ∧ (onIndex m t).state.knn_amp_ = t.knn_amp_ ∧
      (onIndex m t).state.db_scan_frac_ = t.db_scan_frac_ := by
  unfold onIndex
  split
  · exact ⟨rfl, rfl, rfl⟩
  · split <;> exact ⟨rfl, rfl, rfl⟩

/-- An environment in which values are plain decimal literals, the projection and its space
are created from every map the constructor has read, and the VP-tree's query-time state is its
polynomial pruner, which the VP-tree's constructor and its query-time setter both set with
`SetParams`. -/
def Ext.polynomial : Ext (PolynomialPruner ℚ) where
  ConvertSizeT := Converter.sizeT
  ConvertFloat := Converter.decimal
  CreateProjection _ := none
  BuildVPTree P :=
    match PolynomialPruner.SetParams Converter.decimal Converter.natural P PolynomialPruner.initial with
    | .ok _ o => .ok o
    | .error e _ => .error e
  VPTreeSetQueryTimeParams := PolynomialPruner.SetParams Converter.decimal Converter.natural

/-! ## Candidate counts -/

/-- `static_cast<size_t>` of a non-negative `float`: truncation. -/
def sizeTOfFloat (x : ℚ) : UInt64 := UInt64.ofNat ⌊x⌋.toNat

/-- `computeDbScan(K)`. In `db_scan_frac_ * data_.size()` the size is converted to `float` and
the product rounded to `float`. -/
def computeDbScan (t : ProjectionVPTree σ Obj) (K : UInt64) : UInt64 :=
  if t.knn_amp_ ≠ 0 then min (K * t.knn_amp_) (UInt64.ofNat t.data_.length)
  else sizeTOfFloat (binary32.round (t.db_scan_frac_ * binary32.round t.data_.length))

/-- The objects `data_[id]` of the candidates the surrogate search returned, in the order its
result queue pops them; each is offered to the query (`CheckAndAddToResult`). -/
def candidates (t : ProjectionVPTree σ Obj) (ids : List ℕ) : List Obj :=
  ids.filterMap fun id => t.data_[id]?

/-- `ProjectionVPTree::Search(KNNQuery)` for a query asking `K` neighbours; `VPTreeSearch k`
are the ids the `k`-NN search of the projected query over the VP-tree returns. -/
def SearchKNN (t : ProjectionVPTree σ Obj) (K : UInt64) (VPTreeSearch : ℕ → List ℕ) :
    Except String (List Obj) :=
  let db_scan_qty := t.computeDbScan K
  if db_scan_qty = 0 then .error "You need to specify knnAmp > 0 or a sufficiently large dbScanFrac!"
  else .ok (t.candidates (VPTreeSearch db_scan_qty.toNat))

/-- `ProjectionVPTree::Search(RangeQuery)`. -/
def SearchRange (t : ProjectionVPTree σ Obj) (VPTreeSearch : ℕ → List ℕ) :
    Except String (List Obj) :=
  if t.db_scan_frac_ < 0 ∨ 1 < t.db_scan_frac_ then
    .error "proj_vptree requires that dbScanFrac is in the range [0,1]"
  else
    let db_scan_qty := t.computeDbScan 0
    if db_scan_qty = 0 then
      .error "For the range search you need to specify a sufficiently large dbScanFrac!"
    else .ok (t.candidates (VPTreeSearch db_scan_qty.toNat))

end ProjectionVPTree

end Similarity
