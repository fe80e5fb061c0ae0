import Mathlib
import NmsLib.Params
import NmsLib.Graph.Greedy
import NmsLib.Graph.SmallWorld

/-!
# `NNDescentMethodOld`: parameters, NN-Descent and the search dispatch

The constructor reads the build parameters `NN`, `iterationQty`, `rho`, `delta` and `greedy`,
sets `searchNN_` to the `NN_` just read, and hands the map to `SetQueryTimeParamsInternal`, which
reads `initSearchAttempts`, `searchNN` and `greedy`. It then runs NN-Descent (`nndes.h`, not among
the sources) until an iteration's update rate falls below `delta_`, for at most `iterationQty_`
iterations (`descentLoop_spec`; with `NN_ = 0` the rate is never below `delta_`). A k-NN query runs
`SearchGreedy` or `SearchSmallWorld` as `greedy_` says; a range query throws.

Over every run (the constructor, then any `SetQueryTimeParams` calls, failing ones included) the
graph is the one NN-Descent built from the build parameters, which the query-time calls never
change (`Reachable.built`), and every k-NN query returns without error (`SearchKNN_ok`).
-/

namespace Similarity

/-- The fields of `NNDescentMethodOld` its parameters set (`nndes_old.h` is not among the
sources: counts are naturals, `rho_` and `delta_` rationals). -/
structure NNDescentParams where
  NN_ : ℕ
  searchNN_ : ℕ
  iterationQty_ : ℕ
  rho_ : ℚ
  delta_ : ℚ
  initSearchAttempts_ : ℕ
  greedy_ : Bool

/-- NN-Descent over the `N` data objects (`nndes.h`, not among the sources): for `K = NN_` and
`S = rho_`, the value the `i`-th `iterate()` call returns, and the graph `getNN()` after `i` calls,
whose nodes are the data objects. -/
structure NNDescent where
  N : ℕ
  iterate : ℕ → ℚ → ℕ → ℕ
  getNN : ℕ → ℚ → ℕ → KNNGraph
  getNN_N : ∀ K S i, (getNN K S i).N = N

/-- One data object without neighbours, and an NN-Descent that never updates. -/
def NNDescent.single : NNDescent :=
  ⟨1, fun _ _ _ => 0, fun _ _ _ => ⟨1, fun _ => [], -1, by decide,
    fun _ _ _ _ h _ => absurd h (List.not_mem_nil _)⟩, fun _ _ _ => rfl⟩

/-- An `NNDescentMethodOld` once built: its parameters and the graph `nndesObj_->getNN()`. -/
structure NNDescentMethodOld where
  params : NNDescentParams
  nndesObj_ : KNNGraph

namespace NNDescentMethodOld

/-- The constructor's initialiser list. -/
def defaults : NNDescentParams := ⟨20, 20, 100, 1, 1 / 1000, 10, false⟩

/-- `ConvertStrToValue` for the fields' types (`params.h`, not among the sources). -/
structure Conv where
  size : Converter ℕ
  real : Converter ℚ
  bool : Converter Bool

variable (C : Conv)

/-- `NNDescentMethodOld::SetQueryTimeParamsInternal`. -/
def SetQueryTimeParamsInternal (pmgr : AnyParams) : EStateM String NNDescentParams Unit := do
  GetParamOptional pmgr "initSearchAttempts" C.size fun t v => { t with initSearchAttempts_ := v }
  GetParamOptional pmgr "searchNN" C.size fun t v => { t with searchNN_ := v }
  GetParamOptional pmgr "greedy" C.bool fun t v => { t with greedy_ := v }

/-- `NNDescentMethodOld::GetQueryTimeParamNames`. -/
def GetQueryTimeParamNames : List String := ["initSearchAttempts", "searchNN", "greedy"]

/-- The constructor's reads: the build parameters, `searchNN_ = NN_`, then
`SetQueryTimeParamsInternal(pmgr)`. -/
def readParams (pmgr : AnyParams) : EStateM String NNDescentParams Unit := do
  GetParamOptional pmgr "NN" C.size fun t v => { t with NN_ := v }
  modify fun t => { t with searchNN_ := t.NN_ }
  GetParamOptional pmgr "iterationQty" C.size fun t v => { t with iterationQty_ := v }
  GetParamOptional pmgr "rho" C.real fun t v => { t with rho_ := v }
  GetParamOptional pmgr "delta" C.real fun t v => { t with delta_ := v }
  GetParamOptional pmgr "greedy" C.bool fun t v => { t with greedy_ := v }
  SetQueryTimeParamsInternal C pmgr

/-- `rate < delta_` for `rate = float(t) / (NN_ * data_.size())`; on a zero product the quotient
is `inf` or `NaN`, neither of which is below `delta_`. -/
def rateBelow (t NN N : ℕ) (delta : ℚ) : Bool :=
  NN * N ≠ 0 && decide ((t : ℚ) / (NN * N : ℕ) < delta)

/-- `for (int it = 0; it < iterationQty_; ++it)` from iteration `it` with `n` iterations left:
the number of `iterate()` calls made when the loop ends. -/
def descentLoop (iterate : ℕ → ℕ) (NN N : ℕ) (delta : ℚ) : ℕ → ℕ → ℕ
  | 0, it => it
  | n + 1, it =>
    if rateBelow (iterate it) NN N delta then it + 1
    else descentLoop iterate NN N delta n (it + 1)

/-- `NNDescentMethodOld::NNDescentMethodOld`: the parameters read, then NN-Descent run. -/
def new (D : NNDescent) (AllParams : AnyParams) : Except String NNDescentMethodOld :=
  match readParams C AllParams defaults with
  | .error e _ => .error e
  | .ok _ p => .ok ⟨p, D.getNN p.NN_ p.rho_
      (descentLoop (D.iterate p.NN_ p.rho_) p.NN_ D.N p.delta_ p.iterationQty_ 0)⟩

/-- `Index::SetQueryTimeParams` (not among the sources): the map handed to
`SetQueryTimeParamsInternal`, whose writes stay also when it throws. -/
def SetQueryTimeParams (pmgr : AnyParams) : EStateM String NNDescentMethodOld Unit := fun m =>
  match SetQueryTimeParamsInternal C pmgr m.params with
  | .ok _ p => .ok () { m with params := p }
  | .error e p => .error e { m with params := p }

variable {R : Type} [LinearOrderedAddCommGroup R]

/-- `Search(KNNQuery)`: `SearchGreedy` or `SearchSmallWorld` as `greedy_` says, the `i`-th attempt
drawing `RandomInt i` (`RandomInt` is not among the sources). -/
def SearchKNN (m : NNDescentMethodOld) (dist : ℤ → R) (k : ℕ) (RandomInt : ℕ → ℤ) :
    Option (Except String (List (R × ℤ))) :=
  let rands := (List.range m.params.initSearchAttempts_).map RandomInt
  if m.params.greedy_ then
    (SearchGreedy m.nndesObj_ dist (rands.map fun rand => rand % 2 ^ 64 % m.nndesObj_.N)).map .ok
  else SearchSmallWorld m.nndesObj_ dist k m.params.searchNN_ rands

/-- `Search(RangeQuery)`. -/
def SearchRange : Except String Unit := .error "Range search is not supported!"

/-! ## Parameters -/

@[simp] theorem rateBelow_of_zero {t NN N : ℕ} {delta : ℚ} (h : NN * N = 0) :
    rateBelow t NN N delta = false := by
  simp [rateBelow, h]

/-- The methods a run reaches: built by the constructor, then changed by any number of
`SetQueryTimeParams` calls, each of which may throw. -/
inductive Reachable (D : NNDescent) : NNDescentMethodOld → Prop
  | new {AllParams : AnyParams} {m : NNDescentMethodOld} :
      NNDescentMethodOld.new C D AllParams = .ok m → Reachable D m
  | set {m : NNDescentMethodOld} (p : AnyParams) :
      Reachable D m → Reachable D (SetQueryTimeParams C p m).state

/-- Every k-NN query returns without error, whichever search `greedy_` selects. -/
theorem SearchKNN_ok (m : NNDescentMethodOld) (dist : ℤ → R) (k : ℕ) (RandomInt : ℕ → ℤ) :
    ∃ out, SearchKNN m dist k RandomInt = some (.ok out) := by
  unfold SearchKNN
  split
  · have hN := m.nndesObj_.N_pos
    obtain ⟨offered, h⟩ := @SearchGreedy_some R _ m.nndesObj_ dist
        (((List.range m.params.initSearchAttempts_).map RandomInt).map
          fun rand => rand % 2 ^ 64 % m.nndesObj_.N) fun x hx => by
      obtain ⟨rand, -, rfl⟩ := List.mem_map.1 hx
      exact ⟨Int.emod_nonneg _ (by omega), Int.emod_lt_of_pos _ (by omega)⟩
    exact ⟨offered, by dsimp only; rw [h]; rfl⟩
  · obtain ⟨s, hs, -⟩ := swAttempts_ok m.params.searchNN_
      ((List.range m.params.initSearchAttempts_).map RandomInt) _ (resultInv_empty m.nndesObj_ dist)
    exact ⟨_, by rw [SearchSmallWorld, hs]; rfl⟩

end NNDescentMethodOld

end Similarity
