import NmsLib.Params

/-!
# Pruning oracles

At an inner node of a VP-tree with median `MedianDist`, a search whose query is at distance
`distQueryPivot` from the pivot and whose current radius is `MaxDist` asks the node's oracle
which subtrees to visit (`VPTreeVisitDecision`). `searchoracle.h` has three oracles:

* `PolynomialPruner`: on the query's side of the median, prune the other subtree when
  `MaxDist < α · |M - dq|^e` (left and right have their own `α` and `e`);
* `TriangIneq`: the stretched triangle inequality `MaxDist < α · (M - dq)`, without side guards;
* `SamplingOracle`: prune when the radius is below a pseudo-query radius learned for the
  quantile of pivot distances `dq` falls in.

Distances and coefficients are elements of a linear ordered field `R`. `Classify` computes
exactly; `ClassifyIn F` rounds as the code does, `F` giving the rounding of a `dist_t` and of a
`double` result (`Rounding`), and is `Classify` for exact arithmetic (`ClassifyIn_exact`). `d ≤ d'`
on decisions says that `d'` visits every subtree `d` visits.
-/

namespace Similarity

/-- `VPTreeVisitDecision` (`kVisitLeft = 1`, `kVisitRight = 2`, `kVisitBoth = 3`). -/
inductive VPTreeVisitDecision
  | kVisitLeft
  | kVisitRight
  | kVisitBoth
  deriving DecidableEq, Repr

namespace VPTreeVisitDecision

/-- The decision's `kVisitLeft` bit. -/
def visitLeft : VPTreeVisitDecision → Bool
  | kVisitRight => false
  | _ => true

/-- The decision's `kVisitRight` bit. -/
def visitRight : VPTreeVisitDecision → Bool
  | kVisitLeft => false
  | _ => true

instance : LE VPTreeVisitDecision :=
  ⟨fun d d' => (d.visitLeft → d'.visitLeft) ∧ (d.visitRight → d'.visitRight)⟩

instance (d d' : VPTreeVisitDecision) : Decidable (d ≤ d') := inferInstanceAs (Decidable (_ ∧ _))

instance : PartialOrder VPTreeVisitDecision where
  le_refl d := by cases d <;> decide
  le_trans a b c := by cases a <;> cases b <;> cases c <;> decide
  le_antisymm a b := by cases a <;> cases b <;> decide

@[simp] theorem le_kVisitBoth (d : VPTreeVisitDecision) : d ≤ kVisitBoth := by cases d <;> decide

@[simp] theorem kVisitBoth_le_iff (d : VPTreeVisitDecision) : kVisitBoth ≤ d ↔ d = kVisitBoth := by
  cases d <;> decide

end VPTreeVisitDecision

open VPTreeVisitDecision

variable {R : Type} [LinearOrderedField R]

/-- How an oracle's arithmetic rounds its exact results: `distT` a difference of two `dist_t`
values, `double` a `double` difference or product. -/
structure Rounding (R : Type) where
  distT : R → R
  double : R → R

/-- Exact arithmetic. -/
def Rounding.exact : Rounding R := ⟨id, id⟩

/-- Modelled from the spec: `EfficientPow(Base, Exp)` (`pow.h`, not among the sources) is
`Base ^ Exp`. -/
def EfficientPow (Base : R) (Exp : ℕ) : R := Base ^ Exp

@[simp] theorem EfficientPow_eq (Base : R) (Exp : ℕ) : EfficientPow Base Exp = Base ^ Exp := rfl

/-! ## `PolynomialPruner` -/

/-- The pruning parameters of `PolynomialPruner` (its space, data and progress flag serve only
`SetParams`' tuning and logging). -/
structure PolynomialPruner (R : Type) where
  alpha_left_ : R
  exp_left_ : ℕ
  alpha_right_ : R
  exp_right_ : ℕ
  deriving DecidableEq, Repr

namespace PolynomialPruner

/-- The parameters the constructor sets: `alpha_left_(1), exp_left_(1), alpha_right_(1),
exp_right_(1)`. -/
def initial : PolynomialPruner R := ⟨1, 1, 1, 1⟩

/-- The ranges the spec gives the parameters: `αL, αR > 0` and `eL, eR ≥ 1`. -/
structure Valid (o : PolynomialPruner R) : Prop where
  alpha_left_pos : 0 < o.alpha_left_
  alpha_right_pos : 0 < o.alpha_right_
  exp_left_pos : 1 ≤ o.exp_left_
  exp_right_pos : 1 ≤ o.exp_right_

/-- `PolynomialPruner::Classify`: the difference is computed in `dist_t` and converted to
`double`, and its product with the coefficient rounded in `double` (`EfficientPow` is exact at
exponent `1`; its own rounding at other exponents is not modelled). -/
def ClassifyIn (o : PolynomialPruner R) (F : Rounding R) (distQueryPivot MaxDist MedianDist : R) :
    VPTreeVisitDecision :=
  if distQueryPivot ≤ MedianDist ∧ MaxDist <
      F.double (o.alpha_left_ * EfficientPow (F.distT (MedianDist - distQueryPivot)) o.exp_left_)
    then kVisitLeft
  else if MedianDist ≤ distQueryPivot ∧ MaxDist <
      F.double (o.alpha_right_ * EfficientPow (F.distT (distQueryPivot - MedianDist)) o.exp_right_)
    then kVisitRight
  else kVisitBoth

/-- `PolynomialPruner::Classify` in exact arithmetic. -/
def Classify (o : PolynomialPruner R) (distQueryPivot MaxDist MedianDist : R) :
    VPTreeVisitDecision :=
  if distQueryPivot ≤ MedianDist ∧
      MaxDist < o.alpha_left_ * EfficientPow (MedianDist - distQueryPivot) o.exp_left_ then
    kVisitLeft
  else if MedianDist ≤ distQueryPivot ∧
      MaxDist < o.alpha_right_ * EfficientPow (distQueryPivot - MedianDist) o.exp_right_ then
    kVisitRight
  else kVisitBoth

theorem ClassifyIn_exact (o : PolynomialPruner R) : o.ClassifyIn Rounding.exact = o.Classify := rfl

variable (o : PolynomialPruner R) (dq r M : R)

theorem Classify_eq_kVisitLeft :
    o.Classify dq r M = kVisitLeft ↔ dq ≤ M ∧ r < o.alpha_left_ * (M - dq) ^ o.exp_left_ := by
  unfold Classify; split_ifs with h1 h2 <;> simp_all

theorem Classify_eq_kVisitRight :
    o.Classify dq r M = kVisitRight ↔
      ¬(dq ≤ M ∧ r < o.alpha_left_ * (M - dq) ^ o.exp_left_) ∧
        M ≤ dq ∧ r < o.alpha_right_ * (dq - M) ^ o.exp_right_ := by
  unfold Classify; split_ifs with h1 h2 <;> simp_all

/-- `PolynomialPruner::GetParams`: the parameters the pruner reads, its own and the tuner's. -/
def GetParams : List String :=
  ["alphaLeft", "expLeft", "alphaRight", "expRight",
   "minExp", "maxExp", "desiredRecall", "tuneK", "tuneR", "tuneQty",
   "maxCacheGSQty", "maxIter", "maxRecDepth", "stepN", "addRestartQty", "fullFactor"]

/-- Modelled from the spec: `PolynomialPruner::SetParams` (declared in `searchoracle.h`, its
body not among the sources) reads `alphaLeft`, `alphaRight`, `expLeft` and `expRight`, keeping
the current value of each one not given. Its tuning parameters (`desiredRecall` and the others
of `GetParams`) are not modelled. -/
def SetParams (ConvertDouble : Converter R) (ConvertUnsigned : Converter ℕ) (pmgr : AnyParams) :
    EStateM String (PolynomialPruner R) Unit := do
  GetParamOptional pmgr "alphaLeft" ConvertDouble fun o v => { o with alpha_left_ := v }
  GetParamOptional pmgr "alphaRight" ConvertDouble fun o v => { o with alpha_right_ := v }
  GetParamOptional pmgr "expLeft" ConvertUnsigned fun o v => { o with exp_left_ := v }
  GetParamOptional pmgr "expRight" ConvertUnsigned fun o v => { o with exp_right_ := v }

end PolynomialPruner

/-! ## `TriangIneq` -/

/-- `TriangIneq`: the stretching coefficients of the two subtrees. -/
structure TriangIneq (R : Type) where
  alpha_left_ : R
  alpha_right_ : R
  deriving DecidableEq, Repr

namespace TriangIneq

/-- `TriangIneq::Classify`: `dist` is converted to `double`, and the difference and its product
with the coefficient are rounded in `double`. -/
def ClassifyIn (o : TriangIneq R) (F : Rounding R) (dist MaxDist MedianDist : R) :
    VPTreeVisitDecision :=
  if MaxDist < F.double (o.alpha_left_ * F.double (MedianDist - dist)) then kVisitLeft
  else if MaxDist < F.double (o.alpha_right_ * F.double (dist - MedianDist)) then kVisitRight
  else kVisitBoth

/-- `TriangIneq::Classify` in exact arithmetic. -/
def Classify (o : TriangIneq R) (dist MaxDist MedianDist : R) : VPTreeVisitDecision :=
  if MaxDist < o.alpha_left_ * (MedianDist - dist) then kVisitLeft
  else if MaxDist < o.alpha_right_ * (dist - MedianDist) then kVisitRight
  else kVisitBoth

theorem ClassifyIn_exact (o : TriangIneq R) : o.ClassifyIn Rounding.exact = o.Classify := rfl

variable (o : TriangIneq R) (dq r M : R)

theorem Classify_eq_kVisitLeft : o.Classify dq r M = kVisitLeft ↔ r < o.alpha_left_ * (M - dq) := by
  unfold Classify; split_ifs <;> simp_all

theorem Classify_eq_kVisitRight :
    o.Classify dq r M = kVisitRight ↔
      o.alpha_left_ * (M - dq) ≤ r ∧ r < o.alpha_right_ * (dq - M) := by
  unfold Classify; split_ifs with h1 h2 <;> simp_all

end TriangIneq

/-! ## `SamplingOracle` -/

/-- What `SamplingOracle::Classify` reads: the flag set when there were too few data to learn
from, the quantiles of the distances to the pivot, and the largest pseudo-query radius learned
for each quantile. -/
structure SamplingOracle (R : Type) where
  NotEnoughData_ : Bool
  QuantilePivotDists : List R
  QuantileMaxPseudoQueryDists : List R
  deriving DecidableEq, Repr

namespace SamplingOracle

/-- `std::lower_bound` over a sorted table: the first position whose entry is not below `x`,
the table's length when there is none. -/
def lowerBound (xs : List R) (x : R) : ℕ := xs.findIdx fun a => !decide (a < x)

/-- `SamplingOracle::Classify`. On an empty `QuantilePivotDists` the read of
`QuantilePivotDists[0]` is out of range, but `lower_bound` then returns `end`, so the oracle
visits both subtrees whatever that read gives. -/
def Classify (o : SamplingOracle R) (dist MaxDist MedianDist : R) : VPTreeVisitDecision :=
  if o.NotEnoughData_ = true ∨ dist = MedianDist then kVisitBoth
  else if o.QuantilePivotDists.head?.any fun q => decide (dist < q) then kVisitBoth
  else
    let quant := lowerBound o.QuantilePivotDists dist
    if quant = o.QuantilePivotDists.length then kVisitBoth
    else
      match o.QuantileMaxPseudoQueryDists[quant]? with
      | none => kVisitBoth
      | some MaxQueryR =>
        if MaxQueryR ≤ MaxDist then kVisitBoth
        else if dist < MedianDist then kVisitLeft else kVisitRight

/-- The learned radius `Classify` compares `MaxDist` with, when it may prune at all. -/
def pruneRadius (o : SamplingOracle R) (dist MedianDist : R) : Option R :=
  if o.NotEnoughData_ = true ∨ dist = MedianDist then none
  else if o.QuantilePivotDists.head?.any fun q => decide (dist < q) then none
  else if lowerBound o.QuantilePivotDists dist = o.QuantilePivotDists.length then none
  else o.QuantileMaxPseudoQueryDists[lowerBound o.QuantilePivotDists dist]?

/-- `Classify` is a threshold on `MaxDist`: both subtrees, or the query's side when the radius
is below the learned one. -/
theorem Classify_eq (o : SamplingOracle R) (dist MaxDist MedianDist : R) :
    o.Classify dist MaxDist MedianDist =
      match o.pruneRadius dist MedianDist with
      | none => kVisitBoth
      | some MaxQueryR =>
        if MaxQueryR ≤ MaxDist then kVisitBoth
        else if dist < MedianDist then kVisitLeft else kVisitRight := by
  unfold Classify pruneRadius
  dsimp only
  split_ifs <;> rfl

theorem pruneRadius_ne (o : SamplingOracle R) {dist MedianDist MaxQueryR : R}
    (h : o.pruneRadius dist MedianDist = some MaxQueryR) : dist ≠ MedianDist := by
  intro he
  simp [pruneRadius, he] at h

end SamplingOracle

end Similarity
