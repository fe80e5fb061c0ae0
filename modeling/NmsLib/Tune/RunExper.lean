import Mathlib

/-!
# The auto-tuner's grid search (`RunExper`)

`RunExper` checks the exponent range, then calls `GetOptimalAlphas` once for every exponent `ce`
of `for (unsigned ce = MinExp; ce <= MaxExp; ++ce)` and every restart `k` of
`for (unsigned k = 0; k < 1 + AddRestartQty; ++k)`, keeps the call with the largest improvement,
and fails when that call's recall is below `desiredRecall`. The loops' conditions read only the
loop counters, so the calls are a list fixed before any of them runs (`gridCalls`), and the
selection is a fold over their results (`selectBest`).

* `selectBest_spec`: the selected result is the first call of largest improvement, whatever its
  recall (the initial `impr_best = -1` when no call does better).
* `gridCalls_exact`: without wrap-around, the loops make one call for each `(ce, k)` with
  `MinExp ≤ ce ≤ MaxExp` and `k ≤ AddRestartQty`, and no other.
* `runExper_drops_recall`, `runExper_grid_slips`: what the selection and the 32-bit counters do
  at the boundaries.
-/

namespace Similarity

variable {R : Type} [LinearOrderedField R]

/-- What one call of `GetOptimalAlphas` hands back through its reference arguments, and
`RunExper`'s best-so-far of the same variables. -/
structure TuneResult (R : Type) where
  «recall» : R
  time_best : R
  impr_best : R
  alpha_left : R
  exp_left : UInt32
  alpha_right : R
  exp_right : UInt32

namespace TuneResult

/-- `recall = 0, time_best = 0, impr_best = -1, alpha_left = 0, alpha_right = 0` and
`exp_left = 0, exp_right = 0`. -/
def initial : TuneResult R := ⟨0, 0, -1, 0, 0, 0, 0⟩

/-- The loop body's `if (impr_best_loc > impr_best)`, which copies the call's results. -/
def keepBest (b loc : TuneResult R) : TuneResult R := if b.impr_best < loc.impr_best then loc else b

end TuneResult

open TuneResult

/-- What `RunExper` calls that is not among the sources: `GetOptimalAlphas` (`tune.h`), as the
results of the call at exponent `ce` and restart `k` (the restarts' random starting points
included), and the `float` output of a `stringstream`. -/
structure TuneExt (R : Type) where
  GetOptimalAlphas : UInt32 → UInt32 → TuneResult R
  FormatFloat : R → String

/-- The calls of the restart loop at exponent `ce`; `1 + AddRestartQty` is `unsigned`. -/
def restartCalls (AddRestartQty ce : UInt32) : List (UInt32 × UInt32) :=
  (List.range (1 + AddRestartQty).toNat).map fun k => (ce, UInt32.ofNat k)

/-- The calls of the exponent loop from `ce` on, `none` when it has not ended within `fuel`
rounds (`++ce` wraps around). -/
def gridCalls (AddRestartQty MaxExp : UInt32) : ℕ → UInt32 → Option (List (UInt32 × UInt32))
  | 0, _ => none
  | fuel + 1, ce =>
    if ce ≤ MaxExp then
      (gridCalls AddRestartQty MaxExp fuel (ce + 1)).map (restartCalls AddRestartQty ce ++ ·)
    else some []

/-- The best-so-far after the calls with results `outs`. -/
def selectBest (outs : List (TuneResult R)) : TuneResult R := outs.foldl keepBest initial

/-- The two checks at the top of the `try` block; what they throw is logged as fatal after
`"Exception: "`. -/
def checkExps (MinExp MaxExp : UInt32) : Option String :=
  if MaxExp = 0 then some ("Exception: " ++ "minExp" ++ " can't be zero!")
  else if MaxExp < MinExp then some ("Exception: " ++ "maxExp" ++ " can't be < " ++ "minExp")
  else none

/-- The line written to the result file. -/
def bestParams (E : TuneExt R) (b : TuneResult R) : String :=
  "alphaLeft" ++ "=" ++ E.FormatFloat b.alpha_left ++ "," ++
    "alphaRight" ++ "=" ++ E.FormatFloat b.alpha_right ++ "," ++
    "expLeft" ++ "=" ++ toString b.exp_left ++ "," ++ "expRight" ++ "=" ++ toString b.exp_right

/-- `RunExper` from its exponent checks on: the first fatal message, or the line it writes;
`none` when the loops have not ended within `fuel` rounds. -/
def RunExper (E : TuneExt R) (AddRestartQty MinExp MaxExp : UInt32) (desiredRecall : R)
    (fuel : ℕ) : Option (Except String String) :=
  match checkExps MinExp MaxExp with
  | some e => some (.error e)
  | none =>
    (gridCalls AddRestartQty MaxExp fuel MinExp).map fun calls =>
      let b := selectBest (calls.map fun c => E.GetOptimalAlphas c.1 c.2)
      if b.recall < desiredRecall then .error "Failed to get the desired recall!"
      else .ok (bestParams E b)

/-! ## Selection -/

theorem keepBest_cases (b o : TuneResult R) :
    (keepBest b o = b ∧ o.impr_best ≤ b.impr_best) ∨ (keepBest b o = o ∧ b.impr_best < o.impr_best) := by
  unfold keepBest
  split_ifs with h
  · exact .inr ⟨rfl, h⟩
  · exact .inl ⟨rfl, not_lt.1 h⟩

/-- The fold keeps its start or moves to a call of larger improvement, and ends on an
improvement at least every call's. -/
theorem foldl_keepBest (outs : List (TuneResult R)) (b₀ : TuneResult R) :
    (outs.foldl keepBest b₀ = b₀ ∨
        outs.foldl keepBest b₀ ∈ outs ∧ b₀.impr_best < (outs.foldl keepBest b₀).impr_best) ∧
      b₀.impr_best ≤ (outs.foldl keepBest b₀).impr_best ∧
      ∀ o ∈ outs, o.impr_best ≤ (outs.foldl keepBest b₀).impr_best := by
  induction outs generalizing b₀ with
  | nil => exact ⟨.inl rfl, le_rfl, fun _ h => absurd h (List.not_mem_nil _)⟩
  | cons o os ih =>
    obtain ⟨hb, hle, hall⟩ := ih (keepBest b₀ o)
    have hstep : b₀.impr_best ≤ (keepBest b₀ o).impr_best ∧ o.impr_best ≤ (keepBest b₀ o).impr_best := by
      rcases keepBest_cases b₀ o with ⟨h, h'⟩ | ⟨h, h'⟩ <;> rw [h]
      exacts [⟨le_rfl, h'⟩, ⟨h'.le, le_rfl⟩]
    refine ⟨?_, hstep.1.trans hle, List.forall_mem_cons.2 ⟨hstep.2.trans hle, hall⟩⟩
    rw [List.foldl_cons]
    rcases hb with hb | ⟨hm, hlt⟩
    · rw [hb]
      rcases keepBest_cases b₀ o with ⟨h, -⟩ | ⟨h, h'⟩ <;> rw [h]
      · exact .inl rfl
      · exact .inr ⟨List.mem_cons_self o os, h'⟩
    · exact .inr ⟨List.mem_cons_of_mem o hm, hstep.1.trans_lt hlt⟩

/-- `RunExper` keeps the call of largest improvement, whatever its recall: the initial
best-so-far when no call improves on `-1`. -/
theorem selectBest_spec (outs : List (TuneResult R)) :
    (selectBest outs = initial ∧ ∀ o ∈ outs, o.impr_best ≤ -1) ∨
      (selectBest outs ∈ outs ∧ -1 < (selectBest outs).impr_best ∧
        ∀ o ∈ outs, o.impr_best ≤ (selectBest outs).impr_best) := by
  obtain ⟨hb | ⟨hm, hlt⟩, -, hall⟩ := foldl_keepBest outs (initial : TuneResult R)
  · exact .inl ⟨hb, fun o ho => (hall o ho).trans_eq (congrArg TuneResult.impr_best hb)⟩
  · exact .inr ⟨hm, hlt, hall⟩

/-- Restart `0` reaches recall `1` with improvement `2`, restart `1` recall `0` with
improvement `5`: with `desiredRecall = 1`, `RunExper` keeps restart `1` and fails. -/
theorem runExper_drops_recall (FormatFloat : ℚ → String) :
    RunExper ⟨fun _ k => if k = 0 then ⟨1, 1, 2, 1, 1, 1, 1⟩ else ⟨0, 1, 5, 3, 1, 3, 1⟩,
        FormatFloat⟩ 1 1 1 (1 : ℚ) 2 = some (.error "Failed to get the desired recall!") :=
  rfl

/-! ## The grid -/

/-- The advertised grid: every exponent of `[MinExp, MaxExp]` with every restart of
`[0, AddRestartQty]`, exponent by exponent. -/
def lattice (MinExp MaxExp AddRestartQty : ℕ) : List (ℕ × ℕ) :=
  List.range' MinExp (MaxExp + 1 - MinExp) ×ˢ List.range (AddRestartQty + 1)

theorem lattice_of_le {c m : ℕ} (A : ℕ) (h : c ≤ m) :
    lattice c m A = (List.range (A + 1)).map (Prod.mk c) ++ lattice (c + 1) m A := by
  rw [lattice, lattice, show m + 1 - c = (m + 1 - (c + 1)) + 1 by omega, List.range'_succ,
    List.product_cons]

theorem lattice_of_lt {c m : ℕ} (A : ℕ) (h : m < c) : lattice c m A = [] := by
  rw [lattice, show m + 1 - c = 0 by omega, List.range'_zero, List.nil_product]

theorem mem_lattice {c m A ce k : ℕ} : (ce, k) ∈ lattice c m A ↔ c ≤ ce ∧ ce ≤ m ∧ k ≤ A := by
  simp only [lattice, List.mem_product, List.mem_range'_1, List.mem_range]
  omega

theorem length_lattice (c m A : ℕ) : (lattice c m A).length = (m + 1 - c) * (A + 1) := by
  rw [lattice, List.length_product, List.length_range', List.length_range]

theorem nodup_lattice (c m A : ℕ) : (lattice c m A).Nodup :=
  (List.nodup_range' _ _).product (List.nodup_range _)

theorem size_eq : UInt32.size = 2 ^ 32 := rfl

/-- The pair of counters as naturals. -/
def toNatPair (c : UInt32 × UInt32) : ℕ × ℕ := (c.1.toNat, c.2.toNat)

theorem toNatPair_injective : Function.Injective toNatPair := fun _ _ h =>
  Prod.ext (UInt32.ext (congrArg Prod.fst h)) (UInt32.ext (congrArg Prod.snd h))

section NoWrap

variable {AddRestartQty : UInt32} (hA : AddRestartQty.toNat < 2 ^ 32 - 1)
include hA

theorem restartCalls_toNat (ce : UInt32) :
    (restartCalls AddRestartQty ce).map toNatPair =
      (List.range (AddRestartQty.toNat + 1)).map (Prod.mk ce.toNat) := by
  have h1 : (1 + AddRestartQty).toNat = AddRestartQty.toNat + 1 := by
    rw [UInt32.toNat_add, size_eq]; exact (Nat.mod_eq_of_lt (by simp; omega)).trans (Nat.add_comm _ _)
  rw [restartCalls, h1, List.map_map]
  refine List.map_congr_left fun k hk => ?_
  have hk : k < UInt32.size := (List.mem_range.1 hk).trans_le (by rw [size_eq]; omega)
  simp [toNatPair, UInt32.toNat_ofNat_of_lt hk]

/-- Without wrap-around, the loops refine the advertised grid, given one round of fuel per
exponent and one for the last test. -/
theorem gridCalls_toNat {MaxExp : UInt32} (hMax : MaxExp.toNat < 2 ^ 32 - 1) (fuel : ℕ) :
    ∀ ce : UInt32, MaxExp.toNat + 1 - ce.toNat < fuel →
      (gridCalls AddRestartQty MaxExp fuel ce).map (List.map toNatPair) =
        some (lattice ce.toNat MaxExp.toNat AddRestartQty.toNat) := by
  induction fuel with
  | zero => intro _ h; omega
  | succ fuel ih =>
    intro ce hf
    rw [gridCalls]
    by_cases hce : ce ≤ MaxExp
    · have hle : ce.toNat ≤ MaxExp.toNat := hce
      have hsucc : (ce + 1).toNat = ce.toNat + 1 := by
        rw [UInt32.toNat_add, size_eq]; exact Nat.mod_eq_of_lt (by simp; omega)
      obtain ⟨calls, hc, hl⟩ := Option.map_eq_some'.1 (ih (ce + 1) (by omega))
      rw [if_pos hce, hc, lattice_of_le _ hle, ← hsucc, ← hl]
      simp [restartCalls_toNat hA]
    · rw [if_neg hce, lattice_of_lt _ (show MaxExp.toNat < ce.toNat from Nat.lt_of_not_le hce)]
      rfl

end NoWrap

/-- Without wrap-around (`MaxExp` and `AddRestartQty` below `2 ^ 32 - 1`), the exponent loop ends
within `MaxExp - MinExp + 2` rounds, having made one call for each exponent of
`[MinExp, MaxExp]` and restart of `[0, AddRestartQty]`, and no other. -/
theorem gridCalls_exact (AddRestartQty MinExp MaxExp : UInt32)
    (hA : AddRestartQty.toNat < 2 ^ 32 - 1) (hMax : MaxExp.toNat < 2 ^ 32 - 1) (fuel : ℕ)
    (hf : MaxExp.toNat + 1 - MinExp.toNat < fuel) :
    ∃ calls, gridCalls AddRestartQty MaxExp fuel MinExp = some calls ∧
      calls.length = (MaxExp.toNat + 1 - MinExp.toNat) * (AddRestartQty.toNat + 1) ∧
      calls.Nodup ∧ ∀ ce k, (ce, k) ∈ calls ↔ MinExp ≤ ce ∧ ce ≤ MaxExp ∧ k ≤ AddRestartQty := by
  obtain ⟨calls, hc, hl⟩ := Option.map_eq_some'.1 (gridCalls_toNat hA hMax fuel MinExp hf)
  refine ⟨calls, hc, ?_, List.Nodup.of_map toNatPair (hl ▸ nodup_lattice _ _ _), fun ce k => ?_⟩
  · rw [← List.length_map calls toNatPair, hl, length_lattice]
  · rw [← List.mem_map_of_injective toNatPair_injective, hl]
    exact mem_lattice

theorem gridCalls_exact_defaults :
    (4 : UInt32).toNat < 2 ^ 32 - 1 ∧ (1 : UInt32).toNat < 2 ^ 32 - 1 ∧
      (1 : UInt32).toNat + 1 - (1 : UInt32).toNat < 2 ∧
      ∃ calls, gridCalls 4 1 2 1 = some calls ∧ calls.length = 5 ∧ calls.Nodup ∧
        ∀ ce k, (ce, k) ∈ calls ↔ 1 ≤ ce ∧ ce ≤ 1 ∧ k ≤ 4 :=
  ⟨by decide, by decide, by decide, gridCalls_exact 4 1 1 (by decide) (by decide) 2 (by decide)⟩

/-- With `MaxExp = 2 ^ 32 - 1`, `ce <= MaxExp` always holds and the exponent loop never ends. -/
theorem gridCalls_max (AddRestartQty : UInt32) :
    ∀ fuel ce, gridCalls AddRestartQty 4294967295 fuel ce = none
  | 0, _ => rfl
  | fuel + 1, ce => by
    have h : ce ≤ 4294967295 := by
      show ce.toNat ≤ 4294967295
      have := UInt32.toNat_lt ce
      omega
    rw [gridCalls, if_pos h, gridCalls_max AddRestartQty fuel (ce + 1)]
    rfl

/-- The exponent checks accept `MinExp = 0`, and the loops then pass exponent `0`; with
`MaxExp = 2 ^ 32 - 1` they never end; with `AddRestartQty = 2 ^ 32 - 1` they make no call, and
`RunExper` fails. -/
theorem runExper_grid_slips (E : TuneExt ℚ) :
    (checkExps 0 1 = none ∧ gridCalls 0 1 3 0 = some [(0, 0), (1, 0)]) ∧
      (∀ fuel, RunExper E 4 1 4294967295 1 fuel = none) ∧
      (gridCalls 4294967295 1 2 1 = some [] ∧
        RunExper E 4294967295 1 1 1 2 = some (.error "Failed to get the desired recall!")) := by
  refine ⟨⟨rfl, rfl⟩, fun fuel => ?_, rfl, rfl⟩
  rw [RunExper, show checkExps 1 4294967295 = none from rfl, gridCalls_max]
  rfl

end Similarity
