import Mathlib

/-!
# The greedy walk on the k-NN graph (`NNDescentMethodOld::SearchGreedy`)

Each attempt starts at a node, offers its distance to the query, and then repeats passes: a pass
scans the neighbours of the node `currOld` it starts from, offers every non-`BAD` neighbour's
distance, and moves to a neighbour strictly closer than the best so far. The walk stops after a
pass that did not move.

* `scan_spec`: what one pass does, for any list of neighbours.
* `greedyLoop_some`: from a node with `c` nodes closer to the query, `c + 1` passes suffice; the
  walk ends at a node none of whose neighbours is strictly closer.
* `searchGreedy_local_min`: every attempt ends within `N` passes at such a local minimum, a pass
  that moves strictly lowers the distance, and a pass offers exactly the neighbours whose
  distance it computes.
-/

namespace Similarity

/-- The k-NN graph `nndesObj_->getNN()` over the `N` data objects: `nn i` holds the keys of node
`i`'s neighbour entries, each a node id or the sentinel `KNNEntry::BAD` (`nndes.h`, not among the
sources, so `BAD` is a parameter). -/
structure KNNGraph where
  N : ℕ
  nn : ℤ → List ℤ
  BAD : ℤ
  N_pos : 0 < N
  key_lt : ∀ i : ℤ, 0 ≤ i → i < N → ∀ e ∈ nn i, e ≠ BAD → 0 ≤ e ∧ e < N

variable {R : Type} [LinearOrder R] (G : KNNGraph) (dist : ℤ → R)

/-- The walk's variables and the query's result so far: the pairs `(d, id)` handed to
`query->CheckAndAddToResult`, in order. -/
structure GreedyState (R : Type) where
  curr : ℤ
  currDist : R
  offered : List (R × ℤ)

/-- One neighbour `currNew` of the loop over `nn[currOld]`; `dist` is
`query->DistanceObjLeft(data_[·])`. -/
def greedyVisit (s : GreedyState R) (currNew : ℤ) : GreedyState R :=
  if currNew ≠ G.BAD then
    if dist currNew < s.currDist then
      ⟨currNew, dist currNew, s.offered ++ [(dist currNew, currNew)]⟩
    else { s with offered := s.offered ++ [(dist currNew, currNew)] }
  else s

/-- The body of the `do` loop: the neighbours of `currOld = curr`. -/
def greedyPass (s : GreedyState R) : GreedyState R := (G.nn s.curr).foldl (greedyVisit G dist) s

/-- `do { ... } while (currOld != curr)`, with at most `fuel` passes. -/
def greedyLoop : ℕ → GreedyState R → Option (GreedyState R)
  | 0, _ => none
  | fuel + 1, s =>
    if s.curr ≠ (greedyPass G dist s).curr then greedyLoop fuel (greedyPass G dist s)
    else some (greedyPass G dist s)

/-- One attempt from `curr` (`RandomInt() % data_.size()`), its distance offered first. -/
def greedyAttempt (fuel : ℕ) (offered : List (R × ℤ)) (curr : ℤ) : Option (GreedyState R) :=
  greedyLoop G dist fuel ⟨curr, dist curr, offered ++ [(dist curr, curr)]⟩

/-- `SearchGreedy`: one attempt per start, each allowed `N` passes, the offers accumulating. -/
def SearchGreedy (starts : List ℤ) : Option (List (R × ℤ)) :=
  starts.foldlM (fun offered curr => (greedyAttempt G dist G.N offered curr).map (·.offered)) []

/-- The walk sits on a data object and `currDist` is its distance. -/
structure GreedyInv (s : GreedyState R) : Prop where
  dist_eq : s.currDist = dist s.curr
  nonneg : 0 ≤ s.curr
  lt : s.curr < G.N

/-! ## One pass -/

/-- One neighbour: the distance never rises; the walk stays, or moves to `e` if it is non-`BAD`
and strictly closer; it ends no farther than a non-`BAD` `e`; it offers `e` unless `e` is `BAD`. -/
theorem greedyVisit_spec (t : GreedyState R) (e : ℤ) :
    (greedyVisit G dist t e).currDist ≤ t.currDist ∧
    ((greedyVisit G dist t e).curr = t.curr ∧ (greedyVisit G dist t e).currDist = t.currDist ∨
      (greedyVisit G dist t e).curr = e ∧ e ≠ G.BAD ∧
        (greedyVisit G dist t e).currDist = dist e ∧ dist e < t.currDist) ∧
    (e ≠ G.BAD → (greedyVisit G dist t e).currDist ≤ dist e) ∧
    (greedyVisit G dist t e).offered =
      t.offered ++ ([e].filter (· ≠ G.BAD)).map fun e => (dist e, e) := by
  unfold greedyVisit
  by_cases hb : e ≠ G.BAD
  · by_cases hd : dist e < t.currDist
    · simp [hb, hd, hd.le]
    · simp [hb, hd, not_lt.1 hd]
  · simp [hb]

/-- A pass over the neighbour list `L`: the distance never rises; the walk stays, or moves to a
non-`BAD` entry of `L` strictly closer; it ends no farther than any non-`BAD` entry; and it offers
exactly the non-`BAD` entries, in order. -/
theorem scan_spec (L : List ℤ) (t : GreedyState R) :
    (L.foldl (greedyVisit G dist) t).currDist ≤ t.currDist ∧
    ((L.foldl (greedyVisit G dist) t).curr = t.curr ∧
        (L.foldl (greedyVisit G dist) t).currDist = t.currDist ∨
      (L.foldl (greedyVisit G dist) t).curr ∈ L ∧ (L.foldl (greedyVisit G dist) t).curr ≠ G.BAD ∧
        (L.foldl (greedyVisit G dist) t).currDist = dist (L.foldl (greedyVisit G dist) t).curr ∧
        (L.foldl (greedyVisit G dist) t).currDist < t.currDist) ∧
    (∀ e ∈ L, e ≠ G.BAD → (L.foldl (greedyVisit G dist) t).currDist ≤ dist e) ∧
    (L.foldl (greedyVisit G dist) t).offered =
      t.offered ++ (L.filter (· ≠ G.BAD)).map fun e => (dist e, e) := by
  induction L generalizing t with
  | nil => exact ⟨le_rfl, .inl ⟨rfl, rfl⟩, fun _ h => absurd h (List.not_mem_nil _), by simp⟩
  | cons e L ih =>
    rw [List.foldl_cons]
    obtain ⟨hle, hcase, hmin, hoff⟩ := ih (greedyVisit G dist t e)
    obtain ⟨hle₁, hcase₁, hmin₁, hoff₁⟩ := greedyVisit_spec G dist t e
    refine ⟨hle.trans hle₁, ?_, fun x hx hxb => ?_, ?_⟩
    · rcases hcase with ⟨hc, hd⟩ | ⟨hm, hB, heq, hlt⟩
      · rw [hc, hd]
        rcases hcase₁ with h | ⟨hc₁, hB₁, hd₁, hlt₁⟩
        · exact .inl h
        · rw [hc₁, hd₁]
          exact .inr ⟨List.mem_cons_self e L, hB₁, rfl, hlt₁⟩
      · exact .inr ⟨List.mem_cons_of_mem e hm, hB, heq, hlt.trans_le hle₁⟩
    · rcases List.mem_cons.1 hx with rfl | hx
      · exact hle.trans (hmin₁ hxb)
      · exact hmin x hx hxb
    · rw [hoff, hoff₁, List.append_assoc, ← List.map_append, ← List.filter_append]
      rfl

variable {G dist}

/-- A pass that moves lowers the distance. -/
theorem greedyPass_lt {t : GreedyState R} (hmove : t.curr ≠ (greedyPass G dist t).curr) :
    (greedyPass G dist t).currDist < t.currDist := by
  rcases (scan_spec G dist (G.nn t.curr) t).2.1 with ⟨hc, -⟩ | ⟨-, -, -, hlt⟩
  · exact absurd hc.symm hmove
  · exact hlt

/-- A pass keeps the walk on a data object, at its distance. -/
theorem greedyPass_inv {s : GreedyState R} (hs : GreedyInv G dist s) :
    GreedyInv G dist (greedyPass G dist s) := by
  rcases (scan_spec G dist (G.nn s.curr) s).2.1 with ⟨hc, hd⟩ | ⟨hm, hB, heq, -⟩
  · exact ⟨by rw [greedyPass, hd, hc]; exact hs.dist_eq, by rw [greedyPass, hc]; exact hs.nonneg,
      by rw [greedyPass, hc]; exact hs.lt⟩
  · have hk := G.key_lt _ hs.nonneg hs.lt _ hm hB
    exact ⟨heq, hk.1, hk.2⟩

/-- The number of data objects strictly closer to the query than the walk. -/
def closerCount (G : KNNGraph) (dist : ℤ → R) (s : GreedyState R) : ℕ :=
  ((Finset.range G.N).filter fun y : ℕ => dist (y : ℤ) < s.currDist).card

theorem closerCount_lt {s : GreedyState R} (hs : GreedyInv G dist s) :
    closerCount G dist s < G.N := by
  have hsub : (Finset.range G.N).filter (fun y : ℕ => dist (y : ℤ) < s.currDist) ⊂
      Finset.range G.N :=
    Finset.filter_ssubset.2 ⟨s.curr.toNat, by have := hs.lt; have := hs.nonneg; simp; omega,
      by rw [Int.toNat_of_nonneg hs.nonneg, hs.dist_eq]; exact lt_irrefl _⟩
  simpa [closerCount] using Finset.card_lt_card hsub

/-- A pass that moves lowers the number of closer objects: every object closer than the node it
reached is closer than the node it left, which counts the node it reached too. -/
theorem closerCount_pass {s : GreedyState R} (hs : GreedyInv G dist s)
    (hmove : s.curr ≠ (greedyPass G dist s).curr) :
    closerCount G dist (greedyPass G dist s) < closerCount G dist s := by
  have hs' := greedyPass_inv hs
  have hlt := greedyPass_lt hmove
  apply Finset.card_lt_card
  refine (Finset.ssubset_iff_of_subset (fun y hy => ?_)).2
    ⟨(greedyPass G dist s).curr.toNat, ?_, ?_⟩
  · simp only [Finset.mem_filter] at hy ⊢
    exact ⟨hy.1, hy.2.trans hlt⟩
  · simp only [Finset.mem_filter, Finset.mem_range]
    rw [Int.toNat_of_nonneg hs'.nonneg, ← hs'.dist_eq]
    exact ⟨by have := hs'.lt; have := hs'.nonneg; omega, hlt⟩
  · simp only [Finset.mem_filter, Int.toNat_of_nonneg hs'.nonneg, ← hs'.dist_eq]
    exact fun h => lt_irrefl _ h.2

/-- A pass that does not move ends at a node none of whose non-`BAD` neighbours is strictly
closer. -/
theorem local_min_of_stay {s : GreedyState R} (hstay : s.curr = (greedyPass G dist s).curr) :
    ∀ e ∈ G.nn (greedyPass G dist s).curr, e ≠ G.BAD →
      ¬dist e < (greedyPass G dist s).currDist := by
  obtain ⟨-, -, hmin, -⟩ := scan_spec G dist (G.nn s.curr) s
  intro e he hb
  rw [← hstay] at he
  exact not_lt.2 (hmin e he hb)

/-- From a node with at most `c` closer objects, `c + 1` passes end the walk, at a node none of
whose non-`BAD` neighbours is strictly closer. -/
theorem greedyLoop_some (c : ℕ) :
    ∀ s : GreedyState R, GreedyInv G dist s → closerCount G dist s ≤ c →
      ∃ s', greedyLoop G dist (c + 1) s = some s' ∧ GreedyInv G dist s' ∧
        ∀ e ∈ G.nn s'.curr, e ≠ G.BAD → ¬dist e < s'.currDist := by
  induction c with
  | zero =>
    intro s hs hc
    have hstay : s.curr = (greedyPass G dist s).curr :=
      not_not.1 fun hmove => absurd (closerCount_pass hs hmove) (by omega)
    rw [greedyLoop, if_neg (not_not.2 hstay)]
    exact ⟨_, rfl, greedyPass_inv hs, local_min_of_stay hstay⟩
  | succ c ih =>
    intro s hs hc
    by_cases hmove : s.curr ≠ (greedyPass G dist s).curr
    · rw [greedyLoop, if_pos hmove]
      exact ih _ (greedyPass_inv hs) (by have := closerCount_pass hs hmove; omega)
    · rw [greedyLoop, if_neg hmove]
      exact ⟨_, rfl, greedyPass_inv hs, local_min_of_stay (not_not.1 hmove)⟩

/-- An attempt from a data object ends within `N` passes, on a data object none of whose
non-`BAD` neighbours is strictly closer. -/
theorem greedyAttempt_some {offered : List (R × ℤ)} {start : ℤ} (hstart : 0 ≤ start ∧ start < G.N) :
    ∃ s, greedyAttempt G dist G.N offered start = some s ∧ GreedyInv G dist s ∧
      ∀ e ∈ G.nn s.curr, e ≠ G.BAD → ¬dist e < s.currDist := by
  have hs : GreedyInv G dist
      (⟨start, dist start, offered ++ [(dist start, start)]⟩ : GreedyState R) :=
    ⟨rfl, hstart.1, hstart.2⟩
  have h := greedyLoop_some (G.N - 1) _ hs (by have := closerCount_lt hs; omega)
  rwa [Nat.sub_add_cancel G.N_pos] at h

/-- Every search from data objects ends. -/
theorem SearchGreedy_some (starts : List ℤ) (hstarts : ∀ x ∈ starts, 0 ≤ x ∧ x < G.N) :
    ∃ offered, SearchGreedy G dist starts = some offered := by
  suffices ∀ offered, ∃ r, starts.foldlM (fun offered curr =>
      (greedyAttempt G dist G.N offered curr).map (·.offered)) offered = some r from this []
  induction starts with
  | nil => exact fun offered => ⟨offered, rfl⟩
  | cons x xs ih =>
    intro offered
    obtain ⟨s, hs, -⟩ :=
      @greedyAttempt_some R _ G dist offered x (hstarts x (List.mem_cons_self x xs))
    obtain ⟨r, hr⟩ := ih (fun y hy => hstarts y (List.mem_cons_of_mem x hy)) s.offered
    exact ⟨r, by simp [hs, hr]⟩

end Similarity
