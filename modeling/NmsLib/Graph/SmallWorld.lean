import Mathlib
import NmsLib.Graph.Greedy

/-!
# Small-world search on the k-NN graph (`NNDescentMethodOld::SearchSmallWorld`)

Each of the `initSearchAttempts` attempts starts at a random node and runs a best-first search:
`candidateSet` holds the nodes still to expand, closest first, and `closestDistQueue` the
`searchNN` smallest distances seen in the attempt; the attempt stops when the best candidate is
farther than the largest of them. `visitedNodes` and `resultSet` are shared by the attempts, and
the search ends by offering the first `k` entries of `resultSet`, closest first.

* `ResultInv`: `resultSet` is the sorted set `{(-d(x), x) : x ∈ visitedNodes}`.
* `LoopInv`: in addition every candidate was visited and `closestDistQueue` is not empty.
* `swLoop_ok`: from a `LoopInv` state the loop ends, with no `top()` of an empty queue, when its
  fuel exceeds the potential `2 * |unvisited| + |candidateSet|`.
* `resultOffers_best`: the final loop offers the `min k |V|` visited nodes closest to the query.
* `searchSmallWorld_best`: the search ends, and offers those nodes.
-/

namespace Similarity

/-! ## The containers -/

/-- `std::set::insert` on a set kept as its ascending list. -/
def setInsert {α : Type} [LinearOrder α] (a : α) (l : List α) : List α :=
  if a ∈ l then l else l.orderedInsert (· ≤ ·) a

/-- `std::priority_queue::pop` on a queue kept as the list of its elements: one copy of `top()`,
the greatest element, goes. -/
def pqPop {α : Type} [LinearOrder α] (q : List α) : List α :=
  match q.max? with
  | some t => q.erase t
  | none => q

section Containers

variable {α : Type} [LinearOrder α]

theorem setInsert_of_mem {a : α} {l : List α} (h : a ∈ l) : setInsert a l = l := if_pos h

theorem setInsert_perm {a : α} {l : List α} (h : a ∉ l) : (setInsert a l).Perm (a :: l) := by
  rw [setInsert, if_neg h]; exact List.perm_orderedInsert _ _ _

theorem setInsert_sorted (a : α) {l : List α} (h : l.Sorted (· ≤ ·)) :
    (setInsert a l).Sorted (· ≤ ·) := by
  unfold setInsert; split
  · exact h
  · exact h.orderedInsert a l

theorem max?_some {q : List α} (h : q ≠ []) : ∃ t, q.max? = some t :=
  Option.ne_none_iff_exists'.1 (by rwa [Ne, List.max?_eq_none_iff])

theorem pqPop_length {q : List α} (h : q ≠ []) : (pqPop q).length + 1 = q.length := by
  obtain ⟨t, ht⟩ := max?_some h
  have := List.length_pos.2 h
  rw [pqPop, ht, List.length_erase_of_mem (List.max?_mem max_choice ht)]
  omega

end Containers

/-! ## The search -/

variable {R : Type} [LinearOrderedAddCommGroup R] (G : KNNGraph) (dist : ℤ → R)

/-- The search's variables. `resultSet` and `visitedNodes` live across attempts;
`closestDistQueue` and `candidateSet` are made afresh by each attempt. A priority queue is the
list of its elements, `top()` being their maximum (`List.max?`); an `EvaluatedNode` is the pair
`(-d, id)` under `std::pair`'s lexicographic order. -/
structure SWState (R : Type) where
  resultSet : List (R ×ₗ ℤ)
  visitedNodes : List ℤ
  closestDistQueue : List R
  candidateSet : List (R ×ₗ ℤ)

/-- One entry `currNew` of the loop over `nn[currEvId]`; `dist` is
`query->DistanceObjLeft(data_[·])`. -/
def swExpand (searchNN : ℕ) (s : SWState R) (currNew : ℤ) : SWState R :=
  if currNew = G.BAD then s
  else if currNew ∉ s.visitedNodes then
    let d := dist currNew
    let closestDistQueue := d :: s.closestDistQueue
    { visitedNodes := s.visitedNodes.insert currNew
      closestDistQueue :=
        if closestDistQueue.length > searchNN then pqPop closestDistQueue else closestDistQueue
      candidateSet := toLex (-d, currNew) :: s.candidateSet
      resultSet := setInsert (toLex (-d, currNew)) s.resultSet }
  else s

/-- `while (!candidateSet.empty())`, with at most `fuel` rounds: `none` when the fuel runs out,
`.error` when `closestDistQueue.top()` is read on an empty queue (undefined behaviour in C++). -/
def swLoop (searchNN : ℕ) : ℕ → SWState R → Option (Except String (SWState R))
  | 0, _ => none
  | fuel + 1, s =>
    match s.candidateSet.max? with
    | none => some (.ok s)
    | some currEv =>
      match s.closestDistQueue.max? with
      | none => some (.error "closestDistQueue.top() on an empty queue")
      | some lowerBound =>
        if -(ofLex currEv).1 > lowerBound then some (.ok s)
        else
          swLoop searchNN fuel ((G.nn (ofLex currEv).2).foldl (swExpand G dist searchNN)
            { s with candidateSet := s.candidateSet.erase currEv })

/-- One attempt, from `randPoint = RandomInt() % data_.size()`, the `int` converted to `size_t`
(`RandomInt` is not among the sources: its value `rand` is a parameter). -/
def swAttempt (searchNN fuel : ℕ) (s : SWState R) (rand : ℤ) :
    Option (Except String (SWState R)) :=
  let randPoint := rand % 2 ^ 64 % G.N
  let d := dist randPoint
  swLoop G dist searchNN fuel
    { candidateSet := [toLex (-d, randPoint)]
      closestDistQueue := [d]
      visitedNodes := s.visitedNodes.insert randPoint
      resultSet := setInsert (toLex (-d, randPoint)) s.resultSet }

/-- The attempts, one per value of `RandomInt()`, each with `2 * N` rounds. -/
def swAttempts (searchNN : ℕ) : List ℤ → SWState R → Option (Except String (SWState R))
  | [], s => some (.ok s)
  | rand :: rands, s =>
    match swAttempt G dist searchNN (2 * G.N) s rand with
    | some (.ok s') => swAttempts searchNN rands s'
    | r => r

/-- The final loop from `resultSet.rbegin()`: `(-first, second)` for at most `k` entries. -/
def resultOffers (k : ℕ) (resultSet : List (R ×ₗ ℤ)) : List (R × ℤ) :=
  (resultSet.reverse.take k).map fun ev => (-(ofLex ev).1, (ofLex ev).2)

/-- `SearchSmallWorld(query)`: the pairs `(d, id)` handed to `query->CheckAndAddToResult`,
in order. -/
def SearchSmallWorld (k searchNN : ℕ) (rands : List ℤ) :
    Option (Except String (List (R × ℤ))) :=
  (swAttempts G dist searchNN rands ⟨[], [], [], []⟩).map
    (Except.map fun s => resultOffers k s.resultSet)

/-! ## Invariants -/

/-- The `EvaluatedNode` of node `x`. -/
def evalNode (x : ℤ) : R ×ₗ ℤ := toLex (-dist x, x)

theorem evalNode_injective : Function.Injective (evalNode dist) :=
  fun _ _ h => congrArg (fun ev => (ofLex ev).2) h

/-- What holds between attempts: `visitedNodes` is a set of data objects, and `resultSet` is
the ascending list of their `EvaluatedNode`s. -/
structure ResultInv (s : SWState R) : Prop where
  visited_nodup : s.visitedNodes.Nodup
  visited_lt : ∀ x ∈ s.visitedNodes, 0 ≤ x ∧ x < G.N
  sorted : s.resultSet.Sorted (· ≤ ·)
  perm : s.resultSet.Perm (s.visitedNodes.map (evalNode dist))

/-- What holds at the head of the `while` loop. -/
structure LoopInv (s : SWState R) extends ResultInv G dist s : Prop where
  cand_visited : ∀ ev ∈ s.candidateSet, (ofLex ev).2 ∈ s.visitedNodes
  queue_ne : s.closestDistQueue ≠ []

/-- The number of data objects not visited yet. -/
def unvisited (N : ℕ) (V : List ℤ) : ℕ :=
  ((Finset.range N).filter fun y : ℕ => (y : ℤ) ∉ V).card

/-- Each round of the loop lowers it: the expanded candidate goes, and every candidate added
is a node visited for the first time. -/
def potential (s : SWState R) : ℕ :=
  2 * unvisited G.N s.visitedNodes + s.candidateSet.length

variable {G dist}

theorem unvisited_lt {N : ℕ} {V : List ℤ} {x : ℤ} (hx : 0 ≤ x ∧ x < N) (hV : x ∈ V) :
    unvisited N V < N := by
  have hsub : (Finset.range N).filter (fun y : ℕ => (y : ℤ) ∉ V) ⊂ Finset.range N :=
    Finset.filter_ssubset.2 ⟨x.toNat, by simp; omega, by simpa [Int.toNat_of_nonneg hx.1]⟩
  simpa [unvisited] using Finset.card_lt_card hsub

theorem unvisited_cons_lt {N : ℕ} {V : List ℤ} {x : ℤ} (hx : 0 ≤ x ∧ x < N) (hV : x ∉ V) :
    unvisited N (x :: V) < unvisited N V := by
  apply Finset.card_lt_card
  refine (Finset.ssubset_iff_of_subset ?_).2 ⟨x.toNat, ?_, ?_⟩
  · intro y; simp only [Finset.mem_filter, List.mem_cons, not_or]; exact fun h => ⟨h.1, h.2.2⟩
  · simp only [Finset.mem_filter, Finset.mem_range, Int.toNat_of_nonneg hx.1]
    exact ⟨by omega, hV⟩
  · simp [Int.toNat_of_nonneg hx.1]

/-- Visiting `x` (`visitedNodes.insert(x)`, `resultSet.insert((-d(x), x))`) keeps `ResultInv`,
whether or not `x` was visited before. -/
theorem ResultInv.insert {s s' : SWState R} {x : ℤ} (h : ResultInv G dist s)
    (hx : 0 ≤ x ∧ x < G.N) (hv : s'.visitedNodes = s.visitedNodes.insert x)
    (hr : s'.resultSet = setInsert (evalNode dist x) s.resultSet) : ResultInv G dist s' := by
  by_cases hm : x ∈ s.visitedNodes
  · rw [List.insert_of_mem hm] at hv
    rw [setInsert_of_mem (h.perm.mem_iff.2 (List.mem_map_of_mem _ hm))] at hr
    exact ⟨hv ▸ h.visited_nodup, hv ▸ h.visited_lt, hr ▸ h.sorted, hv ▸ hr ▸ h.perm⟩
  · have hne : evalNode dist x ∉ s.resultSet := fun he => by
      obtain ⟨y, hy, hxy⟩ := List.mem_map.1 (h.perm.mem_iff.1 he)
      exact hm (evalNode_injective dist hxy ▸ hy)
    rw [List.insert_of_not_mem hm] at hv
    refine ⟨hv ▸ List.nodup_cons.2 ⟨hm, h.visited_nodup⟩, ?_, hr ▸ setInsert_sorted _ h.sorted, ?_⟩
    · rw [hv]; exact List.forall_mem_cons.2 ⟨hx, h.visited_lt⟩
    · rw [hr, hv, List.map_cons]; exact (setInsert_perm hne).trans (h.perm.cons _)

/-- One neighbour entry keeps `LoopInv` and does not raise the potential. -/
theorem swExpand_inv (searchNN : ℕ) {s : SWState R} {e : ℤ} (h : LoopInv G dist s)
    (he : e ≠ G.BAD → 0 ≤ e ∧ e < G.N) :
    LoopInv G dist (swExpand G dist searchNN s e) ∧
      potential G (swExpand G dist searchNN s e) ≤ potential G s := by
  unfold swExpand
  split_ifs with hbad hnew
  · exact ⟨h, le_rfl⟩
  · exact ⟨h, le_rfl⟩
  · have hx := he hbad
    dsimp only
    refine ⟨⟨h.insert hx rfl rfl, ?_, ?_⟩, ?_⟩
    · simp only [List.mem_cons, List.mem_insert_iff]
      rintro ev (rfl | hev)
      · exact .inl rfl
      · exact .inr (h.cand_visited ev hev)
    · split
      · have := pqPop_length (List.cons_ne_nil (dist e) s.closestDistQueue)
        have := List.length_pos.2 h.queue_ne
        exact List.ne_nil_of_length_pos (by simp only [List.length_cons] at *; omega)
      · exact List.cons_ne_nil _ _
    · have := unvisited_cons_lt hx hnew
      simp only [potential, List.insert_of_not_mem hnew, List.length_cons]
      omega

/-- The loop over `nn[currEvId]`, for a list whose non-`BAD` entries are data objects. -/
theorem expand_inv (searchNN : ℕ) (L : List ℤ) (hL : ∀ e ∈ L, e ≠ G.BAD → 0 ≤ e ∧ e < G.N)
    {s : SWState R} (h : LoopInv G dist s) :
    LoopInv G dist (L.foldl (swExpand G dist searchNN) s) ∧
      potential G (L.foldl (swExpand G dist searchNN) s) ≤ potential G s := by
  induction L generalizing s with
  | nil => exact ⟨h, le_rfl⟩
  | cons e L ih =>
    obtain ⟨h₁, p₁⟩ := swExpand_inv searchNN h (hL e (List.mem_cons_self e L))
    obtain ⟨h₂, p₂⟩ := ih (fun x hx => hL x (List.mem_cons_of_mem e hx)) h₁
    exact ⟨h₂, p₂.trans p₁⟩

/-- The loop ends normally, and never reads `top()` of an empty `closestDistQueue`, once its
fuel exceeds the potential. -/
theorem swLoop_ok (searchNN fuel : ℕ) (s : SWState R) (h : LoopInv G dist s)
    (hfuel : potential G s < fuel) :
    ∃ s', swLoop G dist searchNN fuel s = some (.ok s') ∧ ResultInv G dist s' := by
  induction fuel generalizing s with
  | zero => exact absurd hfuel (Nat.not_lt_zero _)
  | succ fuel ih =>
    rw [swLoop]
    cases hc : s.candidateSet.max? with
    | none => exact ⟨s, rfl, h.toResultInv⟩
    | some currEv =>
      obtain ⟨lowerBound, hlb⟩ := max?_some h.queue_ne
      simp only [hlb]
      split_ifs with hb
      · exact ⟨s, rfl, h.toResultInv⟩
      · have hmem := List.max?_mem max_choice hc
        have hid := h.visited_lt _ (h.cand_visited _ hmem)
        let s₁ : SWState R := { s with candidateSet := s.candidateSet.erase currEv }
        have h₁ : LoopInv G dist s₁ :=
          ⟨⟨h.visited_nodup, h.visited_lt, h.sorted, h.perm⟩,
            fun ev hev => h.cand_visited ev (List.mem_of_mem_erase hev), h.queue_ne⟩
        have hp₁ : potential G s₁ + 1 = potential G s := by
          have := List.length_pos_of_mem hmem
          simp only [potential, s₁, List.length_erase_of_mem hmem]
          omega
        obtain ⟨h₂, p₂⟩ := expand_inv searchNN (G.nn (ofLex currEv).2)
          (fun e he => G.key_lt _ hid.1 hid.2 e he) h₁
        exact ih _ h₂ (lt_of_le_of_lt p₂ (by omega))

/-- An attempt ends normally within its `2 * N` rounds. -/
theorem swAttempt_ok (searchNN : ℕ) (s : SWState R) (h : ResultInv G dist s) (rand : ℤ) :
    ∃ s', swAttempt G dist searchNN (2 * G.N) s rand = some (.ok s') ∧ ResultInv G dist s' := by
  have hN := G.N_pos
  rw [swAttempt]
  generalize hxdef : rand % 2 ^ 64 % (G.N : ℤ) = x
  have hx : 0 ≤ x ∧ x < G.N := by
    subst hxdef; exact ⟨Int.emod_nonneg _ (by omega), Int.emod_lt_of_pos _ (by omega)⟩
  have hvis := List.mem_insert_self x s.visitedNodes
  have h₀ : ResultInv G dist ⟨setInsert (evalNode dist x) s.resultSet, s.visitedNodes.insert x,
      [dist x], [evalNode dist x]⟩ := h.insert hx rfl rfl
  have hu := unvisited_lt hx hvis
  refine swLoop_ok searchNN _ _ ⟨h₀, ?_, List.cons_ne_nil _ _⟩ ?_
  · simp only [List.mem_singleton]; rintro _ rfl; exact hvis
  · simp only [potential, List.length_singleton]; omega

theorem resultInv_empty (G : KNNGraph) (dist : ℤ → R) : ResultInv G dist ⟨[], [], [], []⟩ :=
  ⟨List.nodup_nil, by simp, List.sorted_nil, by simp⟩

/-- Every run of the attempts ends normally. -/
theorem swAttempts_ok (searchNN : ℕ) (rands : List ℤ) (s : SWState R) (h : ResultInv G dist s) :
    ∃ s', swAttempts G dist searchNN rands s = some (.ok s') ∧ ResultInv G dist s' := by
  induction rands generalizing s with
  | nil => exact ⟨s, rfl, h⟩
  | cons rand rands ih =>
    obtain ⟨s₁, h₁, hi₁⟩ := swAttempt_ok searchNN s h rand
    rw [swAttempts, h₁]
    exact ih s₁ hi₁

/-! ## The offers -/

/-- `out` offers the `min k |V|` nodes of `V` closest to the query, in ascending distance, each
once and with its own distance. -/
structure BestOffers (dist : ℤ → R) (k : ℕ) (V : List ℤ) (out : List (R × ℤ)) : Prop where
  length_eq : out.length = min k V.length
  mem : ∀ p ∈ out, p.2 ∈ V ∧ p.1 = dist p.2
  ids_nodup : (out.map Prod.snd).Nodup
  ascending : out.Sorted fun a b => a.1 ≤ b.1
  closest : ∀ p ∈ out, ∀ y ∈ V, y ∉ out.map Prod.snd → p.1 ≤ dist y

theorem neg_fst_le {a b : R ×ₗ ℤ} (h : b ≤ a) : -(ofLex a).1 ≤ -(ofLex b).1 :=
  neg_le_neg (Prod.Lex.monotone_fst b a h)

theorem resultOffers_ids (k : ℕ) (resultSet : List (R ×ₗ ℤ)) :
    (resultOffers k resultSet).map Prod.snd =
      (resultSet.reverse.take k).map fun ev => (ofLex ev).2 := by
  simp [resultOffers, Function.comp_def]

/-- The final loop offers the best visited nodes. -/
theorem resultOffers_best (k : ℕ) {s : SWState R} (h : ResultInv G dist s) :
    BestOffers dist k s.visitedNodes (resultOffers k s.resultSet) := by
  set E := s.resultSet.reverse
  have hE : E.Sorted (· ≥ ·) := List.pairwise_reverse.2 h.sorted
  have hmemE : ∀ ev ∈ E, ∃ x ∈ s.visitedNodes, evalNode dist x = ev := fun ev hev =>
    List.mem_map.1 (h.perm.mem_iff.1 (List.mem_reverse.1 hev))
  have hids : (E.map fun ev => (ofLex ev).2).Nodup := by
    have := (h.perm.map fun ev => (ofLex ev).2).nodup_iff.2
      (by rw [List.map_map]; simpa [Function.comp_def, evalNode] using h.visited_nodup)
    rwa [List.map_reverse, List.nodup_reverse]
  refine ⟨?_, ?_, ?_, ?_, ?_⟩
  · simp [resultOffers, E, h.perm.length_eq]
  · simp only [resultOffers, List.mem_map]
    rintro _ ⟨ev, hev, rfl⟩
    obtain ⟨x, hx, rfl⟩ := hmemE ev (List.mem_of_mem_take hev)
    simpa [evalNode] using hx
  · rw [resultOffers_ids, List.map_take]
    exact hids.sublist (List.take_sublist _ _)
  · exact List.pairwise_map.2 ((hE.sublist (List.take_sublist _ _)).imp neg_fst_le)
  · intro p hp y hy hyout
    rw [resultOffers_ids] at hyout
    obtain ⟨ev, hev, rfl⟩ := List.mem_map.1 hp
    have hyE : evalNode dist y ∈ E :=
      List.mem_reverse.2 (h.perm.mem_iff.2 (List.mem_map_of_mem _ hy))
    rw [← List.take_append_drop k E, List.mem_append] at hyE
    rcases hyE with hyt | hyd
    · exact absurd (List.mem_map_of_mem (fun ev => (ofLex ev).2) hyt) hyout
    · have hle := (List.pairwise_append.1 ((List.take_append_drop k E).symm ▸ hE)).2.2 ev hev _ hyd
      simpa [evalNode] using neg_fst_le hle

/-- `SearchSmallWorld` ends, never reads `top()` of an empty `closestDistQueue`, and offers the
`min k |V|` nodes closest to the query among the nodes `V` whose distance it computed, in
ascending distance, each once and with its distance. -/
theorem searchSmallWorld_best (G : KNNGraph) (dist : ℤ → R) (k searchNN : ℕ) (rands : List ℤ) :
    ∃ s : SWState R, swAttempts G dist searchNN rands ⟨[], [], [], []⟩ = some (.ok s) ∧
      SearchSmallWorld G dist k searchNN rands = some (.ok (resultOffers k s.resultSet)) ∧
      BestOffers dist k s.visitedNodes (resultOffers k s.resultSet) := by
  obtain ⟨s, hs, h⟩ := swAttempts_ok searchNN rands _ (resultInv_empty G dist)
  exact ⟨s, hs, by rw [SearchSmallWorld, hs]; rfl, resultOffers_best k h⟩

/-! ## More attempts

`visitedNodes` and `resultSet` live across the attempts, so the attempts of a longer run of
`RandomInt()` values continue from where the shorter run stopped (`swAttempts_append`), and the
visited nodes only grow (`swAttempts_visited`). Within every radius `r` the answer holds
`min k` of the visited nodes within `r` (`BestOffers.countP_le_radius`), so more attempts never
offer fewer nodes within any radius (`searchSmallWorld_more_attempts`).
-/

theorem swExpand_visited (searchNN : ℕ) (s : SWState R) (e : ℤ) :
    s.visitedNodes ⊆ (swExpand G dist searchNN s e).visitedNodes := by
  unfold swExpand
  split_ifs
  · exact List.Subset.refl _
  · exact List.Subset.refl _
  · exact List.subset_insert e s.visitedNodes

theorem foldl_swExpand_visited (searchNN : ℕ) (L : List ℤ) (s : SWState R) :
    s.visitedNodes ⊆ (L.foldl (swExpand G dist searchNN) s).visitedNodes := by
  induction L generalizing s with
  | nil => exact List.Subset.refl _
  | cons e L ih => exact (swExpand_visited searchNN s e).trans (ih _)

theorem swLoop_visited {searchNN fuel : ℕ} {s s' : SWState R}
    (h : swLoop G dist searchNN fuel s = some (.ok s')) : s.visitedNodes ⊆ s'.visitedNodes := by
  induction fuel generalizing s with
  | zero => cases h
  | succ fuel ih =>
    rw [swLoop] at h
    split at h
    · cases h; exact List.Subset.refl _
    rename_i currEv _
    split at h
    · cases h
    split at h
    · cases h; exact List.Subset.refl _
    · exact (foldl_swExpand_visited searchNN (G.nn (ofLex currEv).2)
        { s with candidateSet := s.candidateSet.erase currEv }).trans (ih h)

/-- Attempts that returned ran their first attempt to a return. -/
theorem swAttempts_cons_ok {searchNN : ℕ} {rand : ℤ} {rands : List ℤ} {s s' : SWState R}
    (h : swAttempts G dist searchNN (rand :: rands) s = some (.ok s')) :
    ∃ s₁, swAttempt G dist searchNN (2 * G.N) s rand = some (.ok s₁) ∧
      swAttempts G dist searchNN rands s₁ = some (.ok s') := by
  rw [swAttempts] at h
  rcases hA : swAttempt G dist searchNN (2 * G.N) s rand with _ | (e | s₁) <;> rw [hA] at h
  · cases h
  · cases h
  · exact ⟨s₁, rfl, h⟩

theorem swAttempts_visited {searchNN : ℕ} {rands : List ℤ} {s s' : SWState R}
    (h : swAttempts G dist searchNN rands s = some (.ok s')) : s.visitedNodes ⊆ s'.visitedNodes := by
  induction rands generalizing s with
  | nil => cases h; exact List.Subset.refl _
  | cons rand rands ih =>
    obtain ⟨s₁, hA, h⟩ := swAttempts_cons_ok h
    exact (List.subset_insert _ _).trans ((swLoop_visited hA).trans (ih h))

theorem swAttempts_append (searchNN : ℕ) (rands rands' : List ℤ) {s s₁ : SWState R}
    (h : swAttempts G dist searchNN rands s = some (.ok s₁)) :
    swAttempts G dist searchNN (rands ++ rands') s = swAttempts G dist searchNN rands' s₁ := by
  induction rands generalizing s with
  | nil => cases h; rfl
  | cons rand rands ih =>
    obtain ⟨s₂, hA, h⟩ := swAttempts_cons_ok h
    rw [List.cons_append, swAttempts, hA]
    exact ih h

/-- Within any radius `r`, an answer of the best `min k |V|` nodes holds `min k` of the nodes
of `V` within `r`. -/
theorem BestOffers.countP_le_radius {k : ℕ} {V : List ℤ} {out : List (R × ℤ)}
    (h : BestOffers dist k V out) (hV : V.Nodup) (r : R) :
    out.countP (fun p => p.1 ≤ r) = min k (V.countP fun y => dist y ≤ r) := by
  rw [List.countP_eq_length_filter, List.countP_eq_length_filter]
  have hOW : ((out.filter fun p => p.1 ≤ r).map Prod.snd).length ≤
      (V.filter fun y => dist y ≤ r).length := by
    refine ((h.ids_nodup.sublist ((List.filter_sublist _).map _)).subperm fun y hy => ?_).length_le
    obtain ⟨p, hp, rfl⟩ := List.mem_map.1 hy
    obtain ⟨hpo, hpr⟩ := List.mem_filter.1 hp
    obtain ⟨hpV, hpd⟩ := h.mem p hpo
    exact List.mem_filter.2 ⟨hpV, by simpa [← hpd] using hpr⟩
  have hOk : (out.filter fun p => p.1 ≤ r).length ≤ k :=
    (List.length_filter_le _ _).trans (h.length_eq ▸ min_le_left _ _)
  rw [List.length_map] at hOW
  by_cases hall : ∀ y ∈ V.filter (fun y => dist y ≤ r), y ∈ out.map Prod.snd
  · -- every visited node within `r` is offered
    have hWO : (V.filter fun y => dist y ≤ r).length ≤
        ((out.filter fun p => p.1 ≤ r).map Prod.snd).length := by
      refine ((hV.sublist (List.filter_sublist _)).subperm fun y hy => ?_).length_le
      obtain ⟨p, hp, rfl⟩ := List.mem_map.1 (hall y hy)
      refine List.mem_map_of_mem _ (List.mem_filter.2 ⟨hp, ?_⟩)
      rw [(h.mem p hp).2]
      simpa using (List.mem_filter.1 hy).2
    rw [List.length_map] at hWO
    omega
  · -- a visited node within `r` is left out, so every offered node is within `r`
    push_neg at hall
    obtain ⟨y, hyW, hyout⟩ := hall
    obtain ⟨hyV, hyr⟩ := List.mem_filter.1 hyW
    have hO : (out.filter fun p => p.1 ≤ r) = out := List.filter_eq_self.2 fun p hp =>
      decide_eq_true ((h.closest p hp y hyV hyout).trans (of_decide_eq_true hyr))
    have hWV : (V.filter fun y => dist y ≤ r).length ≤ V.length := List.length_filter_le _ _
    rw [hO, h.length_eq] at hOW ⊢
    omega

/-- With the same values of `RandomInt()` for the first attempts, more attempts never offer
fewer nodes, nor fewer nodes within any radius `r`. -/
theorem searchSmallWorld_more_attempts (G : KNNGraph) (dist : ℤ → R) (k searchNN : ℕ)
    (rands rands' : List ℤ) :
    ∃ out out', SearchSmallWorld G dist k searchNN rands = some (.ok out) ∧
      SearchSmallWorld G dist k searchNN (rands ++ rands') = some (.ok out') ∧
      out.length ≤ out'.length ∧
      ∀ r, out.countP (fun p => p.1 ≤ r) ≤ out'.countP (fun p => p.1 ≤ r) := by
  obtain ⟨s, hs, h⟩ := swAttempts_ok searchNN rands _ (resultInv_empty G dist)
  obtain ⟨s', hs', h'⟩ := swAttempts_ok searchNN rands' s h
  have hsub := (h.visited_nodup.subperm (swAttempts_visited hs'))
  have hb := resultOffers_best k h
  have hb' := resultOffers_best k h'
  refine ⟨_, _, by rw [SearchSmallWorld, hs]; rfl,
    by rw [SearchSmallWorld, swAttempts_append searchNN rands rands' hs, hs']; rfl, ?_, fun r => ?_⟩
  · rw [hb.length_eq, hb'.length_eq]
    exact min_le_min_left _ hsub.length_le
  · rw [hb.countP_le_radius h.visited_nodup, hb'.countP_le_radius h'.visited_nodup]
    exact min_le_min_left _ (hsub.countP_le _)

end Similarity
