import Mathlib
import NmsLib.Graph.SmallWorld

/-!
# Small-world search with `searchNN ≥ N` is exhaustive

`closestDistQueue` keeps at most `searchNN` distances of the attempt, and the attempt stops when
its best candidate is farther than the largest of them. An attempt pushes one distance per node it
visits for the first time, so with `searchNN ≥ N` nothing is ever popped: every candidate's
distance stays in the queue, the best candidate is never farther than the queue's top, and the
attempt runs until no candidate is left, having expanded every node it visited
(`swLoop_exhaustive`). The visited nodes are then closed under the graph's edges and hold every
node reachable from a start (`reach_visited`); on a graph in which every node reaches every other,
the search offers the exact `k` nearest neighbours (`searchSmallWorld_exact`).

* `ExhInv`: the queue is no longer than `visitedNodes` and holds every candidate's distance.
* `ClosedExcept G s P`: each visited node satisfying `P` is still a candidate or has all its
  neighbours visited; a round breaks it only for the node it expands, and restores it
  (`expand_exh`).
-/

namespace Similarity

/-- A non-`BAD` entry `e` of node `x`'s neighbour list. -/
def KNNGraph.Edge (G : KNNGraph) (x e : ℤ) : Prop := e ∈ G.nn x ∧ e ≠ G.BAD

variable {R : Type} [LinearOrderedAddCommGroup R] {G : KNNGraph} {dist : ℤ → R}

/-- What an attempt keeps when the queue is never popped. -/
structure ExhInv (s : SWState R) : Prop where
  queue_le : s.closestDistQueue.length ≤ s.visitedNodes.length
  cand_queue : ∀ ev ∈ s.candidateSet, -(ofLex ev).1 ∈ s.closestDistQueue

/-- Every visited node satisfying `P` is still a candidate or has all its neighbours visited. -/
def ClosedExcept (G : KNNGraph) (s : SWState R) (P : ℤ → Prop) : Prop :=
  ∀ y ∈ s.visitedNodes, P y →
    (∃ ev ∈ s.candidateSet, (ofLex ev).2 = y) ∨ ∀ e, G.Edge y e → e ∈ s.visitedNodes

/-- The nodes `V` hold every neighbour of theirs. -/
def AllClosed (G : KNNGraph) (V : List ℤ) : Prop := ∀ y ∈ V, ∀ e, G.Edge y e → e ∈ V

/-- A set of data objects has at most `N` elements. -/
theorem length_le_of_lt {N : ℕ} {V : List ℤ} (hV : V.Nodup) (hlt : ∀ x ∈ V, 0 ≤ x ∧ x < N) :
    V.length ≤ N := by
  rw [← List.toFinset_card_of_nodup hV]
  calc V.toFinset.card ≤ (Finset.Ico (0 : ℤ) N).card :=
        Finset.card_le_card fun x hx => Finset.mem_Ico.2 (hlt x (List.mem_toFinset.1 hx))
    _ = N := by simp

/-- Nodes closed under the edges hold every node reachable from one of them. -/
theorem reach_visited {V : List ℤ} (hcl : AllClosed G V) {x y : ℤ} (hx : x ∈ V)
    (hxy : Relation.ReflTransGen G.Edge x y) : y ∈ V := by
  induction hxy with
  | refl => exact hx
  | tail _ he ih => exact hcl _ ih _ he

/-! ## An attempt -/

/-- One neighbour: `ExhInv` and the closure of the nodes satisfying `P` are kept, and a
non-`BAD` neighbour ends up visited. -/
theorem swExpand_exh {searchNN : ℕ} (hNN : G.N ≤ searchNN) {s : SWState R} {e : ℤ}
    (h : LoopInv G dist s) (hx : ExhInv s) (he : e ≠ G.BAD → 0 ≤ e ∧ e < G.N) (P : ℤ → Prop)
    (hc : ClosedExcept G s P) :
    ExhInv (swExpand G dist searchNN s e) ∧ ClosedExcept G (swExpand G dist searchNN s e) P ∧
      (e ≠ G.BAD → e ∈ (swExpand G dist searchNN s e).visitedNodes) := by
  unfold swExpand
  split_ifs with hb hv
  · exact ⟨hx, hc, fun h' => absurd hb h'⟩
  · exact ⟨hx, hc, fun _ => hv⟩
  · dsimp only
    have hlen := length_le_of_lt (List.nodup_cons.2 ⟨hv, h.visited_nodup⟩)
      (List.forall_mem_cons.2 ⟨he hb, h.visited_lt⟩)
    have hq := hx.queue_le
    rw [List.length_cons] at hlen
    rw [if_neg (by rw [List.length_cons]; omega), List.insert_of_not_mem hv]
    refine ⟨⟨Nat.succ_le_succ hq, ?_⟩, fun y hy hPy => ?_, fun _ => List.mem_cons_self _ _⟩
    · rintro ev (_ | ⟨_, hev⟩)
      · simp
      · exact List.mem_cons_of_mem _ (hx.cand_queue ev hev)
    · rcases List.mem_cons.1 hy with rfl | hy
      · exact .inl ⟨_, List.mem_cons_self _ _, rfl⟩
      · rcases hc y hy hPy with ⟨ev, hev, hevy⟩ | hcl
        · exact .inl ⟨ev, List.mem_cons_of_mem _ hev, hevy⟩
        · exact .inr fun e' he' => List.mem_cons_of_mem _ (hcl e' he')

/-- The loop over a neighbour list `L`. -/
theorem expand_exh {searchNN : ℕ} (hNN : G.N ≤ searchNN) (P : ℤ → Prop) (L : List ℤ)
    (hL : ∀ e ∈ L, e ≠ G.BAD → 0 ≤ e ∧ e < G.N) {s : SWState R} (h : LoopInv G dist s)
    (hx : ExhInv s) (hc : ClosedExcept G s P) :
    ExhInv (L.foldl (swExpand G dist searchNN) s) ∧
      ClosedExcept G (L.foldl (swExpand G dist searchNN) s) P ∧
      ∀ e ∈ L, e ≠ G.BAD → e ∈ (L.foldl (swExpand G dist searchNN) s).visitedNodes := by
  induction L generalizing s with
  | nil => exact ⟨hx, hc, fun _ h => absurd h (List.not_mem_nil _)⟩
  | cons e L ih =>
    obtain ⟨hx₁, hc₁, he₁⟩ := swExpand_exh hNN h hx (hL e (List.mem_cons_self e L)) P hc
    obtain ⟨h₁, -⟩ := swExpand_inv searchNN h (hL e (List.mem_cons_self e L))
    obtain ⟨hx₂, hc₂, he₂⟩ := ih (fun x hx => hL x (List.mem_cons_of_mem e hx)) h₁ hx₁ hc₁
    refine ⟨hx₂, hc₂, fun x hx hxb => ?_⟩
    rcases List.mem_cons.1 hx with rfl | hx
    · exact foldl_swExpand_visited searchNN L _ (he₁ hxb)
    · exact he₂ x hx hxb

/-- With `searchNN ≥ N` the loop never stops early: it ends with no candidate left, every
visited node expanded. -/
theorem swLoop_exhaustive {searchNN : ℕ} (hNN : G.N ≤ searchNN) (fuel : ℕ) (s : SWState R)
    (h : LoopInv G dist s) (hx : ExhInv s) (hc : ClosedExcept G s fun _ => True)
    (hfuel : potential G s < fuel) :
    ∃ s', swLoop G dist searchNN fuel s = some (.ok s') ∧ ResultInv G dist s' ∧
      AllClosed G s'.visitedNodes := by
  induction fuel generalizing s with
  | zero => exact absurd hfuel (Nat.not_lt_zero _)
  | succ fuel ih =>
    rw [swLoop]
    cases hcand : s.candidateSet.max? with
    | none =>
      refine ⟨s, rfl, h.toResultInv, fun y hy e he => ?_⟩
      rcases hc y hy trivial with ⟨ev, hev, -⟩ | hcl
      · rw [List.max?_eq_none_iff.1 hcand] at hev; cases hev
      · exact hcl e he
    | some currEv =>
      obtain ⟨lowerBound, hlb⟩ := max?_some h.queue_ne
      have hmem := List.max?_mem max_choice hcand
      -- the best candidate's distance is in the queue, so it is not above the queue's top
      have hle : -(ofLex currEv).1 ≤ lowerBound :=
        (List.max?_le_iff (fun _ _ _ => max_le_iff) hlb).1 le_rfl _ (hx.cand_queue _ hmem)
      simp only [hlb]
      rw [if_neg (not_lt.2 hle)]
      have hid := h.visited_lt _ (h.cand_visited _ hmem)
      let s₁ : SWState R := { s with candidateSet := s.candidateSet.erase currEv }
      have h₁ : LoopInv G dist s₁ :=
        ⟨⟨h.visited_nodup, h.visited_lt, h.sorted, h.perm⟩,
          fun ev hev => h.cand_visited ev (List.mem_of_mem_erase hev), h.queue_ne⟩
      have hx₁ : ExhInv s₁ :=
        ⟨hx.queue_le, fun ev hev => hx.cand_queue ev (List.mem_of_mem_erase hev)⟩
      have hc₁ : ClosedExcept G s₁ (· ≠ (ofLex currEv).2) := fun y hy hne => by
        rcases hc y hy trivial with ⟨ev, hev, rfl⟩ | hcl
        · exact .inl ⟨ev, (List.mem_erase_of_ne fun he => hne (by rw [he])).2 hev, rfl⟩
        · exact .inr hcl
      have hp₁ : potential G s₁ + 1 = potential G s := by
        have := List.length_pos_of_mem hmem
        simp only [potential, s₁, List.length_erase_of_mem hmem]
        omega
      have hL := fun e he => G.key_lt _ hid.1 hid.2 e he
      obtain ⟨h₂, p₂⟩ := expand_inv searchNN (G.nn (ofLex currEv).2) hL h₁
      obtain ⟨hx₂, hc₂, hvis₂⟩ := expand_exh hNN _ (G.nn (ofLex currEv).2) hL h₁ hx₁ hc₁
      refine ih _ h₂ hx₂ (fun y hy _ => ?_) (lt_of_le_of_lt p₂ (by omega))
      by_cases hy' : y = (ofLex currEv).2
      · subst hy'
        exact .inr fun e he => hvis₂ e he.1 he.2
      · exact hc₂ y hy hy'

/-- An attempt keeps the visited nodes closed, and visits its start. -/
theorem swAttempt_exhaustive {searchNN : ℕ} (hNN : G.N ≤ searchNN) (s : SWState R)
    (h : ResultInv G dist s) (hcl : AllClosed G s.visitedNodes) (rand : ℤ) :
    ∃ s', swAttempt G dist searchNN (2 * G.N) s rand = some (.ok s') ∧ ResultInv G dist s' ∧
      AllClosed G s'.visitedNodes ∧ rand % 2 ^ 64 % (G.N : ℤ) ∈ s'.visitedNodes := by
  have hN := G.N_pos
  rw [swAttempt]
  generalize hxdef : rand % 2 ^ 64 % (G.N : ℤ) = x
  have hx : 0 ≤ x ∧ x < G.N := by
    subst hxdef; exact ⟨Int.emod_nonneg _ (by omega), Int.emod_lt_of_pos _ (by omega)⟩
  have hvis := List.mem_insert_self x s.visitedNodes
  have h₀ : ResultInv G dist ⟨setInsert (evalNode dist x) s.resultSet, s.visitedNodes.insert x,
      [dist x], [evalNode dist x]⟩ := h.insert hx rfl rfl
  have hu := unvisited_lt hx hvis
  have hc₀ : ClosedExcept G (⟨setInsert (evalNode dist x) s.resultSet, s.visitedNodes.insert x,
      [dist x], [evalNode dist x]⟩ : SWState R) fun _ => True := fun y hy _ => by
    by_cases hyx : y = x
    · exact .inl ⟨evalNode dist x, List.mem_singleton_self _, hyx.symm ▸ rfl⟩
    · exact .inr fun e he =>
        List.mem_insert_iff.2 (.inr (hcl y ((List.mem_insert_iff.1 hy).resolve_left hyx) e he))
  obtain ⟨s', hs', hr', hcl'⟩ := swLoop_exhaustive hNN (2 * G.N) _
    ⟨h₀, by simp only [List.mem_singleton]; rintro _ rfl; exact hvis, List.cons_ne_nil _ _⟩
    ⟨by simpa using List.length_pos_of_mem hvis, by simp [evalNode]⟩ hc₀
    (by simp only [potential, List.length_singleton]; omega)
  exact ⟨s', hs', hr', hcl', swLoop_visited hs' hvis⟩

/-- The attempts keep the visited nodes closed, and visit every start. -/
theorem swAttempts_exhaustive {searchNN : ℕ} (hNN : G.N ≤ searchNN) (rands : List ℤ)
    (s : SWState R) (h : ResultInv G dist s) (hcl : AllClosed G s.visitedNodes) :
    ∃ s', swAttempts G dist searchNN rands s = some (.ok s') ∧ ResultInv G dist s' ∧
      AllClosed G s'.visitedNodes ∧ ∀ rand ∈ rands, rand % 2 ^ 64 % (G.N : ℤ) ∈ s'.visitedNodes := by
  induction rands generalizing s with
  | nil => exact ⟨s, rfl, h, hcl, fun _ h => absurd h (List.not_mem_nil _)⟩
  | cons rand rands ih =>
    obtain ⟨s₁, h₁, hi₁, hcl₁, hst₁⟩ := swAttempt_exhaustive hNN s h hcl rand
    obtain ⟨s', hs', hi', hcl', hst'⟩ := ih s₁ hi₁ hcl₁
    refine ⟨s', by rw [swAttempts, h₁]; exact hs', hi', hcl', fun r hr => ?_⟩
    rcases List.mem_cons.1 hr with rfl | hr
    · exact swAttempts_visited hs' hst₁
    · exact hst' r hr

/-- `BestOffers` reads the node set only through its members and its size. -/
theorem BestOffers.perm {k : ℕ} {V V' : List ℤ} {out : List (R × ℤ)} (h : BestOffers dist k V out)
    (hV : V.Perm V') : BestOffers dist k V' out :=
  ⟨hV.length_eq ▸ h.length_eq, fun p hp => ⟨hV.mem_iff.1 (h.mem p hp).1, (h.mem p hp).2⟩,
    h.ids_nodup, h.ascending, fun p hp y hy => h.closest p hp y (hV.mem_iff.2 hy)⟩

/-- With `searchNN ≥ N`, on a graph in which every node reaches every other, the small-world
search offers the exact `min k N` nearest neighbours of the query, in ascending distance. -/
theorem searchSmallWorld_exact (G : KNNGraph) (dist : ℤ → R) (k searchNN : ℕ)
    (hNN : G.N ≤ searchNN)
    (hconn : ∀ x y : ℤ, 0 ≤ x → x < G.N → 0 ≤ y → y < G.N → Relation.ReflTransGen G.Edge x y)
    (rands : List ℤ) (hrands : rands ≠ []) :
    ∃ out, SearchSmallWorld G dist k searchNN rands = some (.ok out) ∧
      BestOffers dist k ((List.range G.N).map Nat.cast) out := by
  obtain ⟨s, hs, h, hcl, hstart⟩ :=
    swAttempts_exhaustive hNN rands _ (resultInv_empty G dist) fun _ h => absurd h (List.not_mem_nil _)
  obtain ⟨rand, hrand⟩ := List.exists_mem_of_ne_nil rands hrands
  have hx := h.visited_lt _ (hstart rand hrand)
  have hperm : s.visitedNodes.Perm ((List.range G.N).map Nat.cast) :=
    (List.perm_ext_iff_of_nodup h.visited_nodup ((List.nodup_range G.N).map Nat.cast_injective)).2
      fun y => ⟨fun hy => by
        have := h.visited_lt y hy
        exact List.mem_map.2 ⟨y.toNat, List.mem_range.2 (by omega), by omega⟩,
      fun hy => by
        obtain ⟨n, hn, rfl⟩ := List.mem_map.1 hy
        have := List.mem_range.1 hn
        exact reach_visited hcl (hstart rand hrand)
          (hconn _ n hx.1 hx.2 (by omega) (by omega))⟩
  exact ⟨_, by rw [SearchSmallWorld, hs]; rfl, (resultOffers_best k h).perm hperm⟩

/-- Two nodes, each the other's neighbour: one attempt finds both. -/
theorem searchSmallWorld_exact_pair :
    ∃ out, SearchSmallWorld ⟨2, fun i => [1 - i], -1, by decide, fun i _ _ e he _ => by
        have := List.mem_singleton.1 he; omega⟩ (fun i : ℤ => i) 2 2 [0] = some (.ok out) ∧
      BestOffers (fun i : ℤ => i) 2 ((List.range 2).map Nat.cast) out :=
  searchSmallWorld_exact _ _ 2 2 le_rfl (fun x y hx0 hx1 hy0 hy1 => by
    dsimp only at hx1 hy1
    rcases (show x = y ∨ y = 1 - x by omega) with rfl | rfl
    · exact .refl
    · exact .single ⟨List.mem_singleton_self _, by dsimp only; omega⟩) [0] (List.cons_ne_nil _ _)

end Similarity
