import NodeCall.Fallback.Ranking
import Mathlib.Data.List.Sort

/-!
# Ranking as a stable sort

Ranking is an insertion sort that begins at the end of the order.  It keeps all indices, and if
the scores compare like keys of a linear order, they fall along the new order, indices of one key
stay as they were, and a second ranking changes nothing.
-/

namespace NodeCall.Fallback

section

variable {α : Type} [LT α] [DecidableLT α]

theorem place_eq_orderedInsert (score : Nat → α) (x : Nat) (ranked : List Nat) :
    place score x ranked = ranked.orderedInsert (fun i j => ¬ score j < score i) x := by
  induction ranked with
  | nil => rfl
  | cons y before ih =>
    rw [place, List.orderedInsert_cons, ih]
    by_cases smaller : score y < score x <;> simp [smaller]

theorem rankBy_eq_insertionSort (score : Nat → α) (order : List Nat) :
    rankBy score order =
      (order.reverse.insertionSort fun i j => ¬ score j < score i).reverse := by
  rw [rankBy, List.insertionSort, List.foldr_reverse]
  simp only [place_eq_orderedInsert]

theorem rankBy_perm (score : Nat → α) (order : List Nat) : (rankBy score order).Perm order := by
  rw [rankBy_eq_insertionSort]
  exact (List.reverse_perm _).trans ((List.perm_insertionSort _ _).trans (List.reverse_perm order))

theorem reorder_perm [ScoreArithmetic α] (weights : Weights α) (stats : List Stats)
    (order : List Nat) : (reorder weights stats order).Perm order :=
  rankBy_perm _ order

/-- Scores that compare alike rank alike. -/
theorem rankBy_congr {β : Type} [LT β] [DecidableLT β] {score : Nat → α} {key : Nat → β}
    {order : List Nat}
    (alike : ∀ i ∈ order, ∀ j ∈ order, (score i < score j ↔ key i < key j)) :
    rankBy score order = rankBy key order := by
  have sorts := List.map_insertionSort (fun i j => ¬ score j < score i)
    (fun i j => ¬ key j < key i) id order.reverse (by
      intro i hi j hj
      exact not_congr (alike j (List.mem_reverse.mp hj) i (List.mem_reverse.mp hi)))
  rw [List.map_id, List.map_id] at sorts
  rw [rankBy_eq_insertionSort, rankBy_eq_insertionSort, sorts]

end

/-! ### Keys in a linear order -/

section

variable {β : Type} [LinearOrder β] (key : Nat → β) (order : List Nat)

theorem rankBy_eq_reverse :
    rankBy key order = (order.reverse.insertionSort (key · ≤ key ·)).reverse := by
  rw [rankBy_eq_insertionSort]
  simp only [not_lt]

theorem pairwise_rankBy : (rankBy key order).Pairwise (key · ≥ key ·) := by
  rw [rankBy_eq_reverse, List.pairwise_reverse]
  exact List.pairwise_insertionSort _ _

/-- Ranking leaves an order alone in which the keys fall. -/
theorem rankBy_eq_self {order : List Nat} (falling : order.Pairwise (key · ≥ key ·)) :
    rankBy key order = order := by
  rw [rankBy_eq_reverse, (List.pairwise_reverse.mpr falling).insertionSort_eq, List.reverse_reverse]

/-- The indices of one key stay in their order. -/
theorem filter_rankBy (value : β) :
    (rankBy key order).filter (key · = value) = order.filter (key · = value) := by
  let same := order.filter (key · = value)
  have level : same.reverse.Pairwise (key · ≤ key ·) := by
    refine List.pairwise_of_forall_mem_list ?_
    intro i hi j hj
    simp only [same, List.mem_reverse, List.mem_filter, decide_eq_true_eq] at hi hj
    rw [hi.2, hj.2]
  have kept : same.Sublist (rankBy key order) := by
    rw [rankBy_eq_reverse, ← List.reverse_sublist, List.reverse_reverse]
    exact List.sublist_insertionSort level (List.filter_sublist.reverse)
  have whole : same.Sublist ((rankBy key order).filter (key · = value)) := by
    simpa only [same, List.filter_filter, Bool.and_self] using kept.filter (key · = value)
  exact (whole.eq_of_length ((rankBy_perm key order).filter _).length_eq.symm).symm

end

end NodeCall.Fallback
