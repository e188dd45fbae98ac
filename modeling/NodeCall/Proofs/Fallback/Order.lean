import NodeCall.Proofs.Double
import NodeCall.Proofs.Fallback.Walks

/-!
# The order of the children

The order is one of all children at every moment.  A ranking whose scores are numbers makes them
fall along it, leaves children with equal scores where they were, and finds nothing to do when it
comes again.
-/

namespace NodeCall.Fallback

/-! ### Scores that are numbers -/

section

variable {weights : Weights Float} {stats : List Stats}

/-- The place of a child by its score. -/
def keyAt (weights : Weights Float) (stats : List Stats) (i : Nat) : Double.Key :=
  Double.key (((scores weights stats)[i]?).getD ScoreArithmetic.zero)

theorem keyAt_of_score {i : Nat} {x : Float} (there : (scores weights stats)[i]? = some x) :
    keyAt weights stats i = Double.key x := by
  rw [keyAt, there, Option.getD_some]

variable (numbers : ∀ x ∈ scores weights stats, x.isNaN = false)
include numbers

theorem isNaN_scoreAt (i : Nat) :
    (((scores weights stats)[i]?).getD ScoreArithmetic.zero).isNaN = false := by
  cases there : (scores weights stats)[i]? with
  | none => decide +kernel
  | some x => exact numbers x (List.mem_of_getElem? there)

theorem reorder_eq_rankBy (order : List Nat) :
    reorder weights stats order = rankBy (keyAt weights stats) order :=
  rankBy_congr fun i _ j _ => Double.lt_iff (isNaN_scoreAt numbers i) (isNaN_scoreAt numbers j)

/-- The scores fall along an order of children that has been ranked. -/
theorem pairwise_reorder {order : List Nat} (all : ∀ i ∈ order, i < stats.length) :
    (reorder weights stats order).Pairwise fun i j => ∃ x y,
      (scores weights stats)[i]? = some x ∧ (scores weights stats)[j]? = some y ∧ y ≤ x := by
  have score (i : Nat) (there : i ∈ reorder weights stats order) :
      ∃ x, (scores weights stats)[i]? = some x ∧ x.isNaN = false := by
    have lt : i < (scores weights stats).length := by
      simpa [scores] using all i ((reorder_perm weights stats order).mem_iff.mp there)
    exact ⟨_, List.getElem?_eq_getElem lt, numbers _ (List.getElem_mem lt)⟩
  have falling := pairwise_rankBy (keyAt weights stats) order
  rw [← reorder_eq_rankBy numbers] at falling
  refine falling.imp_of_mem fun {i j} hi hj le => ?_
  obtain ⟨x, hx, number⟩ := score i hi
  obtain ⟨y, hy, number'⟩ := score j hj
  rw [keyAt_of_score hx, keyAt_of_score hy] at le
  exact ⟨x, y, hx, hy, (Double.le_iff number' number).mpr le⟩

/-- The children of one score stay in their order. -/
theorem filter_reorder (order : List Nat) (x : Float) :
    (reorder weights stats order).filter (fun i => (scores weights stats)[i]? == some x) =
      order.filter (fun i => (scores weights stats)[i]? == some x) := by
  let scored (i : Nat) : Bool := (scores weights stats)[i]? == some x
  have level (i : Nat) (is : scored i = true) : keyAt weights stats i = Double.key x := by
    obtain ⟨y, there, same⟩ : ∃ y, (scores weights stats)[i]? = some y ∧ (y == x) = true := by
      cases there : (scores weights stats)[i]? with
      | none => simp [scored, there] at is
      | some y => exact ⟨y, rfl, by simpa [scored, there] using is⟩
    rw [keyAt_of_score there]
    exact (Double.beq_iff (numbers y (List.mem_of_getElem? there))
      (Double.isNaN_of_beq same)).mp same
  have within (ranked : List Nat) : ranked.filter scored =
      (ranked.filter (keyAt weights stats · = Double.key x)).filter scored := by
    rw [List.filter_filter]
    refine List.filter_congr fun i _ => ?_
    cases is : scored i with
    | false => simp
    | true => simp [level i is]
  show (reorder weights stats order).filter scored = order.filter scored
  rw [within, within order, reorder_eq_rankBy numbers, filter_rankBy]

theorem reorder_reorder (order : List Nat) :
    reorder weights stats (reorder weights stats order) = reorder weights stats order := by
  rw [reorder_eq_rankBy numbers (reorder weights stats order), reorder_eq_rankBy numbers order]
  exact rankBy_eq_self _ (pairwise_rankBy (keyAt weights stats) order)

end

/-! ### Orders of runs -/

namespace Run

theorem length_stats_step (config : Config) (run : Run) (event : Event) :
    (run.step config event).state.stats.length = run.state.stats.length := by
  cases effect config run event with
  | begins method is sends stats call => rw [stats]
  | neither sends stats call => rw [stats]
  | finishes walk call waits child sends stats finished => rw [stats, List.length_modify]

theorem length_stats_steps (config : Config) (run : Run) (events : List Event) :
    (run.steps config events).state.stats.length = run.state.stats.length := by
  induction events generalizing run with
  | nil => rfl
  | cons event rest ih => exact (ih (run.step config event)).trans (length_stats_step ..)

/-- In every run, with any sends and any rankings before, the order is one of all children, each of
which has a score.  If these are numbers, a ranking makes them fall along the order, leaves the
children of each score in the order in which they were, and does nothing when it comes again. -/
theorem order_stays_ranked (children : Nat) (config : Config) (events : List Event) :
    let run := (initial children).steps config events
    let all : List Float := scores config.weights run.state.stats
    let ranked := run.state.rank config
    run.state.order.Perm (List.range children) ∧ all.length = children ∧
    (run.step config .rank).state = ranked ∧ ranked.stats = run.state.stats ∧
    ranked.order.Perm (List.range children) ∧
    ((∀ score ∈ all, score.isNaN = false) →
      (ranked.order.Pairwise fun i j =>
        ∃ x y, all[i]? = some x ∧ all[j]? = some y ∧ y ≤ x) ∧
      (∀ x : Float, ranked.order.filter (fun i => all[i]? == some x) =
        run.state.order.filter (fun i => all[i]? == some x)) ∧
      ranked.rank config = ranked) := by
  intro run all ranked
  have ordered : run.state.order.Perm (List.range children) :=
    ((ordered_initial children).steps config events).order
  have length : run.state.stats.length = children :=
    (length_stats_steps config (initial children) events).trans (List.length_replicate ..)
  refine ⟨ordered, by simpa [all, scores] using length, rfl, rfl,
    (reorder_perm _ _ _).trans ordered, fun numbers => ⟨?_, ?_, ?_⟩⟩
  · refine pairwise_reorder numbers fun i there => ?_
    rw [length]
    exact List.mem_range.mp (ordered.mem_iff.mp there)
  · exact filter_reorder numbers run.state.order
  · show { ranked with order := reorder config.weights run.state.stats ranked.order } = ranked
    rw [show reorder config.weights run.state.stats ranked.order = ranked.order from
      reorder_reorder numbers run.state.order]

/-- The first child has failed a send that the second one then served. -/
theorem order_stays_ranked_of_three :
    let served : Outcome Response := .ok (.success .null .null)
    let run := (initial 3).steps .standard
      [.send "a", .finish 0 .zero (.error .socketClosed), .finish 0 (.ofMillis 80) served]
    let all : List Float := scores Config.standard.weights run.state.stats
    let ranked := run.state.rank .standard
    (∀ score ∈ all, score.isNaN = false) ∧ run.state.order = [0, 1, 2] ∧
    ranked.order = [1, 0, 2] ∧
    (ranked.order.Pairwise fun i j => ∃ x y, all[i]? = some x ∧ all[j]? = some y ∧ y ≤ x) ∧
    ranked.order.filter (fun i => all[i]? == some 0.0) = [0, 2] ∧
    ranked.rank .standard = ranked := by
  intro served run all ranked
  have numbers : ∀ score ∈ all, score.isNaN = false := by decide +kernel
  obtain ⟨-, -, -, -, -, ranks⟩ := order_stays_ranked 3 .standard
    [.send "a", .finish 0 .zero (.error .socketClosed), .finish 0 (.ofMillis 80) served]
  obtain ⟨falling, kept, again⟩ := ranks numbers
  refine ⟨numbers, rfl, by decide +kernel, falling, ?_, again⟩
  rw [show ranked.order.filter (fun i => all[i]? == some 0.0) =
    run.state.order.filter (fun i => all[i]? == some 0.0) from kept 0.0]
  decide +kernel

end Run
end NodeCall.Fallback
