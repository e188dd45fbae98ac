import NodeCall.Proofs.Fallback.Ranking
import Mathlib.Algebra.Order.Field.Rat
import Mathlib.Tactic.Positivity

/-!
# Exact scores

Over the rationals a score keeps what the record of a transport says.  A transport that has
succeeded, no less often and no more slowly than another one, is not scored below it, however slow
the slowest one of all was.  One that never succeeded has score zero, below all that did, so none
of those comes before one of these in a ranking.
-/

namespace NodeCall.Fallback

theorem larger_eq_max (a b : Rat) : ScoreArithmetic.larger a b = max a b :=
  (max_def_lt a b).symm

theorem scoreOf_eq (weights : Weights Rat) (worst : Rat) (stats : Stats) :
    scoreOf weights worst stats =
      weights.latency * latencyScore worst stats + weights.stability * successRatio stats :=
  rfl

/-- Two counts make the exact sum as long as the word that counts both does not come round. -/
theorem ofWords_eq_ofWord {a b : UInt64} (fits : a.toNat + b.toNat < 2 ^ 64) :
    (ScoreArithmetic.ofWords a b : Rat) = ScoreArithmetic.ofWord (a + b) := by
  show (a.toNat + b.toNat : Rat) = (a + b).toNat
  rw [UInt64.toNat_add, Nat.mod_eq_of_lt fits, Nat.cast_add]

/-! ### The two parts of a score -/

section

variable {stats : Stats}

/-- Before the first attempt this is a division by zero, hence zero. -/
theorem successRatio_eq (stats : Stats) : (successRatio stats : Rat) =
    stats.successes.toNat / (stats.successes.toNat + stats.failures.toNat) := by
  have positive : (ScoreArithmetic.isPositive
      (ScoreArithmetic.ofWords stats.successes stats.failures : Rat) : Prop) ↔
      (0 : Rat) < stats.successes.toNat + stats.failures.toNat := decide_eq_true_iff
  unfold successRatio
  by_cases any : (0 : Rat) < stats.successes.toNat + stats.failures.toNat
  · exact if_pos (positive.mpr any)
  · have none : (stats.successes.toNat + stats.failures.toNat : Rat) = 0 :=
      le_antisymm (not_lt.mp any) (by positivity)
    rw [none, div_zero]
    exact if_neg (any ∘ positive.mp)

theorem successRatio_of_none (none : stats.successes = 0) : (successRatio stats : Rat) = 0 := by
  rw [successRatio_eq, none]
  exact zero_div _

theorem successRatio_pos (served : stats.successes ≠ 0) : 0 < (successRatio stats : Rat) := by
  have : 0 < stats.successes.toNat :=
    Nat.pos_of_ne_zero fun none => served (UInt64.toNat_inj.mp none)
  rw [successRatio_eq]
  positivity

theorem latencyScore_of_none (worst : Rat) (none : stats.successes = 0) :
    latencyScore worst stats = 0 := by
  unfold latencyScore
  rw [none]
  simp only [bne_self_eq_false, Bool.and_false]
  rfl

theorem latencyScore_of_served (worst : Rat) (served : stats.successes ≠ 0) :
    latencyScore worst stats =
      if 0 < worst then max (1 - ScoreArithmetic.seconds stats.latency / worst) 0 else 0 := by
  unfold latencyScore
  rw [bne_iff_ne.mpr served, Bool.and_true, larger_eq_max]
  exact if_congr decide_eq_true_iff rfl rfl

theorem latencyScore_nonneg (worst : Rat) (stats : Stats) : 0 ≤ latencyScore worst stats := by
  by_cases none : stats.successes = 0
  · exact (latencyScore_of_none worst none).ge
  · rw [latencyScore_of_served worst none]
    split
    · exact le_max_right _ _
    · exact le_refl 0

end

theorem seconds_mono {a b : Duration} (le : a.nanos ≤ b.nanos) :
    (ScoreArithmetic.seconds a : Rat) ≤ ScoreArithmetic.seconds b :=
  div_le_div_of_nonneg_right (Nat.cast_le.mpr le) (by norm_num)

section

variable {a b : Stats} (served : a.successes ≠ 0)
include served

theorem latencyScore_le (worst : Rat)
    (quicker : b.successes = 0 ∨ a.latency.nanos ≤ b.latency.nanos) :
    latencyScore worst b ≤ latencyScore worst a := by
  by_cases none : b.successes = 0
  · rw [latencyScore_of_none worst none]
    exact latencyScore_nonneg worst a
  · -- Of the slowest latency only the sign matters, not whose it is.
    have le := seconds_mono (quicker.resolve_left none)
    rw [latencyScore_of_served worst served, latencyScore_of_served worst none]
    split
    · next positive =>
      exact max_le_max_right 0 (sub_le_sub_left (div_le_div_of_nonneg_right le positive.le) 1)
    · exact le_refl 0

/-! ### Scores in comparison -/

variable {weights : Weights Rat} (latency : 0 ≤ weights.latency)
  (stability : 0 < weights.stability) (worst : Rat)
include latency stability

theorem scoreOf_le (steadier : (successRatio b : Rat) ≤ successRatio a)
    (quicker : b.successes = 0 ∨ a.latency.nanos ≤ b.latency.nanos) :
    scoreOf weights worst b ≤ scoreOf weights worst a := by
  rw [scoreOf_eq, scoreOf_eq]
  exact add_le_add (mul_le_mul_of_nonneg_left (latencyScore_le served worst quicker) latency)
    (mul_le_mul_of_nonneg_left steadier stability.le)

theorem scoreOf_lt (none : b.successes = 0) :
    scoreOf weights worst b < scoreOf weights worst a := by
  have zero : scoreOf weights worst b = 0 := by
    rw [scoreOf_eq, latencyScore_of_none worst none, successRatio_of_none none, mul_zero, mul_zero,
      add_zero]
  rw [zero, scoreOf_eq]
  exact add_pos_of_nonneg_of_pos (mul_nonneg latency (latencyScore_nonneg worst a))
    (mul_pos stability (successRatio_pos served))

end

theorem score_at {weights : Weights Rat} {all : List Stats} {i : Nat} {stats : Stats}
    (there : all[i]? = some stats) :
    (scores weights all)[i]? = some (scoreOf weights (slowest all) stats) := by
  rw [scores, List.getElem?_map, there, Option.map_some]

/-- Among any transports, with weights of which the one for latency is not negative and the one
for stability is positive, a transport that has succeeded scores at least as much as each one that
has no better ratio of successes and, if it succeeded at all, no shorter latency; and it scores
more than each one without a success.  So in no ranking a transport that never succeeded comes
before one that did. -/
theorem scores_follow_records (weights : Weights Rat) (latency : 0 ≤ weights.latency)
    (stability : 0 < weights.stability) (all : List Stats) :
    (∀ (i j : Nat) (a b : Stats), all[i]? = some a → all[j]? = some b → a.successes ≠ 0 →
      ∃ x y : Rat, (scores weights all)[i]? = some x ∧ (scores weights all)[j]? = some y ∧
        ((successRatio b : Rat) ≤ successRatio a →
          b.successes = 0 ∨ a.latency.nanos ≤ b.latency.nanos → y ≤ x) ∧
        (b.successes = 0 → y < x)) ∧
    ∀ order, (reorder weights all order).Pairwise fun i j =>
      ∀ a b, all[i]? = some a → all[j]? = some b → a.successes = 0 → b.successes = 0 := by
  refine ⟨fun i j a b ha hb served => ⟨_, _, score_at ha, score_at hb,
    scoreOf_le served latency stability _, scoreOf_lt served latency stability _⟩, fun order => ?_⟩
  let score (i : Nat) : Rat := ((scores weights all)[i]?).getD 0
  have falling : (reorder weights all order).Pairwise (score · ≥ score ·) :=
    pairwise_rankBy score order
  refine falling.imp fun {i j} le a b ha hb none => ?_
  by_contra served
  have lt : score i < score j := by
    simp only [score, score_at ha, score_at hb, Option.getD_some]
    exact scoreOf_lt served latency stability _ none
  exact absurd le (not_le.mpr lt)

/-- Of three transports the first one never succeeded, and the last one was quicker than the other
and always succeeded. -/
theorem scores_follow_records_of_three :
    let weights : Weights Rat := ⟨3 / 10, 7 / 10⟩
    let dead : Stats := ⟨.zero, 0, 4⟩
    let slow : Stats := ⟨.ofMillis 300, 3, 1⟩
    let quick : Stats := ⟨.ofMillis 40, 5, 0⟩
    let all := [dead, slow, quick]
    (0 ≤ weights.latency ∧ 0 < weights.stability) ∧
    (scores weights all = [0, 21 / 40, 24 / 25] ∧ (21 / 40 : Rat) ≤ 24 / 25 ∧ (0 : Rat) < 21 / 40) ∧
    reorder weights all [0, 1, 2] = [2, 1, 0] ∧
    (reorder weights all [0, 1, 2]).Pairwise fun i j =>
      ∀ a b, all[i]? = some a → all[j]? = some b → a.successes = 0 → b.successes = 0 := by
  intro weights dead slow quick all
  have latency : 0 ≤ weights.latency := by decide +kernel
  have stability : 0 < weights.stability := by decide +kernel
  have values : scores weights all = [0, 21 / 40, 24 / 25] := by decide +kernel
  obtain ⟨compared, ranked⟩ := scores_follow_records weights latency stability all
  obtain ⟨x, y, hx, hy, le, -⟩ := compared 2 1 quick slow rfl rfl (by decide)
  obtain ⟨z, w, hz, hw, -, lt⟩ := compared 1 0 slow dead rfl rfl (by decide)
  have below := le (by decide +kernel) (.inr (by decide))
  have above := lt rfl
  simp only [values, List.getElem?_cons_zero, List.getElem?_cons_succ, Option.some.injEq]
    at hx hy hz hw
  subst hx hy hz hw
  exact ⟨⟨latency, stability⟩, ⟨values, below, above⟩, by decide +kernel, ranked [0, 1, 2]⟩

end NodeCall.Fallback
