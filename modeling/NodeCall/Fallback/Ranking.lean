import NodeCall.Fallback.Score

/-!
# Ranking

Transports are ordered by falling score.  An element moves ahead of those before it as long as
their scores are smaller, so equal scores keep their places and a score that compares with
nothing stays where it is.
-/

namespace NodeCall.Fallback

variable {α : Type} [LT α] [DecidableLT α]

/-- Puts an index behind the last one, to be read from the right, whose score is not smaller. -/
def place (score : Nat → α) (x : Nat) : List Nat → List Nat
  | [] => [x]
  | y :: before => if score y < score x then y :: place score x before else x :: y :: before

/-- The indices by falling score. -/
def rankBy (score : Nat → α) (order : List Nat) : List Nat :=
  (order.foldl (fun ranked x => place score x ranked) []).reverse

def reorder [ScoreArithmetic α] (weights : Weights α) (stats : List Stats) (order : List Nat) :
    List Nat :=
  let all := scores weights stats
  rankBy (fun i => (all[i]?).getD ScoreArithmetic.zero) order

end NodeCall.Fallback
