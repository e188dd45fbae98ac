import NodeCall.Duration

/-!
# Scores of transports

A transport is scored by how fast it is compared with the slowest one and by how often it
succeeds.  The formula is the same over doubles, where the ranking uses it and counts are words
that come round, and over rationals, where all of it is exact.
-/

namespace NodeCall.Fallback

structure Stats where
  latency : Duration
  successes : UInt64
  failures : UInt64
  deriving DecidableEq, Repr

namespace Stats

def fresh : Stats := ⟨.zero, 0, 0⟩

/-- The first sample stands for itself, each later one is averaged with what was there. -/
def recordSuccess (stats : Stats) (elapsed : Duration) : Stats where
  latency := if stats.successes = 0 then elapsed else (stats.latency.add elapsed).half
  successes := stats.successes + 1
  failures := stats.failures

def recordFailure (stats : Stats) : Stats := { stats with failures := stats.failures + 1 }

end Stats

/-- The arithmetic in which scores are computed. -/
class ScoreArithmetic (α : Type) extends Add α, Sub α, Mul α, Div α where
  zero : α
  one : α
  ofWord : UInt64 → α
  /-- Two counts taken together. -/
  ofWords : UInt64 → UInt64 → α
  seconds : Duration → α
  larger : α → α → α
  isPositive : α → Bool

structure Weights (α : Type) where
  latency : α
  stability : α

section

variable {α : Type} [ScoreArithmetic α]

def successRatio (stats : Stats) : α :=
  let total : α := ScoreArithmetic.ofWords stats.successes stats.failures
  if ScoreArithmetic.isPositive total then ScoreArithmetic.ofWord stats.successes / total
  else ScoreArithmetic.zero

def slowest (all : List Stats) : α :=
  all.foldl (fun worst stats => ScoreArithmetic.larger worst (ScoreArithmetic.seconds stats.latency))
    ScoreArithmetic.zero

/-- How fast a transport is, from zero for the slowest one; without a success it has no credit. -/
def latencyScore (worst : α) (stats : Stats) : α :=
  if ScoreArithmetic.isPositive worst && stats.successes != 0 then
    ScoreArithmetic.larger
      (ScoreArithmetic.one - ScoreArithmetic.seconds stats.latency / worst) ScoreArithmetic.zero
  else ScoreArithmetic.zero

def scoreOf (weights : Weights α) (worst : α) (stats : Stats) : α :=
  weights.latency * latencyScore worst stats + weights.stability * successRatio stats

def scores (weights : Weights α) (all : List Stats) : List α :=
  all.map (scoreOf weights (slowest all))

end

/-- Of two doubles the larger one; a number that is none loses. -/
def largerFloat (a b : Float) : Float := if a < b then b else if a.isNaN then b else a

instance : ScoreArithmetic Float where
  zero := 0.0
  one := 1.0
  ofWord := UInt64.toFloat
  ofWords a b := (a + b).toFloat
  seconds d := d.secs.toUInt64.toFloat + d.subsecNanos.toUInt64.toFloat / 1000000000.0
  larger := largerFloat
  isPositive x := 0.0 < x

instance : ScoreArithmetic Rat where
  zero := 0
  one := 1
  ofWord n := (n.toNat : Rat)
  ofWords a b := (a.toNat : Rat) + (b.toNat : Rat)
  seconds d := (d.nanos : Rat) / 1000000000
  larger a b := if a < b then b else a
  isPositive x := 0 < x

/-- The weights that are used unless others are given. -/
def Weights.standard : Weights Float := ⟨0.3, 0.7⟩

end NodeCall.Fallback
