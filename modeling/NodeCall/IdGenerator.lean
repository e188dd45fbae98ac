import NodeCall.Rpc.Id

/-!
# Request numbers

A counter hands out consecutive 64-bit words and starts over after the last one.  A generator is
a handle on a counter: its copies draw from the same counter, and generators made on their own
count on their own.
-/

namespace NodeCall

abbrev Counter := UInt64

def Counter.one : Counter := 1

def Counter.draw (c : Counter) : UInt64 × Counter := (c, c + 1)

/-- The counters of a program, and for each generator in the order of creation which it draws
from. -/
structure Generators where
  counters : List Counter
  handles : List Nat

namespace Generators

def empty : Generators := ⟨[], []⟩

def startingAt (first : UInt64) (g : Generators) : Nat × Generators :=
  (g.handles.length, ⟨g.counters ++ [first], g.handles ++ [g.counters.length]⟩)

def new (g : Generators) : Nat × Generators := startingAt Counter.one g

def copy (generator : Nat) (g : Generators) : Option (Nat × Generators) :=
  g.handles[generator]?.map fun counter =>
    (g.handles.length, ⟨g.counters, g.handles ++ [counter]⟩)

def next (generator : Nat) (g : Generators) : Option (UInt64 × Generators) := do
  let counter ← g.handles[generator]?
  let c ← g.counters[counter]?
  return (c.draw.1, ⟨g.counters.set counter c.draw.2, g.handles⟩)

end Generators
end NodeCall
