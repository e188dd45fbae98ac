import NodeCall.Retry.Policy

/-!
# Runs of the retry loop

A call is a sequence of attempts on a clock that counts milliseconds.  Each attempt is bounded by
the timeout, and an attempt that finishes in the very millisecond of its timeout has finished.
A run may be cut short at a given time, in an attempt or in the wait between two attempts.
-/

namespace NodeCall

inductive Behaviour (α : Type)
  | finishes (after : Nat) (outcome : Outcome α)
  | stalls

/-- The attempt as bounded by a timeout: how long it takes and what becomes of it. -/
def Behaviour.within {α : Type} (timeout : Duration) : Behaviour α → Nat × Outcome α
  | .finishes after outcome =>
    if after ≤ timeout.wait then (after, outcome)
    else (timeout.wait, .error (.timeout timeout.millisWord))
  | .stalls => (timeout.wait, .error (.timeout timeout.millisWord))

/-- What happened in a run: the attempts with their starts, the end, and the outcome. -/
structure Trace (α : Type) where
  attempts : List (UInt32 × Nat)
  ended : Nat
  outcome : Outcome α

namespace Trace

variable {α : Type}

def after (trace : Trace α) (attempt : UInt32) (start : Nat) : Trace α :=
  { trace with attempts := (attempt, start) :: trace.attempts }

end Trace

namespace RetryPolicy

variable {α : Type}

/-- The time at which a run is cut, if that is before `time`. -/
def cutBefore (cancelAt : Option Nat) (time : Nat) : Option Nat :=
  cancelAt.filter (· < time)

/-- The run from a given attempt and time on; `budget` is the number of attempts after it. -/
def runFrom (policy : RetryPolicy) (timeout : Duration) (script : UInt32 → Behaviour α)
    (cancelAt : Option Nat) : Nat → UInt32 → Nat → Trace α
  | budget, attempt, start =>
    let bounded := (script attempt).within timeout
    let ended := start + bounded.1
    match cutBefore cancelAt ended with
    | some time => ⟨[(attempt, start)], time, .error .cancelled⟩
    | none =>
      match policy.next attempt bounded.2, budget with
      | .finish outcome, _ => ⟨[(attempt, start)], ended, outcome⟩
      | .retry _, 0 => ⟨[(attempt, start)], ended, bounded.2⟩
      | .retry delay, budget + 1 =>
        let wake := ended + delay.wait
        match cutBefore cancelAt wake with
        | some time => ⟨[(attempt, start)], time, .error .cancelled⟩
        | none => (runFrom policy timeout script cancelAt budget (attempt + 1) wake).after attempt start

/-- The whole run; one that is cancelled beforehand makes no attempt. -/
def run (policy : RetryPolicy) (timeout : Duration) (script : UInt32 → Behaviour α)
    (cancelAt : Option Nat) : Trace α :=
  if cancelAt = some 0 then ⟨[], 0, .error .cancelled⟩
  else policy.runFrom timeout script cancelAt policy.retryCount.toNat 0 0

end RetryPolicy
end NodeCall
