import NodeCall.Config
import NodeCall.TransportError

/-!
# Retry policy

When a failed attempt is followed by another one, and after what wait: the base delay doubled
with every attempt, unless the server asked for a wait of its own.
-/

namespace NodeCall

structure RetryPolicy where
  retryCount : UInt32
  retryDelay : Duration
  deriving DecidableEq, Repr

namespace RetryPolicy

def standard : RetryPolicy :=
  ⟨TransportConfig.defaultRetryCount, TransportConfig.defaultRetryDelay⟩

def ofConfig (config : TransportConfig) : RetryPolicy := ⟨config.retryCount, config.retryDelay⟩

/-- Two to the attempt number; from the thirty-third attempt on, the largest 32-bit word. -/
def backoffFactor (attempt : UInt32) : Nat :=
  if attempt.toNat < 32 then Nat.pow 2 attempt.toNat else 0xFFFFFFFF

/-- The wait after a failed attempt, counted from zero. -/
def delayFor (policy : RetryPolicy) (attempt : UInt32) (error : TransportError) : Duration :=
  match error.retryAfter with
  | some wait => wait
  | none => policy.retryDelay.mul (backoffFactor attempt)

def shouldRetry (policy : RetryPolicy) (attempt : UInt32) (error : TransportError) : Bool :=
  attempt < policy.retryCount && error.isRetryable

/-- What follows an attempt: the end of the call, or another attempt after a wait. -/
inductive Next (α : Type)
  | finish (outcome : Outcome α)
  | retry (delay : Duration)

def next {α : Type} (policy : RetryPolicy) (attempt : UInt32) : Outcome α → Next α
  | .ok value => .finish (.ok value)
  | .error e =>
    if policy.shouldRetry attempt e then .retry (policy.delayFor attempt e) else .finish (.error e)

end RetryPolicy
end NodeCall
