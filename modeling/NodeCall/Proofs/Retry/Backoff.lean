import NodeCall.Proofs.Duration
import NodeCall.Retry.Policy
import Mathlib.Algebra.Group.Nat.Defs

/-!
# Backoff

The wait after an attempt is at least the base delay, never gets shorter from one attempt to the
next, and at most doubles.  Two limits bend it: the factor is a 32-bit word, which is largest from
the thirty-third attempt on without being a power of two, and no wait is longer than the longest
duration.
-/

namespace NodeCall.RetryPolicy

/-! ### The factor of an attempt -/

/-- The factor in a word: one, shifted as far as the word goes, and the largest word beyond. -/
def factorWord (attempt : UInt32) : UInt32 :=
  if attempt < 32 then 1 <<< attempt else 0xFFFFFFFF

section

variable {attempt : UInt32}

theorem backoffFactor_of_lt (early : attempt.toNat < 32) :
    backoffFactor attempt = 2 ^ attempt.toNat :=
  if_pos early

theorem backoffFactor_of_le (late : 32 ≤ attempt.toNat) : backoffFactor attempt = 4294967295 :=
  if_neg (Nat.not_lt.mpr late)

end

theorem toNat_factorWord (attempt : UInt32) :
    (factorWord attempt).toNat = backoffFactor attempt := by
  unfold factorWord
  split
  · next early =>
    have lt : attempt.toNat < 32 := UInt32.lt_iff_toNat_lt.mp early
    have fits : 2 ^ attempt.toNat < 2 ^ 32 := Nat.pow_lt_pow_right (by decide) lt
    rw [backoffFactor_of_lt lt, UInt32.toNat_shiftLeft, Nat.mod_eq_of_lt lt, UInt32.toNat_one,
      Nat.one_shiftLeft, Nat.mod_eq_of_lt fits]
  · next late =>
    have le : 32 ≤ attempt.toNat := UInt32.le_iff_toNat_le.mp (UInt32.not_lt.mp late)
    rw [backoffFactor_of_le le]
    rfl

theorem backoffFactor_pos (attempt : UInt32) : 0 < backoffFactor attempt := by
  by_cases early : attempt.toNat < 32
  · rw [backoffFactor_of_lt early]
    exact Nat.two_pow_pos _
  · rw [backoffFactor_of_le (by omega)]
    decide

theorem backoffFactor_lt (attempt : UInt32) : backoffFactor attempt < 2 ^ 32 := by
  rw [← toNat_factorWord]
  exact (factorWord attempt).toNat_lt

theorem backoffFactor_mono {attempt later : UInt32} (le : attempt ≤ later) :
    backoffFactor attempt ≤ backoffFactor later := by
  have le' : attempt.toNat ≤ later.toNat := UInt32.le_iff_toNat_le.mp le
  by_cases early : later.toNat < 32
  · rw [backoffFactor_of_lt early, backoffFactor_of_lt (by omega)]
    exact Nat.pow_le_pow_right (by decide) le'
  · have := backoffFactor_lt attempt
    rw [backoffFactor_of_le (by omega : 32 ≤ later.toNat)]
    omega

/-- The factor does not reach two to the thirty-second, so the last doubling falls short by one. -/
theorem backoffFactor_next_le (attempt : UInt32) :
    backoffFactor (attempt + 1) ≤ 2 * backoffFactor attempt := by
  have next : (attempt + 1).toNat = (attempt.toNat + 1) % 2 ^ 32 := UInt32.toNat_add ..
  by_cases early : attempt.toNat < 31
  · have doubled : backoffFactor (attempt + 1) = 2 * backoffFactor attempt := by
      rw [backoffFactor_of_lt (by omega : attempt.toNat < 32),
        backoffFactor_of_lt (by omega : (attempt + 1).toNat < 32),
        show (attempt + 1).toNat = attempt.toNat + 1 by omega, pow_succ']
    exact Nat.le_of_eq doubled
  · have half : 2 ^ 31 ≤ backoffFactor attempt := by
      by_cases last : attempt.toNat < 32
      · rw [backoffFactor_of_lt last]
        exact Nat.pow_le_pow_right (by decide) (by omega)
      · rw [backoffFactor_of_le (by omega)]
        decide
    have := backoffFactor_lt (attempt + 1)
    omega

/-! ### The wait -/

section

variable (policy : RetryPolicy) {error : TransportError}

theorem delayFor_of_asked {wait : Duration} (asked : error.retryAfter = some wait)
    (attempt : UInt32) : policy.delayFor attempt error = wait := by
  rw [delayFor, asked]

variable (unasked : error.retryAfter = none)
include unasked

theorem delayFor_of_unasked (attempt : UInt32) :
    policy.delayFor attempt error = policy.retryDelay.mul (backoffFactor attempt) := by
  rw [delayFor, unasked]

theorem nanos_delayFor (attempt : UInt32) : (policy.delayFor attempt error).nanos =
    min (policy.retryDelay.nanos * backoffFactor attempt) (Duration.bound - 1) := by
  rw [delayFor_of_unasked policy unasked, Duration.mul, Duration.nanos_saturating]

end

/-- A wait that the server asked for is kept for every attempt.  Without one the wait is computed
without overflow, is at least the base delay, never falls with the number of the attempt, and is
at most twice the one before; up to the thirty-second attempt it is the base delay times two to
the number of the attempt if there is such a duration, and the longest duration if not.  The number
after the last one is zero, for which the bound holds as well. -/
theorem delay_doubles_up_to_longest (policy : RetryPolicy) (error : TransportError) :
    (∀ wait, error.retryAfter = some wait → ∀ attempt, policy.delayFor attempt error = wait) ∧
    (error.retryAfter = none → ∀ attempt,
      let base := policy.retryDelay
      let delay := policy.delayFor attempt error
      delay.words = (base.words.mul? (factorWord attempt)).getD Duration.maximum.words ∧
      base.nanos ≤ delay.nanos ∧
      (∀ later, attempt ≤ later → delay.nanos ≤ (policy.delayFor later error).nanos) ∧
      (policy.delayFor (attempt + 1) error).nanos ≤ 2 * delay.nanos ∧
      (attempt < 32 →
        (delay.nanos = base.nanos * 2 ^ attempt.toNat ↔
          base.nanos * 2 ^ attempt.toNat < Duration.bound) ∧
        (Duration.bound ≤ base.nanos * 2 ^ attempt.toNat → delay = Duration.maximum))) := by
  refine ⟨fun wait asked => delayFor_of_asked policy asked, fun unasked attempt => ?_⟩
  have nanos := nanos_delayFor policy unasked
  have least := policy.retryDelay.lt_bound
  refine ⟨?kept, ?atLeast, fun later le => ?grows, ?doubles, fun early => ?powers⟩
  case kept =>
    rw [delayFor_of_unasked policy unasked, ← toNat_factorWord]
    exact Duration.words_mul ..
  case atLeast =>
    have := Nat.le_mul_of_pos_right policy.retryDelay.nanos (backoffFactor_pos attempt)
    rw [nanos]
    omega
  case grows =>
    have := Nat.mul_le_mul_left policy.retryDelay.nanos (backoffFactor_mono le)
    rw [nanos, nanos]
    omega
  case doubles =>
    have := Nat.mul_le_mul_left policy.retryDelay.nanos (backoffFactor_next_le attempt)
    rw [Nat.mul_left_comm] at this
    rw [nanos, nanos]
    omega
  case powers =>
    have factor := backoffFactor_of_lt (UInt32.lt_iff_toNat_lt.mp early)
    rw [nanos, factor]
    constructor
    · omega
    · intro large
      rw [delayFor_of_unasked policy unasked, factor]
      exact Duration.saturating_of_le large

/-- With a base delay of two to the thirty-third seconds, the wait after attempt 31 is the first
one that does not fit; a busy server names its own. -/
theorem delay_doubles_up_to_longest_at_the_limit :
    let policy : RetryPolicy := ⟨3, .ofSecs 0x200000000⟩
    let busy : TransportError := .http 429 "" "" (some (.ofSecs 2))
    let lost : TransportError := .socketClosed
    (busy.retryAfter = some (.ofSecs 2) ∧ policy.delayFor 31 busy = .ofSecs 2) ∧
    (lost.retryAfter = none ∧ (30 : UInt32) < 32 ∧ (31 : UInt32) < 32 ∧
      (31 : UInt32) ≤ 0xFFFFFFFF) ∧
    (policy.delayFor 30 lost).nanos = policy.retryDelay.nanos * 2 ^ (30 : UInt32).toNat ∧
    policy.delayFor 31 lost = .maximum ∧
    (policy.delayFor 31 lost).words = ⟨0xFFFFFFFFFFFFFFFF, 999999999, by decide⟩ ∧
    (policy.delayFor 31 lost).nanos ≤ 2 * (policy.delayFor 30 lost).nanos ∧
    (policy.delayFor 31 lost).nanos ≤ (policy.delayFor 0xFFFFFFFF lost).nanos := by
  intro policy busy lost
  obtain ⟨asked, unasked⟩ := delay_doubles_up_to_longest policy busy
  obtain ⟨-, waits⟩ := delay_doubles_up_to_longest policy lost
  obtain ⟨-, -, -, doubles, powers⟩ := waits rfl 30
  obtain ⟨kept, -, grows, -, large⟩ := waits rfl 31
  refine ⟨⟨rfl, asked _ rfl 31⟩, ⟨rfl, by decide, by decide, by decide⟩,
    (powers (by decide)).1.mpr (by decide), (large (by decide)).2 (by decide), ?_, doubles,
    grows 0xFFFFFFFF (by decide)⟩
  rw [kept]
  decide +kernel

end NodeCall.RetryPolicy
