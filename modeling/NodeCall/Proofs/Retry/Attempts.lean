import NodeCall.Retry.Run
import Mathlib.Order.Bounds.Defs

/-!
# The attempts of a call

A call makes attempt after attempt until one of them is final.  Each attempt is cut off by the
timeout, each wait is the one that the policy asks for, and a clock measures both.
-/

namespace NodeCall

/-! ### Spans of time on a clock -/

/-- How many milliseconds a clock makes of a span of time: it rounds up to whole ones, lets no timer
end after the last one that a timer can hold, and takes a span that leaves its own range for thirty
years. -/
inductive Duration.Measured (span : Duration) : Nat → Prop
  | near (millis : Nat) (held : millis ≤ Duration.lastTick)
      (covers : span.nanos ≤ millis * 1000000) (first : millis * 1000000 < span.nanos + 1000000) :
      Measured span millis
  | late (within : span.secs < 0x8000000000000000)
      (beyond : Duration.lastTick * 1000000 < span.nanos) : Measured span Duration.lastTick
  | far (beyond : 0x8000000000000000 ≤ span.secs) : Measured span Duration.farFuture

/-- What a timer holds is well within the range of the clock. -/
theorem Duration.secs_lt_of_held {span : Duration} {millis : Nat}
    (held : millis ≤ Duration.lastTick) (covers : span.nanos ≤ millis * 1000000) :
    span.secs < 0x8000000000000000 := by
  unfold Duration.secs
  unfold Duration.lastTick at held
  omega

theorem Duration.measured_wait (span : Duration) : span.Measured span.wait := by
  unfold Duration.wait
  split
  · next within =>
    by_cases beyond : Duration.lastTick * 1000000 < span.nanos
    · rw [Nat.min_eq_right (by omega)]
      exact .late within beyond
    · have held : (span.nanos + 999999) / 1000000 ≤ Duration.lastTick := by omega
      rw [Nat.min_eq_left held]
      exact .near _ held (by omega) (by omega)
  · next beyond => exact .far (by omega)

/-- A clock measures a span in one way. -/
theorem Duration.Measured.eq_wait {span : Duration} {millis : Nat}
    (measured : span.Measured millis) : millis = span.wait := by
  unfold Duration.wait
  cases measured with
  | near _ held covers first =>
    rw [if_pos (Duration.secs_lt_of_held held covers)]
    omega
  | late within beyond =>
    rw [if_pos within]
    omega
  | far beyond => rw [if_neg (Nat.not_lt.mpr beyond)]

namespace RetryPolicy

variable {α : Type}

/-- How long an attempt lasts under a timeout, and with which outcome. -/
inductive Lasts (timeout : Duration) : Behaviour α → Nat → Outcome α → Prop
  | inTime (limit after : Nat) (outcome : Outcome α) (measured : timeout.Measured limit)
      (le : after ≤ limit) : Lasts timeout (.finishes after outcome) after outcome
  | late (limit after : Nat) (outcome : Outcome α) (measured : timeout.Measured limit)
      (lt : limit < after) :
      Lasts timeout (.finishes after outcome) limit (.error (.timeout timeout.millisWord))
  | never (limit : Nat) (measured : timeout.Measured limit) :
      Lasts timeout .stalls limit (.error (.timeout timeout.millisWord))

theorem lasts_within (timeout : Duration) (behaviour : Behaviour α) :
    Lasts timeout behaviour (behaviour.within timeout).1 (behaviour.within timeout).2 := by
  have measured := timeout.measured_wait
  cases behaviour with
  | finishes after outcome =>
    unfold Behaviour.within
    dsimp only
    split
    · next le => exact .inTime _ after outcome measured le
    · next lt => exact .late _ after outcome measured (by omega)
  | stalls => exact .never _ measured

theorem Lasts.within_eq {timeout : Duration} {behaviour : Behaviour α} {length : Nat}
    {outcome : Outcome α} (lasts : Lasts timeout behaviour length outcome) :
    behaviour.within timeout = (length, outcome) := by
  cases lasts with
  | inTime limit after outcome measured le => exact if_pos (measured.eq_wait ▸ le)
  | late limit after outcome measured lt =>
    obtain rfl := measured.eq_wait
    exact if_neg (Nat.not_le.mpr lt)
  | never limit measured => exact Prod.ext measured.eq_wait.symm rfl

/-- No attempt follows one with this outcome: it is a success or an error not worth another
attempt, or the last attempt has been made. -/
inductive Final (policy : RetryPolicy) (attempt : Nat) : Outcome α → Prop
  | success (value : α) : Final policy attempt (.ok value)
  | permanent (error : TransportError) (hopeless : error.isRetryable = false) :
      Final policy attempt (.error error)
  | spent (outcome : Outcome α) (last : attempt = policy.retryCount.toNat) :
      Final policy attempt outcome

variable (policy : RetryPolicy)

theorem final_error_iff {attempt : Nat} {error : TransportError} :
    policy.Final attempt (.error error : Outcome α) ↔
      (error.isRetryable = true → attempt = policy.retryCount.toNat) := by
  constructor
  · intro final worth
    cases final with
    | permanent _ hopeless => simp [worth] at hopeless
    | spent _ last => exact last
  · intro spent
    cases worth : error.isRetryable with
    | false => exact .permanent error worth
    | true => exact .spent _ (spent worth)

/-- What follows an attempt of which the count has not run out. -/
theorem next_cases {attempt : Nat} (le : attempt ≤ policy.retryCount.toNat)
    (outcome : Outcome α) :
    policy.Final attempt outcome ∧ policy.next (UInt32.ofNat attempt) outcome = .finish outcome ∨
    ∃ e, outcome = .error e ∧ e.isRetryable = true ∧ attempt < policy.retryCount.toNat ∧
      ¬ policy.Final attempt outcome ∧
      policy.next (UInt32.ofNat attempt) outcome =
        .retry (policy.delayFor (UInt32.ofNat attempt) e) := by
  have hattempt : (UInt32.ofNat attempt).toNat = attempt :=
    UInt32.toNat_ofNat_of_lt' (Nat.lt_of_le_of_lt le policy.retryCount.toNat_lt)
  cases outcome with
  | ok value => exact .inl ⟨.success value, rfl⟩
  | error e =>
    by_cases hretry : policy.shouldRetry (UInt32.ofNat attempt) e = true
    · obtain ⟨hlt, hworth⟩ : UInt32.ofNat attempt < policy.retryCount ∧ e.isRetryable = true := by
        simpa [shouldRetry] using hretry
      rw [UInt32.lt_iff_toNat_lt, hattempt] at hlt
      refine .inr ⟨e, rfl, hworth, hlt, ?_, by simp [next, hretry]⟩
      intro final
      cases final with
      | permanent _ hopeless => simp [hworth] at hopeless
      | spent _ last => omega
    · refine .inl ⟨?_, by simp [next, hretry]⟩
      have hnot : ¬ (attempt < policy.retryCount.toNat ∧ e.isRetryable = true) := by
        simpa only [shouldRetry, Bool.and_eq_true, decide_eq_true_eq, UInt32.lt_iff_toNat_lt,
          hattempt] using hretry
      cases hworth : e.isRetryable with
      | false => exact .permanent e hworth
      | true =>
        have hspent : ¬ attempt < policy.retryCount.toNat := fun hlt => hnot ⟨hlt, hworth⟩
        exact .spent _ (by omega)

variable (timeout : Duration) (script : UInt32 → Behaviour α)

/-! ### Attempts by their numbers -/

def outcomeOf (attempt : Nat) : Outcome α := ((script (UInt32.ofNat attempt)).within timeout).2

def lengthOf (attempt : Nat) : Nat := ((script (UInt32.ofNat attempt)).within timeout).1

/-- The wait after an attempt. -/
def pauseOf (attempt : Nat) : Nat :=
  match outcomeOf timeout script attempt with
  | .ok _ => 0
  | .error e => (policy.delayFor (UInt32.ofNat attempt) e).wait

def startOf : Nat → Nat
  | 0 => 0
  | attempt + 1 =>
    startOf attempt + lengthOf timeout script attempt + policy.pauseOf timeout script attempt

variable {policy timeout script} in
theorem runFrom_of_finish {number : UInt32} {outcome : Outcome α}
    (finish : policy.next number ((script number).within timeout).2 = .finish outcome)
    (budget start : Nat) :
    policy.runFrom timeout script none budget number start =
      ⟨[(number, start)], start + ((script number).within timeout).1, outcome⟩ := by
  unfold runFrom
  simp only [cutBefore, Option.filter_none, finish]

variable {policy timeout script} in
theorem runFrom_of_retry {number : UInt32} {delay : Duration}
    (retry : policy.next number ((script number).within timeout).2 = .retry delay)
    (budget start : Nat) :
    policy.runFrom timeout script none (budget + 1) number start =
      (policy.runFrom timeout script none budget (number + 1)
        (start + ((script number).within timeout).1 + delay.wait)).after number start := by
  rw [runFrom.eq_def]
  simp only [cutBefore, Option.filter_none, retry]

/-- The attempts from one number up to another, with their starts. -/
def attemptsFrom (attempt last : Nat) : List (UInt32 × Nat) :=
  (List.range' attempt (last + 1 - attempt)).map fun i =>
    (UInt32.ofNat i, policy.startOf timeout script i)

theorem attemptsFrom_self (attempt : Nat) :
    policy.attemptsFrom timeout script attempt attempt =
      [(UInt32.ofNat attempt, policy.startOf timeout script attempt)] := by
  rw [attemptsFrom, Nat.add_sub_cancel_left]
  rfl

theorem attemptsFrom_of_lt {attempt last : Nat} (lt : attempt < last) :
    policy.attemptsFrom timeout script attempt last =
      (UInt32.ofNat attempt, policy.startOf timeout script attempt) ::
        policy.attemptsFrom timeout script (attempt + 1) last := by
  have hlength : last + 1 - attempt = (last + 1 - (attempt + 1)) + 1 := by omega
  rw [attemptsFrom, hlength, List.range'_succ, List.map_cons, attemptsFrom]

/-- The run from an attempt on makes attempts until the first final one. -/
theorem runFrom_eq (budget attempt : Nat) (left : attempt + budget = policy.retryCount.toNat) :
    ∃ last, attempt ≤ last ∧ last ≤ policy.retryCount.toNat ∧
      policy.Final last (outcomeOf timeout script last) ∧
      (∀ i, attempt ≤ i → i < last → ¬ policy.Final i (outcomeOf timeout script i)) ∧
      policy.runFrom timeout script none budget (UInt32.ofNat attempt)
          (policy.startOf timeout script attempt) =
        ⟨policy.attemptsFrom timeout script attempt last,
          policy.startOf timeout script last + lengthOf timeout script last,
          outcomeOf timeout script last⟩ := by
  rcases policy.next_cases (show attempt ≤ _ by omega) (outcomeOf timeout script attempt) with
    ⟨final, hnext⟩ | ⟨e, he, -, hlt, unfinished, hnext⟩
  · refine ⟨attempt, Nat.le_refl _, by omega, final, by omega, ?_⟩
    rw [runFrom_of_finish hnext, attemptsFrom_self]
    rfl
  · obtain ⟨more, rfl⟩ : ∃ more, budget = more + 1 := ⟨budget - 1, by omega⟩
    obtain ⟨last, hle, hlast, final, before, hrun⟩ := runFrom_eq more (attempt + 1) (by omega)
    have hwake : policy.startOf timeout script (attempt + 1) =
        policy.startOf timeout script attempt + lengthOf timeout script attempt +
          (policy.delayFor (UInt32.ofNat attempt) e).wait := by
      simp only [startOf, pauseOf, he]
    have hnumber : UInt32.ofNat attempt + 1 = UInt32.ofNat (attempt + 1) := by
      rw [UInt32.ofNat_add]
      rfl
    refine ⟨last, by omega, hlast, final, ?_, ?_⟩
    · intro i hfrom hto
      rcases Nat.eq_or_lt_of_le hfrom with rfl | hlater
      · exact unfinished
      · exact before i hlater hto
    · rw [hwake] at hrun
      rw [runFrom_of_retry hnext, hnumber, attemptsFrom_of_lt _ _ _ (by omega)]
      exact congrArg (Trace.after · _ _) hrun
termination_by budget

/-! ### Whole runs -/

theorem run_eq :
    ∃ last ≤ policy.retryCount.toNat, policy.Final last (outcomeOf timeout script last) ∧
      (∀ i < last, ¬ policy.Final i (outcomeOf timeout script i)) ∧
      policy.run timeout script none =
        ⟨(List.range (last + 1)).map fun i => (UInt32.ofNat i, policy.startOf timeout script i),
          policy.startOf timeout script last + lengthOf timeout script last,
          outcomeOf timeout script last⟩ := by
  obtain ⟨last, -, le, final, before, whole⟩ :=
    policy.runFrom_eq timeout script policy.retryCount.toNat 0 (Nat.zero_add _)
  refine ⟨last, le, final, fun i => before i (Nat.zero_le i), ?_⟩
  rw [List.range_eq_range']
  exact whole

/-- A run that is not cancelled makes the attempts up to the first final one, in order and under
their own numbers, and ends with its outcome.  An attempt that has not finished when the clock has
measured the timeout has timed out.  Each further attempt begins when the clock has measured the
delay that the policy sets after the error of the one before it. -/
theorem run_until_final (policy : RetryPolicy) (timeout : Duration)
    (script : UInt32 → Behaviour α) :
    let trace := policy.run timeout script none
    ∃ (outcome : Nat → Outcome α) (length start : Nat → Nat) (last : Nat),
      (∀ i, Lasts timeout (script (UInt32.ofNat i)) (length i) (outcome i)) ∧
      IsLeast {i | policy.Final i (outcome i)} last ∧
      last ≤ policy.retryCount.toNat ∧
      trace.attempts = (List.range (last + 1)).map (fun i => (UInt32.ofNat i, start i)) ∧
      (∀ i ≤ last, (UInt32.ofNat i).toNat = i) ∧
      start 0 = 0 ∧
      (∀ i < last, ∃ e wait, outcome i = .error e ∧ e.isRetryable = true ∧
        (policy.delayFor (UInt32.ofNat i) e).Measured wait ∧
        start (i + 1) = start i + length i + wait) ∧
      trace.ended = start last + length last ∧ trace.outcome = outcome last := by
  intro trace
  obtain ⟨last, -, hlast, final, before, hrun⟩ :=
    runFrom_eq policy timeout script policy.retryCount.toNat 0 (Nat.zero_add _)
  have htrace : trace = ⟨policy.attemptsFrom timeout script 0 last,
      policy.startOf timeout script last + lengthOf timeout script last,
      outcomeOf timeout script last⟩ := hrun
  refine ⟨outcomeOf timeout script, lengthOf timeout script, policy.startOf timeout script, last,
    ?_, ⟨final, ?_⟩, hlast, ?_, ?_, rfl, ?_, ?_, ?_⟩
  · intro i
    exact lasts_within timeout (script (UInt32.ofNat i))
  · intro i hfinal
    exact Nat.not_lt.mp fun hlt => before i (Nat.zero_le i) hlt hfinal
  · rw [htrace, List.range_eq_range']
    rfl
  · intro i hi
    exact UInt32.toNat_ofNat_of_lt'
      (Nat.lt_of_le_of_lt (Nat.le_trans hi hlast) policy.retryCount.toNat_lt)
  · intro i hi
    rcases policy.next_cases (show i ≤ _ by omega) (outcomeOf timeout script i) with
      ⟨hfinal, -⟩ | ⟨e, he, hworth, -, -, -⟩
    · exact absurd hfinal (before i (Nat.zero_le i) hi)
    · refine ⟨e, _, he, hworth, (policy.delayFor (UInt32.ofNat i) e).measured_wait, ?_⟩
      simp only [startOf, pauseOf, he]
  · rw [htrace]
  · rw [htrace]

/-- The clock cuts a delay short that leaves its range, so that the second attempt begins too
early, and rounds up a timeout of a millisecond and a half, so that an attempt of two milliseconds
is in time. -/
theorem early_start_and_late_success :
    let aeons : RetryPolicy := ⟨1, .ofSecs 0x8000000000000000⟩
    let failing : Behaviour Unit := .finishes 0 (.error .socketClosed)
    let slow : Behaviour Unit := .finishes 2 (.ok ())
    ((aeons.run (.ofSecs 10) (fun _ => failing) none).attempts = [(0, 0), (1, 946080000000)] ∧
      946080000000 * 1000000 < (aeons.delayFor 0 .socketClosed).nanos) ∧
    ((RetryPolicy.mk 0 .zero).run ⟨1500000, by decide⟩ (fun _ => slow) none).outcome = .ok () ∧
      1500000 < 2 * 1000000 := by
  have retry : (RetryPolicy.mk 1 (.ofSecs 0x8000000000000000)).next 0
      ((Behaviour.finishes 0 (.error .socketClosed) : Behaviour Unit).within (.ofSecs 10)).2 =
      .retry (.ofSecs 0x8000000000000000) := rfl
  have spent : (RetryPolicy.mk 1 (.ofSecs 0x8000000000000000)).next 1
      ((Behaviour.finishes 0 (.error .socketClosed) : Behaviour Unit).within (.ofSecs 10)).2 =
      .finish (.error .socketClosed) := rfl
  have wake : 0 + 0 + (Duration.ofSecs 0x8000000000000000).wait = 946080000000 := by decide
  have two : ((RetryPolicy.mk 1 (.ofSecs 0x8000000000000000)).run (.ofSecs 10)
      (fun _ => (.finishes 0 (.error .socketClosed) : Behaviour Unit)) none).attempts =
        [(0, 0), (1, 0 + 0 + (Duration.ofSecs 0x8000000000000000).wait)] :=
    congrArg Trace.attempts ((runFrom_of_retry retry 0 0).trans
      (congrArg (Trace.after · 0 0) (runFrom_of_finish spent 0 _)))
  have finish : (RetryPolicy.mk 0 .zero).next 0
      ((Behaviour.finishes 2 (.ok ())).within ⟨1500000, by decide⟩).2 = .finish (.ok ()) := rfl
  rw [wake] at two
  exact ⟨⟨two, by decide⟩, congrArg Trace.outcome (runFrom_of_finish finish 0 0), by decide⟩

end RetryPolicy
end NodeCall
