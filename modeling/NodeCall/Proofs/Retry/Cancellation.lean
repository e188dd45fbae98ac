import NodeCall.Executor
import NodeCall.Proofs.Retry.Attempts

/-!
# Calls that are cancelled

A call that is cancelled goes like the same call when nobody cancels it, up to the moment at which
it is: the same attempts at the same times, and nothing from that moment on.
-/

namespace NodeCall

variable {α : Type}

/-! ### Runs that are cut -/

namespace Trace

variable {trace : Trace α} {number : UInt32} {start ended time : Nat}

/-- What has happened in a run by a given time, at which it is cut unless it is over. -/
def cutAt (trace : Trace α) (time : Nat) : Trace α :=
  if trace.ended ≤ time then trace
  else ⟨trace.attempts.filter (·.2 ≤ time), time, .error .cancelled⟩

theorem cutAt_of_le (ended : trace.ended ≤ time) : trace.cutAt time = trace := if_pos ended

theorem cutAt_of_lt (running : time < trace.ended) :
    trace.cutAt time = ⟨trace.attempts.filter (·.2 ≤ time), time, .error .cancelled⟩ :=
  if_neg (Nat.not_le.mpr running)

theorem cutAt_after (number : UInt32) (started : start ≤ time) :
    (trace.after number start).cutAt time = (trace.cutAt time).after number start := by
  unfold cutAt after
  dsimp only
  split
  · rfl
  · rw [List.filter_cons_of_pos (by simpa using started)]

/-- The run begins with this attempt, and with nothing else before the attempt has ended. -/
structure Begins (trace : Trace α) (number : UInt32) (start ended : Nat) : Prop where
  first : ∃ later, trace.attempts = (number, start) :: later ∧ ∀ attempt ∈ later, ended ≤ attempt.2
  sorted : trace.attempts.Pairwise (·.2 ≤ ·.2)
  lasts : start ≤ ended ∧ ended ≤ trace.ended

namespace Begins

theorem alone (outcome : Outcome α) (lasts : start ≤ ended) :
    Begins ⟨[(number, start)], ended, outcome⟩ number start ended :=
  ⟨⟨[], rfl, nofun⟩, List.pairwise_singleton .., lasts, Nat.le_refl ended⟩

/-- An attempt goes before a run that begins when the attempt and a wait are over. -/
theorem after {next : UInt32} {wake ended' : Nat} (begins : Begins trace next wake ended')
    (number : UInt32) (lasts : start ≤ ended) (waits : ended ≤ wake) :
    Begins (trace.after number start) number start ended := by
  obtain ⟨⟨later, heq, hlater⟩, sorted, hlasts⟩ := begins
  have all : ∀ attempt ∈ trace.attempts, ended ≤ attempt.2 := by
    intro attempt there
    rw [heq, List.mem_cons] at there
    rcases there with rfl | there
    · exact waits
    · have := hlater attempt there
      omega
  refine ⟨⟨trace.attempts, rfl, all⟩, List.pairwise_cons.mpr ⟨?_, sorted⟩, lasts, ?_⟩
  · exact fun attempt there => Nat.le_trans lasts (all attempt there)
  · show ended ≤ trace.ended
    omega

theorem cutAt (begins : Begins trace number start ended) (started : start ≤ time)
    (running : time < ended) :
    trace.cutAt time = ⟨[(number, start)], time, .error .cancelled⟩ := by
  obtain ⟨⟨later, heq, hlater⟩, -, -, hlasts⟩ := begins
  have none : later.filter (·.2 ≤ time) = [] := by
    refine List.filter_eq_nil_iff.mpr fun attempt there => ?_
    have := hlater attempt there
    simpa using Nat.lt_of_lt_of_le running this
  rw [cutAt_of_lt (Nat.lt_of_lt_of_le running hlasts), heq,
    List.filter_cons_of_pos (by simpa using started), none]

end Begins

/-- What began before a given time comes first in a sorted list. -/
theorem filter_prefix_of_sorted {β : Type} {begin_ : β → Nat} {items : List β}
    (sorted : items.Pairwise (begin_ · ≤ begin_ ·)) (time : Nat) :
    items.filter (begin_ · < time) <+: items := by
  induction items with
  | nil => exact List.prefix_refl []
  | cons item rest ih =>
    obtain ⟨first, sorted⟩ := List.pairwise_cons.mp sorted
    by_cases before : begin_ item < time
    · rw [List.filter_cons_of_pos (by simpa using before)]
      exact List.cons_prefix_cons.mpr ⟨rfl, ih sorted⟩
    · have none : (item :: rest).filter (begin_ · < time) = [] := by
        refine List.filter_eq_nil_iff.mpr fun other there => ?_
        rcases List.mem_cons.mp there with rfl | there
        · simpa using before
        · have := first other there
          simp only [decide_eq_true_eq]
          omega
      rw [none]
      exact List.nil_prefix

end Trace

namespace RetryPolicy

variable {policy : RetryPolicy} {timeout : Duration} {script : UInt32 → Behaviour α}
  {number : UInt32} {start time budget : Nat} {delay : Duration}

theorem cutBefore_of_lt {limit : Nat} (lt : time < limit) :
    cutBefore (some time) limit = some time := by
  simp [cutBefore, lt]

theorem cutBefore_of_le {limit : Nat} (le : limit ≤ time) : cutBefore (some time) limit = none := by
  simp [cutBefore, le]

theorem runFrom_cut_in_attempt (running : time < start + ((script number).within timeout).1) :
    policy.runFrom timeout script (some time) budget number start =
      ⟨[(number, start)], time, .error .cancelled⟩ := by
  unfold runFrom
  simp only [cutBefore_of_lt running]

theorem runFrom_of_ended {cancelAt : Option Nat}
    (ended : cutBefore cancelAt (start + ((script number).within timeout).1) = none) :
    policy.runFrom timeout script cancelAt budget number start =
      match policy.next number ((script number).within timeout).2, budget with
      | .finish outcome, _ =>
        ⟨[(number, start)], start + ((script number).within timeout).1, outcome⟩
      | .retry _, 0 =>
        ⟨[(number, start)], start + ((script number).within timeout).1,
          ((script number).within timeout).2⟩
      | .retry delay, less + 1 =>
        match cutBefore cancelAt (start + ((script number).within timeout).1 + delay.wait) with
        | some time => ⟨[(number, start)], time, .error .cancelled⟩
        | none => (policy.runFrom timeout script cancelAt less (number + 1)
            (start + ((script number).within timeout).1 + delay.wait)).after number start := by
  rw [runFrom.eq_def]
  dsimp only
  split
  · next cut =>
    rw [ended] at cut
    cases cut
  · rfl

variable (policy timeout script)

theorem begins_runFrom (budget : Nat) (number : UInt32) (start : Nat) :
    (policy.runFrom timeout script none budget number start).Begins number start
      (start + ((script number).within timeout).1) := by
  have lasts : start ≤ start + ((script number).within timeout).1 := Nat.le_add_right ..
  rw [runFrom_of_ended rfl]
  cases policy.next number ((script number).within timeout).2 with
  | finish outcome => exact .alone outcome lasts
  | retry delay =>
    cases budget with
    | zero => exact .alone _ lasts
    | succ less => exact (begins_runFrom less _ _).after number lasts (Nat.le_add_right ..)
termination_by budget

/-- A run that goes on past a given time is cut in the attempt or in the wait that the time falls
into; until then it goes like the run that is not cut. -/
theorem runFrom_cancelled {start time : Nat} (started : start ≤ time) (budget : Nat)
    (number : UInt32) :
    policy.runFrom timeout script (some time) budget number start =
      (policy.runFrom timeout script none budget number start).cutAt time := by
  rcases Nat.lt_or_ge time (start + ((script number).within timeout).1) with running | done
  · rw [(policy.begins_runFrom timeout script budget number start).cutAt started running,
      runFrom_cut_in_attempt running]
  · rw [runFrom_of_ended (cutBefore_of_le done), runFrom_of_ended rfl]
    cases policy.next number ((script number).within timeout).2 with
    | finish outcome => exact (Trace.cutAt_of_le done).symm
    | retry delay =>
      cases budget with
      | zero => exact (Trace.cutAt_of_le done).symm
      | succ less =>
        dsimp only
        generalize hwake : start + ((script number).within timeout).1 + delay.wait = wake
        have begins := policy.begins_runFrom timeout script less (number + 1) wake
        rcases Nat.lt_or_ge time wake with waiting | woken
        · rw [cutBefore_of_lt waiting]
          exact ((begins.after number (by omega) (Nat.le_refl wake)).cutAt started waiting).symm
        · rw [cutBefore_of_le woken]
          show (policy.runFrom timeout script (some time) less (number + 1) wake).after number
              start = ((policy.runFrom timeout script none less (number + 1) wake).after number
                start).cutAt time
          rw [Trace.cutAt_after number started, runFrom_cancelled woken less (number + 1)]
termination_by budget

theorem run_cancelled {time : Nat} (later : time ≠ 0) :
    policy.run timeout script (some time) = (policy.run timeout script none).cutAt time := by
  unfold run
  rw [if_neg (by simpa using later), if_neg nofun]
  exact policy.runFrom_cancelled timeout script (Nat.zero_le time) _ _

end RetryPolicy

/-! ### Calls -/

namespace Executor

variable (executor : Executor) (request : Request)
  (script : UInt32 → Request → Behaviour Response)

/-- What has happened in a call by a given time, at which it is cut unless it is over. -/
def Run.cutAt (run : Run) (time : Nat) : Run :=
  if run.ended ≤ time then run else ⟨run.sent.filter (·.1 ≤ time), time, .error .cancelled⟩

/-- The executor from the beginning of a call on: a request that may be made has been completed. -/
def begun : Executor :=
  match executor.check request.method with
  | .error _ => executor
  | .ok () => (executor.prepare request).2

theorem executor_run {cancelAt : Option Nat} (starts : cancelAt ≠ some 0) :
    (executor.run request script cancelAt).2 = executor.begun request := by
  unfold run begun
  rw [if_neg starts]
  cases executor.check request.method <;> rfl

theorem run_cancelled {time : Nat} (later : time ≠ 0) :
    (executor.run request script (some time)).1 =
      (executor.run request script none).1.cutAt time := by
  unfold run
  rw [if_neg (by simpa using later), if_neg nofun]
  cases executor.check request.method with
  | error e => exact (if_pos (Nat.zero_le time)).symm
  | ok _ =>
    dsimp only
    rw [RetryPolicy.run_cancelled _ _ _ later]
    unfold Trace.cutAt Run.cutAt
    split
    · rfl
    · rw [List.filter_map]
      rfl

theorem sorted_sent : (executor.run request script none).1.sent.Pairwise (·.1 ≤ ·.1) := by
  unfold run
  rw [if_neg nofun]
  cases executor.check request.method with
  | error e => exact .nil
  | ok _ =>
    refine List.pairwise_map.mpr ?_
    exact (RetryPolicy.begins_runFrom ..).sorted

/-- A call that is cancelled beforehand makes no attempt and draws nothing.  One that is cancelled
at a later time, at which nothing else happens, is the same call as without that if it is over by
then.  If not, it ends at that very time, and the attempts made are those of the other call that
begin before it; the counter stands where it stands in the other call from the beginning on. -/
theorem cancellation_cuts_run (executor : Executor) (request : Request)
    (script : UInt32 → Request → Behaviour Response) :
    executor.run request script (some 0) = (⟨[], 0, .error .cancelled⟩, executor) ∧
    ∀ time, 0 < time →
      let whole := executor.run request script none
      let cut := executor.run request script (some time)
      (∀ attempt ∈ whole.1.sent, attempt.1 ≠ time) →
        (whole.1.ended < time → cut = whole) ∧
        (time < whole.1.ended →
          cut.1.ended = time ∧ cut.1.outcome = .error .cancelled ∧
          cut.1.sent = whole.1.sent.filter (·.1 < time) ∧ cut.1.sent <+: whole.1.sent ∧
          cut.2 = whole.2 ∧ whole.2 = executor.begun request) := by
  refine ⟨if_pos rfl, fun time positive => ?_⟩
  intro whole cut apart
  have later : time ≠ 0 := Nat.ne_of_gt positive
  have cutAt : cut.1 = whole.1.cutAt time := executor.run_cancelled request script later
  have after : whole.2 = executor.begun request := executor.executor_run request script nofun
  have after' : cut.2 = executor.begun request :=
    executor.executor_run request script (by simpa using later)
  refine ⟨fun done => ?_, fun running => ?_⟩
  · exact Prod.ext (cutAt.trans (if_pos (Nat.le_of_lt done))) (after'.trans after.symm)
  · have cutHere := cutAt.trans (if_neg (Nat.not_le.mpr running))
    have sent : cut.1.sent = whole.1.sent.filter (·.1 < time) := by
      rw [cutHere]
      refine List.filter_congr fun attempt there => ?_
      have := apart attempt there
      simp only [decide_eq_decide]
      omega
    refine ⟨by rw [cutHere], by rw [cutHere], sent, ?_, after'.trans after.symm, after⟩
    rw [sent]
    exact Trace.filter_prefix_of_sorted (executor.sorted_sent request script) time

/-- An executor for calls of up to three attempts. -/
def patient : Executor :=
  ⟨{ TransportConfig.custom with
      retryCount := 2, retryDelay := .ofMillis 10, timeout := .ofMillis 20 }, 7, "node"⟩

/-- The first attempt is never answered, the second one fails and the third one succeeds. -/
def thirdTime : UInt32 → Request → Behaviour Response
  | 0, _ => .stalls
  | 1, _ => .finishes 5 (.error .socketClosed)
  | _, request => .finishes 5 (.ok (.success request.id .null))

theorem cancellation_cuts_run_in_second_wait :
    let whole := patient.run (.call "eth_chainId" []) thirdTime none
    let cut := patient.run (.call "eth_chainId" []) thirdTime (some 40)
    (0 < 40 ∧ (∀ attempt ∈ whole.1.sent, attempt.1 ≠ 40) ∧ 40 < whole.1.ended) ∧
    whole.1.sent.map (·.1) = [0, 30, 55] ∧ whole.1.ended = 60 ∧
    cut.1.sent.map (·.1) = [0, 30] ∧ cut.1.ended = 40 ∧ cut.1.outcome = .error .cancelled ∧
    cut.2.counter = 8 := by
  intro whole cut
  have starts : whole.1.sent.map (·.1) = [0, 30, 55] := by decide +kernel
  have ended : whole.1.ended = 60 := by decide +kernel
  have apart (attempt : Nat × Request) (there : attempt ∈ whole.1.sent) : attempt.1 ≠ 40 := by
    have start : attempt.1 ∈ [0, 30, 55] := starts ▸ List.mem_map_of_mem there
    rintro same
    rw [same] at start
    exact absurd start (by decide)
  have running : 40 < whole.1.ended := by
    rw [ended]
    decide
  obtain ⟨stops, cancelled, sent, -, after, begun⟩ :=
    ((cancellation_cuts_run patient (.call "eth_chainId" []) thirdTime).2 40 (by decide)
      apart).2 running
  refine ⟨⟨by decide, apart, running⟩, starts, ended, ?_, stops, cancelled, ?_⟩
  · have kept : cut.1.sent.map (·.1) = (whole.1.sent.map (·.1)).filter (· < 40) := by
      rw [List.filter_map]
      exact congrArg (List.map Prod.fst) sent
    rw [kept, starts]
    rfl
  · show cut.2.counter = 8
    rw [after, begun]
    rfl

end Executor
end NodeCall
