import NodeCall.Executor
import NodeCall.Proofs.Retry.Attempts

/-!
# Calls and their attempts

A call of a method that is allowed completes its request once, and each of its attempts carries
what came of that.  A node error in a response makes an attempt a failed one, which the policy
judges by the code.
-/

namespace NodeCall

/-! ### Outcomes of attempts -/

namespace Executor

variable (url : String) (request : Request)

theorem within_judged (timeout : Duration) (behaviour : Behaviour Response) :
    (judged url request behaviour).within timeout =
      ((behaviour.within timeout).1, judge url request (behaviour.within timeout).2) := by
  cases behaviour with
  | finishes after outcome =>
    unfold judged Behaviour.within
    dsimp only
    split <;> rfl
  | stalls => rfl

variable {url request} {outcome : Outcome Response} {response : Response} {error : NodeError}

theorem judge_response (none : response.error = none) :
    judge url request (.ok response) = .ok response := by
  simp only [judge, none]

theorem judge_error (some : response.error = some error) :
    judge url request (.ok response) = .error (.rpc error url request.text) := by
  simp only [judge, some]

theorem error_of_judge (ok : judge url request outcome = .ok response) :
    response.error = none := by
  cases outcome with
  | error e => cases ok
  | ok answer =>
    cases there : answer.error with
    | none =>
      rw [judge_response there] at ok
      cases ok
      exact there
    | some error =>
      rw [judge_error there] at ok
      cases ok

theorem conclude_plain (id : RpcId) (outcome : Outcome Response) :
    conclude false id outcome = outcome := by
  cases outcome with
  | ok response => rfl
  | error e => cases e <;> rfl

end Executor

theorem NodeError.isTransient_iff {error : NodeError} :
    error.isTransient = true ↔ error.code ∈ ([-1, -32005, -32603] : List Int64) := by
  simp only [isTransient, Bool.or_eq_true, decide_eq_true_eq, List.mem_cons, List.not_mem_nil,
    or_false, or_assoc]
  rfl

theorem Executor.not_final_judge_error {url : String} {request : Request} {response : Response}
    {error : NodeError} (some : response.error = some error) (policy : RetryPolicy) {attempt : Nat}
    (le : attempt ≤ policy.retryCount.toNat) :
    ¬ policy.Final attempt (judge url request (.ok response)) ↔
      error.code ∈ ([-1, -32005, -32603] : List Int64) ∧ attempt < policy.retryCount.toNat := by
  rw [judge_error some, RetryPolicy.final_error_iff, Classical.not_imp, ← NodeError.isTransient_iff]
  exact and_congr_right fun _ => ⟨fun ne => Nat.lt_of_le_of_ne le ne, Nat.ne_of_lt⟩

/-! ### Calls of allowed methods -/

namespace Executor

section

variable (executor : Executor) (request : Request)

/-- The request that the attempts of a call carry. -/
def completed : Request where
  version := if request.version = "" then "2.0" else request.version
  method := request.method
  params := request.params
  id := if request.id = .null then .number executor.counter else request.id

/-- The executor when a request has been completed. -/
def drawn : Executor :=
  { executor with
    counter := if request.id = .null then executor.counter + 1 else executor.counter }

theorem prepare_eq :
    executor.prepare request = (executor.completed request, executor.drawn request) := by
  obtain ⟨version, method, params, id⟩ := request
  cases id <;> simp [prepare, completed, drawn, Counter.draw, protocolVersion]

variable (script : UInt32 → Request → Behaviour Response)

/-- What becomes of the attempts of a call, by their numbers. -/
def answers : UInt32 → Behaviour Response := fun attempt =>
  judged executor.url (executor.completed request) (script attempt (executor.completed request))

theorem outcomeOf_answers (timeout : Duration) (attempt : Nat) :
    RetryPolicy.outcomeOf timeout (executor.answers request script) attempt =
      judge executor.url (executor.completed request)
        ((script (UInt32.ofNat attempt) (executor.completed request)).within timeout).2 :=
  congrArg Prod.snd (within_judged ..)

theorem check_of_allowed {executor : Executor} {method : String}
    (allowed : executor.config.methods.allows method = true) : executor.check method = .ok () :=
  if_pos allowed

theorem check_of_refused {executor : Executor} {method : String}
    (refused : executor.config.methods.allows method = false) :
    executor.check method = .error (.methodNotSupported method) := by
  rw [check, refused]
  rfl

theorem run_refused (refused : executor.config.methods.allows request.method = false)
    {cancelAt : Option Nat} (starts : cancelAt ≠ some 0) :
    executor.run request script cancelAt =
      (⟨[], 0, .error (.methodNotSupported request.method)⟩, executor) := by
  rw [run, if_neg starts, check_of_refused refused]

variable (allowed : executor.config.methods.allows request.method = true)
include allowed

theorem run_allowed {cancelAt : Option Nat} (starts : cancelAt ≠ some 0) :
    executor.run request script cancelAt =
      let carried := executor.completed request
      let trace := executor.policy.run executor.config.timeout (executor.answers request script)
        cancelAt
      (⟨trace.attempts.map fun (_, start) => (start, carried), trace.ended,
        conclude executor.config.raw carried.id trace.outcome⟩, executor.drawn request) := by
  unfold run
  rw [if_neg starts, check, if_pos allowed, prepare_eq]
  rfl

theorem run_eq :
    let outcome := RetryPolicy.outcomeOf executor.config.timeout (executor.answers request script)
    let start := executor.policy.startOf executor.config.timeout (executor.answers request script)
    ∃ last ≤ executor.config.retryCount.toNat, executor.policy.Final last (outcome last) ∧
      (∀ i < last, ¬ executor.policy.Final i (outcome i)) ∧
      ∃ ended, executor.run request script none =
        (⟨(List.range (last + 1)).map fun i => (start i, executor.completed request), ended,
          conclude executor.config.raw (executor.completed request).id (outcome last)⟩,
          executor.drawn request) := by
  intro outcome start
  obtain ⟨last, le, final, before, trace⟩ :=
    executor.policy.run_eq executor.config.timeout (executor.answers request script)
  refine ⟨last, le, final, before, start last + RetryPolicy.lengthOf executor.config.timeout
    (executor.answers request script) last, ?_⟩
  rw [executor.run_allowed request script allowed (Option.some_ne_none 0).symm, trace]
  dsimp only
  rw [List.map_map]
  rfl

theorem error_of_run_ok (plain : executor.config.raw = false) {response : Response}
    (ok : (executor.run request script none).1.outcome = .ok response) : response.error = none := by
  obtain ⟨last, -, -, -, ended, whole⟩ := executor.run_eq request script allowed
  rw [whole, plain, conclude_plain, outcomeOf_answers] at ok
  exact error_of_judge ok

end

/-- A call of a method that is allowed draws a number just if its request has no id, and all of
its attempts carry one request.  A response in time with a node error is a failure, which another
attempt follows just if its code is a transient one and the count has not run out; any other
response ends the call.  The last node error is the outcome, with the address and the text of the
request unless it is handed back raw; without that, no response has an error. -/
theorem calls_follow_contract (executor : Executor) (request : Request)
    (script : UInt32 → Request → Behaviour Response)
    (allowed : executor.config.methods.allows request.method = true) :
    let carried : Request :=
      { version := if request.version = "" then "2.0" else request.version
        method := request.method
        params := request.params
        id := if request.id = .null then .number executor.counter else request.id }
    let (call, after) := executor.run request script none
    after = { executor with
      counter := if request.id = .null then executor.counter + 1 else executor.counter } ∧
    (0 < call.sent.length ∧ call.sent.length ≤ executor.config.retryCount.toNat + 1) ∧
    (∀ attempt ∈ call.sent, attempt.2 = carried) ∧
    (∀ i < call.sent.length, ∀ length response,
      RetryPolicy.Lasts executor.config.timeout (script (UInt32.ofNat i) carried) length
        (.ok response) →
      (response.error = none → i + 1 = call.sent.length ∧ call.outcome = .ok response) ∧
      ∀ error, response.error = some error →
        (i + 1 < call.sent.length ↔ error.code ∈ ([-1, -32005, -32603] : List Int64) ∧
          i < executor.config.retryCount.toNat) ∧
        (i + 1 = call.sent.length → call.outcome =
          if executor.config.raw then .ok (.failure carried.id error)
          else .error (.rpc error executor.url carried.text))) ∧
    (executor.config.raw = false → ∀ response, call.outcome = .ok response →
      response.error = none) := by
  intro carried
  have answered (plain : executor.config.raw = false) (response : Response)
      (ok : (executor.run request script none).1.outcome = .ok response) : response.error = none :=
    executor.error_of_run_ok request script allowed plain ok
  obtain ⟨last, le, final, before, ended, whole⟩ := executor.run_eq request script allowed
  generalize executor.run request script none = run at answered whole ⊢
  obtain ⟨call, after⟩ := run
  obtain ⟨rfl, rfl⟩ := Prod.mk.inj whole
  simp only [List.length_map, List.length_range]
  refine ⟨rfl, ⟨by omega, by omega⟩, ?_, ?_, answered⟩
  · intro attempt there
    obtain ⟨i, -, rfl⟩ := List.mem_map.mp there
    rfl
  · intro i there duration response lasts
    have answer :
        RetryPolicy.outcomeOf executor.config.timeout (executor.answers request script) i =
          judge executor.url carried (.ok response) :=
      (executor.outcomeOf_answers request script executor.config.timeout i).trans
        (congrArg (fun answer : Nat × Outcome Response => judge executor.url carried answer.2)
          lasts.within_eq)
    -- The first final attempt is the last one, so the others are those that are not final.
    have continues : i + 1 < last + 1 ↔ ¬ executor.policy.Final i
        (judge executor.url carried (.ok response)) := by
      rw [← answer]
      rcases Nat.lt_or_ge i last with lt | ge
      · exact iff_of_true (by omega) (before i lt)
      · obtain rfl : i = last := by omega
        exact iff_of_false (by omega) (not_not_intro final)
    refine ⟨fun none => ?_, fun error some => ⟨?_, fun isLast => ?_⟩⟩
    · have ends : ¬ i + 1 < last + 1 := by
        rw [continues, judge_response none]
        exact not_not_intro (.success response)
      obtain rfl : i = last := by omega
      rw [answer, judge_response none]
      exact ⟨rfl, rfl⟩
    · rw [continues]
      exact not_final_judge_error some executor.policy (Nat.le_trans (by omega) le)
    · obtain rfl : i = last := by omega
      rw [answer, judge_error some]
      rfl

/-- The node is busy at first and then says what is wrong, to a request without version and id. -/
theorem calls_follow_contract_busy_node :
    let executor : Executor := ⟨{ TransportConfig.custom with retryCount := 1 }, 7, "node"⟩
    let request : Request := ⟨"", "eth_call", .array [], .null⟩
    let busy := NodeError.new (-32005) "busy"
    let reverted := NodeError.new 3 "reverted"
    let script : UInt32 → Request → Behaviour Response
      | 0, request => .finishes 5 (.ok (.failure request.id busy))
      | _, request => .finishes 5 (.ok (.failure request.id reverted))
    let carried : Request := ⟨"2.0", "eth_call", .array [], .number 7⟩
    let (call, after) := executor.run request script none
    executor.config.methods.allows request.method = true ∧ after.counter = 8 ∧
    call.sent.map (·.2) = [carried, carried] ∧
    call.outcome = .error (.rpc reverted "node" carried.text) := by
  intro executor request busy reverted script carried
  have allowed : executor.config.methods.allows request.method = true := by decide +kernel
  have contract := calls_follow_contract executor request script allowed
  generalize executor.run request script none = run at contract ⊢
  obtain ⟨call, after⟩ := run
  obtain ⟨drawn, ⟨some, few⟩, same, answered, -⟩ := contract
  have inTime (outcome : Outcome Response) :
      RetryPolicy.Lasts executor.config.timeout (.finishes 5 outcome) 5 outcome :=
    .inTime 10000 5 outcome (.near 10000 (by decide) (by decide) (by decide)) (by decide)
  have again := ((answered 0 some 5 _ (inTime _)).2 busy rfl).1.mpr ⟨by decide, by decide⟩
  have two : call.sent.length = 2 := Nat.le_antisymm few again
  have ends := ((answered 1 again 5 _ (inTime _)).2 reverted rfl).2 two.symm
  refine ⟨allowed, by rw [drawn]; rfl, ?_, ends⟩
  have all : ∀ other ∈ call.sent.map (·.2), other = carried := List.forall_mem_map.mpr same
  rw [List.eq_replicate_of_mem all, List.length_map, two]
  rfl

end Executor
end NodeCall
