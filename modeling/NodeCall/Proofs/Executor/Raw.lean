import NodeCall.Proofs.Executor.Calls
import NodeCall.Proofs.Retry.Cancellation
import NodeCall.Transport

/-!
# Raw transports

A raw transport hands the last node error back inside a response.  Nothing else about a call is
different, and a typed call takes the error out of the response again.
-/

namespace NodeCall

/-- The outcome of a raw transport for that of any other one. -/
def repackaged (id : RpcId) : Outcome Response → Outcome Response
  | .error (.rpc error _ _) =>
    .ok
      { version := "2.0", id, result := none, error := some error, method := none, params := none }
  | outcome => outcome

/-! ### Typed results -/

section

variable {α : Type} {url method : String} {decode : Json → Json.Decoded α}

theorem ofDecoded_ne_rpc (decoded : Json.Decoded α) (error : NodeError) (url body : String) :
    Outcome.ofDecoded decoded ≠ .error (.rpc error url body) := by
  cases decoded <;> nofun

theorem typedResult_ok {response : Response} (none : response.error = none) :
    typedResult url method decode (.ok response) =
      .ofDecoded (decode (response.result.getD .null)) := by
  simp only [typedResult, bind, Except.bind, Response.outcome, none]

theorem typedResult_repackaged (id : RpcId) {outcome : Outcome Response}
    (answered : ∀ response, outcome = .ok response → response.error = none) :
    (∃ error origin body,
      typedResult url method decode outcome = .error (.rpc error origin body) ∧
      typedResult url method decode (repackaged id outcome) = .error (.rpc error url method)) ∨
    (typedResult url method decode (repackaged id outcome) = typedResult url method decode outcome ∧
      ∀ error origin body,
        typedResult url method decode outcome ≠ .error (.rpc error origin body)) := by
  cases outcome with
  | ok response =>
    refine .inr ⟨rfl, ?_⟩
    rw [typedResult_ok (answered response rfl)]
    exact ofDecoded_ne_rpc (decode (response.result.getD .null))
  | error e =>
    cases e with
    | rpc error origin body => exact .inl ⟨error, origin, body, rfl, rfl⟩
    | _ => exact .inr ⟨rfl, nofun⟩

end

namespace Executor

theorem conclude_raw (id : RpcId) (outcome : Outcome Response) :
    conclude true id outcome = repackaged id outcome := by
  cases outcome with
  | ok response => rfl
  | error e => cases e <;> rfl

/-! ### Calls with and without repackaging -/

def withRaw (executor : Executor) (raw : Bool) : Executor :=
  { executor with config := { executor.config with raw } }

/-- A typed call over the transport at `url`. -/
def typedCall {α : Type} (executor : Executor) (url method : String) (params : List Json)
    (decode : Json → Json.Decoded α) (script : UInt32 → Request → Behaviour Response)
    (cancelAt : Option Nat) : Outcome α :=
  typedResult url method decode (executor.run (.call method params) script cancelAt).1.outcome

variable (executor : Executor) (request : Request)
  (script : UInt32 → Request → Behaviour Response) (cancelAt : Option Nat)

theorem run_withRaw :
    (executor.withRaw true).run request script cancelAt =
      let (call, after) := (executor.withRaw false).run request script cancelAt
      (⟨call.sent, call.ended, repackaged (executor.completed request).id call.outcome⟩,
        after.withRaw true) := by
  by_cases starts : cancelAt = some 0
  · subst starts
    rfl
  · cases allowed : executor.config.methods.allows request.method with
    | false =>
      rw [(executor.withRaw true).run_refused request script allowed starts,
        (executor.withRaw false).run_refused request script allowed starts]
      rfl
    | true =>
      rw [(executor.withRaw true).run_allowed request script allowed starts,
        (executor.withRaw false).run_allowed request script allowed starts]
      show ((⟨_, _, conclude true _ _⟩ : Run), _) = (⟨_, _, repackaged _ (conclude false _ _)⟩, _)
      rw [conclude_raw, conclude_plain]
      rfl

theorem error_of_run_cut (plain : executor.config.raw = false) {response : Response}
    (ok : (executor.run request script cancelAt).1.outcome = .ok response) :
    response.error = none := by
  by_cases starts : cancelAt = some 0
  · subst starts
    cases ok
  cases allowed : executor.config.methods.allows request.method with
  | false =>
    rw [executor.run_refused request script allowed starts] at ok
    cases ok
  | true =>
    cases cancelAt with
    | none => exact executor.error_of_run_ok request script allowed plain ok
    | some time =>
      rw [executor.run_cancelled request script (starts ∘ congrArg some)] at ok
      unfold Run.cutAt at ok
      split at ok
      · exact executor.error_of_run_ok request script allowed plain ok
      · cases ok

/-- With and without repackaging, a call makes the same attempts with the same requests at the same
times, ends at the same time and draws the same number; its outcome is the same unless it is a node
error, which is put into a response with the id of the request.  The typed calls then both have
that node error for an error, or else the same result. -/
theorem raw_mode_repackages (executor : Executor)
    (script : UInt32 → Request → Behaviour Response) (cancelAt : Option Nat) :
    (∀ request,
      let (plain, after) := (executor.withRaw false).run request script cancelAt
      let (raw, after') := (executor.withRaw true).run request script cancelAt
      raw.sent = plain.sent ∧ raw.ended = plain.ended ∧ after'.counter = after.counter ∧
      raw.outcome = repackaged
        (if request.id = .null then .number executor.counter else request.id) plain.outcome) ∧
    ∀ (α : Type) (url method : String) (params : List Json) (decode : Json → Json.Decoded α),
      let plain := (executor.withRaw false).typedCall url method params decode script cancelAt
      let raw := (executor.withRaw true).typedCall url method params decode script cancelAt
      (∃ error origin body,
        plain = .error (.rpc error origin body) ∧ raw = .error (.rpc error url method)) ∨
      (raw = plain ∧ ∀ error origin body, plain ≠ .error (.rpc error origin body)) := by
  refine ⟨fun request => ?_, fun α url method params decode => ?_⟩
  · rw [run_withRaw]
    exact ⟨rfl, rfl, rfl, rfl⟩
  · unfold typedCall
    rw [run_withRaw]
    exact typedResult_repackaged _ fun response =>
      (executor.withRaw false).error_of_run_cut (.call method params) script cancelAt rfl

example :
    let executor : Executor := ⟨.custom, 7, "node"⟩
    let script (_ : UInt32) (request : Request) : Behaviour Response :=
      .finishes 5 (.ok (.failure request.id (.new 3 "reverted")))
    let outcome (raw : Bool) :=
      ((executor.withRaw raw).run (.call "eth_call" []) script none).1.outcome
    (outcome false).toOption.isNone ∧
    (outcome true).toOption.map (fun response => (response.id, response.error.map (·.code))) =
      some (.number 7, some 3) := by
  decide +kernel

end Executor
end NodeCall
