import NodeCall.IdGenerator
import NodeCall.Retry.Run

/-!
# Executing calls

One logical call: the method is checked, the request is completed, and attempts are made until
the retry policy is content.  A response with an error object counts as a failed attempt.  A raw
transport hands the node's last error back inside a response.
-/

namespace NodeCall

structure Executor where
  config : TransportConfig
  counter : Counter
  url : String

namespace Executor

def policy (executor : Executor) : RetryPolicy := .ofConfig executor.config

def check (executor : Executor) (method : String) : Outcome Unit :=
  if executor.config.methods.allows method then .ok () else .error (.methodNotSupported method)

/-- The request with a version and an id; one without an id draws a number. -/
def prepare (executor : Executor) (request : Request) : Request × Executor :=
  let version := if request.version.isEmpty then protocolVersion else request.version
  match request.id with
  | .null =>
    let (number, counter) := executor.counter.draw
    (⟨version, request.method, request.params, .number number⟩, { executor with counter })
  | id => (⟨version, request.method, request.params, id⟩, executor)

/-- The outcome of an attempt at a request: a response with an error object is a failure. -/
def judge (url : String) (request : Request) : Outcome Response → Outcome Response
  | .ok response =>
    match response.error with
    | some error => .error (.rpc error url request.text)
    | none => .ok response
  | .error e => .error e

/-- The outcome of a call; a raw transport puts a node error into a response. -/
def conclude (raw : Bool) (id : RpcId) : Outcome Response → Outcome Response
  | .error (.rpc error url body) =>
    if raw then .ok (.failure id error) else .error (.rpc error url body)
  | outcome => outcome

/-- What happened in a call: the requests of the attempts with their times, the end, and the
outcome. -/
structure Run where
  sent : List (Nat × Request)
  ended : Nat
  outcome : Outcome Response

def judged (url : String) (request : Request) : Behaviour Response → Behaviour Response
  | .finishes after outcome => .finishes after (judge url request outcome)
  | .stalls => .stalls

def run (executor : Executor) (request : Request) (script : UInt32 → Request → Behaviour Response)
    (cancelAt : Option Nat) : Run × Executor :=
  if cancelAt = some 0 then (⟨[], 0, .error .cancelled⟩, executor)
  else
    match executor.check request.method with
    | .error e => (⟨[], 0, .error e⟩, executor)
    | .ok () =>
      let (prepared, after) := executor.prepare request
      let trace := executor.policy.run executor.config.timeout
        (fun attempt => judged executor.url prepared (script attempt prepared)) cancelAt
      (⟨trace.attempts.map fun (_, start) => (start, prepared), trace.ended,
        conclude executor.config.raw prepared.id trace.outcome⟩, after)

end Executor
end NodeCall
