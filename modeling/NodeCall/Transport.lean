import NodeCall.Config
import NodeCall.TransportError

/-!
# Transports

What callers of any transport see: its health, and typed results of calls.
-/

namespace NodeCall

inductive Health
  | healthy
  | degraded
  | unhealthy
  | unknown
  deriving DecidableEq, Repr

namespace Health

def all : List Health := [.healthy, .degraded, .unhealthy, .unknown]

def display : Health → String
  | .healthy => "healthy"
  | .degraded => "degraded"
  | .unhealthy => "unhealthy"
  | .unknown => "unknown"

end Health

/-- The typed result of a call of `method` over the transport at `url`. -/
def typedResult {α : Type} (url method : String) (decode : Json → Json.Decoded α)
    (outcome : Outcome Response) : Outcome α := do
  let response ← outcome
  match response.outcome with
  | .error error => .error (.rpc error url method)
  | .ok result => .ofDecoded (decode result)

end NodeCall
