import NodeCall.Executor
import NodeCall.Socket.Config
import NodeCall.Socket.Frame
import NodeCall.Socket.Handshake
import NodeCall.Socket.Registry
import NodeCall.Table

/-!
# The state of a WebSocket client

What callers wait for, what the task of the connection is about to do, and the tables that they
share.  Each exchange travels under a number of its own, and a table tells for every number under
way what its reply is for.
-/

namespace NodeCall.Socket

/-- What the reply under a number is for. -/
inductive Pending
  | call (caller : Nat)
  /-- A new subscription; its news are let through as soon as the reply is there. -/
  | subscribe (key : Key) (caller : Nat)
  /-- A parked subscription that is made again. -/
  | resubscribe (key : Key)
  | keepAlive
  deriving DecidableEq, Repr

def Pending.caller? : Pending → Option Nat
  | .call caller => some caller
  | .subscribe _ caller => some caller
  | .resubscribe _ => none
  | .keepAlive => none

/-- An exchange that a caller waits for: its number, the id that the caller had chosen, and the
reply that is there for the caller's next turn. -/
structure Exchange where
  number : UInt64
  callerId : RpcId
  reply : Option (Outcome Response)

inductive Purpose
  /-- A response; the number of the present attempt is counted from zero. -/
  | send (attempt : UInt32)
  | subscribe (key : Key)
  | unsubscribe

inductive Stage
  | waiting (exchange : Exchange)
  | resting
  | over

structure Caller where
  purpose : Purpose
  request : Request
  stage : Stage

inductive Answer
  | response (outcome : Outcome Response)
  | subscription (outcome : Outcome Key)
  | unsubscribed (outcome : Outcome Bool)

/-- Where the task of the connection stands. -/
inductive Phase
  /-- It makes parked subscriptions again on a fresh connection, these ones next. -/
  | replaying (left : List (Key × List Json))
  | serving
  | writing (frame : String)
  /-- It waits before the dial of the given number, counted from one. -/
  | pausing (dial : Nat)
  | dialling (dial : Nat)
  | stopped

inductive Effect
  | entered (state : State)
  | wrote (frame : String)
  | pushed (key : Key) (news : Json)
  | told (key : Key) (error : TransportError)
  /-- A caller waits for a reply, as long as the timeout at most. -/
  | began (caller : Nat) (number : UInt64)
  | resting (caller : Nat) (delay : Duration)
  | answered (caller : Nat) (answer : Answer)
  | pausing (delay : Duration)
  | dialling

inductive Event
  | send (request : Request)
  | subscribe (params : List Json)
  | unsubscribe (key : Key)
  | resume (caller : Nat)
  | timeout (caller : Nat) (number : UInt64)
  | wake (caller : Nat)
  | leave (caller : Nat)
  | close
  /-- The task writes the next frame, or fails to. -/
  | write (succeeds : Bool)
  | receive (text : String)
  | lose
  | tick
  | stop
  | dial
  | dialled (succeeds : Bool)

structure Client where
  config : Config
  executor : Executor
  state : State
  phase : Phase
  closing : Bool
  pending : Table UInt64 Pending
  registry : Registry
  outgoing : List String
  callers : List Caller

namespace Client

/-- A client whose first dial has succeeded; the address is shown as given. -/
def connected (config : Config) (display : String) : Client where
  config := config
  executor := ⟨config.transport, config.first, display⟩
  state := .connected
  phase := .serving
  closing := false
  pending := .empty
  registry := .empty
  outgoing := []
  callers := []

def prepare (raw : String) : Outcome (String × Handshake) := do
  let (url, credentials) ← NodeCall.Endpoint.split raw
  return (NodeCall.Endpoint.sanitize url.text, ← handshake url credentials)

/-- The client of an endpoint whose node answers the handshake in some way. -/
def connect (raw : String) (config : Config) (dial : Handshake → Dial) : Outcome Client := do
  let (display, handshake) ← prepare raw
  (dial handshake).outcome config.transport.timeout
  return connected config display

def url (client : Client) : String := client.executor.url

def health (client : Client) : Health := client.state.health

def subscriptions (client : Client) : Nat := client.registry.size

def subscriptionText (client : Client) (key : Key) : String :=
  let id := match client.registry.serverId key with
    | some id => "Some(SubscriptionId(" ++ Text.quoted id ++ "))"
    | none => "None"
  "Subscription \x7b key: " ++ toString key ++ ", id: " ++ id ++ " \x7d"

end Client
end NodeCall.Socket
