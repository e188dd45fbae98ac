import NodeCall.Socket.Client.Basic

/-!
# Exchanges

How a request gets a number and an entry under it, and how a reply finds its way back to the
caller that waits for it.
-/

namespace NodeCall.Socket.Client

def withCaller (client : Client) (caller : Nat) (c : Caller) : Client :=
  { client with callers := client.callers.set caller c }

/-- Leaves a reply for the exchange of a caller, unless there is one or the caller has gone on. -/
def deliver (client : Client) (caller : Nat) (number : UInt64) (reply : Outcome Response) :
    Client :=
  match client.callers[caller]? with
  | some ⟨purpose, request, .waiting ⟨n, callerId, none⟩⟩ =>
    if n = number then
      client.withCaller caller ⟨purpose, request, .waiting ⟨n, callerId, some reply⟩⟩
    else client
  | _ => client

def settle (client : Client) (number : UInt64) (entry : Pending) (reply : Outcome Response) :
    Client :=
  match entry.caller? with
  | some caller => client.deliver caller number reply
  | none => client

/-- The client without the entry of a number; whoever waited for its reply is told that none will
come. -/
def forget (client : Client) (number : UInt64) : Client :=
  match client.pending.get? number with
  | some entry =>
    { client with pending := client.pending.erase number }.settle number entry
      (.error .socketClosed)
  | none => client

def draw (client : Client) : UInt64 × Client :=
  let (number, counter) := client.executor.counter.draw
  (number, { client with executor := { client.executor with counter } })

def expect (client : Client) (number : UInt64) (entry : Pending) : Client :=
  let cleared := client.forget number
  { cleared with pending := cleared.pending.insert number entry }

def closedError : State → TransportError
  | .closed => .shutdown
  | _ => .socketClosed

/-- Enters an exchange under a fresh number.  `later` is the state at a second look, when the entry
is there: a connection that was lost in between has told everybody else, so the entry goes again. -/
def enter (client : Client) (caller : Nat) (c : Caller) (entry : Pending) (later : State) :
    Outcome UInt64 × Client :=
  if client.state = .connected then
    let (number, drawn) := client.draw
    let expecting := drawn.expect number entry
    if later = .connected then
      (.ok number, { expecting with
        outgoing := expecting.outgoing ++ [(c.request.withId (.number number)).text]
        callers := expecting.callers.set caller
          { c with stage := .waiting ⟨number, c.request.id, none⟩ } })
    else (.error (closedError later), expecting.forget number)
  else (.error (closedError client.state), client)

/-- An exchange is entered in one turn.  No other party has a turn between the two looks, so both
find one state. -/
def exchange (client : Client) (caller : Nat) (c : Caller) (entry : Pending) :
    Outcome UInt64 × Client :=
  client.enter caller c entry client.state

def settleAll (reply : Outcome Response) : Client → List (UInt64 × Pending) → Client
  | client, [] => client
  | client, (number, entry) :: rest => settleAll reply (client.settle number entry reply) rest

/-- Tells all callers that wait for replies of an error. -/
def failPending (client : Client) (error : TransportError) : Client :=
  settleAll (.error error) { client with pending := .empty } client.pending.rows

end NodeCall.Socket.Client
