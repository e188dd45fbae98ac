import NodeCall.Socket.Client.Exchange

/-!
# Turns of callers

What callers do: calls, new subscriptions and their ends.  A call may take several attempts, each
with an exchange of its own; a subscription that is not confirmed is given up.
-/

namespace NodeCall.Socket

/-- What the reply to a caller's exchange is for. -/
def Caller.entry (c : Caller) (caller : Nat) : Pending :=
  match c.purpose with
  | .subscribe key => .subscribe key caller
  | _ => .call caller

namespace Client

def finish (client : Client) (caller : Nat) (c : Caller) (answer : Answer) :
    Client × List Effect :=
  (client.withCaller caller { c with stage := .over }, [.answered caller answer])

/-- What follows an attempt of a caller. -/
def concludeSend (client : Client) (caller : Nat) (c : Caller) (attempt : UInt32)
    (outcome : Outcome Response) : Client × List Effect :=
  let judged := Executor.judge client.url c.request outcome
  match client.executor.policy.next attempt judged with
  | .retry delay =>
    (client.withCaller caller ⟨.send (attempt + 1), c.request, .resting⟩, [.resting caller delay])
  | .finish outcome =>
    client.finish caller c
      (.response (Executor.conclude client.executor.config.raw c.request.id outcome))

def subscribed (client : Client) (key : Key) (outcome : Outcome Response) : Outcome Key := do
  let response ← outcome
  match response.outcome with
  | .ok (.string _) => .ok key
  | .ok other =>
    .error (.deserialization (.reason ("subscription id must be a string, got " ++ other.text)))
  | .error error => .error (.rpc error client.url subscribeMethod)

def unsubscribed (client : Client) (outcome : Outcome Response) : Outcome Bool := do
  let response ← outcome
  match response.outcome with
  | .ok value => .ok (value == .bool true)
  | .error error => .error (.rpc error client.url unsubscribeMethod)

/-- What follows the exchange of a caller.  A subscription that was not confirmed is given up. -/
def conclude (client : Client) (caller : Nat) (c : Caller) (outcome : Outcome Response) :
    Client × List Effect :=
  match c.purpose with
  | .send attempt => client.concludeSend caller c attempt outcome
  | .subscribe key =>
    match client.subscribed key outcome with
    | .ok key => client.finish caller c (.subscription (.ok key))
    | .error e =>
      { client with registry := (client.registry.remove key).2 }.finish caller c
        (.subscription (.error e))
  | .unsubscribe => client.finish caller c (.unsubscribed (client.unsubscribed outcome))

/-- Begins the exchange of a caller; without a connection it ends at once. -/
def startExchange (client : Client) (caller : Nat) (c : Caller) : Client × List Effect :=
  match client.exchange caller c (c.entry caller) with
  | (.ok number, client) => (client, [.began caller number])
  | (.error e, client) => client.conclude caller c (.error e)

def join (client : Client) (c : Caller) : Client × List Effect :=
  { client with callers := client.callers ++ [c] }.startExchange client.callers.length c

def joinOver (client : Client) (request : Request) (answer : Answer) : Client × List Effect :=
  ({ client with callers := client.callers ++ [⟨.send 0, request, .over⟩] },
    [.answered client.callers.length answer])

def send (client : Client) (request : Request) : Client × List Effect :=
  match client.executor.check request.method with
  | .error e => client.joinOver request (.response (.error e))
  | .ok () =>
    let (prepared, executor) := client.executor.prepare request
    { client with executor }.join ⟨.send 0, prepared, .resting⟩

def subscribe (client : Client) (params : List Json) : Client × List Effect :=
  let request := Request.call subscribeMethod params
  match client.executor.check subscribeMethod with
  | .error e => client.joinOver request (.subscription (.error e))
  | .ok () =>
    let (key, registry) := client.registry.insert params
    { client with registry }.join ⟨.subscribe key, request, .resting⟩

/-- The end of a subscription: nothing is delivered any more, and the node is told if it knows the
subscription. -/
def unsubscribe (client : Client) (key : Key) : Client × List Effect :=
  match client.registry.remove key with
  | (none, registry) =>
    { client with registry }.joinOver (Request.call unsubscribeMethod [])
      (.unsubscribed (.ok false))
  | (some id, registry) =>
    { client with registry }.join
      ⟨.unsubscribe, Request.call unsubscribeMethod [.string id], .resting⟩

def resume (client : Client) (caller : Nat) : Client × List Effect :=
  match client.callers[caller]? with
  | some ⟨purpose, request, .waiting ⟨number, callerId, some reply⟩⟩ =>
    let c : Caller := ⟨purpose, request, .resting⟩
    ((client.withCaller caller c).forget number).conclude caller c
      (reply.map (·.withId callerId))
  | _ => (client, [])

def giveUp (client : Client) (caller : Nat) (number : UInt64) : Client × List Effect :=
  match client.callers[caller]? with
  | some ⟨purpose, request, .waiting ⟨n, _, none⟩⟩ =>
    if n = number then
      let c : Caller := ⟨purpose, request, .resting⟩
      ((client.withCaller caller c).forget number).conclude caller c
        (.error (.timeout client.config.transport.timeout.millisWord))
    else (client, [])
  | _ => (client, [])

def wake (client : Client) (caller : Nat) : Client × List Effect :=
  match client.callers[caller]? with
  | some ⟨purpose, request, .resting⟩ => client.startExchange caller ⟨purpose, request, .resting⟩
  | _ => (client, [])

/-- A caller goes away: its entry goes, and so does a subscription it has not yet been given. -/
def leave (client : Client) (caller : Nat) : Client :=
  match client.callers[caller]? with
  | none => client
  | some ⟨_, _, .over⟩ => client
  | some ⟨purpose, request, stage⟩ =>
    let gone := client.withCaller caller ⟨purpose, request, .over⟩
    let gone := match stage with
      | .waiting exchange => gone.forget exchange.number
      | _ => gone
    match purpose with
    | .subscribe key => { gone with registry := (gone.registry.remove key).2 }
    | _ => gone

end Client
end NodeCall.Socket
