import NodeCall.Socket.Client.Exchange

/-!
# Turns of the connection

What the task of the connection does: it writes frames, takes in replies and pushes, notices that
the connection is lost, and makes the parked subscriptions again on a new one.
-/

namespace NodeCall.Socket.Client

/-- The task ends: whoever waits is told, and no subscription is left. -/
def shutDown (client : Client) : Client × List Effect :=
  let failed := client.failPending .shutdown
  ({ failed with registry := failed.registry.clear, outgoing := [], state := .closed,
                 phase := .stopped }, [.entered .closed])

/-- The task waits before the dial of a number, or ends when there have been enough dials. -/
def pause (client : Client) (dial : Nat) : Client × List Effect :=
  if dial ≤ client.config.reconnect.maxAttempts.toNat then
    ({ client with phase := .pausing dial }, [.pausing client.config.reconnect.delay])
  else client.shutDown

/-- The connection is lost: whoever waits is told, and the subscriptions are parked. -/
def disconnect (client : Client) : Client × List Effect :=
  let failed := { client with state := .disconnected, outgoing := [] }.failPending .socketClosed
  let (keys, registry) := failed.registry.park
  let parked := { failed with registry }
  let told := .entered .disconnected :: keys.map fun key => .told key .socketClosed
  if client.config.reconnect.enabled then
    let (next, effects) := { parked with state := .reconnecting }.pause 1
    (next, told ++ .entered .reconnecting :: effects)
  else
    let (next, effects) := parked.shutDown
    (next, told ++ effects)

def replayPhase : List (Key × List Json) → Phase
  | [] => .serving
  | left => .replaying left

def reconnected (client : Client) : Client × List Effect :=
  ({ client with state := .connected, phase := replayPhase client.registry.parked },
    [.entered .connected])

/-- The task writes the next frame: one of its own before those that callers have handed it. -/
def write (client : Client) (succeeds : Bool) : Client × List Effect :=
  match client.phase with
  | .replaying ((key, params) :: left) =>
    let (number, drawn) := client.draw
    let expecting := drawn.expect number (.resubscribe key)
    if succeeds then
      ({ expecting with phase := replayPhase left }, [.wrote (frame number subscribeMethod params)])
    else expecting.disconnect
  | .writing frame =>
    if succeeds then ({ client with phase := .serving }, [.wrote frame]) else client.disconnect
  | .serving =>
    match client.outgoing with
    | [] => (client, [])
    | frame :: rest =>
      if succeeds then ({ client with outgoing := rest }, [.wrote frame])
      else { client with outgoing := rest }.disconnect
  | _ => (client, [])

def writeOwn (client : Client) (method : String) (params : List Json) : Client :=
  let (number, drawn) := client.draw
  { drawn.expect number .keepAlive with phase := .writing (frame number method params) }

/-- Lets the news of a confirmed subscription through; if its owner has gone, the node is told to
end it. -/
def bindOrEnd (client : Client) (key : Key) (id : String) : Client :=
  match client.registry.bind key id with
  | (true, registry) => { client with registry }
  | (false, registry) => { client with registry }.writeOwn unsubscribeMethod [.string id]

def refusal (client : Client) (response : Response) : TransportError :=
  match response.error with
  | some error => .rpc error client.url subscribeMethod
  | none =>
    .deserialization (.reason
      ("subscription id must be a string, got " ++ (response.result.getD .null).text))

/-- What a reply does under an entry. -/
def takeReply (client : Client) (number : UInt64) (entry : Pending) (response : Response) :
    Client × List Effect :=
  match entry with
  | .call caller => (client.deliver caller number (.ok response), [])
  | .keepAlive => (client, [])
  | .subscribe key caller =>
    let bound := match response.result with
      | some (.string id) => client.bindOrEnd key id
      | _ => client
    (bound.deliver caller number (.ok response), [])
  | .resubscribe key =>
    match response.result with
    | some (.string id) => (client.bindOrEnd key id, [])
    | _ =>
      let (there, registry) := client.registry.fail key
      ({ client with registry }, if there then [.told key (client.refusal response)] else [])

def receive (client : Client) (text : String) : Client × List Effect :=
  match Incoming.ofText text with
  | .ignored => (client, [])
  | .push notification =>
    match client.registry.dispatch notification.subscription with
    | some key => (client, [.pushed key notification.result])
    | none => (client, [])
  | .reply number response =>
    match client.pending.get? number with
    | none => (client, [])
    | some entry =>
      { client with pending := client.pending.erase number }.takeReply number entry response

def dialled (client : Client) (dial : Nat) (succeeds : Bool) : Client × List Effect :=
  if succeeds then client.reconnected else client.pause (dial + 1)

end NodeCall.Socket.Client
