import NodeCall.CommandLine.Run
import NodeCall.Http.Timeline
import NodeCall.Socket.Timeline

/-!
# Rehearsals

Commands over nodes that are only imagined: what each of them brings for a POST or sends back for
a frame is given beforehand, no time passes for the user, and every line is kept.
-/

namespace NodeCall.CommandLine

/-- What the nodes at URLs do. -/
structure Nodes where
  wire : String → Http.Wire
  dial : String → Socket.Dial
  node : String → Socket.Timeline.Node

/-- The connections of a run with their URLs, and what has been written. -/
structure Rehearsal where
  clients : List (String × Http.Timeline)
  sockets : List (String × Socket.Timeline)
  printed : List String
  notices : List String

namespace Rehearsal

def empty : Rehearsal := ⟨[], [], [], []⟩

def send (client : Nat) (request : Request) : StateM Rehearsal (Outcome Response) := do
  let r ← get
  match r.clients[client]? with
  | none => return .error .shutdown
  | some (url, t) =>
    let (outcomes, t) := t.send [request]
    set { r with clients := r.clients.set client (url, t) }
    return outcomes.headD (.error .shutdown)

def ask (nodes : Nodes) (socket : Nat) (event : Socket.Event) :
    StateM Rehearsal (Option Socket.Answer) := do
  let r ← get
  match r.sockets[socket]? with
  | none => return none
  | some (url, t) =>
    let (answer, t) := t.ask (nodes.node url) event
    set { r with sockets := r.sockets.set socket (url, t) }
    return answer

def sendFrame (nodes : Nodes) (socket : Nat) (request : Request) :
    StateM Rehearsal (Outcome Response) := do
  match ← ask nodes socket (.send request) with
  | some (.response outcome) => return outcome
  | _ => return .error .shutdown

def dialSocket (nodes : Nodes) (url : String) : StateM Rehearsal (Outcome Nat) := do
  match Socket.Client.connect url .standard fun _ => nodes.dial url with
  | .error e => return .error e
  | .ok client =>
    let r ← get
    set { r with sockets := r.sockets ++ [(url, Socket.Timeline.new client)] }
    return .ok r.sockets.length

def shown (r : Rehearsal) (socket : Nat) : String :=
  match r.sockets[socket]? with
  | some (_, t) => t.client.url
  | none => ""

def connect (nodes : Nodes) (url : String) : StateM Rehearsal (Outcome (Link (StateM Rehearsal))) := do
  if isSocket url then
    match ← dialSocket nodes url with
    | .error e => return .error e
    | .ok socket =>
      return .ok {
        url := shown (← get) socket
        send := sendFrame nodes socket
        health := do
          match (← get).sockets[socket]? with
          | some (_, t) => return t.client.health
          | none => return .unknown
        close := pure (.ok ()) }
  else
    match Http.Client.new url .standard with
    | .error e => return .error e
    | .ok client =>
      let r ← get
      set { r with clients := r.clients ++ [(url, Http.Timeline.new client .standard (nodes.wire url))] }
      return .ok {
        url := client.endpoint.display
        send := send r.clients.length
        health := pure .unknown
        close := pure (.ok ()) }

def nextPush (socket : Nat) : StateM Rehearsal (Option Json) := do
  let r ← get
  match r.sockets[socket]? with
  | none => return none
  | some (url, t) =>
    match t.nextPush with
    | none => return none
    | some (news, t) =>
      set { r with sockets := r.sockets.set socket (url, t) }
      return some news

def subscribe (nodes : Nodes) (url : String) (params : List Json) :
    StateM Rehearsal (Outcome (Feed (StateM Rehearsal))) := do
  match ← dialSocket nodes url with
  | .error e => return .error e
  | .ok socket =>
    match ← ask nodes socket (.subscribe params) with
    | some (.subscription (.ok key)) =>
      let id := match (← get).sockets[socket]? with
        | some (_, t) => t.client.registry.serverId key
        | none => none
      return .ok {
        url := shown (← get) socket
        id := id
        next := nextPush socket
        unsubscribe := do
          match ← ask nodes socket (.unsubscribe key) with
          | some (.unsubscribed outcome) => return outcome
          | _ => return .error .shutdown
        close := pure (.ok ()) }
    | some (.subscription (.error e)) => return .error e
    | _ => return .error .shutdown

def world (nodes : Nodes) : World (StateM Rehearsal) where
  connect := connect nodes
  subscribe := subscribe nodes
  clock := pure 0
  print line := modify fun r => { r with printed := r.printed ++ [line] }
  notify line := modify fun r => { r with notices := r.notices ++ [line] }

def run (nodes : Nodes) (words : List String) : UInt32 × Rehearsal :=
  (CommandLine.run (world nodes) words).run empty

end Rehearsal
end NodeCall.CommandLine
