import Std.Async.DNS
import Std.Async.TCP
import Std.Async.Timer
import NodeCall.CommandLine.Run
import NodeCall.Http.Client
import NodeCall.Http.Message
import NodeCall.Socket.Packet
import NodeCall.Socket.Timeline
import NodeCall.Socket.Upgrade

/-!
# The program

Commands over real connections.  Whatever is decided is decided by the clients; here bytes are
sent and received, clocks are read and lines are written.  Connections are not encrypted.
-/

namespace NodeCall.Program

open Std.Async Std.Net

/-! ### Connections -/

abbrev Connection := TCP.Socket.Client

def millis (n : Nat) : Std.Time.Millisecond.Offset := .ofNat n

def within {α : Type} (limit : Nat) (action : Async α) : IO (Option α) :=
  (Async.race (some <$> action) (do sleep (millis limit); return none)).block

def addressOf (port : UInt16) : IPAddr → SocketAddress
  | .v4 addr => .v4 ⟨addr, port⟩
  | .v6 addr => .v6 ⟨addr, port⟩

def lookupName : Url.Host → String
  | .ipv6 pieces => String.ofList (Url.Address.ipv6Text pieces)
  | host => String.ofList host.text

def connectFirst (port : UInt16) : List IPAddr → Async Connection
  | [] => throw (IO.userError "no address for the host")
  | addr :: rest => do
    let connection ← TCP.Socket.Client.mk
    try
      connection.connect (addressOf port addr)
      return connection
    catch e => if rest.isEmpty then throw e else connectFirst port rest

def openConnection (url : Url) : Async Connection := do
  if url.scheme = "https".toList || url.scheme = "wss".toList then
    throw (IO.userError "encrypted connections are not supported")
  match url.host, url.effectivePort with
  | some host, some port =>
    let addresses ← DNS.getAddrInfo (lookupName host) (toString port)
    connectFirst port.toUInt16 addresses.toList
  | _, _ => throw (IO.userError "no host")

def sendBytes (connection : Connection) (bytes : List UInt8) : Async Unit :=
  connection.send ⟨bytes.toArray⟩

/-! ### HTTP -/

partial def readDelivery (connection : Connection) (bytes : List UInt8) : Async Http.Delivery := do
  match Http.delivery? false bytes with
  | some delivery => return delivery
  | none =>
    match ← connection.recv? 65536 with
    | some more => readDelivery connection (bytes ++ more.toList)
    | none => return (Http.delivery? true bytes).getD (.lost (.broken "connection closed"))

def deliver (timeout : Duration) (post : Http.Post) : IO Http.Delivery := do
  try
    let delivery ← within timeout.wait do
      let connection ← openConnection post.url
      sendBytes connection post.bytes
      readDelivery connection []
    return delivery.getD (.lost .timeout)
  catch e => return .lost (.broken (toString e))

partial def runCall (client : IO.Ref Http.Client) : List Http.Effect → IO (Outcome Response)
  | [] => return .error .shutdown
  | effect :: rest => do
    let step (event : Http.Event) : IO (Outcome Response) := do
      let (next, effects) := (← client.get).step event
      client.set next
      runCall client (rest ++ effects)
    match effect with
    | .posted call post =>
      step (.delivered call (← deliver (← client.get).executor.config.timeout post))
    | .resting call delay =>
      IO.sleep delay.wait.toUInt32
      step (.wake call)
    | .finished _ outcome => return outcome
    | _ => runCall client rest

def httpLink (url : String) : IO (Outcome (CommandLine.Link IO)) := do
  match Http.Client.new url .standard with
  | .error e => return .error e
  | .ok client =>
    let ref ← IO.mkRef client
    return .ok {
      url := client.endpoint.display
      send := fun request => do
        let (next, effects) := (← ref.get).step (.send request)
        ref.set next
        runCall ref effects
      health := return .unknown
      close := return .ok () }

/-! ### WebSockets -/

structure Live where
  url : Url
  handshake : Socket.Handshake
  started : Nat
  timeline : Socket.Timeline
  line : Option (Connection × Socket.Inbox)

partial def readAgreement (connection : Connection) (key : String) (bytes : List UInt8) :
    Async (Option Socket.Inbox) := do
  match Http.takeHead bytes with
  | .done head rest =>
    return if Socket.agrees key head then some ⟨rest, none⟩ else none
  | .wrong => return none
  | .more =>
    match ← connection.recv? 65536 with
    | some more => readAgreement connection key (bytes ++ more.toList)
    | none => return none

def dial (url : Url) (handshake : Socket.Handshake) (timeout : Duration) :
    IO (Socket.Dial × Option (Connection × Socket.Inbox)) := do
  let key := Socket.upgradeKey (← IO.getRandomBytes 16).toList
  try
    let opened ← within timeout.wait do
      let connection ← openConnection url
      sendBytes connection (Socket.upgradeBytes url handshake key)
      return (← readAgreement connection key []).map fun inbox => (connection, inbox)
    match opened with
    | none => return (.silent, none)
    | some none => return (.failed "the node does not agree to a WebSocket", none)
    | some line => return (.opened, line)
  catch e => return (.failed (toString e), none)

def sendPacket (connection : Connection) (kind : Socket.PacketKind) (payload : List UInt8) :
    IO Unit := do
  let mask := (← IO.getRandomBytes 4).toList
  (sendBytes connection (Socket.Packet.bytes mask ⟨true, kind, payload⟩)).block

namespace Live

def apply (live : Live) (f : Socket.Timeline → Socket.Timeline) : Live :=
  { live with timeline := f live.timeline }

def lose (live : Live) : Live := { live.apply (·.act .lose) with line := none }

def flush (live : Live) : IO Live := do
  let frames := live.timeline.frames
  let live := live.apply (·.withoutFrames)
  match live.line with
  | none => return live
  | some (connection, _) =>
    try
      for frame in frames do
        sendPacket connection .text (Text.Utf8.encode frame.toList)
      return live
    catch _ => return live.lose

def catchUp (live : Live) : IO Live := do
  let now := (← IO.monoMsNow) - live.started
  return live.apply fun t => t.advance (now - t.now)

def takeMessage (live : Live) (connection : Connection) : Socket.Message → IO Live
  | .text bytes => return live.apply (·.receiveAll [String.ofList (Text.Utf8.decode bytes)])
  | .ping bytes => do
    try sendPacket connection .pong bytes catch _ => pure ()
    return live
  | .close => return live.lose
  | _ => return live

/-- What a connection brings within so many milliseconds, if anything: bytes, or its end. -/
def listen (connection : Connection) (limit : Nat) : Async (Option (Option ByteArray)) := do
  Selectable.one #[
    .case (connection.recvSelector 65536) fun bytes => return some bytes,
    .case (← Selector.sleep (millis limit)) fun _ => return none]

def turn (live : Live) : IO Live := do
  let live ← live.flush
  let limit := match live.timeline.agenda.next? with
    | some ((time, _), _) => min (time - live.timeline.now) 1000
    | none => 1000
  match live.line, live.timeline.client.phase with
  | _, .dialling _ =>
    let timeout := live.timeline.client.config.transport.timeout
    match ← dial live.url live.handshake timeout with
    | (_, some line) =>
      return { ← live.catchUp with line := some line }.apply (·.act (.dialled true))
    | (_, none) => return (← live.catchUp).apply (·.act (.dialled false))
  | none, _ =>
    IO.sleep limit.toUInt32
    live.catchUp
  | some (connection, inbox), _ =>
    let heard ← try (listen connection limit).block catch _ => pure (some none)
    let live ← live.catchUp
    match heard with
    | none => return live
    | some none => return live.lose
    | some (some bytes) =>
      let (messages, inbox, sound) := inbox.receive bytes.toList
      let live ← messages.foldlM (·.takeMessage connection) { live with line := some (connection, inbox) }
      return if sound then live else live.lose

partial def waitFor {α : Type} (ref : IO.Ref Live) (there? : Live → Option α) : IO α := do
  let live ← (← ref.get).flush
  ref.set live
  match there? live with
  | some a => return a
  | none =>
    ref.set (← live.turn)
    waitFor ref there?

end Live

def ask (ref : IO.Ref Live) (event : Socket.Event) : IO Socket.Answer := do
  let live ← (← ref.get).catchUp
  let caller := live.timeline.client.callers.length
  ref.set (live.apply (·.act event))
  Live.waitFor ref (·.timeline.answer? caller)

def hangUp (ref : IO.Ref Live) : IO (Outcome Unit) := do
  let live ← ((← ref.get).apply (·.act .close)).flush
  ref.set live
  if let some (connection, _) := live.line then
    try sendPacket connection .close [] catch _ => pure ()
  return .ok ()

def openSocket (raw : String) : IO (Outcome (IO.Ref Live)) := do
  let config := Socket.Config.standard
  match Socket.Client.prepare raw with
  | .error e => return .error e
  | .ok (_, handshake) =>
    match Url.parse handshake.url with
    | .error _ => return .error .shutdown
    | .ok url =>
      let (result, line) ← dial url handshake config.transport.timeout
      match Socket.Client.connect raw config fun _ => result with
      | .error e => return .error e
      | .ok client =>
        return .ok (← IO.mkRef ⟨url, handshake, ← IO.monoMsNow, .new client, line⟩)

def sendOver (ref : IO.Ref Live) (request : Request) : IO (Outcome Response) := do
  match ← ask ref (.send request) with
  | .response outcome => return outcome
  | _ => return .error .shutdown

def socketLink (raw : String) : IO (Outcome (CommandLine.Link IO)) := do
  match ← openSocket raw with
  | .error e => return .error e
  | .ok ref =>
    return .ok {
      url := (← ref.get).timeline.client.url
      send := sendOver ref
      health := return (← ref.get).timeline.client.health
      close := hangUp ref }

def nextNews (ref : IO.Ref Live) : IO (Option Json) := do
  let found ← Live.waitFor ref fun live =>
    match live.timeline.nextPush with
    | some (news, timeline) => some (some (news, timeline))
    | none =>
      match live.timeline.client.phase with
      | .stopped => some none
      | _ => none
  match found with
  | none => return none
  | some (news, timeline) =>
    ref.modify (·.apply fun _ => timeline)
    return some news

def feed (raw : String) (params : List Json) : IO (Outcome (CommandLine.Feed IO)) := do
  match ← openSocket raw with
  | .error e => return .error e
  | .ok ref =>
    match ← ask ref (.subscribe params) with
    | .subscription (.error e) => return .error e
    | .subscription (.ok key) =>
      let client := (← ref.get).timeline.client
      return .ok {
        url := client.url
        id := client.registry.serverId key
        next := nextNews ref
        unsubscribe := do
          match ← ask ref (.unsubscribe key) with
          | .unsubscribed outcome => return outcome
          | _ => return .error .shutdown
        close := hangUp ref }
    | _ => return .error .shutdown

/-! ### The world -/

def world : CommandLine.World IO where
  connect url := if CommandLine.isSocket url then socketLink url else httpLink url
  subscribe := feed
  clock := IO.monoMsNow
  print := IO.println
  notify := IO.eprintln

end NodeCall.Program

def main (words : List String) : IO UInt32 := NodeCall.CommandLine.run NodeCall.Program.world words
