import NodeCall.Agenda
import NodeCall.Socket.Client

/-!
# WebSocket clients on a clock

A client together with its timers.  Whatever can happen without time passing happens before the
clock moves on: the task writes what it has, and callers whose replies are there go on.  What the
node does comes from outside.
-/

namespace NodeCall.Socket

inductive Due
  | event (event : Event)
  | probe (connection : Nat)
  | dialTimeout (connections dial : Nat)

/-- A client on a clock, and what has happened since the last look at it. -/
structure Timeline where
  client : Client
  now : Nat
  agenda : Agenda Due
  connections : Nat
  effects : List Effect

namespace Timeline

def after (t : Timeline) (wait : Duration) (due : Due) : Timeline :=
  { t with agenda := t.agenda.add (t.now + wait.wait) due }

def probeLater (t : Timeline) : Timeline :=
  match t.client.config.keepAlive with
  | some every => t.after every (.probe t.connections)
  | none => t

def effect (t : Timeline) (effect : Effect) : Timeline :=
  let t := { t with effects := t.effects ++ [effect] }
  let timeout := t.client.config.transport.timeout
  match effect with
  | .began caller number => t.after timeout (.event (.timeout caller number))
  | .resting caller delay => t.after delay (.event (.wake caller))
  | .pausing delay => t.after delay (.event .dial)
  | .dialling =>
    match t.client.phase with
    | .dialling dial => t.after timeout (.dialTimeout t.connections dial)
    | _ => t
  | .entered .connected => { t with connections := t.connections + 1 }.probeLater
  | _ => t

def apply (t : Timeline) (event : Event) : Timeline :=
  let (client, effects) := t.client.step event
  effects.foldl effect { t with client }

def new (client : Client) : Timeline :=
  let t : Timeline := ⟨client, 0, .empty, 0, []⟩
  { t.effect (.entered .connected) with effects := [] }

def taskTurn? (client : Client) : Option Event :=
  match client.phase with
  | .replaying _ => some (.write true)
  | .writing _ => some (.write true)
  | .serving =>
    if client.closing then some .stop
    else if client.outgoing.isEmpty then none
    else some (.write true)
  | .pausing _ => if client.closing then some .stop else none
  | .dialling _ => if client.closing then some .stop else none
  | .stopped => none

def hasReply (c : Caller) : Bool :=
  match c.stage with
  | .waiting exchange => exchange.reply.isSome
  | _ => false

def callerTurn? (client : Client) : Option Event :=
  (client.callers.findIdx? hasReply).map .resume

/-- Takes turns as long as there are any, and fuel. -/
def takeTurns (turn? : Client → Option Event) : Nat → Timeline → Timeline
  | 0, t => t
  | fuel + 1, t =>
    match turn? t.client with
    | some event => takeTurns turn? fuel (t.apply event)
    | none => t

def taskWork (client : Client) : Nat :=
  client.outgoing.length + client.registry.size + 4

def work (t : Timeline) : Timeline := takeTurns taskTurn? (taskWork t.client) t

def settle (t : Timeline) : Timeline :=
  (takeTurns callerTurn? (t.client.callers.length + 1) t.work).work

def act (t : Timeline) (event : Event) : Timeline := (t.apply event).settle

def receiveAll (t : Timeline) (frames : List String) : Timeline :=
  (frames.foldl (fun t text => (t.apply (.receive text)).work) t.work).settle

def happen (t : Timeline) : Due → Timeline
  | .event event => t.act event
  | .probe connection =>
    if connection = t.connections then (t.act .tick).probeLater else t
  | .dialTimeout connections dial =>
    match t.client.phase with
    | .dialling d => if connections = t.connections && dial = d then t.act (.dialled false) else t
    | _ => t

/-- Lets everything happen up to a time, as long as there is fuel. -/
def runSteps : Nat → Nat → Timeline → Timeline
  | 0, _, t => t
  | fuel + 1, time, t =>
    match t.agenda.nextUntil? time with
    | none => { t with now := max t.now time }
    | some ((due, thing), agenda) =>
      runSteps fuel time ({ t with agenda, now := max t.now due }.happen thing)

/-- Moves the clock on.  An attempt of a caller brings about two events at most. -/
def advance (t : Timeline) (millis : Nat) : Timeline :=
  let perCaller := 2 * (t.client.executor.config.retryCount.toNat + 1)
  let perMoment := t.client.callers.length * perCaller + 4
  runSteps (t.agenda.size + (millis + 1) * perMoment) (t.now + millis) t

def untilDial (t : Timeline) : Timeline :=
  match t.client.phase with
  | .pausing _ => t.advance t.client.config.reconnect.delay.wait
  | _ => t

def redial (t : Timeline) (dial : Dial) : Timeline :=
  let t := t.untilDial
  match dial with
  | .opened => t.act (.dialled true)
  | .failed _ => t.act (.dialled false)
  | .silent => t.advance t.client.config.transport.timeout.wait

/-- Moves the clock on by waits between dials until the connection is at a stage, so many times at
most. -/
def untilState (state : State) : Nat → Timeline → Timeline
  | 0, t => t
  | tries + 1, t =>
    if t.client.state = state then t
    else untilState state tries (t.advance t.client.config.reconnect.delay.wait)

def looked (t : Timeline) : Timeline := { t with effects := [] }

/-! ### Nodes that answer at once -/

abbrev Node := String → List String

def frames (t : Timeline) : List String :=
  t.effects.filterMap fun
    | .wrote frame => some frame
    | _ => none

def takePush : List Effect → Option (Json × List Effect)
  | [] => none
  | .pushed _ news :: rest => some (news, rest)
  | effect :: rest => (takePush rest).map fun (news, others) => (news, effect :: others)

def nextPush (t : Timeline) : Option (Json × Timeline) :=
  (takePush t.effects).map fun (news, effects) => (news, { t with effects })

def answer? (t : Timeline) (caller : Nat) : Option Answer :=
  t.effects.findSome? fun
    | .answered c answer => if c = caller then some answer else none
    | _ => none

def withoutFrames (t : Timeline) : Timeline :=
  { t with effects := t.effects.filter fun
      | .wrote _ => false
      | _ => true }

def answered (t : Timeline) (node : Node) : Timeline :=
  t.withoutFrames.receiveAll (t.frames.flatMap node)

/-- Lets the node answer, and the clock move on when it has, until a caller has got something or
fuel runs out. -/
def converse (node : Node) (caller : Nat) : Nat → Timeline → Timeline
  | 0, t => t
  | fuel + 1, t =>
    if (t.answer? caller).isSome then t
    else if t.frames.isEmpty then
      match t.agenda.next? with
      | none => t
      | some ((time, _), _) => converse node caller fuel (t.advance (time - t.now))
    else converse node caller fuel (t.answered node)

/-- More steps than a call can take: each attempt has at most eight of its own. -/
def callWork (t : Timeline) : Nat :=
  t.agenda.size + (t.client.executor.config.retryCount.toNat + 1) * 8 + 8

def ask (t : Timeline) (node : Node) (event : Event) : Option Answer × Timeline :=
  let caller := t.client.callers.length
  let asked := t.act event
  let ended := converse node caller asked.callWork asked
  (ended.answer? caller, ended)

end Timeline
end NodeCall.Socket
