import NodeCall.Fallback.Transport
import NodeCall.Retry.Run

/-!
# Fallback on a clock

Sends over children whose calls take time, with a ranking at regular intervals.  Concurrent sends
begin together and go on whenever one of their calls ends.
-/

namespace NodeCall.Fallback

abbrev Child := Nat → Request → Behaviour Response

structure Timeline where
  config : Config
  state : State
  children : List Child
  calls : List Nat
  now : Nat
  ranking : Bool
  ticks : Nat

/-- A send that waits for the end of a call, if the call ends. -/
structure Sending where
  request : Request
  walk : Walk
  started : Nat
  ends : Option (Nat × Outcome Response)

abbrev Slot := Sending ⊕ Outcome Response

namespace Timeline

def new (config : Config) (children : List Child) (inRuntime : Bool) : Timeline where
  config := config
  state := .initial children.length
  children := children
  calls := children.map fun _ => 0
  now := 0
  ranking := inRuntime && config.rank.any fun rank => 0 < rank.interval.nanos
  ticks := 0

def ticksUntil (t : Timeline) (time : Nat) : Nat :=
  match t.config.rank with
  | some rank => if t.ranking then time * 1000000 / rank.interval.nanos else t.ticks
  | none => t.ticks

def rank (t : Timeline) : Timeline := { t with state := t.state.rank t.config }

/-- The timeline at a later time; the rankings on the way take place. -/
def moveTo (t : Timeline) (time : Nat) : Timeline :=
  let due := t.ticksUntil time
  { (due - t.ticks).repeat rank t with now := time, ticks := max due t.ticks }

def call (t : Timeline) (request : Request) (walk : Walk) : Slot × Timeline :=
  let number := (t.calls[walk.child]?).getD 0
  let called := { t with calls := t.calls.modify walk.child (· + 1) }
  let behaviour : Option (Behaviour Response) :=
    (t.children[walk.child]?).map fun child => child number request
  match behaviour with
  | none => (.inr (.error .shutdown), t)
  | some .stalls => (.inl ⟨request, walk, t.now, none⟩, called)
  | some (.finishes 0 outcome) =>
    let counted := { called with state := t.state.record walk.child .zero outcome }
    match h : walk.advance outcome with
    | .done outcome => (.inr outcome, counted)
    | .calling next =>
      have := Walk.later_lt_of_advance h
      counted.call request next
  | some (.finishes after outcome) => (.inl ⟨request, walk, t.now, some (t.now + after, outcome)⟩, called)
termination_by walk.later.length

def proceed (t : Timeline) (request : Request) : Progress → Slot × Timeline
  | .done outcome => (.inr outcome, t)
  | .calling walk => t.call request walk

def beginAll (t : Timeline) : List Request → List Slot × Timeline
  | [] => ([], t)
  | request :: rest =>
    let (slot, t) := t.proceed request (t.state.send t.config request.method)
    let (slots, t) := beginAll t rest
    (slot :: slots, t)

def nextEnd : List Slot → Option Nat
  | [] => none
  | .inl ⟨_, _, _, some (time, _)⟩ :: rest =>
    match nextEnd rest with
    | some other => some (min time other)
    | none => some time
  | _ :: rest => nextEnd rest

def resume (t : Timeline) : Slot → Slot × Timeline
  | .inl ⟨request, walk, started, some (time, outcome)⟩ =>
    if time ≤ t.now then
      let elapsed := Duration.ofMillis (time - started).toUInt64
      { t with state := t.state.record walk.child elapsed outcome }.proceed request
        (walk.advance outcome)
    else (.inl ⟨request, walk, started, some (time, outcome)⟩, t)
  | slot => (slot, t)

def resumeAll (t : Timeline) : List Slot → List Slot × Timeline
  | [] => ([], t)
  | slot :: rest =>
    let (slot, t) := t.resume slot
    let (slots, t) := resumeAll t rest
    (slot :: slots, t)

/-- Runs sends to their ends or up to the time at which they are cancelled. -/
def finish : Nat → Timeline → List Slot → Option Nat → List Slot × Timeline
  | 0, t, slots, _ => (slots, t)
  | fuel + 1, t, slots, cancelAt =>
    let cancelled (time : Nat) : List Slot × Timeline :=
      (slots.map fun slot => if slot.isLeft then .inr (.error .cancelled) else slot, t.moveTo time)
    match nextEnd slots, cancelAt with
    | none, none => (slots, t)
    | none, some time => if slots.any Sum.isLeft then cancelled time else (slots, t)
    | some time, none =>
      let (slots, t) := (t.moveTo time).resumeAll slots
      finish fuel t slots none
    | some time, some cut =>
      if cut < time then cancelled cut
      else
        let (slots, t) := (t.moveTo time).resumeAll slots
        finish fuel t slots (some cut)

/-- The outcomes of concurrent sends; those that are cancelled beforehand never begin. -/
def send (t : Timeline) (requests : List Request) (cancelAt : Option Nat) :
    List (Outcome Response) × Timeline :=
  if cancelAt = some 0 then (requests.map fun _ => .error .cancelled, t)
  else
    let (slots, begun) := t.beginAll requests
    let work := requests.length * t.children.length + 1
    let (slots, t) := finish work begun slots (cancelAt.map (t.now + ·))
    (slots.map fun
      | .inr outcome => outcome
      | .inl _ => .error .shutdown, t)

def sendOne (t : Timeline) (request : Request) (cancelAt : Option Nat) :
    Outcome Response × Timeline :=
  let (outcomes, t) := t.send [request] cancelAt
  (outcomes.headD (.error .shutdown), t)

def sendInTurn (t : Timeline) : List Request → Outcome (List Response) × Timeline
  | [] => (.ok [], t)
  | request :: rest =>
    match t.sendOne request none with
    | (.error e, t) => (.error e, t)
    | (.ok response, t) =>
      let (outcome, t) := sendInTurn t rest
      (outcome.map (response :: ·), t)

def closed (t : Timeline) : Timeline := { t with ranking := false, ticks := t.ticksUntil t.now }

end Timeline
end NodeCall.Fallback
