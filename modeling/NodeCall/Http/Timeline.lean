import NodeCall.Agenda
import NodeCall.Http.Client

/-!
# HTTP clients on a clock

A client together with a network that takes its time.  Whatever can happen without time passing
happens before the clock moves on, and a call is waited for until it is over.
-/

namespace NodeCall.Http

/-- What the network brings for the POST of a given number: after so long a delivery, or nothing
ever. -/
abbrev Wire := Nat → Post → Option (Nat × Delivery)

def Wire.within (wire : Wire) (timeout : Duration) (number : Nat) (post : Post) : Nat × Delivery :=
  match wire number post with
  | some (after, delivery) =>
    if after ≤ timeout.wait then (after, delivery) else (timeout.wait, .lost .timeout)
  | none => (timeout.wait, .lost .timeout)

inductive Note
  | request (body : String)
  | response (status : UInt16)

inductive Due
  | event (event : Event)
  | note (note : Note)

/-- A client on a clock, and what has happened to it. -/
structure Timeline where
  client : Client
  wire : Wire
  wait : Duration
  now : Nat
  agenda : Agenda Due
  notes : List Note
  posts : List Post
  finished : List (Nat × Outcome Response)

namespace Timeline

def new (client : Client) (config : Config) (wire : Wire) : Timeline where
  client := client
  wire := wire
  wait := match config.batch with
    | some batch => batch.wait
    | none => .zero
  now := 0
  agenda := .empty
  notes := []
  posts := []
  finished := []

def after (t : Timeline) (wait : Nat) (event : Event) : Timeline :=
  { t with agenda := t.agenda.add (t.now + wait) (.event event) }

def note (t : Timeline) (note : Note) : Timeline := { t with notes := t.notes ++ [note] }

def status? : Delivery → Option UInt16
  | .answer status _ _ => some status
  | .lost _ => none

def post (t : Timeline) (post : Post) : Timeline × Nat × Delivery :=
  let (wait, delivery) := t.wire.within t.client.endpoint.timeout t.posts.length post
  let agenda := match status? delivery with
    | some status => t.agenda.add (t.now + wait) (.note (.response status))
    | none => t.agenda
  ({ t with agenda, posts := t.posts ++ [post] }, wait, delivery)

def effect (t : Timeline) : Effect → Timeline
  | .told body => t.note (.request body)
  | .posted call post =>
    let (t, wait, delivery) := t.post post
    t.after wait (.delivered call delivery)
  | .postedBatch batch requests post =>
    let (t, wait, delivery) := t.post post
    t.after wait (.turn batch (some (t.client.endpoint.responses requests delivery)))
  | .refusedBatch batch error => t.after 0 (.turn batch (some (.error error)))
  | .began call attempt => t.after t.client.executor.config.timeout.wait (.timeout call attempt)
  | .resting call delay => t.after delay.wait (.wake call)
  | .armed generation => t.after t.wait.wait (.fire generation)
  | .queued batch => t.after 0 (.turn batch none)
  | .finished call outcome => { t with finished := t.finished ++ [(call, outcome)] }

def apply (t : Timeline) (event : Event) : Timeline :=
  let (client, effects) := t.client.step event
  effects.foldl effect { t with client }

def outcome? (t : Timeline) (call : Nat) : Option (Outcome Response) := t.finished.lookup call

/-- Runs until the given calls are over, as long as there is fuel. -/
def runUntil : Nat → List Nat → Timeline → Timeline
  | 0, _, t => t
  | fuel + 1, calls, t =>
    if calls.all fun call => (t.outcome? call).isSome then t
    else
      match t.agenda.next? with
      | none => t
      | some ((time, due), agenda) =>
        let moved := { t with agenda, now := max t.now time }
        match due with
        | .event event => runUntil fuel calls (moved.apply event)
        | .note note => runUntil fuel calls (moved.note note)

/-- More steps than so many calls can take: each attempt has at most eight of its own. -/
def work (t : Timeline) (calls : Nat) : Nat :=
  t.agenda.size + calls * (t.client.executor.config.retryCount.toNat + 1) * 8 + 8

def send (t : Timeline) (requests : List Request) : List (Outcome Response) × Timeline :=
  let first := t.client.calls.length
  let calls := (List.range requests.length).map (first + ·)
  let begun := requests.foldl (fun t request => t.apply (.send request)) t
  let ended := runUntil (begun.work begun.client.calls.length) calls begun
  (calls.map fun call => (ended.outcome? call).getD (.error .shutdown), ended)

def sendList (t : Timeline) (requests : List Request) : Outcome (List Response) × Timeline :=
  match t.client.batch requests with
  | (.error e, client) => (.error e, { t with client })
  | (.ok prepared, client) =>
    let t := { t with client }
    match Endpoint.listBody? prepared with
    | none => (.ok [], t)
    | some body =>
      let t := t.note (.request body)
      match client.endpoint.post body with
      | .error e => (.error e, t)
      | .ok post =>
        let (posted, wait, delivery) := t.post post
        let heard := match status? delivery with
          | some status => { t with posts := posted.posts }.note (.response status)
          | none => { t with posts := posted.posts }
        (client.endpoint.responses prepared delivery, { heard with now := t.now + wait })

def looked (t : Timeline) : Timeline := { t with notes := [] }

end Timeline
end NodeCall.Http
