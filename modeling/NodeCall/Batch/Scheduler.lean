import NodeCall.Batch.Reply
import NodeCall.IdGenerator

/-!
# Batch scheduler

Calls gather in a pending list.  The list is sent as one batch when it is long enough, when the
timer armed by its first call fires, or on demand.  Each flush starts a new generation, and a
timer acts only in the generation it was armed in, so one whose abort came too late does no harm.
Generations are 64-bit words and start over after the last one.
After the scheduler has been closed nothing is sent any more, and whoever still waits is told.
-/

namespace NodeCall.Batch

/-- When pending calls are sent: at this many, or this long after the first one. -/
structure Config where
  batchSize : Nat
  wait : Duration
  deriving DecidableEq, Repr

def Config.standard : Config := ⟨1000, .zero⟩

inductive Stage
  | queued
  | sending
  | over
  deriving DecidableEq, Repr

/-- A batch that has left the pending list. -/
structure Dispatch where
  items : List Item
  stage : Stage

inductive Effect
  | armed (generation : UInt64)
  | queued (batch : Nat)
  /-- The requests of the batch are handed to the sender. -/
  | sent (batch : Nat) (requests : List Request)
  | settled (ticket : Nat) (outcome : Outcome Response)

structure Scheduler where
  size : Nat
  counter : Counter
  nextTicket : Nat
  pending : List Item
  /-- The generation of the recorded timer. -/
  timer : Option UInt64
  generation : UInt64
  closed : Bool
  batches : List Dispatch

namespace Scheduler

/-- A scheduler that draws its numbers from a counter; a batch holds at least one call. -/
def new (config : Config) (first : Counter) : Scheduler where
  size := max config.batchSize 1
  counter := first
  nextTicket := 0
  pending := []
  timer := none
  generation := 0
  closed := false
  batches := []

/-- The scheduler whose pending list has been taken; an empty list makes no batch. -/
def dispatch (s : Scheduler) : Scheduler × List Effect :=
  let taken := { s with pending := [], timer := none, generation := s.generation + 1 }
  if s.pending.isEmpty then (taken, [])
  else ({ taken with batches := s.batches ++ [⟨s.pending, .queued⟩] }, [.queued s.batches.length])

/-- A call joins the pending list under a fresh number, drawn even when the scheduler is closed. -/
def schedule (s : Scheduler) (request : Request) : Scheduler × List Effect :=
  let (number, counter) := s.counter.draw
  let ticket := s.nextTicket
  let drawn := { s with counter, nextTicket := ticket + 1 }
  if s.closed then (drawn, [.settled ticket (.error .shutdown)])
  else
    let item : Item := ⟨ticket, request.withId (.number number), request.id⟩
    let joined := { drawn with pending := s.pending ++ [item] }
    if s.size ≤ joined.pending.length then joined.dispatch
    else if joined.pending.length = 1 then
      ({ joined with timer := some s.generation }, [.armed s.generation])
    else (joined, [])

def flush (s : Scheduler) : Scheduler × List Effect := s.dispatch

/-- The timer of a generation fires; it acts in that generation only. -/
def fire (s : Scheduler) (generation : UInt64) : Scheduler × List Effect :=
  if s.generation = generation then s.dispatch else (s, [])

def settledAll (outcomes : List (Nat × Outcome Response)) : List Effect :=
  outcomes.map fun (ticket, outcome) => .settled ticket outcome

/-- Closes the scheduler: pending calls are told at once, those under way at their tasks' next
turn. -/
def close (s : Scheduler) : Scheduler × List Effect :=
  if s.closed then (s, [])
  else
    ({ s with closed := true, pending := [], timer := none, generation := s.generation + 1 },
      settledAll (failAll .shutdown s.pending))

def withStage (s : Scheduler) (batch : Nat) (stage : Stage) : Scheduler :=
  { s with batches := s.batches.modify batch ({ · with stage }) }

/-- The batches whose replies are awaited; their tasks want a turn when the scheduler is closed. -/
def sending (s : Scheduler) : List Nat :=
  (List.range s.batches.length).filter fun batch =>
    (s.batches[batch]?).any fun dispatch => dispatch.stage = .sending

/-- The task of a batch gets a turn, perhaps with the sender's reply.  A closed scheduler sends
nothing and drops a reply that came in the meantime. -/
def turn (s : Scheduler) (batch : Nat) (reply : Option (Outcome (List Response))) :
    Scheduler × List Effect :=
  match s.batches[batch]? with
  | none => (s, [])
  | some dispatch =>
    match dispatch.stage with
    | .over => (s, [])
    | .queued =>
      if s.closed then
        (s.withStage batch .over, settledAll (failAll .shutdown dispatch.items))
      else
        (s.withStage batch .sending, [.sent batch (dispatch.items.map (·.request))])
    | .sending =>
      if s.closed then
        (s.withStage batch .over, settledAll (failAll .shutdown dispatch.items))
      else
        match reply with
        | none => (s, [])
        | some reply => (s.withStage batch .over, settledAll (settle reply dispatch.items))

end Scheduler

/-! ### Runs -/

inductive Event
  | schedule (request : Request)
  | flush
  | fire (generation : UInt64)
  | close
  | turn (batch : Nat) (reply : Option (Outcome (List Response)))
  /-- A caller stops waiting; its request still goes out with its batch. -/
  | leave (ticket : Nat)

structure Run where
  scheduler : Scheduler
  accepted : List Item
  drained : List Item
  armed : List UInt64
  sent : List Nat
  outcomes : List (Nat × Outcome Response)
  left : List Nat

namespace Run

def initial (config : Config) (first : Counter) : Run :=
  ⟨.new config first, [], [], [], [], [], []⟩

def note (run : Run) : Effect → Run
  | .armed generation => { run with armed := run.armed ++ [generation] }
  | .queued _ => run
  | .sent batch _ => { run with sent := run.sent ++ [batch] }
  | .settled ticket outcome => { run with outcomes := run.outcomes ++ [(ticket, outcome)] }

def apply (run : Run) (result : Scheduler × List Effect) : Run :=
  result.2.foldl note { run with scheduler := result.1 }

/-- The item that a request becomes when it is accepted. -/
def itemFor (s : Scheduler) (request : Request) : Item :=
  ⟨s.nextTicket, request.withId (.number s.counter.draw.1), request.id⟩

/-- The run after an event; a timer that was never armed does not fire. -/
def step (run : Run) : Event → Run
  | .schedule request =>
    let joined :=
      if run.scheduler.closed then run.accepted
      else run.accepted ++ [itemFor run.scheduler request]
    { run with accepted := joined }.apply (run.scheduler.schedule request)
  | .flush => run.apply run.scheduler.flush
  | .fire generation =>
    if generation ∈ run.armed then run.apply (run.scheduler.fire generation) else run
  | .close =>
    let gone := if run.scheduler.closed then run.drained else run.drained ++ run.scheduler.pending
    { run with drained := gone }.apply run.scheduler.close
  | .turn batch reply => run.apply (run.scheduler.turn batch reply)
  | .leave ticket => { run with left := run.left ++ [ticket] }

def steps (run : Run) (events : List Event) : Run := events.foldl step run

end Run
end NodeCall.Batch
