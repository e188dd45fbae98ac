import NodeCall.Agenda
import NodeCall.Batch.Scheduler
import NodeCall.Retry.Run

/-!
# Batches on a clock

A scheduler together with its timers, the tasks of its batches, and a sender that takes its time.
Whatever can happen without time passing happens before the clock moves on.
-/

namespace NodeCall.Batch

abbrev Sender := Nat → List Request → Behaviour (List Response)

inductive Due
  | timer (generation : UInt64)
  | reply (batch : Nat) (reply : Outcome (List Response))

structure Timeline where
  scheduler : Scheduler
  wait : Duration
  sender : Sender
  sends : Nat
  now : Nat
  /-- The turns of tasks that can be taken at once. -/
  ready : List (Nat × Option (Outcome (List Response)))
  agenda : Agenda Due
  sent : List (List Request)
  settled : List (Nat × Outcome Response)

namespace Timeline

def new (config : Config) (first : Counter) (sender : Sender) : Timeline :=
  ⟨.new config first, config.wait, sender, 0, 0, [], .empty, [], []⟩

def effect (t : Timeline) : Effect → Timeline
  | .armed generation => { t with agenda := t.agenda.add (t.now + t.wait.wait) (.timer generation) }
  | .queued batch => { t with ready := t.ready ++ [(batch, none)] }
  | .settled ticket outcome => { t with settled := t.settled ++ [(ticket, outcome)] }
  | .sent batch requests =>
    let handed := { t with sends := t.sends + 1, sent := t.sent ++ [requests] }
    match t.sender t.sends requests with
    | .stalls => handed
    | .finishes 0 reply => { handed with ready := (batch, some reply) :: handed.ready }
    | .finishes after reply =>
      { handed with agenda := handed.agenda.add (t.now + after) (.reply batch reply) }

def apply (t : Timeline) (result : Scheduler × List Effect) : Timeline :=
  result.2.foldl effect { t with scheduler := result.1 }

def runSteps : Nat → Nat → Timeline → Timeline
  | 0, _, t => t
  | fuel + 1, time, t =>
    match t.ready with
    | (batch, reply) :: ready =>
      runSteps fuel time ({ t with ready }.apply (t.scheduler.turn batch reply))
    | [] =>
      match t.agenda.nextUntil? time with
      | none => { t with now := max t.now time }
      | some ((due, thing), agenda) =>
        let moved := { t with agenda, now := max t.now due }
        match thing with
        | .timer generation => runSteps fuel time (moved.apply (t.scheduler.fire generation))
        | .reply batch reply => runSteps fuel time (moved.apply (t.scheduler.turn batch (some reply)))

/-- More steps than can happen: the pending calls make one more batch, and each batch takes two
turns. -/
def work (t : Timeline) : Nat :=
  t.ready.length + t.agenda.size + 3 * t.scheduler.batches.length + 6

def runTo (t : Timeline) (time : Nat) : Timeline := runSteps t.work time t

def schedule (t : Timeline) (request : Request) : Timeline := t.apply (t.scheduler.schedule request)

def flush (t : Timeline) : Timeline := t.apply t.scheduler.flush

def close (t : Timeline) : Timeline :=
  let closed := t.apply t.scheduler.close
  { closed with ready := closed.ready ++ closed.scheduler.sending.map fun batch => (batch, none) }

def looked (t : Timeline) : Timeline := { t with sent := [], settled := [] }

end Timeline
end NodeCall.Batch
