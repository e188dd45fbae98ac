import NodeCall.Executor
import NodeCall.Http.Config
import NodeCall.Http.Endpoint

/-!
# HTTP client

A client makes the attempts of a call either as POSTs of their own or through a batch scheduler.
Many calls may be under way; the client is a state that each event changes, and an event brings
about effects: something is posted, a timer starts, a call is over.  A list of requests can also be
sent as one POST, without any further attempt.
-/

namespace NodeCall.Http

inductive Stage
  /-- Its attempt is a POST of its own. -/
  | posting
  /-- Its attempt waits for a batch under a ticket. -/
  | gathered (ticket : Nat)
  | resting
  | over

/-- A call under way: the completed request, and the number of the present attempt. -/
structure Call where
  request : Request
  attempt : UInt32
  stage : Stage

inductive Effect
  | told (body : String)
  | posted (call : Nat) (post : Post)
  | postedBatch (batch : Nat) (requests : List Request) (post : Post)
  /-- A batch that could not be posted fails at its next turn. -/
  | refusedBatch (batch : Nat) (error : TransportError)
  | began (call : Nat) (attempt : UInt32)
  | resting (call : Nat) (delay : Duration)
  | armed (generation : UInt64)
  | queued (batch : Nat)
  | finished (call : Nat) (outcome : Outcome Response)

inductive Event
  | send (request : Request)
  | delivered (call : Nat) (delivery : Delivery)
  | timeout (call : Nat) (attempt : UInt32)
  | wake (call : Nat)
  | leave (call : Nat)
  | fire (generation : UInt64)
  | turn (batch : Nat) (reply : Option (Outcome (List Response)))
  | flush
  | close

structure Client where
  endpoint : Endpoint
  executor : Executor
  scheduler : Option Batch.Scheduler
  calls : List Call

namespace Client

def new (raw : String) (config : Config) : Outcome Client := do
  let (url, credentials) ← NodeCall.Endpoint.split raw
  let display := NodeCall.Endpoint.sanitize url.text
  return {
    endpoint := ⟨url, display, credentials, config.headers, config.transport.timeout⟩
    executor := ⟨config.transport, config.first, display⟩
    scheduler := config.batch.map fun batch => .new batch config.first
    calls := [] }

def pending (client : Client) : Option Nat := client.scheduler.map (·.pending.length)

/-! ### Lists of requests -/

def prepareAll (executor : Executor) : List Request → Outcome (List Request) × Executor
  | [] => (.ok [], executor)
  | request :: rest =>
    match executor.check request.method with
    | .error e => (.error e, executor)
    | .ok () =>
      let (prepared, executor) := executor.prepare request
      let (outcome, executor) := prepareAll executor rest
      (outcome.map (prepared :: ·), executor)

def batch (client : Client) (requests : List Request) : Outcome (List Request) × Client :=
  let (outcome, executor) := prepareAll client.executor requests
  (outcome, { client with executor })

/-! ### Calls -/

def withCall (client : Client) (call : Nat) (c : Call) : Client :=
  { client with calls := client.calls.set call c }

def postEffects (endpoint : Endpoint) (body : String) (ok : Post → Effect)
    (refused : TransportError → Effect) : List Effect :=
  .told body ::
    match endpoint.post body with
    | .ok post => [ok post]
    | .error e => [refused e]

/-- The client after the attempt of a call has come to an end. -/
def conclude (client : Client) (call : Nat) (outcome : Outcome Response) :
    Client × List Effect :=
  match client.calls[call]? with
  | none => (client, [])
  | some c =>
    let judged := Executor.judge client.executor.url c.request outcome
    match client.executor.policy.next c.attempt judged with
    | .retry delay =>
      (client.withCall call { c with attempt := c.attempt + 1, stage := .resting },
        [.resting call delay])
    | .finish outcome =>
      (client.withCall call { c with stage := .over },
        [.finished call (Executor.conclude client.executor.config.raw c.request.id outcome)])

def callOf (client : Client) (ticket : Nat) : Option Nat :=
  client.calls.findIdx? fun c =>
    match c.stage with
    | .gathered t => t = ticket
    | _ => false

def absorb (state : Client × List Effect) : Batch.Effect → Client × List Effect
  | .armed generation => (state.1, state.2 ++ [.armed generation])
  | .queued batch => (state.1, state.2 ++ [.queued batch])
  | .sent batch requests =>
    (state.1, state.2 ++ postEffects state.1.endpoint (requestsText requests)
      (.postedBatch batch requests) (.refusedBatch batch))
  | .settled ticket outcome =>
    match state.1.callOf ticket with
    | none => state
    | some call =>
      let (client, effects) := state.1.conclude call outcome
      (client, state.2 ++ effects)

/-- The client after an operation of its scheduler, which draws from the client's counter. -/
def schedule (client : Client)
    (operation : Batch.Scheduler → Batch.Scheduler × List Batch.Effect) :
    Client × List Effect :=
  match client.scheduler with
  | none => (client, [])
  | some s =>
    let (s, effects) := operation { s with counter := client.executor.counter }
    effects.foldl absorb
      ({ client with scheduler := some s, executor := { client.executor with counter := s.counter } },
        [])

def attempt (client : Client) (call : Nat) : Client × List Effect :=
  match client.calls[call]? with
  | none => (client, [])
  | some c =>
    let begun : List Effect := [.began call c.attempt]
    match client.scheduler with
    | some s =>
      let waiting := client.withCall call { c with stage := .gathered s.nextTicket }
      let (client, effects) := waiting.schedule (·.schedule c.request)
      (client, begun ++ effects)
    | none =>
      let posting := client.withCall call { c with stage := .posting }
      match client.endpoint.post c.request.text with
      | .ok post => (posting, begun ++ [.told c.request.text, .posted call post])
      | .error e =>
        let (client, effects) := posting.conclude call (.error e)
        (client, begun ++ .told c.request.text :: effects)

def send (client : Client) (request : Request) : Client × List Effect :=
  let call := client.calls.length
  match client.executor.check request.method with
  | .error e =>
    ({ client with calls := client.calls ++ [⟨request, 0, .over⟩] }, [.finished call (.error e)])
  | .ok () =>
    let (prepared, executor) := client.executor.prepare request
    let begun : Client :=
      { client with executor, calls := client.calls ++ [⟨prepared, 0, .resting⟩] }
    begun.attempt call

/-- The client after an event; one that does not fit the stage of its call changes nothing. -/
def step (client : Client) : Event → Client × List Effect
  | .send request => client.send request
  | .delivered call delivery =>
    match client.calls[call]? with
    | some ⟨_, _, .posting⟩ => client.conclude call (client.endpoint.response delivery)
    | _ => (client, [])
  | .timeout call attempt =>
    match client.calls[call]? with
    | some c =>
      let running := match c.stage with
        | .posting | .gathered _ => true
        | _ => false
      if running && c.attempt = attempt then
        client.conclude call (.error (.timeout client.executor.config.timeout.millisWord))
      else (client, [])
    | none => (client, [])
  | .wake call =>
    match client.calls[call]? with
    | some ⟨_, _, .resting⟩ => client.attempt call
    | _ => (client, [])
  | .leave call =>
    match client.calls[call]? with
    | none => (client, [])
    | some ⟨_, _, .over⟩ => (client, [])
    | some c => (client.withCall call { c with stage := .over }, [.finished call (.error .cancelled)])
  | .fire generation => client.schedule (·.fire generation)
  | .turn batch reply => client.schedule (·.turn batch reply)
  | .flush => client.schedule (·.flush)
  | .close =>
    let (client, effects) := client.schedule (·.close)
    (client, effects ++ ((client.scheduler.map (·.sending)).getD []).map .queued)

end Client
end NodeCall.Http
