import NodeCall.Proofs.Batch.Items
import NodeCall.Proofs.Http.Calm

/-!
# The requests of calls and what they are given

No event touches the request of a call.  An attempt that ends gives its call a response only if its
outcome is one, or is an error of the node that a raw transport puts into a response; a call with a
POST of its own is given what its answer is made into.
-/

namespace NodeCall.Http

open Batch (Scheduler)

variable {client client' client'' : Client} {effects more : List Effect} {call ticket : Nat}
  {c : Call} {event : Event} {response answer : Response}

/-! ### Calls that are not there -/

theorem conclude_of_none (missing : client.calls[call]? = none) (outcome : Outcome Response) :
    client.conclude call outcome = (client, []) := by
  unfold Client.conclude
  simp only [missing]

theorem attempt_of_none (missing : client.calls[call]? = none) :
    client.attempt call = (client, []) := by
  unfold Client.attempt
  simp only [missing]

/-! ### The requests of calls stay -/

/-- The requests of all calls there have been, as they are sent. -/
def Client.requests (client : Client) : List Request := client.calls.map (·.request)

/-- What an operation leaves alone: the requests of the calls, and how the client was made. -/
structure SameRequests (client client' : Client) : Prop where
  requests : client'.requests = client.requests
  setting : client'.setting = client.setting
  gathers : client'.scheduler.isSome = client.scheduler.isSome

namespace SameRequests

theorem refl (client : Client) : SameRequests client client := ⟨rfl, rfl, rfl⟩

theorem trans (first : SameRequests client client') (second : SameRequests client' client'') :
    SameRequests client client'' :=
  ⟨second.requests.trans first.requests, second.setting.trans first.setting,
    second.gathers.trans first.gathers⟩

theorem withCall (there : client.calls[call]? = some c) {c' : Call}
    (same : c'.request = c.request) : SameRequests client (client.withCall call c') := by
  refine ⟨?_, rfl, rfl⟩
  show (client.calls.set call c').map _ = client.calls.map _
  obtain ⟨lt, rfl⟩ := List.getElem?_eq_some_iff.mp there
  rw [List.map_set, same, ← List.getElem_map Call.request (h := by simpa using lt)]
  exact List.set_getElem_self _

theorem conclude (client : Client) (call : Nat) (outcome : Outcome Response) :
    SameRequests client (client.conclude call outcome).1 := by
  cases there : client.calls[call]? with
  | none =>
    rw [conclude_of_none there]
    exact refl client
  | some c =>
    rcases Client.conclude_cases there outcome with ⟨-, delay, eq⟩ | eq <;> rw [eq] <;>
      exact withCall there rfl

theorem absorb (state : Client × List Effect) (effect : Batch.Effect) :
    SameRequests state.1 (Client.absorb state effect).1 := by
  cases effect with
  | settled ticket outcome =>
    unfold Client.absorb
    dsimp only
    split
    · exact refl _
    · exact conclude _ _ _
  | _ => exact refl _

theorem absorbAll (effects : List Batch.Effect) (state : Client × List Effect) :
    SameRequests state.1 (effects.foldl Client.absorb state).1 := by
  induction effects generalizing state with
  | nil => exact refl _
  | cons effect rest ih => exact (absorb state effect).trans (ih _)

theorem schedule (client : Client)
    (operation : Scheduler → Scheduler × List Batch.Effect) :
    SameRequests client (client.schedule operation).1 := by
  unfold Client.schedule
  split
  · exact refl client
  · next s scheduler =>
    let result := operation { s with counter := client.executor.counter }
    let moved : Client := { client with
      scheduler := some result.1
      executor := { client.executor with counter := result.1.counter } }
    have same : SameRequests client moved := ⟨rfl, rfl, by rw [scheduler]; rfl⟩
    exact same.trans (absorbAll result.2 (moved, []))

theorem attempt (client : Client) (call : Nat) : SameRequests client (client.attempt call).1 := by
  unfold Client.attempt
  split
  · exact refl client
  · next c there =>
    have staged (stage : Stage) : SameRequests client (client.withCall call { c with stage }) :=
      withCall there rfl
    dsimp only
    split
    · next s _ => exact (staged (.gathered s.nextTicket)).trans (schedule _ (·.schedule c.request))
    · split
      · exact staged .posting
      · next e _ => exact (staged .posting).trans (conclude _ call (.error e))

/-- No event but a new call touches the requests. -/
theorem step (client : Client) (event : Event) (other : ∀ request, event ≠ .send request) :
    SameRequests client (client.step event).1 := by
  cases event with
  | send request => exact absurd rfl (other request)
  | delivered call delivery =>
    unfold Client.step
    dsimp only
    split
    · exact conclude _ _ _
    · exact refl client
  | timeout call attempt =>
    unfold Client.step
    dsimp only
    split
    · split <;> split
      all_goals first
        | exact conclude _ _ _
        | exact refl client
    · exact refl client
  | wake call =>
    unfold Client.step
    dsimp only
    split
    · exact attempt _ _
    · exact refl client
  | leave call =>
    unfold Client.step
    dsimp only
    split
    · exact refl client
    · exact refl client
    · next there => exact withCall there rfl
  | fire generation => exact schedule _ _
  | turn batch reply => exact schedule _ _
  | flush => exact schedule _ _
  | close => exact schedule client (·.close)

end SameRequests

/-- The client with a new call. -/
def Client.join (client : Client) (executor : Executor) (c : Call) : Client :=
  { client with executor, calls := client.calls ++ [c] }

/-- A call joins the others under its own id, and is refused or makes its first attempt. -/
theorem send_cases (client : Client) (request : Request) :
    ∃ executor c, (executor.config = client.executor.config ∧ executor.url = client.executor.url) ∧
      (c.stage = .resting ∨ c.stage = .over) ∧
      (request.id ≠ .null → c.request.id = request.id) ∧
      ((∃ e, client.send request =
        (client.join executor c, [.finished client.calls.length (.error e)])) ∨
      client.send request = (client.join executor c).attempt client.calls.length) := by
  unfold Client.send
  split
  · next e _ => exact ⟨client.executor, _, ⟨rfl, rfl⟩, .inr rfl, fun _ => rfl, .inl ⟨e, rfl⟩⟩
  · refine ⟨(client.executor.prepare request).2, ⟨(client.executor.prepare request).1, 0, .resting⟩,
      ?_, .inl rfl, fun known => ?_, .inr rfl⟩
    · unfold Executor.prepare
      cases request.id <;> exact ⟨rfl, rfl⟩
    · show (client.executor.prepare request).1.id = request.id
      rw [prepare_of_known client.executor known]
      rfl

/-- A new call comes last and has the id of its request; no other event touches the requests. -/
theorem requests_step (client : Client) (event : Event) :
    ∃ added, (client.step event).1.requests = client.requests ++ added ∧
      List.Forall₂ (fun request own => request.id ≠ .null → own.id = request.id)
        (sends [event]) added ∧
      (client.step event).1.setting = client.setting ∧
      (client.step event).1.scheduler.isSome = client.scheduler.isSome := by
  by_cases sent : ∃ request, event = .send request
  · obtain ⟨request, rfl⟩ := sent
    obtain ⟨executor, c, ⟨config, url⟩, -, own, made⟩ := send_cases client request
    have joined : (client.join executor c).requests = client.requests ++ [c.request] := by
      simp [Client.join, Client.requests]
    have setting : (client.join executor c).setting = client.setting := by
      simp [Client.join, Client.setting, config, url]
    refine ⟨[c.request], ?_, .cons own .nil, ?_, ?_⟩ <;> rcases made with ⟨e, eq⟩ | eq
    · exact (congrArg (·.1.requests) eq).trans joined
    · exact ((congrArg (·.1.requests) eq).trans (SameRequests.attempt _ _).requests).trans joined
    · exact (congrArg (·.1.setting) eq).trans setting
    · exact ((congrArg (·.1.setting) eq).trans (SameRequests.attempt _ _).setting).trans setting
    · exact congrArg (·.1.scheduler.isSome) eq
    · exact (congrArg (·.1.scheduler.isSome) eq).trans (SameRequests.attempt _ _).gathers
  · have other : ∀ request, event ≠ .send request := fun request eq => sent ⟨request, eq⟩
    obtain ⟨requests, setting, gathers⟩ := SameRequests.step client event other
    refine ⟨[], by rw [requests, List.append_nil], ?_, setting, gathers⟩
    cases event with
    | send request => exact absurd rfl (other request)
    | _ => exact .nil

/-! ### What a call is given -/

/-- What a call with a POST of its own makes of an answer: the answer as it came, or a raw
transport's response to the caller with the error in it. -/
def handed (raw : Bool) (id : RpcId) (answer : Response) : Option Response :=
  match answer.error with
  | none => some answer
  | some error => if raw then some (.failure id error) else none

theorem id_of_handed {raw : Bool} {id : RpcId} (given : handed raw id answer = some response) :
    response.id = id ↔ answer.error.isSome = true ∨ answer.id = id := by
  unfold handed at given
  cases flaw : answer.error with
  | none =>
    rw [flaw] at given
    obtain rfl := Option.some.inj given
    simp
  | some error =>
    rw [flaw] at given
    obtain ⟨-, eq⟩ := Option.ite_none_right_eq_some.mp given
    obtain rfl := Option.some.inj eq
    simp [Response.failure]

/-- What a call is given when its attempt has this outcome and is the last. -/
def givenFor (client : Client) (request : Request) (outcome : Outcome Response) :
    Outcome Response :=
  Executor.conclude client.executor.config.raw request.id
    (Executor.judge client.executor.url request outcome)

theorem givenFor_ok (client : Client) (request : Request) (answer : Response) :
    givenFor client request (.ok answer) = .ok response ↔
      handed client.executor.config.raw request.id answer = some response := by
  cases flaw : answer.error with
  | none => simp [givenFor, handed, Executor.judge, flaw, Executor.conclude]
  | some error =>
    cases raw : client.executor.config.raw <;>
      simp [givenFor, handed, Executor.judge, flaw, Executor.conclude, raw]

theorem givenFor_error {request : Request} {e : TransportError}
    (other : ∀ error url body, e ≠ .rpc error url body) :
    givenFor client request (.error e) = .error e := by
  unfold givenFor Executor.judge Executor.conclude
  split
  · next error url body eq => exact absurd (Except.error.inj eq) (other error url body)
  · rfl

theorem givenFor_of_setting (same : client'.setting = client.setting) (request : Request)
    (outcome : Outcome Response) :
    givenFor client' request outcome = givenFor client request outcome := by
  have config : client'.executor.config = client.executor.config := congrArg Setting.config same
  have url : client'.executor.url = client.executor.url := congrArg Setting.url same
  rw [givenFor, givenFor, config, url]

theorem mem_outcomesOf_conclude {other : Nat} {outcome given : Outcome Response}
    (member : given ∈ outcomesOf other (client.conclude call outcome).2) :
    other = call ∧ ∃ c, client.calls[call]? = some c ∧
      given = givenFor client c.request outcome := by
  cases there : client.calls[call]? with
  | none =>
    rw [conclude_of_none there] at member
    cases member
  | some c =>
    rcases Client.conclude_cases there outcome with ⟨-, delay, eq⟩ | eq <;> rw [eq] at member
    · simp [outcomesOf, Effect.outcome?] at member
    · simp only [outcomesOf, List.filterMap_cons, List.filterMap_nil, Effect.outcome?] at member
      by_cases same : call = other
      · rw [if_pos same] at member
        exact ⟨same.symm, c, rfl, List.mem_singleton.mp member⟩
      · rw [if_neg same] at member
        cases member

/-- No call has a response among these effects. -/
def Fruitless (effects : List Effect) : Prop :=
  ∀ call response, .ok response ∉ outcomesOf call effects

theorem Fruitless.nil : Fruitless [] := fun _ _ member => absurd member List.not_mem_nil

theorem Fruitless.conclude {e : TransportError}
    (other : ∀ error url body, e ≠ .rpc error url body) :
    Fruitless (client.conclude call (.error e)).2 := by
  intro index response member
  obtain ⟨-, c, -, given⟩ := mem_outcomesOf_conclude member
  rw [givenFor_error other] at given
  cases given

theorem Fruitless.append (first : Fruitless effects) (second : Fruitless more) :
    Fruitless (effects ++ more) := by
  intro call response member
  rw [outcomesOf_append] at member
  rcases List.mem_append.mp member with member | member
  · exact first call response member
  · exact second call response member

theorem Fruitless.of_idle (idle : ∀ call, outcomesOf call effects = []) : Fruitless effects := by
  intro call response member
  rw [idle] at member
  cases member

theorem Fruitless.finished (call : Nat) (e : TransportError) :
    Fruitless [.finished call (.error e)] := by
  intro other response member
  by_cases same : call = other <;> simp [outcomesOf, Effect.outcome?, same] at member

/-! ### Calls that are posted by themselves -/

theorem fruitless_attempt (scheduler : client.scheduler = none) (call : Nat) :
    Fruitless (client.attempt call).2 := by
  cases there : client.calls[call]? with
  | none =>
    rw [attempt_of_none there]
    exact .nil
  | some c =>
    rcases Client.attempt_posting scheduler there with ⟨-, post, eq⟩ | ⟨-, eq⟩ <;> rw [eq]
    · exact .of_idle fun call => rfl
    · exact .append (.of_idle fun call => rfl) (.conclude (by simp))

theorem fruitless_send (scheduler : client.scheduler = none) (request : Request) :
    Fruitless (client.send request).2 := by
  obtain ⟨executor, c, -, -, -, ⟨e, eq⟩ | eq⟩ := send_cases client request <;> rw [eq]
  · exact .finished _ e
  · exact fruitless_attempt (show (client.join executor c).scheduler = none from scheduler) _

theorem fruitless_timeout (client : Client) (call : Nat) (attempt : UInt32) :
    Fruitless (client.step (.timeout call attempt)).2 := by
  unfold Client.step
  dsimp only
  split
  · split <;> split
    all_goals first
      | exact .conclude (by simp)
      | exact .nil
  · exact .nil

theorem fruitless_leave (client : Client) (call : Nat) :
    Fruitless (client.step (.leave call)).2 := by
  unfold Client.step
  dsimp only
  split
  · exact .nil
  · exact .nil
  · exact .finished _ _

/-- The errors of a POST are not those of a node. -/
theorem response_ne_rpc {endpoint : Endpoint} {delivery : Delivery} {e : TransportError}
    (failed : endpoint.response delivery = .error e) (error : NodeError) (url body : String) :
    e ≠ .rpc error url body := by
  rintro rfl
  cases body : endpoint.received delivery with
  | ok content =>
    simp only [Endpoint.response, body, bind, Except.bind, Outcome.ofDecoded] at failed
    cases decoded : Response.ofBytes content.bytes <;> rw [decoded] at failed <;> cases failed
  | error e =>
    simp only [Endpoint.response, body, bind, Except.bind] at failed
    obtain rfl := Except.error.inj failed
    unfold Endpoint.received at body
    split at body
    · next loss => cases loss <;> cases body
    · split at body
      · next answer _ =>
        cases answer with
        | ok content => cases body
        | error loss => cases loss <;> cases body
      · cases body

/-- A client that does not gather its calls gives them what their answers make of them. -/
theorem given_step (scheduler : client.scheduler = none)
    (given : .ok response ∈ outcomesOf call (client.step event).2) :
    ∃ delivery answer c, event = .delivered call delivery ∧ client.calls[call]? = some c ∧
      client.endpoint.response delivery = .ok answer ∧
      handed client.executor.config.raw c.request.id answer = some response := by
  have idle (operation : Scheduler → Scheduler × List Batch.Effect) :
      client.schedule operation = (client, []) := by
    unfold Client.schedule
    rw [scheduler]
  cases event with
  | send request => exact absurd given (fruitless_send scheduler request _ _)
  | timeout other attempt => exact absurd given (fruitless_timeout client other attempt _ _)
  | leave other => exact absurd given (fruitless_leave client other _ _)
  | wake other =>
    unfold Client.step at given
    dsimp only at given
    split at given
    · exact absurd given (fruitless_attempt scheduler other _ _)
    · cases given
  | delivered other delivery =>
    unfold Client.step at given
    dsimp only at given
    split at given
    · obtain ⟨rfl, c, there, eq⟩ := mem_outcomesOf_conclude given
      cases decoded : client.endpoint.response delivery with
      | ok answer =>
        rw [decoded] at eq
        exact ⟨delivery, answer, c, rfl, there, decoded, (givenFor_ok _ _ _).mp eq.symm⟩
      | error e =>
        rw [decoded, givenFor_error (response_ne_rpc decoded)] at eq
        cases eq
    · cases given
  | close =>
    unfold Client.step at given
    simp [idle, scheduler, outcomesOf] at given
  | _ =>
    unfold Client.step at given
    simp [idle, outcomesOf] at given

end NodeCall.Http
