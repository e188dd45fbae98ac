import NodeCall.Proofs.Http.Runs

/-!
# Clients that gather their calls

A client with a scheduler takes the same steps as the scheduler by itself, whose events can be told
from those of the client.  The calls whose attempts wait for a batch do so under distinct tickets,
each of which belongs to a request that was scheduled and has no outcome yet.
-/

namespace NodeCall

namespace Batch

theorem requests_append {events : List Event} (unclosed : .close ∉ events) (more : List Event) :
    requests (events ++ more) = requests events ++ requests more := by
  induction events with
  | nil => rfl
  | cons event rest ih =>
    rw [List.mem_cons, not_or] at unclosed
    cases event with
    | schedule request => exact congrArg (request :: ·) (ih unclosed.2)
    | close => exact absurd rfl unclosed.1
    | _ => exact ih unclosed.2

namespace Run

variable {run : Run} {event : Event}

theorem opened_step (opened : run.scheduler.closed = false) (unclosed : event ≠ .close) :
    (run.step event).scheduler.closed = false := by
  by_cases scheduled : ∃ request, event = .schedule request
  · obtain ⟨request, rfl⟩ := scheduled
    exact (step_schedule_opened opened request).2.2.2
  · exact ((run.step_unscheduled fun request eq => scheduled ⟨request, eq⟩).2.2.2 unclosed).trans
      opened

theorem opened_steps {events : List Event} (opened : run.scheduler.closed = false)
    (unclosed : .close ∉ events) : (run.steps events).scheduler.closed = false := by
  induction events generalizing run with
  | nil => exact opened
  | cons event rest ih =>
    rw [List.mem_cons, not_or] at unclosed
    exact ih (opened_step opened (Ne.symm unclosed.1)) unclosed.2

theorem nextTicket_steps {events : List Event} (opened : run.scheduler.closed = false)
    (unclosed : .close ∉ events) : (run.steps events).scheduler.nextTicket =
      run.scheduler.nextTicket + (requests events).length := by
  induction events generalizing run with
  | nil => rfl
  | cons event rest ih =>
    rw [List.mem_cons, not_or] at unclosed
    have opened' := opened_step opened (Ne.symm unclosed.1)
    by_cases scheduled : ∃ request, event = .schedule request
    · obtain ⟨request, rfl⟩ := scheduled
      have next := (step_schedule_opened opened request).2.1
      rw [requests, List.length_cons]
      refine (ih opened' unclosed.2).trans ?_
      rw [next]
      show run.scheduler.nextTicket + 1 + _ = _
      omega
    · have other : ∀ request, event ≠ .schedule request := fun request eq =>
        scheduled ⟨request, eq⟩
      rw [requests_cons rest other (Ne.symm unclosed.1)]
      refine (ih opened' unclosed.2).trans ?_
      rw [(run.step_unscheduled other).2.1]

/-- A batch keeps its calls. -/
theorem items_step {batch : Nat} {dispatch : Dispatch}
    (there : run.scheduler.batches[batch]? = some dispatch) (event : Event) :
    ∃ dispatch', (run.step event).scheduler.batches[batch]? = some dispatch' ∧
      dispatch'.items = dispatch.items := by
  have kept {s : Scheduler} (same : s.batches[batch]? = some dispatch) :
      ∃ dispatch', s.dispatch.1.batches[batch]? = some dispatch' ∧
        dispatch'.items = dispatch.items := by
    refine ⟨dispatch, ?_, rfl⟩
    rw [Scheduler.batches_dispatch]
    split
    · exact same
    · rw [List.getElem?_append_left (List.getElem?_eq_some_iff.mp same).1, same]
  have staged (other : Nat) (stage : Stage) :
      ∃ dispatch', (run.scheduler.withStage other stage).batches[batch]? = some dispatch' ∧
        dispatch'.items = dispatch.items := by
    refine ⟨if other = batch then { dispatch with stage } else dispatch, ?_, by split <;> rfl⟩
    rw [Scheduler.withStage, List.getElem?_modify, there]
    split <;> rfl
  cases event with
  | schedule request =>
    simp only [step, scheduler_apply]
    rcases run.scheduler.schedule_cases request with
      ⟨-, eq⟩ | ⟨-, -, eq⟩ | ⟨-, -, timer, effects, -, eq⟩ <;> rw [eq]
    · exact ⟨dispatch, there, rfl⟩
    · exact kept there
    · exact ⟨dispatch, there, rfl⟩
  | flush =>
    simp only [step, scheduler_apply]
    exact kept there
  | fire generation =>
    simp only [step]
    split
    · rw [scheduler_apply, Scheduler.fire]
      split
      · exact kept there
      · exact ⟨dispatch, there, rfl⟩
    · exact ⟨dispatch, there, rfl⟩
  | close =>
    simp only [step, scheduler_apply]
    rcases run.scheduler.close_cases with ⟨-, eq⟩ | ⟨-, eq⟩ <;> rw [eq] <;>
      exact ⟨dispatch, there, rfl⟩
  | turn other reply =>
    simp only [step, scheduler_apply]
    rcases run.scheduler.turn_cases other reply with
      eq | ⟨_, -, -, eq⟩ | ⟨_, _, -, -, -, eq⟩ <;> rw [eq]
    · exact ⟨dispatch, there, rfl⟩
    · exact staged other .sending
    · exact staged other .over
  | leave ticket => exact ⟨dispatch, there, rfl⟩

end Run

/-- An open scheduler's batch waits on, hands its requests over, or takes the reply. -/
theorem Scheduler.turn_cases_opened {s : Scheduler} (opened : s.closed = false) (batch : Nat)
    (reply : Option (Outcome (List Response))) :
    (s.turn batch reply = (s, []) ∧ ∀ dispatch, s.batches[batch]? = some dispatch →
      dispatch.stage = .over ∨ dispatch.stage = .sending ∧ reply = none) ∨
    (∃ dispatch, s.batches[batch]? = some dispatch ∧ dispatch.stage = .queued ∧
      s.turn batch reply =
        (s.withStage batch .sending, [.sent batch (dispatch.items.map (·.request))])) ∨
    (∃ dispatch taken, s.batches[batch]? = some dispatch ∧ dispatch.stage = .sending ∧
      reply = some taken ∧ s.turn batch reply =
        (s.withStage batch .over, settledAll (settle taken dispatch.items))) := by
  unfold turn
  rw [opened]
  cases there : s.batches[batch]? with
  | none => exact .inl ⟨rfl, by simp⟩
  | some dispatch =>
    cases stage : dispatch.stage with
    | queued => exact .inr (.inl ⟨dispatch, rfl, stage, by simp [stage]⟩)
    | sending =>
      cases reply with
      | none => exact .inl (by simp [stage])
      | some taken => exact .inr (.inr ⟨dispatch, taken, rfl, stage, rfl, by simp [stage]⟩)
    | _ => exact .inl (by simp [stage])

end Batch

namespace Http

open Batch (Scheduler)

variable {answer : Request → Outcome Response} {requests : List Request} {settled : List Nat}
  {client : Client} {call ticket : Nat} {c : Call}

/-! ### Calls that wait for a batch -/

/-- The attempt of a call waits for a batch under a ticket. -/
def Client.Gathered (client : Client) (call : Nat) (c : Call) (ticket : Nat) : Prop :=
  client.calls[call]? = some c ∧ c.stage = .gathered ticket

/-- The calls that wait do so under tickets of their own, each given to their request and not yet
settled. -/
structure Tracked (requests : List Request) (settled : List Nat) (client : Client) : Prop where
  known : ∀ {call c ticket}, client.Gathered call c ticket → requests[ticket]? = some c.request
  unsettled : ∀ {call c ticket}, client.Gathered call c ticket → ticket ∉ settled
  distinct : ∀ {call c call' c' ticket}, client.Gathered call c ticket →
    client.Gathered call' c' ticket → call = call'

namespace Client

theorem gathered_withCall {c' d : Call} {other : Nat}
    (waits : (client.withCall call c').Gathered other d ticket) :
    (other = call ∧ d = c' ∧ c'.stage = .gathered ticket) ∨
      (other ≠ call ∧ client.Gathered other d ticket) := by
  obtain ⟨there, stage⟩ := waits
  have there : (client.calls.set call c')[other]? = some d := there
  by_cases same : other = call
  · subst same
    obtain ⟨lt, -⟩ := List.getElem?_eq_some_iff.mp there
    rw [List.getElem?_set_self (by simpa using lt)] at there
    obtain rfl := Option.some.inj there
    exact .inl ⟨rfl, rfl, stage⟩
  · rw [List.getElem?_set_ne (Ne.symm same)] at there
    exact .inr ⟨same, there, stage⟩

theorem gathered_of_callOf (found : client.callOf ticket = some call) :
    ∃ c, client.Gathered call c ticket := by
  obtain ⟨lt, waits, -⟩ := List.findIdx?_eq_some_iff_getElem.mp found
  refine ⟨client.calls[call], List.getElem?_eq_getElem lt, ?_⟩
  split at waits
  · next other stage => rw [stage, of_decide_eq_true waits]
  · cases waits

theorem not_gathered_of_callOf (missing : client.callOf ticket = none) :
    ¬ client.Gathered call c ticket := by
  rintro ⟨there, stage⟩
  have h := List.findIdx?_eq_none_iff.mp missing c (List.mem_of_getElem? there)
  simp [stage] at h

/-- A call that ends its wait takes its ticket along. -/
theorem gathered_of_ended {c' d : Call} {other : Nat}
    (ended : ∀ ticket, c'.stage ≠ .gathered ticket)
    (waits : (client.withCall call c').Gathered other d ticket) :
    client.Gathered other d ticket := by
  rcases gathered_withCall waits with ⟨-, -, stage⟩ | ⟨-, waits⟩
  · exact absurd stage (ended ticket)
  · exact waits

theorem gathered_conclude {outcome : Outcome Response} {d : Call} {other : Nat}
    (waits : (client.conclude call outcome).1.Gathered other d ticket) :
    client.Gathered other d ticket := by
  cases there : client.calls[call]? with
  | none =>
    have same : client.conclude call outcome = (client, []) := by
      unfold conclude
      simp only [there]
    rwa [same] at waits
  | some c =>
    rcases conclude_cases there outcome with ⟨-, delay, eq⟩ | eq <;> rw [eq] at waits
    · exact gathered_of_ended (by simp) waits
    · exact gathered_of_ended (by simp) waits

end Client

namespace Tracked

theorem mono (tracked : Tracked requests settled client) {client' : Client}
    (waits : ∀ {call c ticket}, client'.Gathered call c ticket → client.Gathered call c ticket) :
    Tracked requests settled client' :=
  ⟨fun h => tracked.known (waits h), fun h => tracked.unsettled (waits h),
    fun h h' => tracked.distinct (waits h) (waits h')⟩

theorem of_calls (tracked : Tracked requests settled client) {client' : Client}
    (calls : client'.calls = client.calls) : Tracked requests settled client' :=
  tracked.mono fun waits => by rwa [Client.Gathered, calls] at waits

theorem not_gathered_conclude (tracked : Tracked requests settled client)
    (waits : client.Gathered call c ticket) (outcome : Outcome Response) {other : Nat} {d : Call} :
    ¬ (client.conclude call outcome).1.Gathered other d ticket := by
  intro waits'
  have gone {c' : Call} (stage : ∀ ticket, c'.stage ≠ .gathered ticket)
      (waits' : (client.withCall call c').Gathered other d ticket) : False := by
    rcases Client.gathered_withCall waits' with ⟨-, -, stage'⟩ | ⟨ne, waits'⟩
    · exact stage _ stage'
    · exact ne (tracked.distinct waits' waits)
  rcases Client.conclude_cases waits.1 outcome with ⟨-, delay, eq⟩ | eq <;> rw [eq] at waits'
  · exact gone (by simp) waits'
  · exact gone (by simp) waits'

theorem settle (tracked : Tracked requests settled client)
    (gone : ∀ {call c}, ¬ client.Gathered call c ticket) :
    Tracked requests (settled ++ [ticket]) client := by
  refine ⟨tracked.known, fun waits => ?_, tracked.distinct⟩
  rw [List.mem_append, List.mem_singleton, not_or]
  refine ⟨tracked.unsettled waits, ?_⟩
  rintro rfl
  exact gone waits

/-- A call joins the others under the next ticket. -/
theorem gather (tracked : Tracked requests settled client) (unsettled : requests.length ∉ settled)
    (c : Call) : Tracked (requests ++ [c.request]) settled
      (client.withCall call { c with stage := .gathered requests.length }) := by
  have earlier {other d ticket} (waits : client.Gathered other d ticket) :
      ticket < requests.length :=
    (List.getElem?_eq_some_iff.mp (tracked.known waits)).1
  refine ⟨fun waits => ?_, fun waits => ?_, fun waits waits' => ?_⟩
  · rcases Client.gathered_withCall waits with ⟨-, rfl, stage⟩ | ⟨-, waits⟩
    · obtain rfl := Stage.gathered.inj stage
      simp
    · rw [List.getElem?_append_left (earlier waits)]
      exact tracked.known waits
  · rcases Client.gathered_withCall waits with ⟨-, -, stage⟩ | ⟨-, waits⟩
    · obtain rfl := Stage.gathered.inj stage
      exact unsettled
    · exact tracked.unsettled waits
  · rcases Client.gathered_withCall waits with ⟨rfl, -, stage⟩ | ⟨-, before⟩ <;>
      rcases Client.gathered_withCall waits' with ⟨rfl, -, stage'⟩ | ⟨-, before'⟩
    · rfl
    · obtain rfl := Stage.gathered.inj stage
      exact absurd (earlier before') (Nat.lt_irrefl _)
    · obtain rfl := Stage.gathered.inj stage'
      exact absurd (earlier before) (Nat.lt_irrefl _)
    · exact tracked.distinct before before'

end Tracked

/-! ### Effects of the scheduler -/

/-- What the outcomes of a scheduler do to the client, when they are those of the calls' attempts.
Nothing is posted, and the scheduler is left alone. -/
structure Absorbed (answer : Request → Outcome Response) (requests : List Request)
    (settled : List Nat) (client client' : Client) (effects : List Effect) : Prop where
  turned : Turned answer client client' effects
  tracked : Tracked requests settled client'
  scheduler : client'.scheduler = client.scheduler
  counter : client'.executor.counter = client.executor.counter
  load : client'.load ≤ client.load
  silent : ∀ effect ∈ effects, effect.posts = false

theorem Client.scheduler_conclude (client : Client) (call : Nat) (outcome : Outcome Response) :
    (client.conclude call outcome).1.scheduler = client.scheduler ∧
      (client.conclude call outcome).1.executor = client.executor := by
  cases there : client.calls[call]? with
  | none => simp [Client.conclude, there]
  | some c =>
    rcases Client.conclude_cases there outcome with ⟨-, delay, eq⟩ | eq <;>
      simp [eq, Client.withCall]

theorem absorbed_settled (state : Client × List Effect)
    (tracked : Tracked requests settled state.1) {outcome : Outcome Response}
    (right : ∀ request, requests[ticket]? = some request → outcome = answer request) :
    ∃ effects, (Client.absorb state (.settled ticket outcome)).2 = state.2 ++ effects ∧
      Absorbed answer requests (settled ++ [ticket]) state.1
        (Client.absorb state (.settled ticket outcome)).1 effects := by
  obtain ⟨client, before⟩ := state
  unfold Client.absorb
  cases found : client.callOf ticket with
  | none =>
    simp only [found]
    exact ⟨[], (List.append_nil _).symm, Turned.of_calls rfl rfl fun _ => rfl,
      tracked.settle (Client.not_gathered_of_callOf found), rfl, rfl, Nat.le_refl _, by simp⟩
  | some call =>
    simp only [found]
    obtain ⟨c, waits⟩ := Client.gathered_of_callOf found
    have live : c.stage ≠ .over := by simp [waits.2]
    have load := Client.load_conclude waits.1 (.inr ⟨ticket, waits.2⟩) outcome
    exact ⟨_, rfl, Turned.conclude waits.1 live (right _ (tracked.known waits)),
      (tracked.mono Client.gathered_conclude).settle (tracked.not_gathered_conclude waits outcome),
      (client.scheduler_conclude call outcome).1,
      congrArg (·.counter) (client.scheduler_conclude call outcome).2, by omega,
      posts_conclude waits.1 outcome⟩

theorem absorbed_settledAll {outcomes : List (Nat × Outcome Response)}
    (state : Client × List Effect) (tracked : Tracked requests settled state.1)
    (right : ∀ entry ∈ outcomes, ∀ request, requests[entry.1]? = some request →
      entry.2 = answer request) :
    ∃ effects,
      ((Scheduler.settledAll outcomes).foldl Client.absorb state).2 = state.2 ++ effects ∧
      Absorbed answer requests (settled ++ outcomes.map (·.1)) state.1
        ((Scheduler.settledAll outcomes).foldl Client.absorb state).1 effects := by
  induction outcomes generalizing state settled with
  | nil =>
    refine ⟨[], (List.append_nil _).symm, Turned.of_calls rfl rfl fun _ => rfl, ?_, rfl, rfl,
      Nat.le_refl _, by simp⟩
    simpa [Scheduler.settledAll] using tracked
  | cons entry rest ih =>
    obtain ⟨ticket, outcome⟩ := entry
    obtain ⟨effects, heffects, first⟩ := absorbed_settled state tracked
      (right (ticket, outcome) List.mem_cons_self)
    obtain ⟨more, hmore, others⟩ := ih (Client.absorb state (.settled ticket outcome))
      first.tracked fun entry member => right entry (List.mem_cons_of_mem _ member)
    refine ⟨effects ++ more, ?_, first.turned.trans others.turned, ?_,
      others.scheduler.trans first.scheduler, others.counter.trans first.counter,
      Nat.le_trans others.load first.load, ?_⟩
    · rw [← List.append_assoc, ← heffects]
      exact hmore
    · have h := others.tracked
      rwa [List.append_assoc] at h
    · intro effect member
      rcases List.mem_append.mp member with member | member
      · exact first.silent effect member
      · exact others.silent effect member

/-- A POST is made just when its endpoint can post. -/
def Effect.Justified (endpoint : Endpoint) : Effect → Prop
  | .posted _ _ | .postedBatch _ _ _ => endpoint.canPost = true
  | .refusedBatch _ error => endpoint.canPost = false ∧
    error = .network "builder error"
  | _ => True

theorem Effect.justified_of_silent {effect : Effect} (silent : effect.posts = false)
    (endpoint : Endpoint) : effect.Justified endpoint := by
  cases effect <;> trivial

/-- Something is posted, or it could not be. -/
theorem postEffects_cases (endpoint : Endpoint) (body : String) (ok : Post → Effect)
    (refused : TransportError → Effect) :
    (endpoint.canPost = true ∧ ∃ post,
      Client.postEffects endpoint body ok refused = [.told body, ok post]) ∨
    (endpoint.canPost = false ∧
      Client.postEffects endpoint body ok refused =
        [.told body, refused (.network "builder error")]) := by
  unfold Client.postEffects Endpoint.post
  cases endpoint.canPost with
  | true => exact .inl ⟨rfl, _, rfl⟩
  | false => exact .inr ⟨rfl, rfl⟩

/-- A timer is armed, or a batch waits for its turn. -/
def idle : Batch.Effect → Bool
  | .armed _ | .queued _ => true
  | _ => false

/-- Effects that give no call an outcome and post nothing. -/
structure Quiet (effects : List Effect) : Prop where
  outcomes : ∀ call, outcomesOf call effects = []
  silent : ∀ effect ∈ effects, effect.posts = false

theorem absorb_idle {effects : List Batch.Effect} (quiet : ∀ effect ∈ effects, idle effect = true)
    (state : Client × List Effect) :
    ∃ more, effects.foldl Client.absorb state = (state.1, state.2 ++ more) ∧ Quiet more := by
  induction effects generalizing state with
  | nil => exact ⟨[], by simp, fun _ => rfl, by simp⟩
  | cons effect rest ih =>
    have first : ∃ own, Client.absorb state effect = (state.1, state.2 ++ [own]) ∧
        Quiet [own] := by
      have idle := quiet effect List.mem_cons_self
      cases effect with
      | armed generation => exact ⟨_, rfl, fun _ => rfl, by simp [Effect.posts]⟩
      | queued batch => exact ⟨_, rfl, fun _ => rfl, by simp [Effect.posts]⟩
      | sent batch requests => cases idle
      | settled ticket outcome => cases idle
    obtain ⟨own, hown, quietOwn⟩ := first
    obtain ⟨more, hmore, quietMore⟩ :=
      ih (fun effect member => quiet effect (List.mem_cons_of_mem _ member))
        (Client.absorb state effect)
    refine ⟨own :: more, ?_, fun call => ?_, ?_⟩
    · rw [List.foldl_cons, hmore, hown, List.append_assoc, List.singleton_append]
    · rw [← List.singleton_append, outcomesOf_append, quietOwn.outcomes, quietMore.outcomes]
      rfl
    · intro effect member
      rcases List.mem_cons.mp member with rfl | member
      · exact quietOwn.silent effect List.mem_cons_self
      · exact quietMore.silent effect member

theorem outcomesOf_idle {effects : List Batch.Effect}
    (quiet : ∀ effect ∈ effects, idle effect = true) : Batch.outcomesOf effects = [] := by
  refine List.filterMap_eq_nil_iff.mpr fun effect member => ?_
  have idle := quiet effect member
  cases effect <;> first | rfl | cases idle

theorem idle_dispatch (s : Scheduler) : ∀ effect ∈ s.dispatch.2, idle effect = true := by
  unfold Scheduler.dispatch
  dsimp only
  split <;> simp [idle]

theorem idle_schedule {s : Scheduler} (opened : s.closed = false) (request : Request) :
    ∀ effect ∈ (s.schedule request).2, idle effect = true := by
  by_cases full : s.size ≤ s.pending.length + 1
  · rcases s.schedule_cases request with ⟨closed, -⟩ | ⟨-, -, eq⟩ | ⟨-, short, -⟩
    · exact absurd (closed.symm.trans opened) (by decide)
    · rw [eq]
      exact idle_dispatch _
    · omega
  · rw [Scheduler.schedule_joining opened (by omega)]
    split <;> simp [idle]

/-! ### A client and its scheduler by itself -/

variable {config : Batch.Config} {first : Counter} {events : List Batch.Event}
  {effects : List Effect}

/-- The run of the scheduler by itself. -/
abbrev alone (config : Batch.Config) (first : Counter) (events : List Batch.Event) : Batch.Run :=
  (Batch.Run.initial config first).steps events

/-- The scheduler of a client has come through these events. -/
structure Follows (config : Batch.Config) (first : Counter) (events : List Batch.Event)
    (client : Client) (effects : List Effect) : Prop where
  unclosed : .close ∉ events
  scheduler : client.scheduler = some (alone config first events).scheduler
  counter : client.executor.counter = (alone config first events).scheduler.counter
  tracked : Tracked (Batch.requests events) ((alone config first events).outcomes.map (·.1)) client
  posted : ∀ {batch requests post}, .postedBatch batch requests post ∈ effects →
    ∃ dispatch, (alone config first events).scheduler.batches[batch]? = some dispatch ∧
      requests = dispatch.items.map (·.request)

/-- What an event makes of the scheduler of a run. -/
structure Does (run : Batch.Run) (event : Batch.Event) (result : Scheduler × List Batch.Effect) :
    Prop where
  scheduler : (run.step event).scheduler = result.1
  outcomes : (run.step event).outcomes = run.outcomes ++ Batch.outcomesOf result.2

theorem does_flush (run : Batch.Run) : Does run .flush run.scheduler.dispatch :=
  ⟨run.scheduler_apply _, run.outcomes_apply _⟩

theorem does_schedule (run : Batch.Run) (request : Request) :
    Does run (.schedule request) (run.scheduler.schedule request) :=
  ⟨Batch.Run.scheduler_apply _ _, Batch.Run.outcomes_apply _ _⟩

theorem does_turn (run : Batch.Run) (batch : Nat) (reply : Option (Outcome (List Response))) :
    Does run (.turn batch reply) (run.scheduler.turn batch reply) :=
  ⟨run.scheduler_apply _, run.outcomes_apply _⟩

/-- A client takes a step, and its scheduler has come through more events. -/
structure Keeps (answer : Request → Outcome Response) (config : Batch.Config) (first : Counter)
    (events : List Batch.Event) (client : Client) (effects : List Effect)
    (result : Client × List Effect) : Prop where
  follows : Follows config first events result.1 (effects ++ result.2)
  turned : Turned answer client result.1 result.2
  justified : ∀ effect ∈ result.2, effect.Justified client.endpoint

/-- The client with another scheduler. -/
def Client.withScheduler (client : Client) (s : Scheduler) : Client :=
  { client with scheduler := some s, executor := { client.executor with counter := s.counter } }

theorem schedule_eq {s : Scheduler} (scheduler : client.scheduler = some s)
    (counter : client.executor.counter = s.counter)
    (operation : Scheduler → Scheduler × List Batch.Effect) :
    client.schedule operation =
      (operation s).2.foldl Client.absorb (client.withScheduler (operation s).1, []) := by
  unfold Client.schedule
  rw [scheduler]
  dsimp only
  rw [counter]
  rfl

theorem Client.withScheduler_self {s : Scheduler} (scheduler : client.scheduler = some s)
    (counter : client.executor.counter = s.counter) : client.withScheduler s = client := by
  obtain ⟨endpoint, ⟨config, drawn, url⟩, gathers, calls⟩ := client
  obtain rfl : gathers = some s := scheduler
  obtain rfl : drawn = s.counter := counter
  rfl

namespace Follows

theorem opened (follows : Follows config first events client effects) :
    (alone config first events).scheduler.closed = false :=
  Batch.Run.opened_steps rfl follows.unclosed

/-- The client keeps up with an event of its scheduler, given what the event does there. -/
theorem snoc (follows : Follows config first events client effects) {event : Batch.Event}
    (unclosed : event ≠ .close) {result : Scheduler × List Batch.Effect}
    (does : Does (alone config first events) event result) {client' : Client}
    {more : List Effect} (scheduler : client'.scheduler = some result.1)
    (counter : client'.executor.counter = result.1.counter)
    (tracked : Tracked (Batch.requests events ++ Batch.requests [event])
      (((alone config first events).outcomes ++ Batch.outcomesOf result.2).map (·.1)) client')
    (posted : ∀ {batch requests post}, .postedBatch batch requests post ∈ more →
      ∃ dispatch, result.1.batches[batch]? = some dispatch ∧
        requests = dispatch.items.map (·.request)) :
    Follows config first (events ++ [event]) client' (effects ++ more) := by
  have last : alone config first (events ++ [event]) = (alone config first events).step event :=
    Batch.Run.steps_append _ events [event]
  refine ⟨by simpa using ⟨follows.unclosed, unclosed.symm⟩, ?_, ?_, ?_,
    fun {batch requests post} member => ?_⟩
  · rw [last, does.scheduler, scheduler]
  · rw [last, does.scheduler, counter]
  · rwa [last, does.outcomes, Batch.requests_append follows.unclosed]
  · rw [last, does.scheduler]
    rcases List.mem_append.mp member with member | member
    · obtain ⟨dispatch, there, rfl⟩ := follows.posted member
      obtain ⟨dispatch', there', items⟩ := Batch.Run.items_step there event
      rw [does.scheduler] at there'
      exact ⟨dispatch', there', by rw [items]⟩
    · exact posted member

/-- An event that brings no call and settles none leaves the tickets as they are. -/
theorem tracked_same (follows : Follows config first events client effects)
    {result : Scheduler × List Batch.Effect} (unsettling : Batch.outcomesOf result.2 = [])
    {client' : Client} (calls : client'.calls = client.calls) :
    Tracked (Batch.requests events ++ [])
      (((alone config first events).outcomes ++ Batch.outcomesOf result.2).map (·.1)) client' := by
  rw [unsettling, List.append_nil, List.append_nil]
  exact follows.tracked.of_calls calls

theorem not_posted {more : List Effect} (silent : ∀ effect ∈ more, effect.posts = false)
    {batch : Nat} {requests : List Request} {post : Post} :
    .postedBatch batch requests post ∉ more :=
  fun member => by simpa [Effect.posts] using silent _ member

theorem load_withScheduler {s : Scheduler} (scheduler : client.scheduler = some s)
    (s' : Scheduler) : (client.withScheduler s').load + s.load = client.load + s'.load := by
  simp only [Client.load, Client.withScheduler, scheduler, Option.elim_some]
  omega

variable (answer) in
/-- The pending list becomes a batch. -/
theorem dispatch (follows : Follows config first events client effects) :
    Keeps answer config first (events ++ [.flush]) client effects (client.schedule (·.dispatch)) ∧
      (client.schedule (·.dispatch)).1.load +
        (if (alone config first events).scheduler.pending = [] then 0 else 1) = client.load := by
  generalize hs : (alone config first events).scheduler = s
  have scheduler : client.scheduler = some s := hs ▸ follows.scheduler
  have counter : client.executor.counter = s.counter := hs ▸ follows.counter
  obtain ⟨more, heffects, quiet⟩ :=
    absorb_idle (idle_dispatch s) (client.withScheduler s.dispatch.1, [])
  have does : Does (alone config first events) .flush s.dispatch := hs ▸ does_flush _
  have eq : client.schedule (·.dispatch) = (client.withScheduler s.dispatch.1, more) :=
    (schedule_eq scheduler counter _).trans heffects
  rw [eq]
  refine ⟨⟨follows.snoc (by simp) does rfl rfl (follows.tracked_same ?_ rfl) ?_,
    Turned.of_calls rfl rfl quiet.outcomes,
    fun effect member => Effect.justified_of_silent (quiet.silent effect member) _⟩, ?_⟩
  · exact s.outcomesOf_dispatch
  · exact fun member => absurd member (not_posted quiet.silent)
  · have load := load_withScheduler scheduler s.dispatch.1
    have dispatched := s.load_dispatch
    simp only
    omega

theorem fresh (follows : Follows config first events client effects) :
    (alone config first events).scheduler.nextTicket = (Batch.requests events).length ∧
      (alone config first events).scheduler.nextTicket ∉
        (alone config first events).outcomes.map (·.1) := by
  refine ⟨(Batch.Run.nextTicket_steps rfl follows.unclosed).trans (Nat.zero_add _), ?_⟩
  intro given
  have conserved := (Batch.Run.conserved_initial config first).steps events
  have below := conserved.mem_iff.mp (List.mem_append_left _ given)
  exact Nat.lt_irrefl _ (List.mem_range.mp below)

/-- The attempt of a call waits under the next ticket. -/
theorem attempt (follows : Follows config first events client effects)
    (there : client.calls[call]? = some c) (resting : c.stage = .resting) :
    Keeps answer config first (events ++ [.schedule c.request]) client effects
      (client.attempt call) ∧ (client.attempt call).1.load + 1 ≤ client.load := by
  have opened := follows.opened
  obtain ⟨next, unsettled⟩ := follows.fresh
  have gathered : Tracked _ _ (client.withCall call _) :=
    follows.tracked.gather (next ▸ unsettled) c
  rw [← next] at gathered
  generalize hs : (alone config first events).scheduler = s at *
  have scheduler : client.scheduler = some s := hs ▸ follows.scheduler
  have counter : client.executor.counter = s.counter := hs ▸ follows.counter
  have idle := idle_schedule opened c.request
  let waiting := client.withCall call { c with stage := .gathered s.nextTicket }
  have waits : waiting.scheduler = some s := scheduler
  obtain ⟨more, heffects, quiet⟩ :=
    absorb_idle idle (waiting.withScheduler (s.schedule c.request).1, [])
  have made : client.attempt call =
      (waiting.withScheduler (s.schedule c.request).1, .began call c.attempt :: more) := by
    have scheduled : waiting.schedule (·.schedule c.request) =
        (waiting.withScheduler (s.schedule c.request).1, [] ++ more) :=
      (schedule_eq waits counter _).trans heffects
    unfold Client.attempt
    simp only [there, scheduler]
    show ((waiting.schedule (·.schedule c.request)).1,
      [Effect.began call c.attempt] ++ (waiting.schedule (·.schedule c.request)).2) = _
    rw [scheduled]
    rfl
  have silent : ∀ effect ∈ Effect.began call c.attempt :: more, effect.posts = false := by
    intro effect member
    rcases List.mem_cons.mp member with rfl | member
    · rfl
    · exact quiet.silent effect member
  have turned : Turned answer client waiting (.began call c.attempt :: more) :=
    Turned.stage there (by simp [resting]) (by simp) fun call => quiet.outcomes call
  have does : Does (alone config first events) (.schedule c.request) (s.schedule c.request) :=
    hs ▸ does_schedule _ _
  rw [made]
  refine ⟨⟨follows.snoc (by simp) does rfl rfl ?_ ?_,
    ⟨turned.setting, turned.length, turned.calls, turned.beyond⟩,
    fun effect member => Effect.justified_of_silent (silent effect member) _⟩, ?_⟩
  · rw [outcomesOf_idle idle, List.append_nil]
    exact gathered.of_calls rfl
  · exact fun member => absurd member (not_posted silent)
  · have weight := Client.load_withCall there { c with stage := .gathered s.nextTicket }
    have load := load_withScheduler waits (s.schedule c.request).1
    have scheduled := Batch.Scheduler.load_schedule opened c.request
    have before : waiting.load = (client.withCall call _).load := rfl
    simp only [Call.weight, resting, Stage.weight] at weight
    simp only
    omega

/-! ### The turn of a batch -/

variable {s : Scheduler} {batch : Nat} {reply : Option (Outcome (List Response))}
  {dispatch : Batch.Dispatch}

variable (answer) in
theorem turn_waits (follows : Follows config first events client effects)
    (hs : (alone config first events).scheduler = s)
    (waits : s.turn batch reply = (s, [])) :
    Keeps answer config first (events ++ [.turn batch reply]) client effects
      (client.schedule (·.turn batch reply)) ∧
      (client.schedule (·.turn batch reply)).1.load = client.load := by
  have scheduler : client.scheduler = some s := hs ▸ follows.scheduler
  have counter : client.executor.counter = s.counter := hs ▸ follows.counter
  have does : Does (alone config first events) (.turn batch reply) (s, []) :=
    waits ▸ hs ▸ does_turn _ _ _
  have eq : client.schedule (·.turn batch reply) = (client, []) := by
    rw [schedule_eq scheduler counter, waits, Client.withScheduler_self scheduler counter]
    rfl
  rw [eq]
  exact ⟨⟨follows.snoc (by simp) does scheduler counter (follows.tracked_same rfl rfl) (by simp),
    Turned.of_calls rfl rfl fun _ => rfl, by simp⟩, rfl⟩

variable (answer) in
theorem turn_sends (follows : Follows config first events client effects)
    (hs : (alone config first events).scheduler = s)
    (there : s.batches[batch]? = some dispatch) (queued : dispatch.stage = .queued)
    (sends : s.turn batch reply =
      (s.withStage batch .sending, [.sent batch (dispatch.items.map (·.request))])) :
    Keeps answer config first (events ++ [.turn batch reply]) client effects
      (client.schedule (·.turn batch reply)) ∧
      (client.schedule (·.turn batch reply)).1.load + 1 = client.load := by
  have scheduler : client.scheduler = some s := hs ▸ follows.scheduler
  have does : Does (alone config first events) (.turn batch reply)
      (s.withStage batch .sending, [.sent batch (dispatch.items.map (·.request))]) :=
    sends ▸ hs ▸ does_turn _ _ _
  have there' : (s.withStage batch .sending).batches[batch]? =
      some { dispatch with stage := .sending } := by
    rw [Scheduler.withStage, List.getElem?_modify_eq, there]
    rfl
  have eq : client.schedule (·.turn batch reply) =
      (client.withScheduler (s.withStage batch .sending),
        Client.postEffects client.endpoint (requestsText (dispatch.items.map (·.request)))
          (.postedBatch batch (dispatch.items.map (·.request))) (.refusedBatch batch)) := by
    rw [schedule_eq scheduler (hs ▸ follows.counter), sends]
    rfl
  rw [eq]
  have cases := postEffects_cases client.endpoint (requestsText (dispatch.items.map (·.request)))
    (.postedBatch batch (dispatch.items.map (·.request))) (.refusedBatch batch)
  refine ⟨⟨follows.snoc (by simp) does rfl rfl (follows.tracked_same rfl rfl) ?_,
    Turned.of_calls rfl rfl fun call => ?_, ?_⟩, ?_⟩
  · intro other requests post member
    have own : other = batch ∧ requests = dispatch.items.map (·.request) := by
      rcases cases with ⟨-, made, same⟩ | ⟨-, same⟩ <;> simp only [same] at member
      · simp only [List.mem_cons, List.not_mem_nil, or_false, reduceCtorEq, false_or,
          Effect.postedBatch.injEq] at member
        exact ⟨member.1, member.2.1⟩
      · simp at member
    obtain ⟨rfl, rfl⟩ := own
    exact ⟨_, there', rfl⟩
  · rcases cases with ⟨-, made, same⟩ | ⟨-, same⟩ <;> simp only [same] <;> rfl
  · intro effect member
    rcases cases with ⟨built, made, same⟩ | ⟨unbuilt, same⟩ <;>
      simp only [same, List.mem_cons, List.not_mem_nil, or_false] at member <;>
      rcases member with rfl | rfl
    · trivial
    · exact built
    · trivial
    · exact ⟨unbuilt, rfl⟩
  · have load := load_withScheduler scheduler (s.withStage batch .sending)
    have staged := Batch.Scheduler.load_withStage there .sending
    simp only [queued, Batch.Stage.weight] at staged
    simp only
    omega

theorem turn_takes (follows : Follows config first events client effects)
    (hs : (alone config first events).scheduler = s)
    (there : s.batches[batch]? = some dispatch) (sending : dispatch.stage = .sending)
    {outcomes : List (Nat × Outcome Response)}
    (takes : s.turn batch reply = (s.withStage batch .over, Scheduler.settledAll outcomes))
    (right : ∀ entry ∈ outcomes, ∀ request, (Batch.requests events)[entry.1]? = some request →
      entry.2 = answer request) :
    Keeps answer config first (events ++ [.turn batch reply]) client effects
      (client.schedule (·.turn batch reply)) ∧
      (client.schedule (·.turn batch reply)).1.load + 1 ≤ client.load := by
  have scheduler : client.scheduler = some s := hs ▸ follows.scheduler
  have does : Does (alone config first events) (.turn batch reply)
      (s.withStage batch .over, Scheduler.settledAll outcomes) := takes ▸ hs ▸ does_turn _ _ _
  obtain ⟨more, heffects, absorbed⟩ := absorbed_settledAll
    (client.withScheduler (s.withStage batch .over), []) (follows.tracked.of_calls rfl) right
  have eq : client.schedule (·.turn batch reply) =
      (((Scheduler.settledAll outcomes).foldl Client.absorb
        (client.withScheduler (s.withStage batch .over), [])).1, more) := by
    rw [schedule_eq scheduler (hs ▸ follows.counter), takes]
    exact Prod.ext rfl heffects
  rw [eq]
  have opened : Turned answer client (client.withScheduler (s.withStage batch .over)) [] :=
    .of_calls rfl rfl fun _ => rfl
  refine ⟨⟨follows.snoc (by simp) does absorbed.scheduler absorbed.counter ?_ ?_,
    opened.trans absorbed.turned,
    fun effect member => Effect.justified_of_silent (absorbed.silent effect member) _⟩, ?_⟩
  · rw [Batch.outcomesOf_settledAll, List.map_append]
    exact (List.append_nil (Batch.requests events)).symm ▸ absorbed.tracked
  · exact fun member => absurd member (not_posted absorbed.silent)
  · have load := load_withScheduler scheduler (s.withStage batch .over)
    have staged := Batch.Scheduler.load_withStage there .over
    have settled := absorbed.load
    simp only [sending, Batch.Stage.weight] at staged
    simp only at settled ⊢
    omega

/-- The task of a batch gets a turn.  If it takes a reply, this must be what the attempts of its
calls end with. -/
theorem turn (follows : Follows config first events client effects) (batch : Nat)
    (reply : Option (Outcome (List Response)))
    (right : ∀ dispatch taken,
      (alone config first events).scheduler.batches[batch]? = some dispatch →
      reply = some taken → ∀ entry ∈ Batch.settle taken dispatch.items,
      ∀ request, (Batch.requests events)[entry.1]? = some request → entry.2 = answer request) :
    Keeps answer config first (events ++ [.turn batch reply]) client effects
      (client.schedule (·.turn batch reply)) ∧
      (client.schedule (·.turn batch reply)).1.load +
        (if client.awaits (.turn batch reply) then 1 else 0) ≤ client.load := by
  have opened := follows.opened
  generalize hs : (alone config first events).scheduler = s at right opened
  rcases s.turn_cases_opened opened batch reply with
    ⟨waits, still⟩ | ⟨dispatch, there, queued, sends⟩ |
    ⟨dispatch, taken, there, sending, rfl, takes⟩
  · obtain ⟨keeps, load⟩ := follows.turn_waits answer hs waits
    have idle : client.awaits (.turn batch reply) = false := by
      rw [Client.awaits, follows.scheduler, hs, Option.any_some, Scheduler.awaits]
      cases there : s.batches[batch]? with
      | none => rfl
      | some dispatch =>
        rcases still dispatch there with finished | ⟨sending, rfl⟩
        · simp [finished]
        · simp [sending]
    rw [idle, if_neg (by decide)]
    exact ⟨keeps, Nat.le_of_eq load⟩
  · obtain ⟨keeps, load⟩ := follows.turn_sends answer hs there queued sends
    exact ⟨keeps, by split <;> omega⟩
  · obtain ⟨keeps, load⟩ :=
      follows.turn_takes hs there sending takes (right dispatch taken there rfl)
    exact ⟨keeps, by split <;> omega⟩

end Follows
end Http
end NodeCall
