import NodeCall.Http.Client
import NodeCall.Proofs.Batch.Closing
import NodeCall.Proofs.Results

/-!
# Runs of an HTTP client

A run is a client and the effects that its events have had.  This module looks at what single
operations do: an attempt that is over leaves its call resting or gives it an outcome, and every
event that a client waits for takes something off a sum that only new calls add to.
-/

namespace NodeCall

namespace Http

/-- The outcome that an effect gives to a call. -/
def Effect.outcome? (call : Nat) : Effect → Option (Outcome Response)
  | .finished other outcome => if other = call then some outcome else none
  | _ => none

/-- The outcomes that effects give to a call. -/
def outcomesOf (call : Nat) (effects : List Effect) : List (Outcome Response) :=
  effects.filterMap (Effect.outcome? call)

@[simp] theorem outcomesOf_append (call : Nat) (effects more : List Effect) :
    outcomesOf call (effects ++ more) = outcomesOf call effects ++ outcomesOf call more :=
  List.filterMap_append

/-- Something is posted, or a batch could not be. -/
def Effect.posts : Effect → Bool
  | .posted _ _ | .postedBatch _ _ _ | .refusedBatch _ _ => true
  | _ => false

/-- The requests that are sent, in order. -/
def sends : List Event → List Request
  | [] => []
  | .send request :: rest => request :: sends rest
  | _ :: rest => sends rest

/-- What stays the same in a client as long as it lives. -/
structure Setting where
  endpoint : Endpoint
  config : TransportConfig
  url : String

def Client.setting (client : Client) : Setting :=
  ⟨client.endpoint, client.executor.config, client.executor.url⟩

/-- A client, and the effects there have been. -/
structure Run where
  client : Client
  effects : List Effect

namespace Run

def start (client : Client) : Run := ⟨client, []⟩

def step (run : Run) (event : Event) : Run :=
  ⟨(run.client.step event).1, run.effects ++ (run.client.step event).2⟩

def steps (run : Run) (events : List Event) : Run := events.foldl step run

/-- The outcomes that a call has been given. -/
def outcomes (run : Run) (call : Nat) : List (Outcome Response) := outcomesOf call run.effects

end Run

/-! ### What is still to come -/

/-- What the items of a list are worth together. -/
def total {α : Type} (weight : α → Nat) : List α → Nat
  | [] => 0
  | item :: rest => weight item + total weight rest

theorem total_snoc {α : Type} (weight : α → Nat) (items : List α) (item : α) :
    total weight (items ++ [item]) = total weight items + weight item := by
  induction items with
  | nil => simp [total]
  | cons first rest ih =>
    simp only [List.cons_append, total, ih]
    omega

theorem total_modify {α : Type} (weight : α → Nat) (f : α → α) {items : List α} {index : Nat}
    {item : α} (there : items[index]? = some item) :
    total weight (items.modify index f) + weight item = total weight items + weight (f item) := by
  induction items generalizing index with
  | nil => simp at there
  | cons first rest ih =>
    cases index with
    | zero =>
      obtain rfl : first = item := by simpa using there
      simp only [List.modify_zero_cons, total]
      omega
    | succ index =>
      have hrest := ih (by simpa using there)
      simp only [List.modify_succ_cons, total]
      omega

/-- How much a call is worth when so many further attempts are allowed. -/
def Stage.weight (further : Nat) : Stage → Nat
  | .posting | .gathered _ => 5 * further + 1
  | .resting => 5 * further + 5
  | .over => 0

def Call.weight (retryCount : UInt32) (c : Call) : Nat :=
  c.stage.weight (retryCount.toNat - c.attempt.toNat)

end Http

namespace Batch

def Stage.weight : Stage → Nat
  | .queued => 2
  | .sending => 1
  | .over => 0

/-- A pending list is worth its timer and the two turns of the batch it becomes. -/
def pendingWeight : List Item → Nat
  | [] => 0
  | _ :: _ => 3

namespace Scheduler

def load (s : Scheduler) : Nat := pendingWeight s.pending + Http.total (·.stage.weight) s.batches

theorem load_dispatch (s : Scheduler) :
    s.dispatch.1.load + (if s.pending = [] then 0 else 1) = s.load := by
  unfold load
  rw [batches_dispatch, pending_dispatch]
  cases s.pending with
  | nil => rfl
  | cons item rest =>
    simp only [List.isEmpty_cons, Bool.false_eq_true, if_false, reduceCtorEq, Http.total_snoc,
      pendingWeight, Stage.weight]
    omega

theorem load_schedule {s : Scheduler} (opened : s.closed = false) (request : Request) :
    (s.schedule request).1.load ≤ s.load + 3 := by
  have hjoined : (s.joined request).load ≤ s.load + 3 := by
    show pendingWeight (s.pending ++ _) + Http.total _ s.batches ≤
      pendingWeight s.pending + Http.total _ s.batches + 3
    cases s.pending <;> simp only [List.nil_append, List.cons_append, pendingWeight] <;> omega
  rcases s.schedule_cases request with
    ⟨closed, -⟩ | ⟨-, -, eq⟩ | ⟨-, -, timer, effects, -, eq⟩
  · exact absurd (closed.symm.trans opened) (by decide)
  · have h := (s.joined request).load_dispatch
    rw [eq]
    omega
  · rw [eq]
    exact hjoined

theorem load_withStage {s : Scheduler} {batch : Nat} {dispatch : Dispatch}
    (there : s.batches[batch]? = some dispatch) (stage : Stage) :
    (s.withStage batch stage).load + dispatch.stage.weight = s.load + stage.weight := by
  have h := Http.total_modify (fun d : Dispatch => d.stage.weight) ({ · with stage }) there
  simp only [load, withStage]
  simp only at h
  omega

/-- A scheduler waits for its timer, and for the turn that a batch needs next. -/
def awaits (s : Scheduler) : Http.Event → Bool
  | .fire generation => s.timer = some generation
  | .turn batch reply => (s.batches[batch]?).any fun dispatch =>
    match dispatch.stage with
    | .queued => reply.isNone
    | .sending => reply.isSome
    | .over => false
  | _ => false

end Scheduler

end Batch

namespace Http

/-- A call waits for an answer, or for the end of its rest. -/
def Call.awaits (c : Call) : Event → Bool
  | .delivered _ _ =>
    match c.stage with
    | .posting => true
    | _ => false
  | .wake _ =>
    match c.stage with
    | .resting => true
    | _ => false
  | _ => false

namespace Client

/-- What a client is worth: no less than the number of events it still waits for. -/
def load (client : Client) : Nat :=
  total (Call.weight client.executor.config.retryCount) client.calls +
    client.scheduler.elim 0 (·.load)

/-- The client waits for an event. -/
def awaits (client : Client) : Event → Bool
  | .delivered call delivery => (client.calls[call]?).any (·.awaits (.delivered call delivery))
  | .wake call => (client.calls[call]?).any (·.awaits (.wake call))
  | .fire generation => client.scheduler.any (·.awaits (.fire generation))
  | .turn batch reply => client.scheduler.any (·.awaits (.turn batch reply))
  | _ => false

/-! ### Attempts that are over -/

variable {client : Client} {call : Nat} {c : Call}

theorem load_withCall (there : client.calls[call]? = some c) (c' : Call) :
    (client.withCall call c').load + c.weight client.executor.config.retryCount =
      client.load + c'.weight client.executor.config.retryCount := by
  have h := total_modify (Call.weight client.executor.config.retryCount) (fun _ => c') there
  rw [← List.set_eq_modify] at h
  show total (Call.weight client.executor.config.retryCount) (client.calls.set call c') +
    client.scheduler.elim 0 (·.load) + _ = _
  unfold load
  omega

/-- A call whose attempt is over rests before the next one, or it is given the outcome. -/
theorem conclude_cases (there : client.calls[call]? = some c) (outcome : Outcome Response) :
    (c.attempt < client.executor.config.retryCount ∧ ∃ delay, client.conclude call outcome =
      (client.withCall call { c with attempt := c.attempt + 1, stage := .resting },
        [.resting call delay])) ∨
    client.conclude call outcome = (client.withCall call { c with stage := .over },
      [.finished call (Executor.conclude client.executor.config.raw c.request.id
        (Executor.judge client.executor.url c.request outcome))]) := by
  unfold conclude
  simp only [there]
  cases Executor.judge client.executor.url c.request outcome with
  | ok response => exact .inr rfl
  | error e =>
    simp only [RetryPolicy.next]
    by_cases again : client.executor.policy.shouldRetry c.attempt e = true
    · refine .inl ⟨?_, _, by rw [if_pos again]⟩
      simp only [RetryPolicy.shouldRetry, Bool.and_eq_true, decide_eq_true_eq] at again
      exact again.1
    · exact .inr (by rw [if_neg again])

/-- An attempt is worth more than the rest after it. -/
theorem load_conclude (there : client.calls[call]? = some c)
    (running : c.stage = .posting ∨ ∃ ticket, c.stage = .gathered ticket)
    (outcome : Outcome Response) : (client.conclude call outcome).1.load + 1 ≤ client.load := by
  have weight : c.weight client.executor.config.retryCount =
      5 * (client.executor.config.retryCount.toNat - c.attempt.toNat) + 1 := by
    rcases running with stage | ⟨ticket, stage⟩ <;> simp [Call.weight, stage, Stage.weight]
  rcases conclude_cases there outcome with ⟨lt, delay, eq⟩ | eq <;> rw [eq]
  · have h := load_withCall there { c with attempt := c.attempt + 1, stage := .resting }
    rw [UInt32.lt_iff_toNat_lt] at lt
    have next : (c.attempt + 1).toNat = c.attempt.toNat + 1 := by
      have bound := client.executor.config.retryCount.toNat_lt
      rw [UInt32.toNat_add, UInt32.toNat_one]
      exact Nat.mod_eq_of_lt (by omega)
    simp only [Call.weight, Stage.weight, next] at h weight ⊢
    rw [weight] at h
    show (client.withCall call _).load + 1 ≤ _
    omega
  · have h := load_withCall there { c with stage := .over }
    simp only [Call.weight, Stage.weight] at h weight
    rw [weight] at h
    show (client.withCall call _).load + 1 ≤ _
    omega

/-! ### Attempts that begin -/

/-- The client with a POST under way for a call. -/
def posting (client : Client) (call : Nat) (c : Call) : Client :=
  client.withCall call { c with stage := .posting }

theorem attempt_posting (scheduler : client.scheduler = none)
    (there : client.calls[call]? = some c) :
    (client.endpoint.canPost = true ∧ ∃ post, client.attempt call =
      (client.posting call c, [.began call c.attempt, .told c.request.text, .posted call post])) ∨
    (client.endpoint.canPost = false ∧
      let concluded := (client.posting call c).conclude call (.error (.network "builder error"))
      client.attempt call =
        (concluded.1, [.began call c.attempt, .told c.request.text] ++ concluded.2)) := by
  unfold Client.attempt Endpoint.post
  simp only [there, scheduler]
  cases client.endpoint.canPost with
  | true => exact .inl ⟨rfl, _, rfl⟩
  | false => exact .inr ⟨rfl, rfl⟩

theorem getElem?_withCall (there : client.calls[call]? = some c) (c' : Call) :
    (client.withCall call c').calls[call]? = some c' :=
  List.getElem?_set_self (List.getElem?_eq_some_iff.mp there).1

/-! ### Clients that are made -/

/-- Whether a client gathers its calls makes a difference to its scheduler only. -/
theorem new_eq (raw : String) (config : Config) :
    Client.new raw config = (Client.new raw { config with batch := none }).map fun client =>
      { client with scheduler := config.batch.map (Batch.Scheduler.new · config.first) } := by
  unfold Client.new
  cases NodeCall.Endpoint.split raw <;> rfl

theorem retryCount_of_new {raw : String} {config : Config}
    (made : Client.new raw config = .ok client) :
    client.executor.config.retryCount = config.transport.retryCount := by
  unfold Client.new at made
  obtain ⟨parts, -, rest⟩ := bind_eq_ok.mp made
  obtain rfl := Except.ok.inj rest
  rfl

theorem of_new {raw : String} {config : Config} (made : Client.new raw config = .ok client) :
    client.calls = [] ∧ client.executor.counter = config.first ∧
      client.scheduler = config.batch.map (Batch.Scheduler.new · config.first) := by
  unfold Client.new at made
  obtain ⟨parts, -, rest⟩ := bind_eq_ok.mp made
  obtain rfl := Except.ok.inj rest
  exact ⟨rfl, rfl, rfl⟩

theorem load_of_new {raw : String} {config : Config} (made : Client.new raw config = .ok client) :
    client.load = 0 := by
  obtain ⟨calls, -, scheduler⟩ := of_new made
  rw [load, calls, scheduler]
  cases config.batch <;> rfl

end Client

/-! ### What becomes of a call -/

/-- What a call ends with when all its attempts at a request have this outcome. -/
def Setting.verdict (setting : Setting) (answer : Request → Outcome Response) (request : Request) :
    Outcome Response :=
  Executor.conclude setting.config.raw request.id
    (Executor.judge setting.url request (answer request))

/-- A call stays under way or over without a new outcome, or it is given its only one. -/
inductive Evolves (verdict : Request → Outcome Response) (c c' : Call) :
    List (Outcome Response) → Prop
  | stays (request : c'.request = c.request) (finished : c'.stage = .over ↔ c.stage = .over) :
    Evolves verdict c c' []
  | ends (live : c.stage ≠ .over) (finished : c'.stage = .over) :
    Evolves verdict c c' [verdict c.request]

theorem Evolves.refl (verdict : Request → Outcome Response) (c : Call) : Evolves verdict c c [] :=
  .stays rfl .rfl

theorem Evolves.trans {verdict : Request → Outcome Response} {c c' c'' : Call}
    {outcomes more : List (Outcome Response)} (first : Evolves verdict c c' outcomes)
    (second : Evolves verdict c' c'' more) : Evolves verdict c c'' (outcomes ++ more) := by
  cases first with
  | stays request finished =>
    cases second with
    | stays request' finished' => exact .stays (request'.trans request) (finished'.trans finished)
    | ends live finished' =>
      rw [request]
      exact .ends (fun ended => live (finished.mpr ended)) finished'
  | ends live finished =>
    cases second with
    | stays request' finished' => exact .ends live (finished'.mpr finished)
    | ends live' finished' => exact absurd finished live'

/-- What an operation does to the calls of a client whose attempts have these outcomes. -/
structure Turned (answer : Request → Outcome Response) (client client' : Client)
    (effects : List Effect) : Prop where
  setting : client'.setting = client.setting
  length : client'.calls.length = client.calls.length
  calls : ∀ {call c}, client.calls[call]? = some c → ∃ c', client'.calls[call]? = some c' ∧
    Evolves (client.setting.verdict answer) c c' (outcomesOf call effects)
  beyond : ∀ call, client.calls.length ≤ call → outcomesOf call effects = []

namespace Turned

variable {answer : Request → Outcome Response} {client client' client'' : Client}
  {effects more : List Effect} {call : Nat} {c : Call}

theorem of_calls (setting : client'.setting = client.setting) (calls : client'.calls = client.calls)
    (silent : ∀ call, outcomesOf call effects = []) : Turned answer client client' effects := by
  refine ⟨setting, by rw [calls], fun {call c} there => ⟨c, by rw [calls, there], ?_⟩,
    fun call _ => silent call⟩
  rw [silent]
  exact .refl _ c

theorem trans (first : Turned answer client client' effects)
    (second : Turned answer client' client'' more) :
    Turned answer client client'' (effects ++ more) := by
  refine ⟨second.setting.trans first.setting, second.length.trans first.length, ?_, ?_⟩
  · intro call c there
    obtain ⟨c', there', evolves⟩ := first.calls there
    obtain ⟨c'', there'', evolves'⟩ := second.calls there'
    rw [first.setting] at evolves'
    refine ⟨c'', there'', ?_⟩
    rw [outcomesOf_append]
    exact evolves.trans evolves'
  · intro call le
    rw [outcomesOf_append, first.beyond call le, second.beyond call (first.length ▸ le)]
    rfl

theorem withCall (there : client.calls[call]? = some c) {c' : Call}
    (evolves : Evolves (client.setting.verdict answer) c c' (outcomesOf call effects))
    (others : ∀ other, other ≠ call → outcomesOf other effects = []) :
    Turned answer client (client.withCall call c') effects := by
  have lt := (List.getElem?_eq_some_iff.mp there).1
  refine ⟨rfl, List.length_set, fun {other o} hother => ?_, fun other le => others other ?_⟩
  swap
  · rintro rfl
    exact Nat.lt_irrefl _ (Nat.lt_of_lt_of_le lt le)
  by_cases same : other = call
  · subst same
    obtain rfl : c = o := Option.some.inj (there.symm.trans hother)
    exact ⟨c', List.getElem?_set_self lt, evolves⟩
  · refine ⟨o, (List.getElem?_set_ne (Ne.symm same)).trans hother, ?_⟩
    rw [others other same]
    exact .refl _ o

theorem stage (there : client.calls[call]? = some c) (live : c.stage ≠ .over) {stage : Stage}
    (live' : stage ≠ .over) (silent : ∀ call, outcomesOf call effects = []) :
    Turned answer client (client.withCall call { c with stage }) effects := by
  refine withCall there ?_ fun other _ => silent other
  rw [silent]
  exact .stays rfl (by simp [live, live'])

theorem conclude (there : client.calls[call]? = some c) (live : c.stage ≠ .over)
    {outcome : Outcome Response} (right : outcome = answer c.request) :
    Turned answer client (client.conclude call outcome).1 (client.conclude call outcome).2 := by
  subst right
  rcases Client.conclude_cases there (answer c.request) with ⟨-, delay, eq⟩ | eq <;> rw [eq]
  · exact withCall there (.stays rfl (by simp [live])) fun other _ => rfl
  · refine withCall there ?_ fun other ne => ?_
    · have own : outcomesOf call [.finished call (client.setting.verdict answer c.request)] =
          [client.setting.verdict answer c.request] := by
        simp [outcomesOf, Effect.outcome?]
      exact own ▸ .ends live rfl
    · simp [outcomesOf, Effect.outcome?, ne.symm]

end Turned

theorem posts_conclude {client : Client} {call : Nat} {c : Call}
    (there : client.calls[call]? = some c) (outcome : Outcome Response) :
    ∀ effect ∈ (client.conclude call outcome).2, effect.posts = false := by
  rcases Client.conclude_cases there outcome with ⟨-, delay, eq⟩ | eq <;> simp [eq, Effect.posts]

end Http
end NodeCall
