import NodeCall.Proofs.Http.Gathering
import NodeCall.Proofs.Http.Node

/-!
# Calm runs

In a calm run the node answers every POST, no attempt reaches its timeout, and the client is not
closed.  Whether the client makes a POST for every attempt or gathers them into batches, each
attempt at a request then ends in the one way that the node and the endpoint allow, and the events
that the client waits for are bounded in number.
-/

namespace NodeCall.Http

/-! ### What a call ends with -/

/-- The request that is sent for a request with an id. -/
def completed (request : Request) : Request :=
  { request with version := if request.version.isEmpty then protocolVersion else request.version }

/-- What a call of a client that lets an attempt end like this ends with itself. -/
def Setting.result (setting : Setting) (answer : Request → Outcome Response) (request : Request) :
    Outcome Response :=
  if setting.config.methods.allows request.method then setting.verdict answer (completed request)
  else .error (.methodNotSupported request.method)

theorem prepare_of_known (executor : Executor) {request : Request} (known : request.id ≠ .null) :
    executor.prepare request = (completed request, executor) := by
  unfold Executor.prepare
  cases hid : request.id with
  | null => exact absurd hid known
  | number n => simp [completed, hid]
  | text s => simp [completed, hid]

/-- How far a call of a request has come, and what it has been given. -/
inductive Progress (setting : Setting) (answer : Request → Outcome Response) (request : Request)
    (left : Prop) (c : Call) : List (Outcome Response) → Prop
  | waiting (live : c.stage ≠ .over) (same : c.request = completed request)
    (allowed : setting.config.methods.allows request.method = true) :
    Progress setting answer request left c []
  | told (finished : c.stage = .over) :
    Progress setting answer request left c [setting.result answer request]
  | gone (finished : c.stage = .over) (gave : left) (outcomes : List (Outcome Response)) :
    Progress setting answer request left c outcomes

namespace Progress

variable {setting : Setting} {answer : Request → Outcome Response} {request : Request}
  {left left' : Prop} {c c' : Call} {outcomes more : List (Outcome Response)}

theorem mono (progress : Progress setting answer request left c outcomes) (mono : left → left') :
    Progress setting answer request left' c outcomes := by
  cases progress with
  | waiting live same allowed => exact .waiting live same allowed
  | told finished => exact .told finished
  | gone finished gave => exact .gone finished (mono gave) _

theorem request_of_live (progress : Progress setting answer request left c outcomes)
    (live : c.stage ≠ .over) : c.request = completed request := by
  cases progress with
  | waiting _ same _ => exact same
  | told finished => exact absurd finished live
  | gone finished => exact absurd finished live

/-- A call that its caller does not leave gets no other outcome than its result. -/
theorem outcomes_prefix (progress : Progress setting answer request left c outcomes)
    (stays : ¬ left) : outcomes <+: [setting.result answer request] := by
  cases progress with
  | waiting => exact List.nil_prefix
  | told => exact List.prefix_refl _
  | gone _ gave => exact absurd gave stays

theorem outcomes_of_over (progress : Progress setting answer request left c outcomes)
    (stays : ¬ left) (finished : c.stage = .over) : outcomes = [setting.result answer request] := by
  cases progress with
  | waiting live => exact absurd finished live
  | told => rfl
  | gone _ gave => exact absurd gave stays

theorem evolves (progress : Progress setting answer request left c outcomes)
    (evolves : Evolves (setting.verdict answer) c c' more) :
    Progress setting answer request left c' (outcomes ++ more) := by
  cases evolves with
  | stays same finished =>
    rw [List.append_nil]
    cases progress with
    | waiting live same' allowed =>
      exact .waiting (fun ended => live (finished.mp ended)) (same.trans same') allowed
    | told ended => exact .told (finished.mpr ended)
    | gone ended gave => exact .gone (finished.mpr ended) gave _
  | ends live finished =>
    cases progress with
    | waiting _ same allowed =>
      have told : setting.verdict answer c.request = setting.result answer request := by
        rw [Setting.result, if_pos allowed, same]
      rw [List.nil_append, told]
      exact .told finished
    | told ended => exact absurd ended live
    | gone ended => exact absurd ended live

end Progress

/-! ### What happens in a calm run -/

/-- What a batch's task may be told: nothing, the answers to its calls, or that it was refused. -/
inductive Told (node : Node) (client : Client) (effects : List Effect) (batch : Nat) :
    Option (Outcome (List Response)) → Prop
  | nothing : Told node client effects batch none
  | replied {requests : List Request} {post : Post} {delivery : Delivery}
      (posted : .postedBatch batch requests post ∈ effects)
      (tells : node.TellsAll requests delivery) :
      Told node client effects batch (some (client.endpoint.responses requests delivery))
  | refused {error : TransportError} (refused : .refusedBatch batch error ∈ effects) :
      Told node client effects batch (some (.error error))

/-- An event that a node may bring about in a run, or a caller, or the clock. -/
inductive Brings (node : Node) (run : Run) : Event → Prop
  | send (request : Request) (known : request.id ≠ .null) : Brings node run (.send request)
  | delivered {call : Nat} {c : Call} {post : Post} {delivery : Delivery}
      (posted : .posted call post ∈ run.effects) (there : run.client.calls[call]? = some c)
      (tells : node.Tells c.request delivery) : Brings node run (.delivered call delivery)
  | wake (call : Nat) : Brings node run (.wake call)
  | leave (call : Nat) : Brings node run (.leave call)
  | fire (generation : UInt64) : Brings node run (.fire generation)
  | flush : Brings node run .flush
  | turn {batch : Nat} {reply : Option (Outcome (List Response))}
      (told : Told node run.client run.effects batch reply) : Brings node run (.turn batch reply)

/-- Nothing else happens in a run. -/
def Calm (node : Node) : Run → List Event → Prop
  | _, [] => True
  | run, event :: rest => Brings node run event ∧ Calm node (run.step event) rest

/-- How many of the events were waited for. -/
def waited : Run → List Event → Nat
  | _, [] => 0
  | run, event :: rest =>
    (if run.client.awaits event then 1 else 0) + waited (run.step event) rest

/-- Nothing is waited for any more. -/
def Client.Done (client : Client) : Prop := ∀ event, client.awaits event = false

def Stage.isOver : Stage → Bool
  | .over => true
  | _ => false

/-- Every call is over, and the scheduler has neither a timer nor a batch under way. -/
def Client.rests (client : Client) : Bool :=
  (client.calls.all fun c => c.stage.isOver) &&
    client.scheduler.all fun s => s.timer.isNone && s.batches.all (·.stage = .over)

theorem Client.done_of_rests {client : Client} (rests : client.rests = true) : client.Done := by
  rw [Client.rests, Bool.and_eq_true, List.all_eq_true] at rests
  obtain ⟨calls, scheduler⟩ := rests
  have finished {call : Nat} {c : Call} (there : client.calls[call]? = some c) :
      c.stage = .over := by
    have rests := calls c (List.mem_of_getElem? there)
    cases stage : c.stage with
    | posting | gathered _ | resting =>
      rw [stage] at rests
      cases rests
    | _ => rfl
  intro event
  cases event with
  | delivered call delivery =>
    cases there : client.calls[call]? with
    | none => simp [awaits, there]
    | some c => simp [awaits, Call.awaits, there, finished there]
  | wake call =>
    cases there : client.calls[call]? with
    | none => simp [awaits, there]
    | some c => simp [awaits, Call.awaits, there, finished there]
  | fire generation =>
    cases gathers : client.scheduler with
    | none => simp [awaits, gathers]
    | some s =>
      rw [gathers, Option.all_some, Bool.and_eq_true, Option.isNone_iff_eq_none] at scheduler
      simp [awaits, gathers, Batch.Scheduler.awaits, scheduler.1]
  | turn batch reply =>
    cases gathers : client.scheduler with
    | none => simp [awaits, gathers]
    | some s =>
      rw [gathers, Option.all_some, Bool.and_eq_true, List.all_eq_true] at scheduler
      cases there : s.batches[batch]? with
      | none => simp [awaits, gathers, Batch.Scheduler.awaits, there]
      | some dispatch =>
        have ended := of_decide_eq_true (scheduler.2 dispatch (List.mem_of_getElem? there))
        simp [awaits, gathers, Batch.Scheduler.awaits, there, ended]
  | _ => rfl

theorem sends_append (events more : List Event) :
    sends (events ++ more) = sends events ++ sends more := by
  induction events with
  | nil => rfl
  | cons event rest ih =>
    cases event with
    | send request => exact congrArg (request :: ·) ih
    | _ => exact ih

/-! ### The two kinds of clients -/

variable {node : Node} {answer : Request → Outcome Response} {setting : Setting}
  {batch? : Option Batch.Config} {first : Counter} {client client' : Client}
  {effects more : List Effect} {call : Nat} {c : Call}

/-- A client posts the attempts by itself, or its scheduler has come through some events. -/
inductive Backed (first : Counter) (client : Client) (effects : List Effect) :
    Option Batch.Config → Prop
  | posting (scheduler : client.scheduler = none)
      (posts : ∀ {call c ticket}, ¬ client.Gathered call c ticket) :
      Backed first client effects none
  | gathering {config : Batch.Config} {entered : List Batch.Event}
      (follows : Follows config first entered client effects) :
      Backed first client effects (some config)

/-- A client of either kind takes a step whose attempts end like this. -/
structure Carried (answer : Request → Outcome Response) (batch? : Option Batch.Config)
    (first : Counter) (client : Client) (effects : List Effect)
    (result : Client × List Effect) : Prop where
  backed : Backed first result.1 (effects ++ result.2) batch?
  turned : Turned answer client result.1 result.2
  justified : ∀ effect ∈ result.2, effect.Justified client.endpoint

theorem Keeps.carried {config : Batch.Config} {entered : List Batch.Event}
    {result : Client × List Effect}
    (keeps : Keeps answer config first entered client effects result) :
    Carried answer (some config) first client effects result :=
  ⟨.gathering keeps.follows, keeps.turned, keeps.justified⟩

namespace Backed

/-- An operation that leaves the scheduler alone, posts nothing and lets no call wait. -/
theorem kept (backed : Backed first client effects batch?)
    (scheduler : client'.scheduler = client.scheduler)
    (counter : client'.executor.counter = client.executor.counter)
    (waits : ∀ {call c ticket}, client'.Gathered call c ticket → client.Gathered call c ticket)
    (silent : ∀ effect ∈ more, effect.posts = false) :
    Backed first client' (effects ++ more) batch? := by
  cases backed with
  | posting alone posts => exact .posting (scheduler.trans alone) fun h => posts (waits h)
  | gathering follows =>
    refine .gathering ⟨follows.unclosed, scheduler.trans follows.scheduler,
      counter.trans follows.counter, follows.tracked.mono waits, fun member => ?_⟩
    rcases List.mem_append.mp member with before | now
    · exact follows.posted before
    · exact absurd now (Follows.not_posted silent)

theorem still (backed : Backed first client effects batch?) :
    Carried answer batch? first client effects (client, []) :=
  ⟨backed.kept rfl rfl id (by simp), .of_calls rfl rfl fun _ => rfl, by simp⟩

theorem conclude (backed : Backed first client effects batch?)
    (there : client.calls[call]? = some c) (live : c.stage ≠ .over) {outcome : Outcome Response}
    (right : outcome = answer c.request) :
    Carried answer batch? first client effects (client.conclude call outcome) := by
  have same := client.scheduler_conclude call outcome
  have silent := posts_conclude there outcome
  exact ⟨backed.kept same.1 (congrArg (·.counter) same.2) Client.gathered_conclude silent,
    .conclude there live right,
    fun effect member => Effect.justified_of_silent (silent effect member) _⟩

end Backed

/-! ### Attempts -/

/-- An attempt is made with a POST of its own. -/
theorem attempt_by_post (scheduler : client.scheduler = none)
    (posts : ∀ {call c ticket}, ¬ client.Gathered call c ticket)
    (there : client.calls[call]? = some c) (resting : c.stage = .resting) :
    Carried (node.attempt client.endpoint) none first client effects (client.attempt call) ∧
      (client.attempt call).1.load + 1 ≤ client.load := by
  have unposted : ∀ {other d ticket}, ¬ (client.posting call c).Gathered other d ticket :=
    fun waits => posts (Client.gathered_of_ended (by simp) waits)
  have turned : Turned (node.attempt client.endpoint) client (client.posting call c)
      [.began call c.attempt, .told c.request.text] :=
    .stage there (by simp [resting]) (by simp) fun _ => rfl
  have load := Client.load_withCall there { c with stage := .posting }
  simp only [Call.weight, resting, Stage.weight] at load
  rcases Client.attempt_posting scheduler there with ⟨built, post, eq⟩ | ⟨unbuilt, eq⟩
  · rw [eq]
    refine ⟨⟨.posting scheduler unposted, ?_, ?_⟩, ?_⟩
    · exact .stage there (by simp [resting]) (by simp) fun _ => rfl
    · intro effect member
      rcases List.mem_cons.mp member with rfl | member
      · trivial
      · rcases List.mem_pair.mp member with rfl | rfl
        · trivial
        · exact built
    · show (client.withCall call _).load + 1 ≤ _
      omega
  · have there' := Client.getElem?_withCall there { c with stage := .posting }
    have answered : (.error (.network "builder error") : Outcome Response) =
        node.attempt client.endpoint c.request := by
      rw [Node.attempt, unbuilt]
      rfl
    have backed : Backed first (client.posting call c)
        (effects ++ [.began call c.attempt, .told c.request.text]) none :=
      .posting scheduler unposted
    have concluded := backed.conclude there' (by simp) answered
    have spent := Client.load_conclude there' (.inl rfl) (.error (.network "builder error"))
    rw [eq]
    refine ⟨⟨?_, turned.trans concluded.turned, fun effect member => ?_⟩, ?_⟩
    · rw [← List.append_assoc]
      exact concluded.backed
    · rcases List.mem_append.mp member with member | member
      · rcases List.mem_pair.mp member with rfl | rfl <;> trivial
      · exact concluded.justified effect member
    · show ((client.withCall call _).conclude call _).1.load + 1 ≤ _
      omega

variable (node) in
/-- An attempt begins, in the way of its client. -/
theorem Backed.attempt (backed : Backed first client effects batch?)
    (there : client.calls[call]? = some c) (resting : c.stage = .resting) :
    Carried (node.attempt client.endpoint) batch? first client effects (client.attempt call) ∧
      (client.attempt call).1.load + 1 ≤ client.load := by
  cases backed with
  | posting scheduler posts => exact attempt_by_post scheduler posts there resting
  | gathering follows =>
    obtain ⟨keeps, load⟩ := follows.attempt there resting
    exact ⟨keeps.carried, load⟩

/-! ### Replies to a batch -/

open Batch (Item Dispatch)

variable {config : Batch.Config} {entered : List Batch.Event} {batch : Nat} {dispatch : Dispatch}

theorem known_of_batch (there : (alone config first entered).scheduler.batches[batch]? =
    some dispatch) : ∀ request ∈ dispatch.items.map (·.request), request.id ≠ .null := by
  intro request member
  obtain ⟨item, hitem, rfl⟩ := List.mem_map.mp member
  obtain ⟨scheduled, -, hcall⟩ := Batch.Run.item_of_batch there hitem
  rw [hcall]
  exact RpcId.noConfusion

theorem answer_of_own {items : List Item} (distinct : (items.map (·.request.id)).Nodup)
    {responses : List Response}
    (perm : responses.Perm ((items.map (·.request)).map node.response)) {item : Item}
    (member : item ∈ items) :
    Batch.answer responses item = .ok ((node.response item.request).withId item.callerId) := by
  have ids : (responses.map (·.id)).Nodup := by
    rw [(perm.map (·.id)).nodup_iff, List.map_map, List.map_map]
    exact distinct
  have own : node.response item.request ∈ responses :=
    perm.mem_iff.mpr (List.mem_map_of_mem (List.mem_map_of_mem member))
  have last : Batch.lastWithId item.request.id responses = some (node.response item.request) :=
    Batch.lastWithId_of_mem ids own
  rw [Batch.answer, last]

/-- A reply with the answers to a batch gives every call the answer to its own request. -/
theorem settle_of_replied (short : config.batchSize ≤ UInt64.size)
    (there : (alone config first entered).scheduler.batches[batch]? = some dispatch)
    {responses : List Response}
    (perm : responses.Perm ((dispatch.items.map (·.request)).map node.response)) :
    ∀ entry ∈ Batch.settle (.ok responses) dispatch.items, ∀ request,
      (Batch.requests entered)[entry.1]? = some request →
      entry.2 = .ok (node.response request) := by
  have distinct := Batch.Run.nodup_numbers_short there short
  intro entry member request hrequest
  replace member : entry ∈ Batch.pair responses dispatch.items := member
  rw [Batch.pair_eq_map distinct] at member
  obtain ⟨item, hitem, rfl⟩ := List.mem_map.mp member
  obtain ⟨scheduled, hscheduled, hcall⟩ := Batch.Run.item_of_batch there hitem
  obtain rfl : scheduled = request := Option.some.inj (hscheduled.symm.trans hrequest)
  show Batch.answer responses item = _
  rw [answer_of_own distinct perm hitem, hcall]
  rfl

theorem settle_of_told {reply : Option (Outcome (List Response))}
    (short : config.batchSize ≤ UInt64.size)
    (follows : Follows config first entered client effects)
    (justified : ∀ effect ∈ effects, effect.Justified client.endpoint)
    (told : Told node client effects batch reply) :
    ∀ dispatch taken, (alone config first entered).scheduler.batches[batch]? = some dispatch →
      reply = some taken → ∀ entry ∈ Batch.settle taken dispatch.items, ∀ request,
      (Batch.requests entered)[entry.1]? = some request →
      entry.2 = node.attempt client.endpoint request := by
  intro dispatch taken there taking entry member request hrequest
  cases told with
  | nothing => cases taking
  | @replied requests post delivery posted tells =>
    obtain rfl := Option.some.inj taking
    obtain ⟨own, hown, rfl⟩ := follows.posted posted
    obtain rfl : own = dispatch := Option.some.inj (hown.symm.trans there)
    have built : client.endpoint.canPost = true := justified _ posted
    obtain ⟨responses, eq, perm⟩ := Node.responses_of_tellsAll (known_of_batch there) tells
    rw [eq] at member
    rw [settle_of_replied short there perm entry member request hrequest, Node.attempt,
      if_pos built]
  | @refused error refused =>
    obtain rfl := Option.some.inj taking
    obtain ⟨unbuilt, rfl⟩ : client.endpoint.canPost = false ∧
      error = .network "builder error" := justified _ refused
    obtain ⟨item, -, rfl⟩ := List.mem_map.mp member
    rw [Node.attempt, unbuilt]
    rfl

/-! ### Operations of the scheduler -/

namespace Backed

variable {reply : Option (Outcome (List Response))}

theorem schedule_of_none (scheduler : client.scheduler = none)
    (operation : Batch.Scheduler → Batch.Scheduler × List Batch.Effect) :
    client.schedule operation = (client, []) := by
  unfold Client.schedule
  rw [scheduler]

theorem flush (backed : Backed first client effects batch?) :
    Carried answer batch? first client effects (client.schedule (·.flush)) ∧
      (client.schedule (·.flush)).1.load ≤ client.load := by
  cases backed with
  | posting scheduler posts =>
    rw [schedule_of_none scheduler]
    exact ⟨(posting scheduler posts).still, Nat.le_refl _⟩
  | gathering follows =>
    obtain ⟨keeps, load⟩ := follows.dispatch answer
    exact ⟨keeps.carried, Nat.le.intro load⟩

/-- A timer of an earlier generation does nothing; the present one was waited for. -/
theorem fire (backed : Backed first client effects batch?) (generation : UInt64) :
    Carried answer batch? first client effects (client.schedule (·.fire generation)) ∧
      (client.schedule (·.fire generation)).1.load +
        (if client.awaits (.fire generation) then 1 else 0) ≤ client.load := by
  cases backed with
  | posting scheduler posts =>
    rw [schedule_of_none scheduler, Client.awaits, scheduler]
    exact ⟨(posting scheduler posts).still, Nat.le_refl _⟩
  | @gathering config entered follows =>
    have guarded := Batch.Run.guarded_steps config first entered
    have opens := schedule_eq follows.scheduler follows.counter
    have timer := guarded.timer
    rw [opens, Client.awaits, follows.scheduler, Option.any_some, Batch.Scheduler.awaits]
    by_cases current : (alone config first entered).scheduler.generation = generation
    · obtain ⟨keeps, load⟩ := follows.dispatch answer
      rw [opens] at keeps load
      rw [Batch.Scheduler.fire, if_pos current]
      refine ⟨keeps.carried, ?_⟩
      by_cases empty : (alone config first entered).scheduler.pending = []
      · have idle : (alone config first entered).scheduler.timer = none := by
          exact timer.trans (if_pos (by simp [Batch.Run.queue, empty]))
        rw [if_pos empty] at load
        simp only [idle, reduceCtorEq, decide_false, Bool.false_eq_true, if_false]
        omega
      · rw [if_neg empty] at load
        split <;> omega
    · have unrecorded : (alone config first entered).scheduler.timer ≠ some generation :=
        fun recorded => current (guarded.current recorded).symm
      rw [Batch.Scheduler.fire, if_neg current, decide_eq_false unrecorded,
        if_neg Bool.false_ne_true, Client.withScheduler_self follows.scheduler follows.counter]
      exact ⟨(gathering follows).still, Nat.le_refl _⟩

theorem turn (backed : Backed first client effects batch?)
    (short : ∀ config ∈ batch?, config.batchSize ≤ UInt64.size)
    (justified : ∀ effect ∈ effects, effect.Justified client.endpoint)
    (told : Told node client effects batch reply) :
    Carried (node.attempt client.endpoint) batch? first client effects
      (client.schedule (·.turn batch reply)) ∧
      (client.schedule (·.turn batch reply)).1.load +
        (if client.awaits (.turn batch reply) then 1 else 0) ≤ client.load := by
  cases backed with
  | posting scheduler posts =>
    rw [schedule_of_none scheduler, Client.awaits, scheduler]
    exact ⟨(posting scheduler posts).still, Nat.le_refl _⟩
  | gathering follows =>
    obtain ⟨keeps, load⟩ := follows.turn batch reply
      (settle_of_told (short _ rfl) follows justified told)
    exact ⟨keeps.carried, load⟩

end Backed

end NodeCall.Http
