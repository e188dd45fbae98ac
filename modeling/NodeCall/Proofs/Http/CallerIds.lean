import NodeCall.Proofs.Http.Requests
import NodeCall.Proofs.Http.Transparency

/-!
# The ids of the responses that calls are given

A batch travels under numbers of its own, and every response that it brings is handed on under the
id that the caller had chosen.  A call with a POST of its own takes the answer as it comes: the id
in it is the caller's if the node has put it there.
-/

namespace NodeCall.Http

open Batch (Scheduler)

variable {client client' client'' : Client} {effects more : List Effect} {call ticket : Nat}
  {c : Call} {event : Event} {response answer : Response}

/-! ### Calls that gather -/

/-- Every call is as it was, or its attempt has ended. -/
structure Ends (client client' : Client) : Prop where
  calls : ∀ (call : Nat) (c : Call), client'.calls[call]? = some c →
    client.calls[call]? = some c ∨ c.stage = .resting ∨ c.stage = .over
  scheduler : client'.scheduler = client.scheduler

namespace Ends

theorem refl (client : Client) : Ends client client := ⟨fun _ _ there => .inl there, rfl⟩

theorem trans (first : Ends client client') (second : Ends client' client'') :
    Ends client client'' := by
  refine ⟨fun call c there => ?_, second.scheduler.trans first.scheduler⟩
  rcases second.calls call c there with before | ended
  · exact first.calls call c before
  · exact .inr ended

theorem withCall (client : Client) (call : Nat) {c' : Call}
    (ended : c'.stage = .resting ∨ c'.stage = .over) : Ends client (client.withCall call c') := by
  refine ⟨fun other c there => ?_, rfl⟩
  replace there : (client.calls.set call c')[other]? = some c := there
  rw [List.getElem?_set] at there
  split at there
  · split at there
    · exact .inr (Option.some.inj there ▸ ended)
    · cases there
  · exact .inl there

theorem conclude (client : Client) (call : Nat) (outcome : Outcome Response) :
    Ends client (client.conclude call outcome).1 := by
  cases there : client.calls[call]? with
  | none =>
    rw [conclude_of_none there]
    exact refl client
  | some c =>
    rcases Client.conclude_cases there outcome with ⟨-, delay, eq⟩ | eq <;> rw [eq]
    · exact withCall _ _ (.inl rfl)
    · exact withCall _ _ (.inr rfl)

theorem join (client : Client) (executor : Executor)
    (ended : c.stage = .resting ∨ c.stage = .over) : Ends client (client.join executor c) := by
  refine ⟨fun call d there => ?_, rfl⟩
  replace there : (client.calls ++ [c])[call]? = some d := there
  rw [List.getElem?_append] at there
  split at there
  · exact .inl there
  · obtain rfl := List.mem_singleton.mp (List.mem_of_getElem? there)
    exact .inr ended

theorem gathered (ends : Ends client client') (waits : client'.Gathered call c ticket) :
    client.Gathered call c ticket := by
  rcases ends.calls call c waits.1 with before | ended | ended
  · exact ⟨before, waits.2⟩
  · cases waits.2.symm.trans ended
  · cases waits.2.symm.trans ended

end Ends

/-- What the scheduler settles ends the attempts of the calls that wait under its tickets. -/
theorem given_absorb (client : Client) (before : List Effect) (effect : Batch.Effect) :
    ∃ more, (Client.absorb (client, before) effect).2 = before ++ more ∧
      Ends client (Client.absorb (client, before) effect).1 ∧
      ∀ call given, given ∈ outcomesOf call more → ∃ c ticket outcome,
        client.Gathered call c ticket ∧ (ticket, outcome) ∈ Batch.outcomesOf [effect] ∧
        given = givenFor client c.request outcome := by
  have quiet {more : List Effect} (none : ∀ call, outcomesOf call more = []) :
      ∀ call given, given ∈ outcomesOf call more → ∃ c ticket outcome,
        client.Gathered call c ticket ∧ (ticket, outcome) ∈ Batch.outcomesOf [effect] ∧
        given = givenFor client c.request outcome := by
    intro call given member
    rw [none] at member
    cases member
  cases effect with
  | armed generation => exact ⟨_, rfl, .refl _, quiet fun _ => rfl⟩
  | queued batch => exact ⟨_, rfl, .refl _, quiet fun _ => rfl⟩
  | sent batch requests =>
    refine ⟨_, rfl, .refl _, quiet fun _ => ?_⟩
    rcases postEffects_cases client.endpoint (requestsText requests)
      (.postedBatch batch requests) (.refusedBatch batch) with ⟨-, post, eq⟩ | ⟨-, eq⟩ <;>
      rw [eq] <;> rfl
  | settled ticket outcome =>
    unfold Client.absorb
    cases found : client.callOf ticket with
    | none =>
      simp only [found]
      exact ⟨[], (List.append_nil _).symm, .refl _, quiet fun _ => rfl⟩
    | some call =>
      simp only [found]
      refine ⟨_, rfl, .conclude client call outcome, fun other given member => ?_⟩
      obtain ⟨rfl, c, there, eq⟩ := mem_outcomesOf_conclude member
      obtain ⟨c', waits⟩ := Client.gathered_of_callOf found
      obtain rfl := Option.some.inj (there.symm.trans waits.1)
      exact ⟨c, ticket, outcome, waits, List.mem_singleton_self _, eq⟩

theorem given_absorbAll (effects : List Batch.Effect) (client : Client) (before : List Effect) :
    ∃ more, (effects.foldl Client.absorb (client, before)).2 = before ++ more ∧
      Ends client (effects.foldl Client.absorb (client, before)).1 ∧
      ∀ call given, given ∈ outcomesOf call more → ∃ c ticket outcome,
        client.Gathered call c ticket ∧ (ticket, outcome) ∈ Batch.outcomesOf effects ∧
        given = givenFor client c.request outcome := by
  induction effects generalizing client before with
  | nil => exact ⟨[], (List.append_nil _).symm, .refl _, fun _ _ member => by cases member⟩
  | cons effect rest ih =>
    have split : Batch.outcomesOf (effect :: rest) =
        Batch.outcomesOf [effect] ++ Batch.outcomesOf rest := by
      rw [← List.singleton_append, Batch.outcomesOf, List.filterMap_append]
      rfl
    obtain ⟨own, hown, ends, given⟩ := given_absorb client before effect
    obtain ⟨others, hothers, ends', given'⟩ :=
      ih (Client.absorb (client, before) effect).1 (Client.absorb (client, before) effect).2
    have setting := (SameRequests.absorb (client, before) effect).setting
    refine ⟨own ++ others, ?_, ends.trans ends', fun call outcome member => ?_⟩
    · rw [List.foldl_cons, hothers, hown, List.append_assoc]
    · rw [outcomesOf_append] at member
      rw [split]
      rcases List.mem_append.mp member with now | later
      · obtain ⟨c, ticket, settled, waits, among, eq⟩ := given call outcome now
        exact ⟨c, ticket, settled, waits, List.mem_append_left _ among, eq⟩
      · obtain ⟨c, ticket, settled, waits, among, eq⟩ := given' call outcome later
        refine ⟨c, ticket, settled, ends.gathered waits, List.mem_append_right _ among, ?_⟩
        rw [eq, givenFor_of_setting setting]

/-- What calls are given by an operation of their scheduler. -/
theorem given_schedule {s : Scheduler} (gathers : client.scheduler = some s)
    (operation : Scheduler → Scheduler × List Batch.Effect) :
    let next := operation { s with counter := client.executor.counter }
    Ends (client.withScheduler next.1) (client.schedule operation).1 ∧
      ∀ call given, given ∈ outcomesOf call (client.schedule operation).2 → ∃ c ticket outcome,
        client.Gathered call c ticket ∧ (ticket, outcome) ∈ Batch.outcomesOf next.2 ∧
        given = givenFor client c.request outcome := by
  intro next
  have eq : client.schedule operation =
      next.2.foldl Client.absorb (client.withScheduler next.1, []) := by
    unfold Client.schedule
    rw [gathers]
    rfl
  obtain ⟨more, heffects, ends, given⟩ := given_absorbAll next.2 (client.withScheduler next.1) []
  rw [eq]
  refine ⟨ends, fun call outcome member => ?_⟩
  rw [heffects] at member
  exact given call outcome member

theorem fruitless_schedule {s : Scheduler} (gathers : client.scheduler = some s)
    {operation : Scheduler → Scheduler × List Batch.Effect}
    (shuts : ∀ s, Scheduler.OnlyShuts (operation s).2) :
    Fruitless (client.schedule operation).2 := by
  intro call response member
  obtain ⟨c, ticket, outcome, -, settled, eq⟩ := (given_schedule gathers operation).2 call _ member
  rw [shuts _ ticket outcome settled, givenFor_error (by simp)] at eq
  cases eq

/-- The items under the tickets of waiting calls bear the ids of their requests. -/
def Labels (items : List Batch.Item) (client : Client) : Prop :=
  ∀ item ∈ items, ∀ call c, client.Gathered call c item.ticket → c.request.id = item.callerId

/-- No call of a gathering client is posted by itself; calls wait under tickets that have been
given out, and the items under these bear the ids of their requests. -/
structure Labelled (s : Scheduler) (client : Client) : Prop where
  gathers : client.scheduler = some s
  unposted : ∀ (call : Nat) (c : Call), client.calls[call]? = some c → c.stage ≠ .posting
  issued : ∀ item ∈ s.items, item.ticket < s.nextTicket
  waits : ∀ call c ticket, client.Gathered call c ticket → ticket < s.nextTicket
  labels : Labels s.items client

namespace Labelled

variable {s : Scheduler}

theorem ends (labelled : Labelled s client) (ends : Ends client client') :
    Labelled s client' := by
  refine ⟨ends.scheduler.trans labelled.gathers, fun call c there => ?_, labelled.issued,
    fun call c ticket waits => labelled.waits call c ticket (ends.gathered waits),
    fun item among call c waits => labelled.labels item among call c (ends.gathered waits)⟩
  rcases ends.calls call c there with before | ended | ended
  · exact labelled.unposted call c before
  · simp [ended]
  · simp [ended]

theorem operate (labelled : Labelled s client)
    {operation : Scheduler → Scheduler × List Batch.Effect}
    (adds : ∀ s, Scheduler.Adds [] s (operation s).1) :
    ∃ s', Labelled s' (client.schedule operation).1 := by
  have adds := adds { s with counter := client.executor.counter }
  have later : s.nextTicket ≤ _ := adds.nextTicket
  have kept {item : Batch.Item} (among : item ∈ (operation _).1.items) : item ∈ s.items :=
    List.append_nil s.items ▸ adds.items among
  have start : Labelled (operation { s with counter := client.executor.counter }).1
      (client.withScheduler (operation { s with counter := client.executor.counter }).1) :=
    ⟨rfl, labelled.unposted,
      fun item among => Nat.lt_of_lt_of_le (labelled.issued item (kept among)) later,
      fun call c ticket waits => Nat.lt_of_lt_of_le (labelled.waits call c ticket waits) later,
      fun item among => labelled.labels item (kept among)⟩
  exact ⟨_, start.ends (given_schedule labelled.gathers operation).1⟩

/-- A call whose attempt begins waits under a new ticket, whose item bears its id. -/
theorem gather (labelled : Labelled s client) (call : Nat) (c : Call) :
    let waiting := client.withCall call { c with stage := .gathered s.nextTicket }
    ∃ s', Labelled s' (waiting.schedule (·.schedule c.request)).1 := by
  intro waiting
  let drawing : Scheduler := { s with counter := client.executor.counter }
  obtain ⟨adds, later⟩ := Scheduler.Adds.schedule drawing c.request
  have gathers : waiting.scheduler = some s := labelled.gathers
  suffices start : Labelled (drawing.schedule c.request).1
      (waiting.withScheduler (drawing.schedule c.request).1) from
    ⟨_, start.ends (given_schedule gathers (·.schedule c.request)).1⟩
  refine ⟨rfl, fun other d hother => ?_, fun item among => ?_, fun other d ticket waits => ?_,
    fun item among other d waits => ?_⟩
  · replace hother : (client.calls.set call _)[other]? = some d := hother
    rw [List.getElem?_set] at hother
    split at hother
    · split at hother
      · simp [← Option.some.inj hother]
      · cases hother
    · exact labelled.unposted other d hother
  · rcases List.mem_append.mp (adds.items among) with old | new
    · exact Nat.lt_trans (labelled.issued item old) later
    · obtain rfl := List.mem_singleton.mp new
      exact later
  · rcases Client.gathered_withCall waits with ⟨-, -, stage⟩ | ⟨-, waits⟩
    · obtain rfl := Stage.gathered.inj stage
      exact later
    · exact Nat.lt_trans (labelled.waits other d ticket waits) later
  · -- tickets that were given out before are below the new one
    rcases Client.gathered_withCall waits with ⟨-, rfl, stage⟩ | ⟨-, waits⟩ <;>
      rcases List.mem_append.mp (adds.items among) with old | new
    · obtain same := Stage.gathered.inj stage
      exact absurd (same ▸ labelled.issued item old) (Nat.lt_irrefl _)
    · obtain rfl := List.mem_singleton.mp new
      rfl
    · exact labelled.labels item old other d waits
    · obtain rfl := List.mem_singleton.mp new
      exact absurd (labelled.waits other d _ waits) (Nat.lt_irrefl _)

theorem attempt (labelled : Labelled s client) (call : Nat) :
    (∃ s', Labelled s' (client.attempt call).1) ∧ Fruitless (client.attempt call).2 := by
  cases there : client.calls[call]? with
  | none =>
    rw [attempt_of_none there]
    exact ⟨⟨s, labelled⟩, .nil⟩
  | some c =>
    let waiting := client.withCall call { c with stage := .gathered s.nextTicket }
    have made : client.attempt call = ((waiting.schedule (·.schedule c.request)).1,
        [.began call c.attempt] ++ (waiting.schedule (·.schedule c.request)).2) := by
      unfold Client.attempt
      simp only [there, labelled.gathers]
      rfl
    have gathers : waiting.scheduler = some s := labelled.gathers
    rw [made]
    refine ⟨labelled.gather call c, .append (.of_idle fun _ => rfl) ?_⟩
    exact fruitless_schedule gathers (Scheduler.OnlyShuts.schedule · c.request)

theorem send (labelled : Labelled s client) (request : Request) :
    (∃ s', Labelled s' (client.send request).1) ∧ Fruitless (client.send request).2 := by
  obtain ⟨executor, c, -, ended, -, made⟩ := send_cases client request
  have joined : Labelled s (client.join executor c) := labelled.ends (.join client executor ended)
  rcases made with ⟨e, eq⟩ | eq <;> rw [eq]
  · exact ⟨⟨s, joined⟩, .finished _ e⟩
  · exact joined.attempt client.calls.length

theorem step (labelled : Labelled s client) (event : Event) :
    ∃ s', Labelled s' (client.step event).1 := by
  cases event with
  | send request => exact (labelled.send request).1
  | delivered call delivery =>
    unfold Client.step
    dsimp only
    split
    · next there => exact absurd rfl (labelled.unposted call _ there)
    · exact ⟨s, labelled⟩
  | timeout call attempt =>
    unfold Client.step
    dsimp only
    split
    · split <;> split
      all_goals first
        | exact ⟨s, labelled.ends (.conclude client call _)⟩
        | exact ⟨s, labelled⟩
    · exact ⟨s, labelled⟩
  | wake call =>
    unfold Client.step
    dsimp only
    split
    · exact (labelled.attempt call).1
    · exact ⟨s, labelled⟩
  | leave call =>
    unfold Client.step
    dsimp only
    split
    · exact ⟨s, labelled⟩
    · exact ⟨s, labelled⟩
    · exact ⟨s, labelled.ends (.withCall client call (.inr rfl))⟩
  | fire generation => exact labelled.operate (Scheduler.Adds.fire · generation)
  | turn batch reply => exact labelled.operate (Scheduler.Adds.turn · batch reply)
  | flush => exact labelled.operate Scheduler.Adds.dispatch
  | close => exact labelled.operate Scheduler.Adds.close

end Labelled

/-- The present attempt of a call travels in a batch, as this item. -/
structure Travels (client : Client) (call batch : Nat) (item : Batch.Item) : Prop where
  among : ∃ s dispatch, client.scheduler = some s ∧ s.batches[batch]? = some dispatch ∧
    item ∈ dispatch.items
  waits : ∃ c, client.Gathered call c item.ticket

/-- What the reply to a batch gives to a call as a response: the element with the number of its
item, or by a raw transport the error that rejects the batch. -/
inductive FromReply (raw : Bool) (id : RpcId) (item : Batch.Item) :
    Outcome (List Response) → Response → Prop
  | element {responses : List Response} {answer response : Response} (member : answer ∈ responses)
      (own : answer.id = item.request.id)
      (given : handed raw id (answer.withId id) = some response) :
      FromReply raw id item (.ok responses) response
  | rejected (error : NodeError) (url body : String) (isRaw : raw = true) :
      FromReply raw id item (.error (.rpc error url body)) (.failure id error)

theorem FromReply.id_eq {raw : Bool} {id : RpcId} {item : Batch.Item}
    {reply : Outcome (List Response)} (given : FromReply raw id item reply response) :
    response.id = id := by
  cases given with
  | element member own given => exact (id_of_handed given).mpr (.inr rfl)
  | rejected error url body isRaw => rfl

/-- Only the reply to its batch gives a call of a gathering client a response. -/
theorem Labelled.given_step {s : Scheduler} (labelled : Labelled s client)
    (given : .ok response ∈ outcomesOf call (client.step event).2) :
    ∃ batch reply item c, event = .turn batch (some reply) ∧ Travels client call batch item ∧
      client.calls[call]? = some c ∧
      FromReply client.executor.config.raw c.request.id item reply response := by
  have operation {operation : Scheduler → Scheduler × List Batch.Effect}
      (shuts : ∀ s, Scheduler.OnlyShuts (operation s).2) :
      .ok response ∉ outcomesOf call (client.schedule operation).2 :=
    fruitless_schedule labelled.gathers shuts call response
  -- no event but the turn of a batch brings a reply; the others conclude calls with failures alone
  cases event with
  | send request => exact absurd given ((labelled.send request).2 _ _)
  | timeout other attempt => exact absurd given (fruitless_timeout client other attempt _ _)
  | leave other => exact absurd given (fruitless_leave client other _ _)
  | wake other =>
    unfold Client.step at given
    dsimp only at given
    split at given
    · exact absurd given ((labelled.attempt other).2 _ _)
    · cases given
  | delivered other delivery =>
    unfold Client.step at given
    dsimp only at given
    split at given
    · next there => exact absurd rfl (labelled.unposted other _ there)
    · cases given
  | fire generation => exact absurd given (operation (Scheduler.OnlyShuts.fire · generation))
  | flush =>
    exact absurd given (operation fun s => .of_silent s.outcomesOf_dispatch)
  | close =>
    have nothing (batches : List Nat) : outcomesOf call (batches.map Effect.queued) = [] := by
      simp [outcomesOf, Effect.outcome?, List.filterMap_map, Function.comp_def]
    unfold Client.step at given
    rw [outcomesOf_append, nothing, List.append_nil] at given
    exact absurd given (operation Scheduler.OnlyShuts.close)
  | turn batch reply =>
    obtain ⟨c, ticket, outcome, waits, settled, eq⟩ :=
      (given_schedule labelled.gathers (·.turn batch reply)).2 call _ given
    rcases Scheduler.settled_of_turn settled with rfl | ⟨taken, dispatch, item, rfl, rest⟩
    · rw [givenFor_error (by simp)] at eq
      cases eq
    · obtain ⟨there, among, rfl, holds⟩ := rest
      have id : c.request.id = item.callerId := labelled.labels item
        (List.mem_append_left _ (List.mem_flatMap.mpr ⟨_, List.mem_of_getElem? there, among⟩))
        call c waits
      refine ⟨batch, taken, item, c, rfl, ⟨⟨s, dispatch, labelled.gathers, there, among⟩, c, waits⟩,
        waits.1, ?_⟩
      cases holds with
      | element member own =>
        rw [← id] at eq
        exact .element member own ((givenFor_ok _ _ _).mp eq.symm)
      | missing responses =>
        rw [givenFor_error (by simp)] at eq
        cases eq
      | failed e =>
        -- in raw mode the rejection of a whole batch is handed to each of its calls as a response
        unfold givenFor Executor.judge Executor.conclude at eq
        split at eq
        · next error url body same =>
          obtain rfl := Except.error.inj same
          split at eq
          · next isRaw =>
            rw [Except.ok.inj eq]
            exact .rejected error url body isRaw
          · cases eq
        · cases eq

/-! ### Runs -/

namespace Run

theorem steps_snoc (run : Run) (before : List Event) (last : Event) :
    run.steps (before ++ [last]) = (run.steps before).step last :=
  List.foldl_append

theorem outcomes_step (run : Run) (event : Event) (call : Nat) :
    (run.step event).outcomes call =
      run.outcomes call ++ outcomesOf call (run.client.step event).2 :=
  outcomesOf_append call run.effects _

/-- The calls of a run have the ids of the requests that were sent, where these have one. -/
theorem requests_steps (calls : client.calls = []) (events : List Event) :
    List.Forall₂ (fun request own => request.id ≠ .null → own.id = request.id)
      (sends events) ((start client).steps events).client.requests ∧
      ((start client).steps events).client.setting = client.setting ∧
      ((start client).steps events).client.scheduler.isSome = client.scheduler.isSome := by
  induction events using List.reverseRecOn with
  | nil =>
    refine ⟨?_, rfl, rfl⟩
    show List.Forall₂ _ [] (client.calls.map _)
    rw [calls]
    exact .nil
  | append_singleton before last ih =>
    obtain ⟨own, setting, gathers⟩ := ih
    rw [steps_snoc, sends_append]
    obtain ⟨added, eq, own', setting', gathers'⟩ :=
      requests_step ((start client).steps before).client last
    refine ⟨?_, setting'.trans setting, gathers'.trans gathers⟩
    exact eq ▸ List.rel_append own own'

theorem labelled_steps {s : Scheduler} (labelled : Labelled s client) (events : List Event) :
    ∃ s', Labelled s' ((start client).steps events).client := by
  induction events using List.reverseRecOn with
  | nil => exact ⟨s, labelled⟩
  | append_singleton before last ih =>
    obtain ⟨s', labelled'⟩ := ih
    rw [steps_snoc]
    exact labelled'.step last

/-- The request of a call stays known. -/
theorem known_step {run : Run} {own : Request} (there : run.client.requests[call]? = some own)
    (event : Event) : (run.step event).client.requests[call]? = some own := by
  obtain ⟨added, eq, -⟩ := requests_step run.client event
  refine (congrArg (·[call]?) eq).trans ?_
  rw [List.getElem?_append_left (List.getElem?_eq_some_iff.mp there).1, there]

theorem request_of_call {run : Run} (there : run.client.calls[call]? = some c) :
    run.client.requests[call]? = some c.request := by
  rw [Client.requests, List.getElem?_map, there]
  rfl

/-- With a scheduler every response comes from the reply to the batch in which its call travelled,
under the number it travelled by. -/
theorem given_by_reply {s : Scheduler} (labelled : Labelled s client) (calls : client.calls = [])
    (events : List Event)
    (given : .ok response ∈ ((start client).steps events).outcomes call) :
    ∃ before batch reply item own, before ++ [.turn batch (some reply)] <+: events ∧
      Travels ((start client).steps before).client call batch item ∧
      ((start client).steps events).client.requests[call]? = some own ∧
      FromReply client.executor.config.raw own.id item reply response := by
  induction events using List.reverseRecOn with
  | nil => cases given
  | append_singleton before last ih =>
    rw [steps_snoc] at given ⊢
    rw [outcomes_step] at given
    rcases List.mem_append.mp given with earlier | now
    · obtain ⟨first, batch, reply, item, own, within, travels, there, came⟩ := ih earlier
      exact ⟨first, batch, reply, item, own, within.trans (List.prefix_append _ _), travels,
        known_step there last, came⟩
    · obtain ⟨s', labelled'⟩ := labelled_steps labelled before
      obtain ⟨batch, reply, item, c, rfl, travels, there, came⟩ := labelled'.given_step now
      obtain ⟨-, setting, -⟩ := requests_steps calls before
      have config := congrArg (fun s => s.config.raw) setting
      refine ⟨before, batch, reply, item, c.request, List.prefix_rfl, travels,
        known_step (request_of_call there) _, ?_⟩
      exact config ▸ came

/-- Without a scheduler every response is what an answer to its call is made into. -/
theorem given_by_answer (scheduler : client.scheduler = none) (calls : client.calls = [])
    (events : List Event)
    (given : .ok response ∈ ((start client).steps events).outcomes call) :
    ∃ delivery answer own, .delivered call delivery ∈ events ∧
      ((start client).steps events).client.requests[call]? = some own ∧
      client.endpoint.response delivery = .ok answer ∧
      handed client.executor.config.raw own.id answer = some response := by
  induction events using List.reverseRecOn with
  | nil => cases given
  | append_singleton before last ih =>
    rw [steps_snoc] at given ⊢
    rw [outcomes_step] at given
    obtain ⟨-, setting, gathers⟩ := requests_steps calls before
    rcases List.mem_append.mp given with earlier | now
    · obtain ⟨delivery, answer, own, member, there, rest⟩ := ih earlier
      exact ⟨delivery, answer, own, List.mem_append_left _ member, known_step there last,
        rest⟩
    · have none : ((start client).steps before).client.scheduler = none := by
        rw [scheduler] at gathers
        exact Option.not_isSome_iff_eq_none.mp (by simp [gathers])
      obtain ⟨delivery, answer, c, rfl, there, decoded, eq⟩ := given_step none now
      have endpoint := congrArg Setting.endpoint setting
      have config := congrArg (fun s => s.config.raw) setting
      refine ⟨delivery, answer, c.request, by simp, known_step (request_of_call there) _, ?_, ?_⟩
      · rw [← decoded]
        exact congrArg (·.response delivery) endpoint.symm
      · rw [← eq]
        exact congrArg (handed · c.request.id answer) config.symm

/-- An answer without an error is handed back to the call that it comes for, whatever its id. -/
theorem answer_handed_back (run : Run) {delivery : Delivery}
    (there : run.client.calls[call]? = some c) (posting : c.stage = .posting)
    (decoded : run.client.endpoint.response delivery = .ok answer) (clean : answer.error = none) :
    (run.step (.delivered call delivery)).outcomes call = run.outcomes call ++ [.ok answer] := by
  obtain ⟨request, attempt, stage⟩ := c
  obtain rfl : stage = .posting := posting
  have judged : Executor.judge run.client.executor.url request (.ok answer) = .ok answer := by
    simp [Executor.judge, clean]
  rw [outcomes_step, Client.step]
  simp only [there, decoded, Client.conclude, judged, RetryPolicy.next, Executor.conclude,
    outcomesOf, List.filterMap_cons, List.filterMap_nil, Effect.outcome?, if_true]

end Run

theorem Client.transport_of_new {raw : String} {config : Config}
    (made : Client.new raw config = .ok client) : client.executor.config = config.transport := by
  unfold Client.new at made
  obtain ⟨parts, -, rest⟩ := bind_eq_ok.mp made
  obtain rfl := Except.ok.inj rest
  rfl

theorem labelled_of_made {raw : String} {config : Config} {batch : Batch.Config}
    (gathers : config.batch = some batch) (made : Client.new raw config = .ok client) :
    Labelled (.new batch config.first) client := by
  obtain ⟨calls, -, scheduler⟩ := Client.of_new made
  refine ⟨by rw [scheduler, gathers]; rfl, fun call c there => ?_, fun item among => ?_,
    fun call c ticket waits => ?_, fun item among => ?_⟩
  · simp [calls] at there
  · cases among
  · obtain ⟨there, -⟩ := waits
    simp [calls] at there
  · cases among

/-- In every run, whatever the node answers: a call of a client that gathers its calls is given only
the element of a reply to its batch that bears the number it travelled by, under its own id.  A call
with a POST of its own is given what its answer is made into, which bears another id exactly if the
answer does and has no error in it; and such an answer is handed back as it is, whatever its id. -/
theorem ids_of_responses {raw : String} {config : Config} {client : Client}
    (made : Client.new raw config = .ok client) (events : List Event) :
    let run := (Run.start client).steps events
    (∀ call request response, (sends events)[call]? = some request → request.id ≠ .null →
      .ok response ∈ run.outcomes call →
      (config.batch.isSome = true → response.id = request.id ∧
        ∃ before batch reply item, before ++ [.turn batch (some reply)] <+: events ∧
          Travels ((Run.start client).steps before).client call batch item ∧
          FromReply config.transport.raw request.id item reply response) ∧
      (config.batch = none → ∃ delivery answer, .delivered call delivery ∈ events ∧
        client.endpoint.response delivery = .ok answer ∧
        handed config.transport.raw request.id answer = some response ∧
        (response.id = request.id ↔ answer.error.isSome = true ∨ answer.id = request.id))) ∧
    ∀ call c delivery answer, run.client.calls[call]? = some c → c.stage = .posting →
      client.endpoint.response delivery = .ok answer → answer.error = none →
      (run.step (.delivered call delivery)).outcomes call = run.outcomes call ++ [.ok answer] := by
  intro run
  obtain ⟨calls, -, scheduler⟩ := Client.of_new made
  obtain ⟨own, setting, -⟩ := Run.requests_steps calls events
  have idOf {call : Nat} {request other : Request} (sent : (sends events)[call]? = some request)
      (known : request.id ≠ .null) (there : run.client.requests[call]? = some other) :
      other.id = request.id := by
    obtain ⟨lt, rfl⟩ := List.getElem?_eq_some_iff.mp sent
    obtain ⟨lt', rfl⟩ := List.getElem?_eq_some_iff.mp there
    exact (List.forall₂_iff_get.mp own).2 call lt lt' known
  constructor
  · intro call request response sent known given
    constructor
    · intro gathers
      obtain ⟨batch, hbatch⟩ := Option.isSome_iff_exists.mp gathers
      obtain ⟨before, number, reply, item, other, within, travels, there, came⟩ :=
        Run.given_by_reply (labelled_of_made hbatch made) calls events given
      rw [idOf sent known there, Client.transport_of_new made] at came
      exact ⟨came.id_eq, before, number, reply, item, within, travels, came⟩
    · intro off
      rw [off] at scheduler
      obtain ⟨delivery, answer, other, member, there, decoded, eq⟩ :=
        Run.given_by_answer scheduler calls events given
      rw [idOf sent known there, Client.transport_of_new made] at eq
      exact ⟨delivery, answer, member, decoded, eq, id_of_handed eq⟩
  · intro call c delivery answer there posting decoded clean
    have endpoint : run.client.endpoint = client.endpoint := congrArg Setting.endpoint setting
    exact Run.answer_handed_back run there posting (endpoint ▸ decoded) clean

/-- The ids of the responses that a call is given. -/
def givenIds (outcomes : List (Outcome Response)) : List RpcId :=
  outcomes.filterMap fun
    | .ok response => some response.id
    | .error _ => none

theorem mem_givenIds {id : RpcId} {outcomes : List (Outcome Response)}
    (member : id ∈ givenIds outcomes) : ∃ response, .ok response ∈ outcomes ∧ response.id = id := by
  obtain ⟨outcome, among, own⟩ := List.mem_filterMap.mp member
  cases outcome with
  | ok response => exact ⟨response, among, Option.some.inj own⟩
  | error e => cases own

/-- The second of two calls with one id in a batch whose elements come in the other order. -/
theorem ids_of_responses_second_of_two :
    let run := (Run.start (loopbackClient 3 (some ⟨2, .zero⟩))).steps bothBatched
    Client.new "http://[::1]" (loopbackConfig 3 (some ⟨2, .zero⟩)) =
        .ok (loopbackClient 3 (some ⟨2, .zero⟩)) ∧
      (sends bothBatched)[1]? = some (yesTo "b") ∧ (yesTo "b").id ≠ .null ∧
      ∃ response, .ok response ∈ run.outcomes 1 ∧ response.id = (yesTo "b").id := by
  intro run
  have made := new_loopback 3 (some ⟨2, .zero⟩)
  have given : givenIds (run.outcomes 1) = [.number 7] := by decide +kernel
  obtain ⟨response, member, -⟩ := mem_givenIds (given ▸ List.mem_singleton_self _)
  have general :=
    (ids_of_responses made bothBatched).1 1 (yesTo "b") response rfl (by decide) member
  exact ⟨made, rfl, by decide, response, member, (general.1 rfl).1⟩

def yesEight : Delivery := .answer 200 none (.ok "\x7b\"id\":8,\"result\":true\x7d")

/-- A call with a POST of its own is given the answer to some other call. -/
theorem foreign_answer_handed_back :
    let events := [.send (yesTo "b"), .delivered 0 yesEight]
    Client.new "http://[::1]" (loopbackConfig 3 none) = .ok (loopbackClient 3 none) ∧
      (sends events)[0]? = some (yesTo "b") ∧ (yesTo "b").id ≠ .null ∧
      ∃ response, .ok response ∈ ((Run.start (loopbackClient 3 none)).steps events).outcomes 0 ∧
        response.id ≠ (yesTo "b").id := by
  intro events
  have given : givenIds (((Run.start (loopbackClient 3 none)).steps events).outcomes 0) =
      [.number 8] := by decide +kernel
  obtain ⟨response, member, id⟩ := mem_givenIds (given ▸ List.mem_singleton_self _)
  refine ⟨new_loopback 3 none, rfl, by decide, response, member, ?_⟩
  rw [id]
  decide

end NodeCall.Http
