import NodeCall.Proofs.Socket.Lifecycle
import NodeCall.Proofs.Socket.Replays
import NodeCall.Proofs.Socket.Replies
import NodeCall.Proofs.Socket.Routes

/-!
# What subscribers are told

A subscriber is told of each loss of a connection on which its subscription was confirmed, and of
the refusal of a subscription that is made again.  It is told nothing else, and nothing after its
subscription has ended.
-/

namespace NodeCall.Socket

/-- The errors that the subscriber of a key is told. -/
def reports (key : Key) (effects : List Effect) : List TransportError :=
  effects.filterMap fun
    | .told other error => if other = key then some error else none
    | _ => none

section Reports

variable {key : Key} {effects : List Effect}

theorem reports_append (key : Key) (effects others : List Effect) :
    reports key (effects ++ others) = reports key effects ++ reports key others :=
  List.filterMap_append

theorem mem_reports {error : TransportError} :
    error ∈ reports key effects ↔ .told key error ∈ effects := by
  unfold reports
  rw [List.mem_filterMap]
  constructor
  · rintro ⟨effect, member, heq⟩
    split at heq
    · next other told =>
      split at heq
      · next same =>
        obtain rfl := Option.some.inj heq
        rwa [← same]
      · exact absurd heq (by simp)
    · exact absurd heq (by simp)
  · intro member
    exact ⟨_, member, by simp⟩

theorem reports_eq_nil (quiet : ∀ error, .told key error ∉ effects) : reports key effects = [] :=
  List.eq_nil_iff_forall_not_mem.mpr fun _ member => quiet _ (mem_reports.mp member)

theorem reports_told (keys : List Key) (error : TransportError) :
    reports key (keys.map fun other => .told other error) = .replicate (keys.count key) error := by
  induction keys with
  | nil => rfl
  | cons other rest ih =>
    rw [List.map_cons, ← List.singleton_append, reports_append, ih, List.count_cons]
    by_cases same : other = key
    · simp [reports, same, List.replicate_succ]
    · simp [reports, same]

end Reports

namespace Registry

variable {r : Registry} {key : Key}

/-- The subscriptions that are parked are those which the node knows. -/
theorem count_park (distinct : r.entries.keys.Nodup) (key : Key) :
    r.park.1.count key = if (r.serverId key).isSome then 1 else 0 := by
  have nodup : r.park.1.Nodup := (List.filter_sublist.map Prod.fst).nodup distinct
  have member : key ∈ r.park.1 ↔ (r.serverId key).isSome = true := by
    unfold park serverId
    rw [List.mem_map, Option.isSome_iff_exists]
    constructor
    · rintro ⟨⟨k, entry⟩, member, rfl⟩
      obtain ⟨member, known⟩ := List.mem_filter.mp member
      rw [(Table.mem_rows_iff distinct).mp member]
      exact Option.isSome_iff_exists.mp known
    · rintro ⟨id, known⟩
      obtain ⟨entry, there, hid⟩ := Option.bind_eq_some_iff.mp known
      exact ⟨(key, entry), List.mem_filter.mpr ⟨Table.mem_rows_of_get? there, by simp [hid]⟩, rfl⟩
  split
  · next known => exact List.count_eq_one_of_mem nodup (member.mpr known)
  · next unknown => exact List.count_eq_zero_of_not_mem (mt member.mp unknown)

end Registry

namespace Client

variable {client next : Client} {key : Key} {event : Event} {response : Response}
variable {effects : List Effect}

/-- The connection is lost in a turn. -/
def Disconnects (client : Client) (event : Event) : Prop :=
  .entered .disconnected ∈ (client.step event).2

/-- The node answers a subscription that is made again with something else than an id for it. -/
def Refuses (client : Client) (key : Key) (response : Response) (event : Event) : Prop :=
  ∃ text number, event = .receive text ∧ client.phase = .serving ∧
    Incoming.ofText text = .reply number response ∧
    client.pending.get? number = some (.resubscribe key) ∧
    ∀ id, response.result ≠ some (.string id)

theorem disconnected_mem : .entered .disconnected ∈ client.disconnect.2 := by
  rw [disconnect_eq]
  split <;> exact List.mem_cons_self

theorem reports_disconnect (key : Key) : reports key client.disconnect.2 =
    .replicate (client.registry.park.1.count key) .socketClosed := by
  have told : reports key (.entered .disconnected :: client.toldLost) =
      .replicate (client.registry.park.1.count key) .socketClosed := reports_told _ _
  obtain ⟨-, heq⟩ | ⟨state, tried, tries, heq⟩ := @disconnect_cases client <;>
    rw [heq, reports_append, told]
  · exact List.append_nil _
  · rcases tries with ⟨-, rfl⟩ | ⟨-, rfl⟩ <;> exact List.append_nil _

theorem effects_of_refuses (refuses : client.Refuses key response event) :
    (client.step event).2 =
      if client.registry.entries.contains key then [.told key (client.refusal response)]
      else [] := by
  obtain ⟨text, number, rfl, serving, means, pending, unnamed⟩ := refuses
  rw [step_of_reply serving means pending]
  unfold takeReply
  dsimp only
  split
  · next id result => exact absurd result (unnamed id)
  · rfl

/-- A subscription that is made again and confirmed under an id, whatever else the reply says. -/
theorem effects_of_named {text : String} {number : UInt64} {id : String}
    (serving : client.phase = .serving) (means : Incoming.ofText text = .reply number response)
    (pending : client.pending.get? number = some (.resubscribe key))
    (result : response.result = some (.string id)) : (client.step (.receive text)).2 = [] := by
  rw [step_of_reply serving means pending]
  unfold takeReply
  dsimp only
  rw [result]

theorem change_of_refuses (refuses : client.Refuses key response event) :
    client.change event = .ended key := by
  obtain ⟨text, number, rfl, serving, means, pending, unnamed⟩ := refuses
  rw [change_of_reply serving means pending]
  exact Pending.change_resubscribe unnamed

theorem stays_of_refuses (refuses : client.Refuses key response event) :
    ¬client.Disconnects event := by
  unfold Disconnects
  rw [effects_of_refuses refuses]
  split <;> simp

/-- A move that neither loses the connection nor refuses a subscription tells nobody anything. -/
theorem Move.tells (move : Move event client next effects) :
    (.entered .disconnected ∈ effects ∧
      reports key effects = .replicate (client.registry.park.1.count key) .socketClosed) ∨
    .entered .disconnected ∉ effects ∧
      (reports key effects = [] ∨ ∃ response, client.Refuses key response event ∧
        client.registry.Holds key) := by
  have quiet {effect : Effect} (plain : ∀ error, .told key error ≠ effect)
      (stays : .entered .disconnected ≠ effect) :
      .entered .disconnected ∉ [effect] ∧ (reports key [effect] = [] ∨
        ∃ response, client.Refuses key response event ∧ client.registry.Holds key) := by
    refine ⟨fun member => stays (List.mem_singleton.mp member), .inl (reports_eq_nil ?_)⟩
    exact fun error member => plain error (List.mem_singleton.mp member)
  cases move with
  | lose connected => exact .inl ⟨disconnected_mem, reports_disconnect key⟩
  | loseReplay row params left next =>
    have same := client.drawn_same (.resubscribe row)
    have registry : (client.replaying row).registry = client.registry := same.registry
    refine .inl ⟨disconnected_mem, ?_⟩
    rw [reports_disconnect, registry]
  | redial dial dialling =>
    rcases @pause_cases client (dial + 1) with ⟨-, heq⟩ | ⟨-, heq⟩ <;> rw [heq]
    · exact .inr (quiet (by simp) (by simp))
    · exact .inr (quiet (by simp) (by simp))
  | reply text number response entry received means serving pending =>
    refine .inr ⟨fun member => ?_, ?_⟩
    · obtain ⟨other, error, heq⟩ := told_of_takeReply member
      cases heq
    -- a refusal tells nobody if the subscription has ended while its replay was on the way
    by_cases refuses : client.Refuses key response event
    · by_cases there : client.registry.Holds key
      · exact .inr ⟨response, refuses, there⟩
      · have effects := effects_of_refuses refuses
        rw [received, step_of_reply serving means pending] at effects
        rw [effects, if_neg (mt Registry.contains_iff.mp there)]
        exact .inl rfl
    · refine .inl (reports_eq_nil fun error member => refuses ?_)
      unfold takeReply at member
      cases entry with
      | resubscribe other =>
        dsimp only at member
        split at member
        · exact absurd member List.not_mem_nil
        · next unnamed =>
          dsimp only at member
          split at member
          · obtain ⟨rfl, -⟩ := Effect.told.inj (List.mem_singleton.mp member)
            exact ⟨text, number, received, serving, means, pending, unnamed⟩
          · exact absurd member List.not_mem_nil
      | _ => exact absurd member List.not_mem_nil
  | draw | arrive | release | leave | abandon | insert | remove | close | probe =>
    exact .inr ⟨List.not_mem_nil, .inl rfl⟩
  | _ => exact .inr (quiet (by simp) (by simp))

theorem reports_step (unrefused : ¬∃ response, client.Refuses key response event ∧
      client.registry.Holds key) :
    (client.Disconnects event ∧ reports key (client.step event).2 =
      .replicate (client.registry.park.1.count key) .socketClosed) ∨
    ¬client.Disconnects event ∧ reports key (client.step event).2 = [] := by
  cases ofCaller : event.ofCaller with
  | true =>
    have about := (@aside_step client event ofCaller).effects
    refine .inr ⟨fun member => ?_, reports_eq_nil fun error member => ?_⟩
    · simpa [Effect.caller?] using about _ member
    · simpa [Effect.caller?] using about _ member
  | false =>
    rcases step_of_task ofCaller with same | move
    · unfold Disconnects
      rw [same]
      exact .inr ⟨List.not_mem_nil, rfl⟩
    · rcases @Move.tells _ _ key _ _ move with lost | ⟨stays, none | refuses⟩
      · exact .inl lost
      · exact .inr ⟨stays, none⟩
      · exact absurd refuses unrefused

theorem reports_of_disconnects (disconnects : client.Disconnects event) :
    reports key (client.step event).2 =
      .replicate (client.registry.park.1.count key) .socketClosed := by
  have unrefused : ¬∃ response, client.Refuses key response event ∧ client.registry.Holds key :=
    fun ⟨_, refuses, _⟩ => stays_of_refuses refuses disconnects
  rcases reports_step unrefused with ⟨-, told⟩ | ⟨stays, -⟩
  · exact told
  · exact absurd disconnects stays

theorem reports_of_refuses (refuses : client.Refuses key response event) :
    reports key (client.step event).2 =
      if client.registry.entries.contains key then [client.refusal response] else [] := by
  rw [effects_of_refuses refuses]
  split <;> simp [reports]

end Client

/-! ### Runs -/

open Classical in
/-- How many of the turns that follow others are such. -/
noncomputable def tally (counts : List Event → Event → Prop) (before : List Event) :
    List Event → Nat
  | [] => 0
  | event :: after =>
    (if counts before event then 1 else 0) + tally counts (before ++ [event]) after

open Classical in
theorem tally_snoc (counts : List Event → Event → Prop) (before after : List Event)
    (event : Event) : tally counts before (after ++ [event]) =
      tally counts before after + if counts (before ++ after) event then 1 else 0 := by
  induction after generalizing before with
  | nil => simp [tally]
  | cons first rest ih =>
    rw [List.cons_append, tally, ih, tally, Nat.add_assoc, List.append_assoc]
    rfl

/-- The error that tells of the loss of a connection. -/
def isLoss : TransportError → Bool
  | .socketClosed => true
  | _ => false

theorem isLoss_refusal (client : Client) (response : Response) :
    isLoss (client.refusal response) = false := by
  unfold Client.refusal
  split <;> rfl

namespace Run

variable {run : Run} {key : Key} {params : List Json} {before after : List Event} {event : Event}

/-- The connection is lost in a turn, on which a subscription was confirmed. -/
def Loses (run : Run) (key : Key) (before : List Event) (event : Event) : Prop :=
  (run.steps before).client.Disconnects event ∧ ∃ id, run.Confirmed key id before

/-- A subscription that is made again is refused in a turn. -/
def Refuses (run : Run) (key : Key) (before : List Event) (event : Event) : Prop :=
  (∃ response, (run.steps before).client.Refuses key response event) ∧
    ∃ params, run.Made key params before

theorem not_confirmed_of_parked (initial : run.client.registry = .empty)
    (parked : run.Parked key before) (id : String) : ¬run.Confirmed key id before := by
  have unknown : (run.steps before).client.registry.ParkedUnknown := by
    refine List.reverseRecOn before ?_ fun before event unknown => ?_
    · show run.client.registry.ParkedUnknown
      rw [initial]
      exact Registry.parkedUnknown_empty
    · rw [registry_snoc]
      exact unknown.after _
  intro confirmed
  have none := unknown key ((parked_iff initial).mp parked)
  rw [(confirmed_iff initial).mp confirmed] at none
  cases none

/-- In a turn that is neither the loss of its connection nor its refusal, a subscriber is told
nothing. -/
theorem reports_of_neither (initial : run.client.registry = .empty)
    (keeps : ¬run.Loses key before event) (allowed : ¬run.Refuses key before event) :
    reports key ((run.steps before).client.step event).2 = [] := by
  have unrefused : ¬∃ response, (run.steps before).client.Refuses key response event ∧
      (run.steps before).client.registry.Holds key :=
    fun ⟨response, refuses, there⟩ => allowed ⟨⟨response, refuses⟩, (holds_iff initial).mp there⟩
  rcases Client.reports_step unrefused with ⟨disconnects, told⟩ | ⟨-, none⟩
  · rw [told, Registry.count_park (nodup_keys_entries initial before), if_neg]
    · rfl
    · intro known
      obtain ⟨id, known⟩ := Option.isSome_iff_exists.mp known
      exact keeps ⟨disconnects, id, (confirmed_iff initial).mpr known⟩
  · exact none

theorem reports_of_loses (initial : run.client.registry = .empty)
    (loses : run.Loses key before event) :
    reports key ((run.steps before).client.step event).2 = [.socketClosed] := by
  obtain ⟨disconnects, id, confirmed⟩ := loses
  have known := (confirmed_iff initial).mp confirmed
  rw [Client.reports_of_disconnects disconnects,
    Registry.count_park (nodup_keys_entries initial before), known]
  rfl

theorem reports_of_refuses (initial : run.client.registry = .empty) {response : Response}
    (refuses : (run.steps before).client.Refuses key response event)
    (made : ∃ params, run.Made key params before) :
    reports key ((run.steps before).client.step event).2 =
      [(run.steps before).client.refusal response] := by
  have there := (holds_iff initial).mpr made
  rw [Client.reports_of_refuses refuses, if_pos (Registry.contains_iff.mpr there)]

open Classical in
/-- What a turn tells a subscriber, by number. -/
theorem count_reports_turn (initial : run.client.registry = .empty) (key : Key)
    (before : List Event) (event : Event) :
    let told := reports key ((run.steps before).client.step event).2
    told.countP isLoss = (if run.Loses key before event then 1 else 0) ∧
      told.countP (!isLoss ·) = if run.Refuses key before event then 1 else 0 := by
  intro told
  by_cases loses : run.Loses key before event
  · have allowed : ¬run.Refuses key before event :=
      fun ⟨⟨_, refuses⟩, _⟩ => Client.stays_of_refuses refuses loses.1
    rw [if_pos loses, if_neg allowed, show told = _ from reports_of_loses initial loses]
    exact ⟨rfl, rfl⟩
  · by_cases refused : run.Refuses key before event
    · obtain ⟨⟨response, refuses⟩, made⟩ := id refused
      rw [if_neg loses, if_pos refused, show told = _ from reports_of_refuses initial refuses made]
      simp [isLoss_refusal]
    · rw [if_neg loses, if_neg refused, show told = _ from reports_of_neither initial loses refused]
      exact ⟨rfl, rfl⟩

/-- The losses of its connection that a subscriber is told of are those through which its
subscription was confirmed, and all else that it is told are refusals. -/
theorem count_reports (initial : run.client.registry = .empty) (key : Key)
    (before after : List Event) :
    let told := reports key ((run.steps before).further after)
    told.countP isLoss = tally (run.Loses key) before after ∧
      told.countP (!isLoss ·) = tally (run.Refuses key) before after := by
  intro told
  induction after using List.reverseRecOn with
  | nil => exact ⟨rfl, rfl⟩
  | append_singleton after event ih =>
    have turn := count_reports_turn initial key (before ++ after) event
    have split : told = reports key ((run.steps before).further after) ++
        reports key ((run.steps (before ++ after)).client.step event).2 := by
      rw [steps_append, ← reports_append, ← further_snoc]
    rw [split, List.countP_append, List.countP_append, tally_snoc, tally_snoc, ih.1, ih.2, turn.1,
      turn.2]
    exact ⟨rfl, rfl⟩

/-! ### After the end -/

/-- Only the subscriber of a subscription that is there is told anything. -/
theorem holds_of_told (initial : run.client.registry = .empty) {error : TransportError}
    (told : .told key error ∈ ((run.steps before).client.step event).2) :
    (run.steps before).client.registry.Holds key := by
  by_contra gone
  have unmade : ¬∃ params, run.Made key params before := mt (holds_iff initial).mpr gone
  have none : reports key ((run.steps before).client.step event).2 = [] := by
    refine reports_of_neither initial ?_ fun refused => unmade refused.2
    rintro ⟨-, id, confirmed⟩
    exact gone (Registry.holds_of_serverId ((confirmed_iff initial).mp confirmed))
  exact absurd (mem_reports.mpr told) (by simp [none])

/-- Once its subscription has ended a subscriber is told nothing, unless it is made anew under the
same key. -/
theorem reports_after_end (initial : run.client.registry = .empty)
    (ended : run.change before event = .ended key ∨ run.change before event = .cleared) :
    reports key ((run.steps (before ++ [event])).further after) = [] ∨
      ∃ mid again rest params, after = mid ++ again :: rest ∧
        run.change (before ++ [event] ++ mid) again = .made params ∧
        (run.steps (before ++ [event] ++ mid)).client.registry.nextKey = key := by
  by_cases quiet : ∀ error, .told key error ∉ (run.steps (before ++ [event])).further after
  · exact .inl (reports_eq_nil quiet)
  · obtain ⟨error, member⟩ : ∃ error, .told key error ∈
        (run.steps (before ++ [event])).further after := by
      simpa using quiet
    obtain ⟨mid, other, rest, rfl, told⟩ := mem_further member
    rw [← steps_append] at told
    obtain ⟨earlier, again, later, params, rfl, made, hkey⟩ :=
      made_again initial ended (holds_of_told initial told)
    exact .inr ⟨earlier, again, later ++ other :: rest, params, by simp, made, hkey⟩

theorem reports_after_end_of_few (initial : run.client.registry = .empty)
    (few : (before ++ [event] ++ after).countP Event.subscribes < UInt64.size)
    (made : ∃ params, run.Made key params before)
    (ended : run.change before event = .ended key ∨ run.change before event = .cleared) :
    reports key ((run.steps (before ++ [event])).further after) = [] := by
  refine reports_eq_nil fun error member => ?_
  obtain ⟨mid, other, rest, rfl, told⟩ := mem_further member
  rw [← steps_append] at told
  exact gone_after_end initial few made ended (holds_of_told initial told)

theorem mem_pastOf {effects : List Effect} {state : State} (entered : .entered state ∈ effects) :
    state ∈ (pastOf effects).map Prod.fst := by
  have stays (past : Past) (effect : Effect) (there : state ∈ past.map Prod.fst) :
      state ∈ (past.record effect).map Prod.fst := by
    cases effect with
    | entered => exact List.mem_cons_of_mem _ there
    | pausing delay => cases past <;> exact there
    | dialling => cases past <;> exact there
    | _ => exact there
  induction effects using List.reverseRecOn with
  | nil => cases entered
  | append_singleton effects effect ih =>
    rw [Client.pastOf_append, List.foldl_cons, List.foldl_nil]
    rcases List.mem_append.mp entered with old | new
    · exact stays _ effect (ih old)
    · obtain rfl := List.mem_singleton.mp new
      exact List.mem_cons_self

/-- Nothing comes after the end. -/
theorem closed_not_mem_of_path {state : State} {earlier : List State}
    (path : (state :: earlier).IsChain fun later earlier => later ∈ earlier.next) :
    .closed ∉ earlier := by
  induction earlier generalizing state with
  | nil => exact List.not_mem_nil
  | cons before rest ih =>
    rw [List.isChain_cons_cons] at path
    rw [List.mem_cons, not_or]
    refine ⟨?_, ih path.2⟩
    rintro rfl
    exact absurd path.1 List.not_mem_nil

theorem closed_of_entered {config : Config} {display : String} {events : List Event}
    (entered : .entered .closed ∈ ((connected config display).steps events).effects) :
    ((connected config display).steps events).client.state = .closed := by
  have lives := lives config display events
  obtain ⟨earlier, past⟩ := lives.past
  have path := lives.regular.path
  have member := mem_pastOf entered
  rw [past, List.map_cons] at path member
  rcases List.mem_cons.mp member with now | before
  · exact now.symm
  · exact absurd before (closed_not_mem_of_path path)

/-- Once the client has come to its end no subscriber is told anything. -/
theorem reports_after_close {config : Config} {display : String}
    (closed : .entered .closed ∈ (((connected config display).steps before).client.step event).2) :
    reports key (((connected config display).steps (before ++ [event])).further after) = [] := by
  refine reports_eq_nil fun error member => ?_
  obtain ⟨mid, other, rest, rfl, told⟩ := mem_further member
  rw [← steps_append] at told
  have holds : ((connected config display).steps
      (before ++ [event] ++ mid)).client.registry.Holds key := holds_of_told rfl told
  have entered : .entered .closed ∈
      ((connected config display).steps (before ++ [event] ++ mid)).effects := by
    rw [effects_steps, further_append, further_snoc]
    exact List.mem_append_right _ (List.mem_append_left _ (List.mem_append_right _ closed))
  have ended := over_of_closed config display _ (closed_of_entered entered)
  obtain ⟨params, there⟩ := holds
  rw [Registry.params?, ended.entries] at there
  cases there

theorem change_unsubscribe (run : Run) (before : List Event) (key : Key) :
    run.change before (.unsubscribe key) = .ended key :=
  (Client.aside_unsubscribe key).unlessOver

/-- A subscriber is told of a loss of the connection as often as one is lost on which its
subscription was confirmed, and of a refusal as often as a subscription that is made again is
answered without an id: each time once, and then the subscription is gone.  An answer with an id
confirms it, whether the node reports an error besides or not.  The subscriber is told nothing else,
and nothing after its subscription has ended. -/
theorem losses_told_once (config : Config) (display : String) (key : Key) (before : List Event) :
    let run := connected config display
    let client := (run.steps before).client
    (∀ after, let told := reports key ((run.steps before).further after)
      told.countP isLoss = tally (run.Loses key) before after ∧
        told.countP (!isLoss ·) = tally (run.Refuses key) before after) ∧
    (∀ event, client.Disconnects event →
      (∀ id, run.Confirmed key id before →
        reports key (client.step event).2 = [.socketClosed]) ∧
      ((∀ id, ¬run.Confirmed key id before) ∨ run.Parked key before →
        reports key (client.step event).2 = [])) ∧
    (∀ event response, client.Refuses key response event → (∃ params, run.Made key params before) →
      reports key (client.step event).2 = [client.refusal response] ∧
        isLoss (client.refusal response) = false ∧
        ∀ params, ¬run.Made key params (before ++ [event])) ∧
    (∀ text number response id, client.phase = .serving →
      Incoming.ofText text = .reply number response →
      client.pending.get? number = some (.resubscribe key) →
      response.result = some (.string id) → (∃ params, run.Made key params before) →
      reports key (client.step (.receive text)).2 = [] ∧
        run.Confirmed key id (before ++ [.receive text])) ∧
    (∀ event after, event = .unsubscribe key ∨ run.Refuses key before event →
      let told := reports key ((run.steps (before ++ [event])).further after)
      (told = [] ∨ ∃ mid again rest params, after = mid ++ again :: rest ∧
        run.change (before ++ [event] ++ mid) again = .made params ∧
        (run.steps (before ++ [event] ++ mid)).client.registry.nextKey = key) ∧
      ((∃ params, run.Made key params before) →
        (before ++ [event] ++ after).countP Event.subscribes < UInt64.size → told = [])) ∧
    ∀ event after, .entered .closed ∈ (client.step event).2 →
      reports key ((run.steps (before ++ [event])).further after) = [] := by
  intro run client
  have initial : run.client.registry = .empty := rfl
  refine ⟨count_reports initial key before, ?_, ?_, ?_, ?_, fun _ _ => reports_after_close⟩
  · intro event disconnects
    have allowed : ¬run.Refuses key before event :=
      fun ⟨⟨_, refuses⟩, _⟩ => Client.stays_of_refuses refuses disconnects
    refine ⟨fun id confirmed => reports_of_loses initial ⟨disconnects, id, confirmed⟩, ?_⟩
    intro spared
    have unconfirmed (id : String) : ¬run.Confirmed key id before := by
      rcases spared with unknown | parked
      · exact unknown id
      · exact not_confirmed_of_parked initial parked id
    exact reports_of_neither initial (fun ⟨_, id, confirmed⟩ => unconfirmed id confirmed) allowed
  · intro event response refuses made
    refine ⟨reports_of_refuses initial refuses made, isLoss_refusal _ _, fun params later => ?_⟩
    have change : run.change before event = .ended key := Client.change_of_refuses refuses
    rcases since_snoc.mp later with ⟨again, -⟩ | ⟨-, stays⟩
    · cases change.symm.trans again
    · refine stays ?_
      unfold Ends
      rw [change]
      exact rfl
  · intro text number response id serving means pending result made
    refine ⟨?_, since_snoc.mpr (.inl ⟨?_, made⟩)⟩
    · rw [Client.effects_of_named serving means pending result]
      rfl
    · show client.change (.receive text) = _
      rw [Client.change_of_reply serving means pending,
        Pending.change_of_confirmed (.inr rfl) result]
  · intro event after ends
    have ended : run.change before event = .ended key := by
      rcases ends with rfl | ⟨⟨response, refuses⟩, -⟩
      · exact change_unsubscribe run before key
      · exact Client.change_of_refuses refuses
    exact ⟨reports_after_end initial (.inl ended),
      fun made few => reports_after_end_of_few initial few made (.inl ended)⟩

/-- The frame with which a node refuses what it was asked under a number; what stands between the
number and the error is part of it. -/
def refusalFrame (number besides : String) : String :=
  "\x7b\"jsonrpc\":\"2.0\",\"id\":" ++ number ++ besides ++
    ",\"error\":\x7b\"code\":-32000,\"message\":\"busy\"\x7d\x7d"

/-- A connection that is lost, one more that is lost before the subscription is made again on it,
and a refusal on the third. -/
theorem losses_told_once_and_refusal :
    let run := connected .standard "ws://node"
    let before := [Event.subscribe [.string "newHeads"], .write true,
      .receive (replyFrame "1" "0xa"), .lose, .dial, .dialled true, .write false, .dial,
      .dialled true, .write true]
    let after := [Event.receive (refusalFrame "3" ""), .lose]
    tally (run.Loses 1) [] (before ++ after) = 1 ∧
      tally (run.Refuses 1) [] (before ++ after) = 1 ∧
      (reports 1 (run.further (before ++ after))).length = 2 := by
  intro run before after
  have losses : (reports 1 (run.further (before ++ after))).countP isLoss = 1 := by
    decide +kernel
  have refusals : (reports 1 (run.further (before ++ after))).countP (!isLoss ·) = 1 := by
    decide +kernel
  have two : (reports 1 (run.further (before ++ after))).length = 2 := by decide +kernel
  clear_value before after
  obtain ⟨counts, -⟩ := losses_told_once .standard "ws://node" 1 []
  exact ⟨(counts _).1.symm.trans losses, (counts _).2.symm.trans refusals, two⟩

/-- The node answers a subscription that is made again with an error and an id: nobody is told, and
the subscription goes on under that id. -/
theorem error_beside_an_id_not_told :
    let run := connected .standard "ws://node"
    let before := [Event.subscribe [.string "newHeads"], .write true,
      .receive (replyFrame "1" "0xa"), .lose, .dial, .dialled true, .write true]
    let text := refusalFrame "2" ",\"result\":\"0xb\""
    let client := (run.steps before).client
    ∃ response error, Incoming.ofText text = .reply 2 response ∧ response.isOk = false ∧
      response.outcome = .error error ∧ client.phase = .serving ∧
      client.pending.get? 2 = some (.resubscribe 1) ∧ run.Parked 1 before ∧
      reports 1 (client.step (.receive text)).2 = [] ∧
      run.Confirmed 1 "0xb" (before ++ [.receive text]) := by
  intro run before text client
  have initial : run.client.registry = .empty := rfl
  have erroneous : (replyTo? 2 text).any (·.error.isSome) = true := by decide +kernel
  have member : 1 ∈ client.registry.parked.map Prod.fst := by decide +kernel
  have serving : client.phase = .serving := Phase.eq_serving (by decide +kernel)
  have pending : client.pending.get? 2 = some (.resubscribe 1) := by decide +kernel
  have quiet : (reports 1 (client.step (.receive text)).2).isEmpty = true := by decide +kernel
  have confirmed : run.Confirmed 1 "0xb" (before ++ [.receive text]) :=
    (confirmed_iff initial).mpr (by decide +kernel)
  obtain ⟨⟨key, params⟩, there, rfl⟩ := List.mem_map.mp member
  have parked := ((mem_parked initial).mp there).1
  clear_value text before
  obtain ⟨response, replies, some⟩ := Option.any_eq_true _ _ |>.mp erroneous
  obtain ⟨error, some⟩ := Option.isSome_iff_exists.mp some
  refine ⟨response, error, ofText_of_replyTo? replies, ?_, ?_, serving, pending, parked,
    List.isEmpty_iff.mp quiet, confirmed⟩
  · simp [Response.isOk, some]
  · simp [Response.outcome, some]

end Run
end NodeCall.Socket
