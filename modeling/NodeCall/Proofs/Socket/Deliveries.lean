import NodeCall.Proofs.Socket.Confirmations
import NodeCall.Proofs.Socket.Subscriptions

/-!
# News for subscribers

A push calls the subscriber whose subscription the node has confirmed under its id, and nobody else.
Keys are words: what is said of ends and of strange ids holds as long as no key comes round.
-/

namespace NodeCall.Socket

def Event.subscribes : Event → Bool
  | .subscribe _ => true
  | _ => false

def Incoming.subscription? : Incoming → Option String
  | .push notification => some notification.subscription
  | _ => none

theorem Incoming.subscription?_eq_some {incoming : Incoming} {id : String}
    (known : incoming.subscription? = some id) :
    ∃ notification, incoming = .push notification ∧ notification.subscription = id := by
  cases incoming with
  | push notification => exact ⟨notification, rfl, Option.some.inj known⟩
  | _ => simp [subscription?] at known

namespace Run

variable {run : Run} {events more : List Event} {key : Key} {id : String}

/-- No two subscriptions that live on one connection are confirmed under the same id. -/
def Distinct (run : Run) (events : List Event) : Prop :=
  ∀ before event after key id, events = before ++ event :: after →
    run.change before event = .confirmed key id → (∃ params, run.Made key params before) →
    ∀ other, run.Confirmed other id before → other = key

theorem Distinct.front (distinct : run.Distinct (events ++ more)) : run.Distinct events := by
  rintro before event after key id rfl
  exact distinct before event (after ++ more) key id (by simp)

theorem Distinct.of_unread (unread : ∀ text, .receive text ∉ events) : run.Distinct events := by
  rintro before event after key id rfl change
  obtain ⟨text, -, -, -, rfl, -⟩ := Client.confirms_of_change change
  exact absurd (List.mem_append_right before List.mem_cons_self) (unread text)

theorem Distinct.snoc {event : Event} (distinct : run.Distinct events)
    (apart : ∀ key id, run.change events event = .confirmed key id →
      ∀ other, run.Confirmed other id events → other = key) :
    run.Distinct (events ++ [event]) := by
  intro before middle after key id heq change made other confirmed
  cases after using List.reverseRecOn with
  | nil =>
    obtain ⟨rfl, rfl⟩ := snoc_inj heq
    exact apart key id change other confirmed
  | append_singleton later last =>
    obtain ⟨rfl, -⟩ := snoc_inj (heq.trans (List.append_assoc before (middle :: later) _).symm)
    exact distinct before middle later key id rfl change made other confirmed

/-! ### Ids lead to the subscriptions confirmed under them -/

theorem leads (initial : run.client.registry = .empty) (distinct : run.Distinct events)
    (confirmed : run.Confirmed key id events) :
    (run.steps events).client.registry.Leads id key := by
  induction events using List.reverseRecOn with
  | nil => exact absurd confirmed not_since_nil
  | append_singleton events event ih =>
    have single (change : run.change events event = .confirmed key id)
        (made : ∃ params, run.Made key params events) {other : Key}
        (known : (run.steps events).client.registry.serverId other = some id) : other = key :=
      distinct events event [] key id rfl change made other ((confirmed_iff initial).mpr known)
    rw [registry_snoc]
    rcases since_snoc.mp confirmed with ⟨change, made⟩ | ⟨confirmed, kept⟩
    · rw [change]
      exact .confirmed ((holds_iff initial).mpr made) fun _ known => single change made known
    · have leads := ih distinct.front confirmed
      obtain ⟨stays, connected, same⟩ : ¬run.Ends key events event ∧
          run.change events event ≠ .parked ∧
          ∀ other, run.change events event ≠ .confirmed key other := by
        simpa [Unconfirms, not_or] using kept
      by_cases calm : (run.steps events).client.registry.Disturbs id key (run.change events event)
      · -- another subscription would be confirmed under the id, but it is not there any more
        obtain ends | parked | ⟨k, other, change, heq⟩ := calm
        · exact absurd ends stays
        · exact absurd parked connected
        · have hkey : k ≠ key := by
            rintro rfl
            exact same other change
          obtain rfl : other = id := heq.resolve_left hkey
          have gone : ¬(run.steps events).client.registry.Holds k := by
            intro there
            have made := (holds_iff initial).mp there
            exact hkey (distinct events event [] k other rfl change made key confirmed).symm
          rw [change]
          show ((run.steps events).client.registry.bind k other).2.Leads other key
          rwa [Registry.bind_of_not_holds gone]
      · exact leads.after calm

/-! ### Keys are given once -/

/-- So many keys have been given, and whatever has had a key had one of these. -/
structure Keyed (run : Run) (events : List Event) (given : Nat) : Prop where
  few : given ≤ events.countP Event.subscribes
  last : (run.steps events).client.registry.lastKey = UInt64.ofNat given
  past : ∀ {before after key}, events = before ++ after →
    (run.steps before).client.registry.Holds key → Counter.Drawn 1 given key

namespace Keyed

variable {given : Nat} {event : Event}

theorem registry (keyed : run.Keyed events given) :
    (run.steps events).client.registry.Keyed given :=
  ⟨keyed.last, keyed.past (List.append_nil _).symm⟩

theorem past_snoc (keyed : run.Keyed events given) {before after : List Event} {more : Nat}
    (le : given ≤ more) (heq : events ++ [event] = before ++ after)
    (last : (run.steps (events ++ [event])).client.registry.Holds key → Counter.Drawn 1 more key)
    (holds : (run.steps before).client.registry.Holds key) : Counter.Drawn 1 more key := by
  cases after using List.reverseRecOn with
  | nil =>
    rw [List.append_nil] at heq
    rw [← heq] at holds
    exact last holds
  | append_singleton after final =>
    obtain ⟨rfl, -⟩ := snoc_inj (heq.trans (List.append_assoc before after _).symm)
    exact (keyed.past rfl holds).mono le

theorem snoc (keyed : run.Keyed events given) (event : Event) :
    ∃ given, run.Keyed (events ++ [event]) given := by
  have next := keyed.registry.after (run.change events event)
  rw [← registry_snoc] at next
  have subscribes : (run.change events event).gives = true → event.subscribes = true := by
    intro gives
    obtain ⟨params, heq⟩ : ∃ params, run.change events event = .made params ∨
        run.change events event = .rejected params := by
      cases change : run.change events event <;> simp_all [Change.gives]
    rw [Client.subscribes_of_change heq]
    rfl
  refine ⟨_, ?_, next.last, fun heq => keyed.past_snoc (by omega) heq next.held⟩
  have := keyed.few
  rw [List.countP_append, List.countP_singleton]
  split
  · next gives =>
    rw [subscribes gives]
    exact Nat.add_le_add_right this 1
  · omega

end Keyed

theorem keyed (initial : run.client.registry = .empty) (events : List Event) :
    ∃ given, run.Keyed events given := by
  induction events using List.reverseRecOn with
  | nil =>
    refine ⟨0, by simp, ?_, ?_⟩
    · show run.client.registry.lastKey = 0
      rw [initial]
      rfl
    · intro before after key heq holds
      obtain ⟨rfl, -⟩ := List.append_eq_nil_iff.mp heq.symm
      obtain ⟨params, there⟩ := holds
      have empty : run.client.registry.params? key = some params := there
      rw [initial] at empty
      simp [Registry.params?, Registry.empty] at empty
  | append_singleton events event ih =>
    obtain ⟨given, keyed⟩ := ih
    exact keyed.snoc event

/-- In a turn after these a key is given to a new subscription while there is one under it. -/
def Regives (run : Run) (key : Key) (before : List Event) (event : Event) : Prop :=
  (run.steps before).client.registry.Regives key (run.change before event)

variable (initial : run.client.registry = .empty)

include initial

/-- Before keys have come round none is given to two subscriptions that are there. -/
theorem spares_regives (few : events.countP Event.subscribes < UInt64.size) (key : Key) :
    Spares (run.Regives key) [] events := by
  rintro before event after rfl ⟨-, hkey, holds⟩
  obtain ⟨given, keyed⟩ := keyed initial before
  have past : Counter.Drawn 1 given key := keyed.past (List.append_nil _).symm holds
  have fewer : given < UInt64.size := by
    have := keyed.few
    rw [List.countP_append] at few
    omega
  exact past.ne_next fewer (hkey ▸ keyed.registry.next)

/-- An id leads to nobody but the subscription that is confirmed under it. -/
theorem sound (single : Spares (run.Regives key) [] events) :
    (run.steps events).client.registry.Sound key := by
  induction events using List.reverseRecOn with
  | nil =>
    intro id route
    have empty : run.client.registry.routes.get? id = some key := route
    rw [initial] at empty
    simp [Registry.empty] at empty
  | append_singleton events event ih =>
    obtain ⟨before, last⟩ := spares_snoc.mp single
    rw [registry_snoc]
    exact (ih before).after last

/-- A subscription is there after its end only if it has been made anew under its key. -/
theorem made_again {before after : List Event} {event : Event}
    (ended : run.change before event = .ended key ∨ run.change before event = .cleared)
    (holds : (run.steps (before ++ [event] ++ after)).client.registry.Holds key) :
    ∃ mid again rest params, after = mid ++ again :: rest ∧
      run.change (before ++ [event] ++ mid) again = .made params ∧
      (run.steps (before ++ [event] ++ mid)).client.registry.nextKey = key := by
  obtain ⟨params, made⟩ := (holds_iff initial).mp holds
  rcases made.before_or_in with earlier | ⟨mid, again, rest, heq, change, hkey⟩
  · have ends : run.Ends key before event := by
      unfold Ends
      rcases ended with heq | heq
      · rw [heq]
        exact rfl
      · rw [heq]
        trivial
    rcases since_snoc.mp earlier with ⟨change, -⟩ | ⟨-, stays⟩
    · rcases ended with heq | heq
      · simp [heq] at change
      · simp [heq] at change
    · exact absurd ends stays
  · exact ⟨mid, again, rest, params, heq, change, hkey⟩

omit initial

theorem mem_further {effect : Effect} (member : effect ∈ run.further events) :
    ∃ before event after, events = before ++ event :: after ∧
      effect ∈ ((run.steps before).client.step event).2 := by
  induction events using List.reverseRecOn with
  | nil => exact absurd member List.not_mem_nil
  | append_singleton events event ih =>
    have bare : (steps ⟨run.client, []⟩ events).client = (run.steps events).client :=
      @client_steps ⟨run.client, []⟩ run rfl events
    unfold further at member
    rw [steps_append] at member
    rcases List.mem_append.mp member with old | new
    · obtain ⟨before, other, after, rfl, there⟩ := ih old
      exact ⟨before, other, after ++ [event], by simp, there⟩
    · rw [bare] at new
      exact ⟨events, event, [], rfl, new⟩

/-! ### Pushes -/

variable {text : String} {notification : Notification}

theorem step_push_of_confirmed (initial : run.client.registry = .empty)
    (distinct : run.Distinct events)
    (confirmed : run.Confirmed key notification.subscription events)
    (serving : (run.steps events).client.phase = .serving)
    (means : Incoming.ofText text = .push notification) :
    (run.steps events).client.step (.receive text) =
      ((run.steps events).client, [.pushed key notification.result]) := by
  have leads := leads initial distinct confirmed
  rw [Client.step_push serving means, leads.dispatch]
  rfl

theorem step_push_of_unknown (initial : run.client.registry = .empty)
    (single : ∀ key, Spares (run.Regives key) [] events)
    (unknown : ∀ key, ¬run.Confirmed key notification.subscription events)
    (means : Incoming.ofText text = .push notification) :
    (run.steps events).client.step (.receive text) = ((run.steps events).client, []) := by
  have nobody : (run.steps events).client.registry.dispatch notification.subscription = none := by
    refine Option.eq_none_iff_forall_ne_some.mpr ?_
    intro key dispatch
    have route := (Registry.dispatch_eq_some.mp dispatch).1
    exact unknown key ((confirmed_iff initial).mpr (sound initial (single key) _ route))
  cases hphase : (run.steps events).client.phase with
  | serving =>
    rw [Client.step_push hphase means, nobody]
    rfl
  | _ => simp only [Client.step, hphase]

/-- Pushes that come one after the other call the subscribers in the same order. -/
theorem steps_pushes {next : Run} (news : List (String × Notification × Key))
    (each : ∀ row ∈ news, next.client.step (.receive row.1) =
      (next.client, [.pushed row.2.2 row.2.1.result])) :
    next.steps (news.map fun row => .receive row.1) =
      ⟨next.client, next.effects ++ news.map fun row => .pushed row.2.2 row.2.1.result⟩ := by
  induction news generalizing next with
  | nil => simp [steps]
  | cons row rest ih =>
    have first : next.step (.receive row.1) =
        ⟨next.client, next.effects ++ [.pushed row.2.2 row.2.1.result]⟩ := by
      unfold step
      rw [each row List.mem_cons_self]
    show (next.step (.receive row.1)).steps _ = _
    let called : Run := ⟨next.client, next.effects ++ [.pushed row.2.2 row.2.1.result]⟩
    have others := @ih called fun row member => each row (List.mem_cons_of_mem _ member)
    rw [first]
    refine others.trans ?_
    simp [called]

/-- A subscription is not there any more once it has ended, as long as no key is given twice. -/
theorem gone_after_end (initial : run.client.registry = .empty) {before mid after : List Event}
    {event : Event}
    (few : (before ++ [event] ++ (mid ++ after)).countP Event.subscribes < UInt64.size)
    (made : ∃ params, run.Made key params before)
    (ended : run.change before event = .ended key ∨ run.change before event = .cleared) :
    ¬(run.steps (before ++ [event] ++ mid)).client.registry.Holds key := by
  intro holds
  obtain ⟨earlier, again, later, params, rfl, -, hkey⟩ := made_again initial ended holds
  -- the key would have been given twice
  obtain ⟨given, keyed⟩ := keyed initial (before ++ [event] ++ earlier)
  have past : Counter.Drawn 1 given key :=
    keyed.past (List.append_assoc _ _ _) ((holds_iff initial).mpr made)
  have fewer : given < UInt64.size := by
    have := keyed.few
    simp only [List.countP_append] at few this
    omega
  exact past.ne_next fewer (hkey ▸ keyed.registry.next)

theorem not_pushed_after_end (initial : run.client.registry = .empty) {before after : List Event}
    {event : Event} (few : (before ++ [event] ++ after).countP Event.subscribes < UInt64.size)
    (made : ∃ params, run.Made key params before)
    (ended : run.change before event = .ended key ∨ run.change before event = .cleared)
    (news : Json) : .pushed key news ∉ (run.steps (before ++ [event])).further after := by
  intro member
  obtain ⟨mid, other, rest, rfl, pushed⟩ := mem_further member
  obtain ⟨text, notification, -, -, -, dispatch, -⟩ := Client.due_of_mem pushed
  rw [← steps_append] at dispatch
  exact gone_after_end initial few made ended (Registry.dispatch_eq_some.mp dispatch).2

/-- While no two subscriptions that live on one connection are confirmed under the same id, each
push for an id calls the one subscriber that is confirmed under it, in the order of the pushes and
from the frame after the confirmation on.  Nobody is called whose subscription has ended or been
cleared, unless a new one has been made under its key, and a push for an id of nobody calls nobody,
unless a key was given while it was in use.  Neither can be before keys have come round. -/
theorem pushes_reach_subscribers (config : Config) (display : String) (events : List Event)
    (distinct : (connected config display).Distinct events) :
    let run := connected config display
    let reached := run.steps events
    (∀ key text notification, run.Confirmed key notification.subscription events →
      reached.client.phase = .serving → Incoming.ofText text = .push notification →
      reached.client.step (.receive text) =
        (reached.client, [.pushed key notification.result])) ∧
    (∀ before text key id, events = before ++ [.receive text] →
      run.change before (.receive text) = .confirmed key id →
      (∃ params, run.Made key params before) →
      run.Confirmed key id events ∧ reached.client.phase = .serving) ∧
    (∀ news : List (String × Notification × Key), reached.client.phase = .serving →
      (∀ text notification key, (text, notification, key) ∈ news →
        Incoming.ofText text = .push notification ∧
          run.Confirmed key notification.subscription events) →
      reached.steps (news.map fun row => .receive row.1) =
        ⟨reached.client, reached.effects ++ news.map fun row => .pushed row.2.2 row.2.1.result⟩) ∧
    (∀ next key news, .pushed key news ∈ (reached.client.step next).2 →
      (∃ params, run.Made key params events) ∧
      ∀ before event after, events = before ++ [event] ++ after →
        run.change before event = .ended key ∨ run.change before event = .cleared →
        ∃ mid again rest params, after = mid ++ again :: rest ∧
          run.change (before ++ [event] ++ mid) again = .made params ∧
          (run.steps (before ++ [event] ++ mid)).client.registry.nextKey = key) ∧
    (∀ text notification, Incoming.ofText text = .push notification →
      (∀ key, ¬run.Confirmed key notification.subscription events) →
      (∀ key, Spares (run.Regives key) [] events) →
      reached.client.step (.receive text) = (reached.client, [])) ∧
    (events.countP Event.subscribes < UInt64.size →
      (∀ key, Spares (run.Regives key) [] events) ∧
      ∀ before event after key news, events = before ++ [event] ++ after →
        (∃ params, run.Made key params before) →
        run.change before event = .ended key ∨ run.change before event = .cleared →
        .pushed key news ∉ (run.steps (before ++ [event])).further after) := by
  intro run reached
  have initial : run.client.registry = .empty := rfl
  refine ⟨?_, ?_, ?_, ?_, ?_, ?_⟩
  · intro key text notification confirmed serving means
    exact step_push_of_confirmed initial distinct confirmed serving means
  · rintro before text key id rfl change made
    refine ⟨since_snoc.mpr (.inl ⟨change, made⟩), ?_⟩
    show (run.steps (before ++ [.receive text])).client.phase = .serving
    rw [steps_snoc]
    exact Client.serving_of_change change ((holds_iff initial).mpr made)
  · intro news serving each
    refine steps_pushes news ?_
    rintro ⟨text, notification, key⟩ member
    obtain ⟨means, confirmed⟩ := each text notification key member
    exact step_push_of_confirmed initial distinct confirmed serving means
  · intro next key news pushed
    obtain ⟨text, notification, -, -, -, dispatch, -⟩ := Client.due_of_mem pushed
    have holds := (Registry.dispatch_eq_some.mp dispatch).2
    refine ⟨(holds_iff initial).mp holds, ?_⟩
    rintro before event after rfl ended
    exact made_again initial ended holds
  · intro text notification means unknown single
    exact step_push_of_unknown initial single unknown means
  · intro few
    refine ⟨spares_regives initial few, ?_⟩
    rintro before event after key news rfl made ended
    exact not_pushed_after_end initial few made ended news

/-- The frame with which a node pushes news under an id. -/
def pushFrame (id : String) : String :=
  "\x7b\"jsonrpc\":\"2.0\",\"method\":\"eth_subscription\",\"params\":\x7b\"subscription\":\"" ++ id ++
    "\",\"result\":\"0x1\"\x7d\x7d"

/-- A subscriber that has not yet seen its confirmation, and a push under an id of nobody. -/
theorem pushes_reach_subscribers_at_once :
    let run := connected .standard "ws://node"
    let events := [Event.subscribe [.string "newHeads"], .write true, .receive (confirmation "1")]
    let reached := (run.steps events).client
    run.Distinct events ∧ run.Confirmed 1 "0xabc" events ∧
      (∃ news, reached.step (.receive (pushFrame "0xabc")) = (reached, [.pushed 1 news])) ∧
      reached.step (.receive (pushFrame "0xdef")) = (reached, []) := by
  intro run events reached
  have initial : run.client.registry = .empty := rfl
  have distinct : run.Distinct events := by
    let asked := [Event.subscribe [.string "newHeads"], .write true]
    have ids : (run.steps asked).client.registry.ids = [(1, none)] := by decide +kernel
    have apart : run.Distinct asked := .of_unread (by simp [asked])
    refine apart.snoc ?_
    intro key id _ other confirmed
    have known := Registry.mem_ids_of_serverId ((confirmed_iff initial).mp confirmed)
    rw [ids] at known
    simp at known
  have ids : reached.registry.ids = [(1, some "0xabc")] := by decide +kernel
  have confirmed : run.Confirmed 1 "0xabc" events :=
    (confirmed_iff initial).mpr (by decide +kernel)
  have unknown (key : Key) : ¬run.Confirmed key "0xdef" events := by
    intro confirmed
    have known := Registry.mem_ids_of_serverId ((confirmed_iff initial).mp confirmed)
    rw [ids] at known
    simp at known
  have serving : reached.phase = .serving := Phase.eq_serving (by decide +kernel)
  have few : events.countP Event.subscribes < UInt64.size := by decide +kernel
  -- the turns are not to be run again where the statement is applied to them
  clear_value events
  obtain ⟨called, -, -, -, strange, later⟩ :=
    pushes_reach_subscribers .standard "ws://node" events distinct
  refine ⟨distinct, confirmed, ?_, ?_⟩
  · have known : (Incoming.ofText (pushFrame "0xabc")).subscription? = some "0xabc" := by
      decide +kernel
    obtain ⟨notification, means, hid⟩ := Incoming.subscription?_eq_some known
    rw [← hid] at confirmed
    exact ⟨_, called 1 _ notification confirmed serving means⟩
  · have known : (Incoming.ofText (pushFrame "0xdef")).subscription? = some "0xdef" := by
      decide +kernel
    obtain ⟨notification, means, hid⟩ := Incoming.subscription?_eq_some known
    rw [← hid] at unknown
    exact strange _ notification means unknown (later few).1

end Run
end NodeCall.Socket
