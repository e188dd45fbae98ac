import NodeCall.Proofs.Socket.Turns

/-!
# Turns of the task and the subscriptions

The task confirms subscriptions and ends those that are refused; the loss of its connection parks
them, and its end clears them.  With the turns of callers this gives what any turn does to the
subscriptions: `registry_step`.
-/

namespace NodeCall.Socket.Client

variable {client : Client} {event : Event}

theorem registry_shutDown : client.shutDown.1.registry = client.registry.clear :=
  congrArg Registry.clear (failPending_same .shutdown).registry

theorem pause_cases (dial : Nat) :
    (dial ≤ client.config.reconnect.maxAttempts.toNat ∧ client.pause dial =
      ({ client with phase := .pausing dial }, [.pausing client.config.reconnect.delay])) ∨
    client.config.reconnect.maxAttempts.toNat < dial ∧ client.pause dial = client.shutDown := by
  unfold pause
  split
  · next enough => exact .inl ⟨enough, rfl⟩
  · next beyond => exact .inr ⟨by omega, rfl⟩

/-- Those whose subscriptions are parked are told. -/
def toldLost (client : Client) : List Effect :=
  client.registry.park.1.map fun key => .told key .socketClosed

theorem lost_same : SameElsewhere { client with state := .disconnected, outgoing := [] }
    client.lost :=
  failPending_same .socketClosed

/-- The client that has lost its connection, with its subscriptions parked. -/
def adrift (client : Client) : Client := { client.lost with registry := client.registry.park.2 }

theorem disconnect_eq : client.disconnect =
    if client.config.reconnect.enabled then
      (({ client.adrift with state := .reconnecting }.pause 1).1,
        .entered .disconnected :: client.toldLost ++
          .entered .reconnecting :: ({ client.adrift with state := .reconnecting }.pause 1).2)
    else
      (client.adrift.shutDown.1,
        .entered .disconnected :: client.toldLost ++ [.entered .closed]) := by
  have registry : client.lost.registry = client.registry := lost_same.registry
  unfold adrift toldLost
  rw [← registry]
  rfl

/-- What the loss of a connection comes to: a pause before the first dial, or the end. -/
theorem disconnect_cases :
    ((client.config.reconnect.enabled = true ∧ 1 ≤ client.config.reconnect.maxAttempts.toNat) ∧
      client.disconnect = ({ client.adrift with state := .reconnecting, phase := .pausing 1 },
        .entered .disconnected :: client.toldLost ++
          [.entered .reconnecting, .pausing client.config.reconnect.delay])) ∨
    ∃ state tried, (state = .disconnected ∧ tried = [] ∨
        state = .reconnecting ∧ tried = [.entered .reconnecting]) ∧
      client.disconnect = ({ client.adrift with state }.shutDown.1,
        .entered .disconnected :: client.toldLost ++ (tried ++ [.entered .closed])) := by
  have config : client.adrift.config = client.config :=
    show client.lost.config = client.config by rw [lost_same]
  rw [disconnect_eq]
  split
  · next enabled =>
    rcases @pause_cases { client.adrift with state := .reconnecting } 1 with
      ⟨enough, heq⟩ | ⟨-, heq⟩
    · rw [heq]
      refine .inl ⟨⟨enabled, ?_⟩, ?_⟩
      · rw [← config]
        exact enough
      · rw [← config]
    · rw [heq]
      exact .inr ⟨.reconnecting, _, .inr ⟨rfl, rfl⟩, rfl⟩
  · refine .inr ⟨.disconnected, [], .inl ⟨rfl, rfl⟩, ?_⟩
    have state : client.adrift.state = .disconnected := lost_same.state
    rw [← state]
    rfl

theorem enters_toldLost (state : State) : client.toldLost.any (Effect.enters state) = false := by
  rw [List.any_eq_false]
  intro effect member
  obtain ⟨key, -, rfl⟩ := List.mem_map.mp member
  simp [Effect.enters]

variable {change : Change}

theorem registry_pause (dial : Nat) : (client.pause dial).1.registry =
    client.registry.after (Change.unlessOver (client.pause dial).2 .none) := by
  rcases @pause_cases client dial with ⟨-, heq⟩ | ⟨-, heq⟩
  · rw [heq]
    rfl
  · rw [heq]
    exact registry_shutDown

theorem registry_disconnect : client.disconnect.1.registry =
    client.registry.after (Change.unlessOver client.disconnect.2 change) := by
  obtain ⟨-, heq⟩ | ⟨state, tried, -, heq⟩ := @disconnect_cases client
  · rw [heq]
    simp [Change.unlessOver, enters_toldLost, Effect.enters, adrift, Registry.after]
  · have cleared : Change.unlessOver client.disconnect.2 change = .cleared := by
      simp [heq, Change.unlessOver, Effect.enters]
    rw [cleared, heq]
    exact @registry_shutDown { client.adrift with state }

theorem registry_bindOrEnd (key : Key) (id : String) :
    (client.bindOrEnd key id).registry = client.registry.after (.confirmed key id) := by
  rw [bindOrEnd_eq]
  split
  · rfl
  · next gone =>
    rw [Registry.contains_iff] at gone
    have same := client.drawn_same .keepAlive
    exact same.registry.trans (Registry.bind_of_not_holds gone id).symm

theorem registry_takeReply (number : UInt64) (entry : Pending) (response : Response) :
    (client.takeReply number entry response).1.registry =
      client.registry.after (entry.change response) := by
  unfold takeReply
  cases entry with
  | call caller => exact (deliver_same _ _ _).registry
  | keepAlive => rfl
  | subscribe key caller =>
    dsimp only
    rw [(deliver_same caller number _).registry]
    split
    · next id result =>
      rw [Pending.change_of_confirmed (.inl ⟨caller, rfl⟩) result]
      exact registry_bindOrEnd key id
    · next unconfirmed =>
      rw [Pending.change_subscribe unconfirmed]
      rfl
  | resubscribe key =>
    dsimp only
    split
    · next id result =>
      rw [Pending.change_of_confirmed (.inr rfl) result]
      exact registry_bindOrEnd key id
    · next unconfirmed =>
      rw [Pending.change_resubscribe unconfirmed]
      rfl

theorem enters_takeReply (number : UInt64) (entry : Pending) (response : Response) (state : State) :
    (client.takeReply number entry response).2.any (Effect.enters state) = false := by
  rw [List.any_eq_false]
  intro effect member
  obtain ⟨key, error, rfl⟩ := told_of_takeReply member
  simp [Effect.enters]

theorem unlessOver_takeReply (number : UInt64) (entry : Pending) (response : Response) :
    Change.unlessOver (client.takeReply number entry response).2 change = change := by
  simp [Change.unlessOver, enters_takeReply]

theorem registry_receive (serving : client.phase = .serving) (text : String) :
    (client.receive text).1.registry =
      client.registry.after (Change.unlessOver (client.receive text).2 (client.replied text)) := by
  unfold receive replied
  rw [serving]
  cases Incoming.ofText text with
  | ignored => rfl
  | push notification =>
    dsimp only
    split <;> rfl
  | reply number response =>
    dsimp only
    cases client.pending.get? number with
    | none => rfl
    | some entry =>
      dsimp only
      rw [unlessOver_takeReply, registry_takeReply]

theorem registry_write (succeeds : Bool) : (client.write succeeds).1.registry =
    client.registry.after (Change.unlessOver (client.write succeeds).2 .none) := by
  unfold write
  split
  · next key params left _ =>
    have same := client.drawn_same (.resubscribe key)
    have registry : (client.replaying key).registry = client.registry := same.registry
    cases succeeds with
    | true => exact registry
    | false =>
      have lost := @registry_disconnect (client.replaying key) .none
      rw [registry] at lost
      exact lost
  · cases succeeds with
    | true => rfl
    | false => exact registry_disconnect
  · split
    · rfl
    · next rest _ =>
      cases succeeds with
      | true => rfl
      | false => exact @registry_disconnect { client with outgoing := rest } .none
  · rfl

/-- Every turn changes the subscriptions in the one way that its event and its effects show. -/
theorem registry_step (client : Client) (event : Event) :
    (client.step event).1.registry = client.registry.after (client.change event) := by
  have aside (ofCaller : event.ofCaller = true) :
      (client.step event).1.registry = client.registry.after (client.change event) := by
    have turn : client.Aside (client.step event) _ := aside_step ofCaller
    unfold change
    rw [turn.unlessOver, turn.registry]
  cases event with
  | close => rfl
  | write succeeds => exact registry_write succeeds
  | receive text =>
    unfold change step
    dsimp only
    split
    · next serving => exact registry_receive serving text
    · next idle =>
      have ignored : client.replied text = .none := by
        unfold replied
        split
        · next serving _ => exact absurd serving idle
        · rfl
      show client.registry = client.registry.after (client.replied text)
      rw [ignored]
      rfl
  | lose =>
    unfold change step
    dsimp only
    split
    · exact registry_disconnect
    · rfl
  | tick =>
    unfold change step
    dsimp only
    split
    · split
      · have same := client.drawn_same .keepAlive
        exact same.registry
      · rfl
    · rfl
  | stop =>
    unfold change step
    dsimp only
    split
    · split
      · exact registry_shutDown
      · exact registry_shutDown
      · exact registry_shutDown
      · rfl
    · rfl
  | dial =>
    unfold change step
    dsimp only
    split <;> rfl
  | dialled succeeds =>
    unfold change step
    dsimp only
    split
    · cases succeeds with
      | true => rfl
      | false => exact registry_pause _
    · rfl
  | _ => exact aside rfl

theorem unlessOver_cases (effects : List Effect) (change : Change) :
    Change.unlessOver effects change = .cleared ∨ Change.unlessOver effects change = .parked ∨
      Change.unlessOver effects change = change := by
  unfold Change.unlessOver
  split
  · exact .inl rfl
  · split
    · exact .inr (.inl rfl)
    · exact .inr (.inr rfl)

theorem yields_cases (c : Caller) (effects : List Effect) :
    c.yields effects = .none ∨ ∃ key, c.yields effects = .ended key := by
  unfold Caller.yields
  split
  · next key _ =>
    split
    · exact .inr ⟨key, rfl⟩
    · exact .inl rfl
  · exact .inl rfl

theorem yielded_cases (caller : Nat) (effects : List Effect) :
    client.yielded caller effects = .none ∨ ∃ key, client.yielded caller effects = .ended key := by
  unfold yielded
  split
  · exact yields_cases _ _
  · exact .inl rfl

theorem abandoned_cases (caller : Nat) :
    client.abandoned caller = .none ∨ ∃ key, client.abandoned caller = .ended key := by
  unfold abandoned
  split
  · exact .inl rfl
  · exact .inr ⟨_, rfl⟩
  · exact .inl rfl

theorem change_cases (entry : Pending) (response : Response) :
    entry.change response = .none ∨ (∃ key, entry.change response = .ended key) ∨
      ∃ key id, ((∃ caller, entry = .subscribe key caller) ∨ entry = .resubscribe key) ∧
        response.result = some (.string id) ∧ entry.change response = .confirmed key id := by
  by_cases confirms : ∃ id, response.result = some (.string id)
  · obtain ⟨id, result⟩ := confirms
    cases entry with
    | call caller => exact .inl rfl
    | keepAlive => exact .inl rfl
    | subscribe key caller =>
      have asks : (∃ other, Pending.subscribe key caller = .subscribe key other) ∨
          Pending.subscribe key caller = .resubscribe key := .inl ⟨caller, rfl⟩
      exact .inr (.inr ⟨key, id, asks, result, Pending.change_of_confirmed asks result⟩)
    | resubscribe key =>
      have asks : (∃ other, Pending.resubscribe key = .subscribe key other) ∨
          Pending.resubscribe key = .resubscribe key := .inr rfl
      exact .inr (.inr ⟨key, id, asks, result, Pending.change_of_confirmed asks result⟩)
  · have unconfirmed (id : String) (result : response.result = some (.string id)) : False :=
      confirms ⟨id, result⟩
    cases entry with
    | call caller => exact .inl rfl
    | keepAlive => exact .inl rfl
    | subscribe key caller => exact .inl (Pending.change_subscribe unconfirmed)
    | resubscribe key => exact .inr (.inl ⟨key, Pending.change_resubscribe unconfirmed⟩)

/-- A frame that the node has sent confirms a subscription under an id. -/
def Confirms (client : Client) (key : Key) (id : String) (event : Event) : Prop :=
  ∃ text number response entry, event = .receive text ∧ client.phase = .serving ∧
    Incoming.ofText text = .reply number response ∧ client.pending.get? number = some entry ∧
    ((∃ caller, entry = .subscribe key caller) ∨ entry = .resubscribe key) ∧
    response.result = some (.string id)

theorem replied_cases (text : String) :
    client.replied text = .none ∨ (∃ key, client.replied text = .ended key) ∨
      ∃ key id, client.Confirms key id (.receive text) ∧
        client.replied text = .confirmed key id := by
  unfold replied
  split
  · next number response serving means =>
    split
    · next entry pending =>
      rcases change_cases entry response with none | ended | ⟨key, id, asks, result, confirmed⟩
      · exact .inl none
      · exact .inr (.inl ended)
      · exact .inr (.inr ⟨key, id, ⟨text, number, response, entry, rfl, serving, means, pending,
          asks, result⟩, confirmed⟩)
    · exact .inl rfl
  · exact .inl rfl

/-- What the event of a turn is when the turn makes, refuses or confirms a subscription. -/
def Change.Calls (client : Client) (event : Event) : Change → Prop
  | .made params => event = .subscribe params ∧ client.state = .connected
  | .rejected params => event = .subscribe params ∧ client.state ≠ .connected
  | .confirmed key id => client.Confirms key id event
  | _ => True

theorem calls_intended (effects : List Effect) :
    Change.Calls client event (client.intended effects event) := by
  have ended {change : Change} (cases : change = .none ∨ ∃ key, change = .ended key) :
      Change.Calls client event change := by
    rcases cases with rfl | ⟨key, rfl⟩
    · trivial
    · trivial
  cases event with
  | subscribe params =>
    unfold intended
    dsimp only
    split
    · trivial
    · split
      · next connected => exact ⟨rfl, connected⟩
      · next unconnected => exact ⟨rfl, unconnected⟩
  | resume caller => exact ended (yielded_cases caller effects)
  | timeout caller number => exact ended (yielded_cases caller effects)
  | wake caller => exact ended (yielded_cases caller effects)
  | leave caller => exact ended (abandoned_cases caller)
  | receive text =>
    rcases @replied_cases client text with none | lost | ⟨key, id, confirms, heq⟩
    · exact ended (.inl none)
    · exact ended (.inr lost)
    · show Change.Calls client (.receive text) (client.replied text)
      rw [heq]
      exact confirms
  | _ => trivial

theorem calls_change (client : Client) (event : Event) :
    Change.Calls client event (client.change event) := by
  unfold change
  dsimp only
  rcases unlessOver_cases (client.step event).2 (client.intended (client.step event).2 event) with
    heq | heq | heq
  · rw [heq]
    trivial
  · rw [heq]
    trivial
  · rw [heq]
    exact calls_intended _

/-- Only one who subscribes is given a key. -/
theorem subscribes_of_change {params : List Json}
    (given : client.change event = .made params ∨ client.change event = .rejected params) :
    event = .subscribe params := by
  have calls := calls_change client event
  rcases given with heq | heq
  · rw [heq] at calls
    exact calls.1
  · rw [heq] at calls
    exact calls.1

theorem connected_of_made {params : List Json} (made : client.change event = .made params) :
    client.state = .connected := by
  have calls := calls_change client event
  rw [made] at calls
  exact calls.2

theorem confirms_of_change {key : Key} {id : String}
    (confirmed : client.change event = .confirmed key id) : client.Confirms key id event := by
  have calls := calls_change client event
  rwa [confirmed] at calls

theorem step_of_reply {text : String} {number : UInt64} {response : Response} {entry : Pending}
    (serving : client.phase = .serving) (means : Incoming.ofText text = .reply number response)
    (pending : client.pending.get? number = some entry) :
    client.step (.receive text) =
      { client with pending := client.pending.erase number }.takeReply number entry response := by
  rw [step_receive serving]
  unfold receive
  rw [means]
  dsimp only
  rw [pending]

theorem change_of_reply {text : String} {number : UInt64} {response : Response} {entry : Pending}
    (serving : client.phase = .serving) (means : Incoming.ofText text = .reply number response)
    (pending : client.pending.get? number = some entry) :
    client.change (.receive text) = entry.change response := by
  have replied : client.replied text = entry.change response := by
    unfold replied
    rw [serving, means]
    dsimp only
    rw [pending]
  unfold change
  rw [step_of_reply serving means pending]
  dsimp only
  rw [unlessOver_takeReply]
  exact replied

theorem phase_bindOrEnd {key : Key} (there : client.registry.Holds key) (id : String) :
    (client.bindOrEnd key id).phase = client.phase := by
  rw [bindOrEnd_eq, if_pos (Registry.contains_iff.mpr there)]

/-- The task goes on reading after it has confirmed a subscription that is still there. -/
theorem serving_of_change {key : Key} {id : String}
    (confirmed : client.change event = .confirmed key id) (there : client.registry.Holds key) :
    (client.step event).1.phase = .serving := by
  obtain ⟨text, number, response, entry, rfl, serving, means, pending, asks, result⟩ :=
    confirms_of_change confirmed
  rw [step_of_reply serving means pending]
  have bound := @phase_bindOrEnd { client with pending := client.pending.erase number } key there id
  unfold takeReply
  rcases asks with ⟨caller, rfl⟩ | rfl
  · dsimp only
    rw [result]
    dsimp only
    rw [(deliver_same caller number _).phase]
    exact bound.trans serving
  · dsimp only
    rw [result]
    exact bound.trans serving

/-! ### Effects and their turns -/

/-- What an effect tells of the turn that has brought it about. -/
def Due (client : Client) (event : Event) : Effect → Prop
  | .entered .connected => event = .dialled true ∧ ∃ dial, client.phase = .dialling dial
  | .wrote _ => event = .write true
  | .pushed key news => ∃ text notification, event = .receive text ∧ client.phase = .serving ∧
      Incoming.ofText text = .push notification ∧
      client.registry.dispatch notification.subscription = some key ∧ news = notification.result
  | .began _ _ | .resting _ _ | .answered _ _ => event.ofCaller = true
  | .entered _ | .told _ _ | .pausing _ | .dialling => event.ofCaller = false

variable {effect : Effect} {other : Client}

theorem due_pause {dial : Nat} (task : event.ofCaller = false)
    (member : effect ∈ (other.pause dial).2) : client.Due event effect := by
  rcases @pause_cases other dial with ⟨-, heq⟩ | ⟨-, heq⟩
  · rw [heq] at member
    obtain rfl := List.mem_singleton.mp member
    exact task
  · rw [heq] at member
    obtain rfl := List.mem_singleton.mp member
    exact task

theorem due_toldLost (task : event.ofCaller = false) (member : effect ∈ other.toldLost) :
    client.Due event effect := by
  obtain ⟨key, -, rfl⟩ := List.mem_map.mp member
  exact task

theorem due_disconnect (task : event.ofCaller = false) (member : effect ∈ other.disconnect.2) :
    client.Due event effect := by
  rw [disconnect_eq] at member
  split at member
  · rcases List.mem_append.mp member with before | after
    · rcases List.mem_cons.mp before with rfl | told
      · exact task
      · exact due_toldLost task told
    · rcases List.mem_cons.mp after with rfl | paused
      · exact task
      · exact due_pause task paused
  · rcases List.mem_append.mp member with before | after
    · rcases List.mem_cons.mp before with rfl | told
      · exact task
      · exact due_toldLost task told
    · obtain rfl := List.mem_singleton.mp after
      exact task

theorem due_takeReply {number : UInt64} {entry : Pending} {response : Response}
    (task : event.ofCaller = false) (member : effect ∈ (other.takeReply number entry response).2) :
    client.Due event effect := by
  obtain ⟨key, error, rfl⟩ := told_of_takeReply member
  exact task

theorem due_write {succeeds : Bool} (member : effect ∈ (client.write succeeds).2) :
    client.Due (.write succeeds) effect := by
  unfold write at member
  cases succeeds with
  | true =>
    dsimp only at member
    split at member
    · obtain rfl := List.mem_singleton.mp member
      rfl
    · obtain rfl := List.mem_singleton.mp member
      rfl
    · split at member
      · exact absurd member List.not_mem_nil
      · obtain rfl := List.mem_singleton.mp member
        rfl
    · exact absurd member List.not_mem_nil
  | false =>
    dsimp only at member
    split at member
    · exact due_disconnect rfl member
    · exact due_disconnect rfl member
    · split at member
      · exact absurd member List.not_mem_nil
      · exact due_disconnect rfl member
    · exact absurd member List.not_mem_nil

theorem due_receive {text : String} (serving : client.phase = .serving)
    (member : effect ∈ (client.receive text).2) : client.Due (.receive text) effect := by
  unfold receive at member
  split at member
  · exact absurd member List.not_mem_nil
  · next notification means =>
    split at member
    · next key routed =>
      obtain rfl := List.mem_singleton.mp member
      exact ⟨text, notification, rfl, serving, means, routed, rfl⟩
    · exact absurd member List.not_mem_nil
  · split at member
    · exact absurd member List.not_mem_nil
    · exact due_takeReply rfl member

theorem Aside.due {turn : Client × List Effect} {change : Change} (aside : client.Aside turn change)
    (ofCaller : event.ofCaller = true) (member : effect ∈ turn.2) : client.Due event effect := by
  have about := aside.effects effect member
  cases effect with
  | began caller number => exact ofCaller
  | resting caller delay => exact ofCaller
  | answered caller answer => exact ofCaller
  | _ => simp [Effect.caller?] at about

theorem due_of_mem (member : effect ∈ (client.step event).2) : client.Due event effect := by
  cases event with
  | close => exact absurd member List.not_mem_nil
  | write succeeds => exact due_write member
  | receive text =>
    unfold step at member
    dsimp only at member
    split at member
    · next serving => exact due_receive serving member
    · exact absurd member List.not_mem_nil
  | lose =>
    unfold step at member
    dsimp only at member
    split at member
    · exact due_disconnect rfl member
    · exact absurd member List.not_mem_nil
  | tick =>
    unfold step at member
    dsimp only at member
    split at member
    · split at member
      · exact absurd member List.not_mem_nil
      · exact absurd member List.not_mem_nil
    · exact absurd member List.not_mem_nil
  | stop =>
    unfold step at member
    dsimp only at member
    split at member
    · split at member
      · obtain rfl := List.mem_singleton.mp member
        rfl
      · obtain rfl := List.mem_singleton.mp member
        rfl
      · obtain rfl := List.mem_singleton.mp member
        rfl
      · exact absurd member List.not_mem_nil
    · exact absurd member List.not_mem_nil
  | dial =>
    unfold step at member
    dsimp only at member
    split at member
    · obtain rfl := List.mem_singleton.mp member
      rfl
    · exact absurd member List.not_mem_nil
  | dialled succeeds =>
    unfold step at member
    dsimp only at member
    split at member
    · next dial dialling =>
      cases succeeds with
      | true =>
        obtain rfl := List.mem_singleton.mp member
        exact ⟨rfl, dial, dialling⟩
      | false => exact due_pause rfl member
    · exact absurd member List.not_mem_nil
  | _ => exact (aside_step rfl).due rfl member

/-- A push in the hands of the task calls the subscriber that its id leads to. -/
theorem step_push {text : String} {notification : Notification} (serving : client.phase = .serving)
    (means : Incoming.ofText text = .push notification) :
    client.step (.receive text) = (client,
      ((client.registry.dispatch notification.subscription).map
        fun key => .pushed key notification.result).toList) := by
  rw [step_receive serving]
  unfold receive
  rw [means]
  dsimp only
  cases client.registry.dispatch notification.subscription <;> rfl

end NodeCall.Socket.Client
