import NodeCall.Proofs.Socket.Moves
import NodeCall.Proofs.Socket.Registry

/-!
# Turns of callers and the subscriptions

What a turn does to the subscriptions shows in its event and in its effects.  The turn of a caller
leaves the connection alone, and its effects are about callers.
-/

namespace NodeCall.Socket

namespace Effect

def enters (state : State) : Effect → Bool
  | .entered other => other = state
  | _ => false

/-- A subscriber is told that there is no subscription. -/
def denies : Effect → Bool
  | .answered _ (.subscription (.error _)) => true
  | _ => false

end Effect

/-- The end of a connection is the end of all routes, whatever else a turn is about. -/
def Change.unlessOver (effects : List Effect) (change : Change) : Change :=
  if effects.any (Effect.enters .closed) then .cleared
  else if effects.any (Effect.enters .disconnected) then .parked
  else change

/-- What a reply under an entry means for the subscription of the entry. -/
def Pending.change : Pending → Response → Change
  | .subscribe key _, response =>
    match response.result with
    | some (.string id) => .confirmed key id
    | _ => .none
  | .resubscribe key, response =>
    match response.result with
    | some (.string id) => .confirmed key id
    | _ => .ended key
  | _, _ => .none

theorem Pending.change_of_confirmed {entry : Pending} {response : Response} {key : Key} {id : String}
    (asks : (∃ caller, entry = .subscribe key caller) ∨ entry = .resubscribe key)
    (result : response.result = some (.string id)) :
    entry.change response = .confirmed key id := by
  rcases asks with ⟨caller, rfl⟩ | rfl
  · simp only [change, result]
  · simp only [change, result]

theorem Pending.change_subscribe {response : Response} {key : Key} {caller : Nat}
    (unconfirmed : ∀ id, response.result = some (.string id) → False) :
    (Pending.subscribe key caller).change response = .none := by
  unfold change
  dsimp only
  split
  · next id result => exact (unconfirmed id result).elim
  · rfl

theorem Pending.change_resubscribe {response : Response} {key : Key}
    (unconfirmed : ∀ id, response.result = some (.string id) → False) :
    (Pending.resubscribe key).change response = .ended key := by
  unfold change
  dsimp only
  split
  · next id result => exact (unconfirmed id result).elim
  · rfl

/-- A subscriber that is told so gives its subscription up. -/
def Caller.yields (c : Caller) (effects : List Effect) : Change :=
  match c.purpose with
  | .subscribe key => if effects.any Effect.denies then .ended key else .none
  | _ => .none

namespace Client

variable {client : Client} {caller : Nat} {c : Caller} {event : Event}

/-- What a frame means for the subscriptions. -/
def replied (client : Client) (text : String) : Change :=
  match client.phase, Incoming.ofText text with
  | .serving, .reply number response =>
    match client.pending.get? number with
    | some entry => entry.change response
    | none => .none
  | _, _ => .none

/-- What becomes of a subscription that a caller has asked for and not yet been given. -/
def yielded (client : Client) (caller : Nat) (effects : List Effect) : Change :=
  match client.callers[caller]? with
  | some c => c.yields effects
  | none => .none

/-- A caller that goes away gives up what it has asked for. -/
def abandoned (client : Client) (caller : Nat) : Change :=
  match client.callers[caller]? with
  | some ⟨.subscribe _, _, .over⟩ => .none
  | some ⟨.subscribe key, _, _⟩ => .ended key
  | _ => .none

/-- What a turn with these effects does to the subscriptions, unless the connection ends in it. -/
def intended (client : Client) (effects : List Effect) : Event → Change
  | .subscribe params =>
    match client.executor.check subscribeMethod with
    | .error _ => .none
    | .ok () => if client.state = .connected then .made params else .rejected params
  | .unsubscribe key => .ended key
  | .resume caller | .timeout caller _ | .wake caller => client.yielded caller effects
  | .leave caller => client.abandoned caller
  | .receive text => client.replied text
  | _ => .none

/-- What a turn does to the subscriptions. -/
def change (client : Client) (event : Event) : Change :=
  let effects := (client.step event).2
  Change.unlessOver effects (client.intended effects event)

/-! ### Turns of callers -/

/-- A turn leaves the connection alone, and changes the subscriptions in one way. -/
structure Aside (client : Client) (turn : Client × List Effect) (change : Change) : Prop where
  config : turn.1.config = client.config
  state : turn.1.state = client.state
  phase : turn.1.phase = client.phase
  registry : turn.1.registry = client.registry.after change
  effects : ∀ effect ∈ turn.2, effect.caller?.isSome = true

theorem Aside.of_same {next : Client} {turn : Client × List Effect} {change : Change}
    (aside : next.Aside turn change) (config : next.config = client.config)
    (state : next.state = client.state) (phase : next.phase = client.phase)
    (registry : next.registry = client.registry) : client.Aside turn change where
  config := aside.config.trans config
  state := aside.state.trans state
  phase := aside.phase.trans phase
  registry := by rw [aside.registry, registry]
  effects := aside.effects

theorem SameElsewhere.aside {next : Client} {turn : Client × List Effect} {change : Change}
    (same : SameElsewhere client next) (aside : next.Aside turn change) :
    client.Aside turn change := by
  refine aside.of_same ?_ same.state same.phase same.registry
  rw [same]

theorem aside_finish (answer : Answer) : client.Aside (client.finish caller c answer) .none where
  config := rfl
  state := rfl
  phase := rfl
  registry := rfl
  effects := by
    intro effect member
    rw [List.mem_singleton.mp member]
    rfl

theorem yields_finish {answer : Answer} (answers : Effect.denies (.answered caller answer) = false) :
    c.yields (client.finish caller c answer).2 = .none := by
  unfold Caller.yields
  split
  · simp [finish, answers]
  · rfl

theorem aside_concludeSend (attempt : UInt32) (outcome : Outcome Response) :
    client.Aside (client.concludeSend caller c attempt outcome) .none := by
  unfold concludeSend
  dsimp only
  split
  · refine ⟨rfl, rfl, rfl, rfl, ?_⟩
    intro effect member
    rw [List.mem_singleton.mp member]
    rfl
  · exact aside_finish _

theorem aside_conclude (outcome : Outcome Response) :
    client.Aside (client.conclude caller c outcome)
      (c.yields (client.conclude caller c outcome).2) := by
  cases hpurpose : c.purpose with
  | send attempt =>
    have quiet (effects : List Effect) : c.yields effects = .none := by
      simp only [Caller.yields, hpurpose]
    have heq : client.conclude caller c outcome = client.concludeSend caller c attempt outcome := by
      simp only [conclude, hpurpose]
    rw [quiet, heq]
    exact aside_concludeSend attempt outcome
  | subscribe key =>
    cases hsubscribed : client.subscribed key outcome with
    | ok k =>
      have heq : client.conclude caller c outcome =
          client.finish caller c (.subscription (.ok k)) := by
        simp only [conclude, hpurpose, hsubscribed]
      rw [heq, yields_finish rfl]
      exact aside_finish _
    | error e =>
      let removed := { client with registry := (client.registry.remove key).2 }
      have heq : client.conclude caller c outcome =
          removed.finish caller c (.subscription (.error e)) := by
        simp only [conclude, hpurpose, hsubscribed]
        rfl
      have denied : c.yields (removed.finish caller c (.subscription (.error e))).2 =
          .ended key := by
        simp only [Caller.yields, hpurpose]
        rfl
      have done := @aside_finish removed caller c (.subscription (.error e))
      rw [heq, denied]
      exact ⟨rfl, rfl, rfl, rfl, done.effects⟩
  | unsubscribe =>
    have quiet (effects : List Effect) : c.yields effects = .none := by
      simp only [Caller.yields, hpurpose]
    have heq : client.conclude caller c outcome =
        client.finish caller c (.unsubscribed (client.unsubscribed outcome)) := by
      simp only [conclude, hpurpose]
    rw [quiet, heq]
    exact aside_finish _

theorem aside_startExchange :
    client.Aside (client.startExchange caller c)
      (c.yields (client.startExchange caller c).2) := by
  unfold startExchange
  rw [exchange_eq]
  by_cases connected : client.state = .connected
  · rw [if_pos connected]
    have same := client.drawn_same (c.entry caller)
    have quiet : c.yields [.began caller client.executor.counter] = .none := by
      unfold Caller.yields
      cases c.purpose <;> rfl
    rw [quiet]
    refine ⟨?_, same.state, same.phase, same.registry, ?_⟩
    · show (client.draw.2.expect client.executor.counter (c.entry caller)).config = _
      rw [same]
      rfl
    · intro effect member
      rw [List.mem_singleton.mp member]
      rfl
  · rw [if_neg connected]
    exact aside_conclude _

theorem aside_join : client.Aside (client.join c) (c.yields (client.join c).2) := by
  have aside := @aside_startExchange { client with callers := client.callers ++ [c] }
    client.callers.length c
  exact aside.of_same rfl rfl rfl rfl

theorem aside_joinOver (request : Request) (answer : Answer) :
    client.Aside (client.joinOver request answer) .none where
  config := rfl
  state := rfl
  phase := rfl
  registry := rfl
  effects := by
    intro effect member
    rw [List.mem_singleton.mp member]
    rfl

theorem aside_send (request : Request) : client.Aside (client.send request) .none := by
  unfold send
  split
  · exact aside_joinOver _ _
  · dsimp only
    exact aside_join.of_same rfl rfl rfl rfl

theorem startExchange_connected (connected : client.state = .connected) :
    client.startExchange caller c =
      (client.begun caller c, [.began caller client.executor.counter]) := by
  unfold startExchange
  rw [exchange_eq, if_pos connected]

theorem startExchange_unconnected (unconnected : client.state ≠ .connected) :
    client.startExchange caller c =
      client.conclude caller c (.error (closedError client.state)) := by
  unfold startExchange
  rw [exchange_eq, if_neg unconnected]

theorem yields_subscribe {key : Key} {params : List Json} :
    let c : Caller := ⟨.subscribe key, Request.call subscribeMethod params, .resting⟩
    c.yields (client.join c).2 = if client.state = .connected then .none else .ended key := by
  intro c
  let joined := { client with callers := client.callers ++ [c] }
  show c.yields (joined.startExchange client.callers.length c).2 = _
  split
  · next connected =>
    rw [@startExchange_connected joined _ c connected]
    rfl
  · next unconnected =>
    rw [@startExchange_unconnected joined _ c unconnected]
    rfl

theorem aside_subscribe (params : List Json) :
    client.Aside (client.subscribe params) (match client.executor.check subscribeMethod with
      | .error _ => .none
      | .ok () => if client.state = .connected then .made params else .rejected params) := by
  unfold subscribe
  dsimp only
  cases client.executor.check subscribeMethod with
  | error e => exact aside_joinOver _ _
  | ok =>
    let c : Caller := ⟨.subscribe client.registry.nextKey, Request.call subscribeMethod params,
      .resting⟩
    let inserted := { client with registry := (client.registry.insert params).2 }
    have aside := @aside_join inserted c
    have yields : c.yields (inserted.join c).2 =
        if client.state = .connected then .none else .ended client.registry.nextKey :=
      @yields_subscribe inserted client.registry.nextKey params
    refine ⟨aside.config, aside.state, aside.phase, ?_, aside.effects⟩
    show (inserted.join c).1.registry = _
    rw [aside.registry, yields]
    dsimp only
    split <;> rfl

theorem aside_unsubscribe (key : Key) : client.Aside (client.unsubscribe key) (.ended key) := by
  unfold unsubscribe
  split
  · next registry heq =>
    obtain rfl : (client.registry.remove key).2 = registry := by rw [heq]
    have aside := @aside_joinOver { client with registry := (client.registry.remove key).2 }
      (Request.call unsubscribeMethod []) (.unsubscribed (.ok false))
    exact ⟨rfl, rfl, rfl, rfl, aside.effects⟩
  · next id registry heq =>
    obtain rfl : (client.registry.remove key).2 = registry := by rw [heq]
    have aside := @aside_join { client with registry := (client.registry.remove key).2 }
      ⟨.unsubscribe, Request.call unsubscribeMethod [.string id], .resting⟩
    exact ⟨aside.config, aside.state, aside.phase, aside.registry, aside.effects⟩

theorem aside_released {purpose : Purpose} {request : Request} {number : UInt64}
    (outcome : Outcome Response) :
    let c : Caller := ⟨purpose, request, .resting⟩
    let turn := ((client.withCaller caller c).forget number).conclude caller c outcome
    client.Aside turn (c.yields turn.2) := by
  intro c turn
  have same : SameElsewhere (client.withCaller caller c) ((client.withCaller caller c).forget number) :=
    forget_same number
  exact (same.aside (aside_conclude outcome)).of_same rfl rfl rfl rfl

theorem aside_nothing : client.Aside (client, []) .none where
  config := rfl
  state := rfl
  phase := rfl
  registry := rfl
  effects := by simp

theorem yields_nil : c.yields [] = .none := by
  unfold Caller.yields
  cases c.purpose <;> rfl

theorem yielded_nil : client.yielded caller [] = .none := by
  unfold yielded
  cases client.callers[caller]? with
  | none => rfl
  | some c => exact yields_nil

theorem aside_resume (caller : Nat) :
    client.Aside (client.resume caller) (client.yielded caller (client.resume caller).2) := by
  unfold resume
  split
  · next purpose request number callerId reply there =>
    unfold yielded
    rw [there]
    exact aside_released _
  · rw [yielded_nil]
    exact aside_nothing

theorem aside_giveUp (caller : Nat) (number : UInt64) :
    client.Aside (client.giveUp caller number)
      (client.yielded caller (client.giveUp caller number).2) := by
  unfold giveUp
  split
  · next purpose request n callerId there =>
    split
    · unfold yielded
      rw [there]
      exact aside_released _
    · rw [yielded_nil]
      exact aside_nothing
  · rw [yielded_nil]
    exact aside_nothing

theorem aside_wake (caller : Nat) :
    client.Aside (client.wake caller) (client.yielded caller (client.wake caller).2) := by
  unfold wake
  split
  · next purpose request there =>
    unfold yielded
    rw [there]
    exact aside_startExchange
  · rw [yielded_nil]
    exact aside_nothing

theorem aside_gone {gone : Client} (same : SameElsewhere client gone) (purpose : Purpose) :
    client.Aside
      (match purpose with
        | .subscribe key => { gone with registry := (gone.registry.remove key).2 }
        | _ => gone, [])
      (match purpose with
        | .subscribe key => .ended key
        | _ => .none) := by
  have config : gone.config = client.config := by rw [same]
  cases purpose with
  | subscribe key =>
    have registry : (gone.registry.remove key).2 = (client.registry.remove key).2 := by
      rw [same.registry]
    exact ⟨config, same.state, same.phase, registry, by simp⟩
  | send attempt => exact ⟨config, same.state, same.phase, same.registry, by simp⟩
  | unsubscribe => exact ⟨config, same.state, same.phase, same.registry, by simp⟩

theorem aside_leave (caller : Nat) :
    client.Aside (client.leave caller, []) (client.abandoned caller) := by
  unfold leave abandoned
  cases hc : client.callers[caller]? with
  | none => exact aside_nothing
  | some c =>
    obtain ⟨purpose, request, stage⟩ := c
    let gone := client.withCaller caller ⟨purpose, request, .over⟩
    have same : SameElsewhere client gone := rfl
    cases stage with
    | resting =>
      have aside := aside_gone same purpose
      cases purpose <;> exact aside
    | waiting exchange =>
      have aside := aside_gone (same.trans (forget_same exchange.number)) purpose
      cases purpose <;> exact aside
    | _ => cases purpose <;> exact aside_nothing

theorem aside_step (ofCaller : event.ofCaller = true) :
    client.Aside (client.step event) (client.intended (client.step event).2 event) := by
  cases event with
  | send request => exact aside_send request
  | subscribe params => exact aside_subscribe params
  | unsubscribe key => exact aside_unsubscribe key
  | resume caller => exact aside_resume caller
  | timeout caller number => exact aside_giveUp caller number
  | wake caller => exact aside_wake caller
  | leave caller => exact aside_leave caller
  | _ => simp [Event.ofCaller] at ofCaller

theorem Aside.unlessOver {turn : Client × List Effect} {change other : Change}
    (aside : client.Aside turn other) : Change.unlessOver turn.2 change = change := by
  have quiet (state : State) : turn.2.any (Effect.enters state) = false := by
    rw [List.any_eq_false]
    intro effect member
    have about := aside.effects effect member
    cases effect <;> simp_all [Effect.caller?, Effect.enters]
  simp [Change.unlessOver, quiet]

end Client
end NodeCall.Socket
