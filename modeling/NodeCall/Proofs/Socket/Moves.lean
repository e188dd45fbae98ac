import NodeCall.Proofs.Socket.Exchanges

/-!
# What a turn can do

Every turn of a client is a short sequence of moves.  The moves say once what can happen to a
client and under which condition; whatever each move keeps is kept by every turn and every run.
-/

namespace NodeCall.Socket

/-- The caller that an effect is about. -/
def Effect.caller? : Effect → Option Nat
  | .began caller _ => some caller
  | .resting caller _ => some caller
  | .answered caller _ => some caller
  | _ => none

/-- The turns that callers take. -/
def Event.ofCaller : Event → Bool
  | .send _ | .subscribe _ | .unsubscribe _ => true
  | .resume _ | .timeout _ _ | .wake _ | .leave _ => true
  | _ => false

namespace Client

/-- The client whose caller has begun an exchange under the next number. -/
def begun (client : Client) (caller : Nat) (c : Caller) : Client :=
  let expecting := client.draw.2.expect client.executor.counter (c.entry caller)
  { expecting with
    outgoing := expecting.outgoing ++ [(c.request.withId (.number client.executor.counter)).text]
    callers := expecting.callers.set caller
      { c with stage := .waiting ⟨client.executor.counter, c.request.id, none⟩ } }

/-- The client whose task has put down a number for a subscription that it makes again. -/
def replaying (client : Client) (key : Key) : Client :=
  client.draw.2.expect client.executor.counter (.resubscribe key)

/-- What an event can do to a client at one go. -/
inductive Move (event : Event) : Client → Client → List Effect → Prop
  | draw (client : Client) : Move event client client.draw.2 []
  | arrive (client : Client) (c : Caller) (resting : c.stage = .resting) :
      Move event client { client with callers := client.callers ++ [c] } []
  | refuse (client : Client) (request : Request) (answer : Answer) :
      Move event client (client.joinOver request answer).1 (client.joinOver request answer).2
  | begin (client : Client) (caller : Nat) (c : Caller) (there : client.callers[caller]? = some c)
      (resting : c.stage = .resting) (connected : client.state = .connected) :
      Move event client (client.begun caller c) [.began caller client.executor.counter]
  | release (client : Client) (caller : Nat) (purpose : Purpose) (request : Request)
      (exchange : Exchange)
      (there : client.callers[caller]? = some ⟨purpose, request, .waiting exchange⟩)
      (turn : event = .resume caller ∨
        event = .timeout caller exchange.number ∧ exchange.reply = none) :
      Move event client
        ((client.withCaller caller ⟨purpose, request, .resting⟩).forget exchange.number) []
  | rest (client : Client) (caller : Nat) (attempt : UInt32) (request : Request) (delay : Duration)
      (there : client.callers[caller]? = some ⟨.send attempt, request, .resting⟩) :
      Move event client (client.withCaller caller ⟨.send (attempt + 1), request, .resting⟩)
        [.resting caller delay]
  | finish (client : Client) (caller : Nat) (c : Caller) (answer : Answer)
      (there : client.callers[caller]? = some c) (resting : c.stage = .resting) :
      Move event client (client.finish caller c answer).1 (client.finish caller c answer).2
  | leave (client : Client) (caller : Nat) (purpose : Purpose) (request : Request)
      (there : client.callers[caller]? = some ⟨purpose, request, .resting⟩)
      (leaves : event = .leave caller) :
      Move event client (client.withCaller caller ⟨purpose, request, .over⟩) []
  | abandon (client : Client) (caller : Nat) (purpose : Purpose) (request : Request)
      (exchange : Exchange)
      (there : client.callers[caller]? = some ⟨purpose, request, .waiting exchange⟩)
      (leaves : event = .leave caller) :
      Move event client
        ((client.withCaller caller ⟨purpose, request, .over⟩).forget exchange.number) []
  | insert (client : Client) (params : List Json) :
      Move event client { client with registry := (client.registry.insert params).2 } []
  | remove (client : Client) (key : Key) :
      Move event client { client with registry := (client.registry.remove key).2 } []
  | close (client : Client) : Move event client { client with closing := true } []
  | stop (client : Client) (closing : client.closing = true) (phase : client.phase ≠ .stopped) :
      Move event client client.shutDown.1 client.shutDown.2
  | lose (client : Client)
      (connected : client.phase = .serving ∨ ∃ frame, client.phase = .writing frame) :
      Move event client client.disconnect.1 client.disconnect.2
  | write (client : Client) (frame : String) (rest : List String)
      (serving : client.phase = .serving) (next : client.outgoing = frame :: rest) :
      Move event client { client with outgoing := rest } [.wrote frame]
  | writeOwn (client : Client) (frame : String) (writing : client.phase = .writing frame) :
      Move event client { client with phase := .serving } [.wrote frame]
  | replay (client : Client) (key : Key) (params : List Json) (left : List (Key × List Json))
      (next : client.phase = .replaying ((key, params) :: left)) :
      Move event client { client.replaying key with phase := replayPhase left }
        [.wrote (frame client.executor.counter subscribeMethod params)]
  | loseReplay (client : Client) (key : Key) (params : List Json) (left : List (Key × List Json))
      (next : client.phase = .replaying ((key, params) :: left)) :
      Move event client (client.replaying key).disconnect.1 (client.replaying key).disconnect.2
  | push (client : Client) (notification : Notification) (key : Key)
      (serving : client.phase = .serving)
      (routed : client.registry.dispatch notification.subscription = some key) :
      Move event client client [.pushed key notification.result]
  | reply (client : Client) (text : String) (number : UInt64) (response : Response)
      (entry : Pending) (received : event = .receive text)
      (means : Incoming.ofText text = .reply number response) (serving : client.phase = .serving)
      (pending : client.pending.get? number = some entry) :
      Move event client
        ({ client with pending := client.pending.erase number }.takeReply number entry response).1
        ({ client with pending := client.pending.erase number }.takeReply number entry response).2
  | probe (client : Client) (serving : client.phase = .serving) :
      Move event client (client.writeOwn keepAliveMethod []) []
  | dial (client : Client) (dial : Nat) (pausing : client.phase = .pausing dial) :
      Move event client { client with phase := .dialling dial } [.dialling]
  | reconnect (client : Client) (dial : Nat) (dialling : client.phase = .dialling dial) :
      Move event client client.reconnected.1 client.reconnected.2
  | redial (client : Client) (dial : Nat) (dialling : client.phase = .dialling dial) :
      Move event client (client.pause (dial + 1)).1 (client.pause (dial + 1)).2

/-- Moves of one event, one after the other, not more than a number of them. -/
inductive Moves (event : Event) : Nat → Client → Client → List Effect → Prop
  | done (most : Nat) (client : Client) : Moves event most client client []
  | move {most : Nat} {client next last : Client} {effects others : List Effect}
      (first : Move event client next effects) (rest : Moves event most next last others) :
      Moves event (most + 1) client last (effects ++ others)

theorem Move.moves {event : Event} {client next : Client} {effects : List Effect} {most : Nat}
    (move : Move event client next effects) : Moves event (most + 1) client next effects := by
  simpa using Moves.move move (.done most next)

theorem Moves.mono {event : Event} {client last : Client} {effects : List Effect}
    {most more : Nat} (moves : Moves event most client last effects) (le : most ≤ more) :
    Moves event more client last effects := by
  induction moves generalizing more with
  | done most client => exact .done more client
  | move first rest ih =>
    cases more with
    | zero => omega
    | succ more => exact .move first (ih (by omega))

/-! ### Turns of callers -/

variable {event : Event} {client : Client} {caller : Nat} {c : Caller}

theorem moves_conclude (there : client.callers[caller]? = some c) (resting : c.stage = .resting)
    (outcome : Outcome Response) :
    Moves event 2 client (client.conclude caller c outcome).1
      (client.conclude caller c outcome).2 := by
  unfold conclude
  split
  · next attempt hpurpose =>
    unfold concludeSend
    dsimp only
    split
    · next delay _ =>
      obtain ⟨purpose, request, stage⟩ := c
      obtain rfl : purpose = .send attempt := hpurpose
      obtain rfl : stage = .resting := resting
      exact (Move.rest client caller attempt request delay there).moves
    · exact (Move.finish client caller c _ there resting).moves
  · next key _ =>
    split
    · exact (Move.finish client caller c _ there resting).moves
    · let removed := { client with registry := (client.registry.remove key).2 }
      exact .move (.remove client key) (Move.finish removed caller c _ there resting).moves
  · exact (Move.finish client caller c _ there resting).moves

theorem exchange_eq : client.exchange caller c (c.entry caller) =
    if client.state = .connected then (.ok client.executor.counter, client.begun caller c)
    else (.error (closedError client.state), client) := by
  unfold exchange enter
  split <;> rfl

theorem moves_startExchange (there : client.callers[caller]? = some c)
    (resting : c.stage = .resting) :
    Moves event 2 client (client.startExchange caller c).1 (client.startExchange caller c).2 := by
  unfold startExchange
  rw [exchange_eq]
  by_cases connected : client.state = .connected
  · rw [if_pos connected]
    exact (Move.begin client caller c there resting connected).moves
  · rw [if_neg connected]
    exact moves_conclude there resting _

theorem moves_join (resting : c.stage = .resting) :
    Moves event 3 client (client.join c).1 (client.join c).2 :=
  .move (.arrive client c resting) (moves_startExchange (by simp) resting)

theorem moves_send (request : Request) :
    Moves event 4 client (client.send request).1 (client.send request).2 := by
  unfold send
  split
  · exact (Move.refuse client request _).moves
  · unfold Executor.prepare
    dsimp only
    split
    · refine .move (.draw client) ?_
      exact moves_join rfl
    · refine Moves.mono ?_ (by decide : 3 ≤ 4)
      exact moves_join rfl

theorem moves_subscribe (params : List Json) :
    Moves event 4 client (client.subscribe params).1 (client.subscribe params).2 := by
  unfold subscribe
  dsimp only
  split
  · exact (Move.refuse client _ _).moves
  · refine .move (.insert client params) ?_
    exact moves_join rfl

theorem moves_unsubscribe (key : Key) :
    Moves event 4 client (client.unsubscribe key).1 (client.unsubscribe key).2 := by
  unfold unsubscribe
  split
  · next registry heq =>
    obtain rfl : (client.registry.remove key).2 = registry := by rw [heq]
    exact .move (.remove client key) (Move.refuse _ _ _).moves
  · next id registry heq =>
    obtain rfl : (client.registry.remove key).2 = registry := by rw [heq]
    refine .move (.remove client key) ?_
    exact moves_join rfl

theorem moves_conclude_released {purpose : Purpose} {request : Request} {exchange : Exchange}
    (there : client.callers[caller]? = some ⟨purpose, request, .waiting exchange⟩)
    (turn : event = .resume caller ∨
      event = .timeout caller exchange.number ∧ exchange.reply = none)
    (outcome : Outcome Response) :
    Moves event 3 client
      (((client.withCaller caller ⟨purpose, request, .resting⟩).forget exchange.number).conclude
        caller ⟨purpose, request, .resting⟩ outcome).1
      (((client.withCaller caller ⟨purpose, request, .resting⟩).forget exchange.number).conclude
        caller ⟨purpose, request, .resting⟩ outcome).2 := by
  have hlt := (List.getElem?_eq_some_iff.mp there).1
  have hrest : (client.withCaller caller ⟨purpose, request, .resting⟩).callers[caller]? =
      some ⟨purpose, request, .resting⟩ := by
    simp [withCaller, hlt]
  exact .move (.release client caller purpose request exchange there turn)
    (moves_conclude (callers_forget hrest rfl) rfl outcome)

theorem moves_resume (caller : Nat) :
    Moves (.resume caller) 3 client (client.resume caller).1 (client.resume caller).2 := by
  unfold resume
  split
  · next there => exact moves_conclude_released there (.inl rfl) _
  · exact .done _ client

theorem moves_giveUp (caller : Nat) (number : UInt64) :
    Moves (.timeout caller number) 3 client (client.giveUp caller number).1
      (client.giveUp caller number).2 := by
  unfold giveUp
  split
  · next there =>
    split
    · next heq =>
      subst heq
      exact moves_conclude_released there (.inr ⟨rfl, rfl⟩) _
    · exact .done _ client
  · exact .done _ client

theorem moves_wake (caller : Nat) :
    Moves event 2 client (client.wake caller).1 (client.wake caller).2 := by
  unfold wake
  split
  · next there => exact moves_startExchange there rfl
  · exact .done _ client

theorem moves_gone {gone : Client} (purpose : Purpose) (move : Move event client gone []) :
    Moves event 2 client
      (match purpose with
        | .subscribe key => { gone with registry := (gone.registry.remove key).2 }
        | _ => gone) [] := by
  cases purpose with
  | subscribe key => exact .move move (Move.remove gone key).moves
  | send attempt => exact move.moves
  | unsubscribe => exact move.moves

theorem moves_leave (caller : Nat) : Moves (.leave caller) 2 client (client.leave caller) [] := by
  unfold leave
  split
  · exact .done _ client
  · exact .done _ client
  · next purpose request stage hstage there =>
    cases stage with
    | waiting exchange =>
      exact moves_gone purpose (.abandon client caller purpose request exchange there rfl)
    | resting => exact moves_gone purpose (.leave client caller purpose request there rfl)
    | _ => exact absurd rfl hstage

/-! ### Turns of the task -/

theorem moves_write (succeeds : Bool) :
    Moves event 1 client (client.write succeeds).1 (client.write succeeds).2 := by
  unfold write
  split
  · next key params left hphase =>
    cases succeeds with
    | true => exact (Move.replay client key params left hphase).moves
    | false => exact (Move.loseReplay client key params left hphase).moves
  · next frame hphase =>
    cases succeeds with
    | true => exact (Move.writeOwn client frame hphase).moves
    | false => exact (Move.lose client (.inr ⟨frame, hphase⟩)).moves
  · next hphase =>
    split
    · exact .done _ client
    · next frame rest hnext =>
      cases succeeds with
      | true => exact (Move.write client frame rest hphase hnext).moves
      | false => exact (Move.lose client (.inl hphase)).moves
  · exact .done _ client

theorem step_receive (serving : client.phase = .serving) (text : String) :
    client.step (.receive text) = client.receive text := by
  simp only [step, serving]

theorem moves_receive {text : String} (serving : client.phase = .serving) :
    Moves (.receive text) 1 client (client.receive text).1 (client.receive text).2 := by
  unfold receive
  split
  · exact .done _ client
  · next notification _ =>
    split
    · next key routed => exact (Move.push client notification key serving routed).moves
    · exact .done _ client
  · next number response means =>
    split
    · exact .done _ client
    · next entry pending =>
      exact (Move.reply client text number response entry rfl means serving pending).moves

theorem moves_task (task : event.ofCaller = false) :
    Moves event 1 client (client.step event).1 (client.step event).2 := by
  cases event with
  | close => exact (Move.close client).moves
  | write succeeds => exact moves_write succeeds
  | receive text =>
    unfold step
    dsimp only
    split
    · next serving => exact moves_receive serving
    · exact .done _ client
  | lose =>
    unfold step
    dsimp only
    split
    · next serving => exact (Move.lose client (.inl serving)).moves
    · exact .done _ client
  | tick =>
    unfold step
    dsimp only
    split
    · next serving =>
      split
      · exact (Move.probe client serving).moves
      · exact .done _ client
    · exact .done _ client
  | stop =>
    unfold step
    dsimp only
    split
    · next closing =>
      split
      · next phase => exact (Move.stop client closing (by simp [phase])).moves
      · next phase => exact (Move.stop client closing (by simp [phase])).moves
      · next phase => exact (Move.stop client closing (by simp [phase])).moves
      · exact .done _ client
    · exact .done _ client
  | dial =>
    unfold step
    dsimp only
    split
    · next dial phase => exact (Move.dial client dial phase).moves
    · exact .done _ client
  | dialled succeeds =>
    unfold step
    dsimp only
    split
    · next dial phase =>
      unfold dialled
      cases succeeds with
      | true => exact (Move.reconnect client dial phase).moves
      | false => exact (Move.redial client dial phase).moves
    · exact .done _ client
  | _ => simp [Event.ofCaller] at task

/-- A turn of the task is a move, or nothing happens in it. -/
theorem step_of_task (task : event.ofCaller = false) :
    client.step event = (client, []) ∨
      Move event client (client.step event).1 (client.step event).2 := by
  generalize heq : client.step event = turn
  have moves : Moves event 1 client turn.1 turn.2 := heq ▸ moves_task task
  obtain ⟨next, effects⟩ := turn
  cases moves with
  | done most => exact .inl rfl
  | move first rest =>
    cases rest with
    | done most => exact .inr (by simpa using first)

/-- Every turn is a sequence of moves. -/
theorem moves_step (client : Client) (event : Event) :
    Moves event 4 client (client.step event).1 (client.step event).2 := by
  cases event with
  | send request => exact moves_send request
  | subscribe params => exact moves_subscribe params
  | unsubscribe key => exact moves_unsubscribe key
  | resume caller => exact (moves_resume caller).mono (by decide)
  | timeout caller number => exact (moves_giveUp caller number).mono (by decide)
  | wake caller => exact (moves_wake caller).mono (by decide)
  | leave caller => exact (moves_leave caller).mono (by decide)
  | _ => exact (moves_task rfl).mono (by decide)

/-! ### Turns of the task are not about callers -/

variable {effect : Effect}

theorem caller?_pause {dial : Nat} (member : effect ∈ (client.pause dial).2) :
    effect.caller? = none := by
  unfold pause at member
  split at member
  · rw [List.mem_singleton.mp member]
    rfl
  · rw [List.mem_singleton.mp member]
    rfl

theorem caller?_disconnect (member : effect ∈ client.disconnect.2) : effect.caller? = none := by
  have told {keys : List Key}
      (member : effect ∈ .entered .disconnected :: keys.map fun key => .told key .socketClosed) :
      effect.caller? = none := by
    rcases List.mem_cons.mp member with rfl | member
    · rfl
    · obtain ⟨key, -, rfl⟩ := List.mem_map.mp member
      rfl
  unfold disconnect at member
  dsimp only at member
  split at member
  · rcases List.mem_append.mp member with member | member
    · exact told member
    · rcases List.mem_cons.mp member with rfl | member
      · rfl
      · exact caller?_pause member
  · rcases List.mem_append.mp member with member | member
    · exact told member
    · rw [List.mem_singleton.mp member]
      rfl

/-- All that a reply does besides is to tell a subscriber that there is no subscription. -/
theorem told_of_takeReply {number : UInt64} {entry : Pending} {response : Response}
    (member : effect ∈ (client.takeReply number entry response).2) :
    ∃ key error, effect = .told key error := by
  unfold takeReply at member
  cases entry with
  | resubscribe key =>
    dsimp only at member
    split at member
    · exact absurd member List.not_mem_nil
    · dsimp only at member
      split at member
      · exact ⟨_, _, List.mem_singleton.mp member⟩
      · exact absurd member List.not_mem_nil
  | _ => exact absurd member List.not_mem_nil

theorem caller?_takeReply {number : UInt64} {entry : Pending} {response : Response}
    (member : effect ∈ (client.takeReply number entry response).2) : effect.caller? = none := by
  obtain ⟨key, error, rfl⟩ := told_of_takeReply member
  rfl

end Client
end NodeCall.Socket
