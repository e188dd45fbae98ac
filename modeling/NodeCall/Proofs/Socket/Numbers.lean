import NodeCall.Proofs.IdGenerator
import NodeCall.Proofs.Socket.Runs

/-!
# Numbers in use

An exchange or an entry comes to a number only when the number is drawn.  So as long as fewer
numbers have been drawn than there are, what stands under a number was put there by the draw.
-/

namespace NodeCall.Socket

namespace Client

variable {client next : Client} {event : Event} {effects others : List Effect}

/-! ### What a move does to the numbers of callers -/

@[simp] theorem number?_shutDown (other : Nat) :
    client.shutDown.1.number? other = client.number? other :=
  number?_failPending .shutdown other

@[simp] theorem number?_pause (dial other : Nat) :
    (client.pause dial).1.number? other = client.number? other := by
  unfold pause
  split
  · rfl
  · exact number?_shutDown other

@[simp] theorem number?_disconnect (other : Nat) :
    client.disconnect.1.number? other = client.number? other := by
  unfold number?
  rw [disconnect_same.2.1]
  exact number?_failPending .socketClosed other

@[simp] theorem number?_bindOrEnd (key : Key) (id : String) (other : Nat) :
    (client.bindOrEnd key id).number? other = client.number? other := by
  rw [bindOrEnd_eq]
  split
  · rfl
  · exact @number?_forget client.draw.2 _ other

@[simp] theorem number?_takeReply (number : UInt64) (entry : Pending) (response : Response)
    (other : Nat) :
    (client.takeReply number entry response).1.number? other = client.number? other := by
  unfold takeReply
  cases entry with
  | call caller => exact number?_deliver _ _ _ _
  | keepAlive => rfl
  | subscribe key caller =>
    dsimp only
    rw [number?_deliver]
    split
    · exact number?_bindOrEnd _ _ _
    · rfl
  | resubscribe key =>
    dsimp only
    split
    · exact number?_bindOrEnd _ _ _
    · rfl

theorem number?_set {caller : Nat} {c d : Caller} (there : client.callers[caller]? = some c)
    (idle : d.number? = none) (other : Nat) :
    (client.withCaller caller d).number? other = none ∨
      (client.withCaller caller d).number? other = client.number? other := by
  rw [number?_withCaller (List.getElem?_eq_some_iff.mp there).1]
  split
  · exact .inl idle
  · exact .inr rfl

theorem Move.number (move : Move event client next effects) (other : Nat) :
    (next.number? other = none ∨ next.number? other = client.number? other) ∨
      next.number? other = some client.executor.counter ∧
        next.executor.counter = client.executor.counter + 1 := by
  cases move with
  | arrive c resting =>
    exact .inl (.inr (number?_arrive (by simp [Caller.number?, resting]) other))
  | refuse request answer => exact .inl (.inr (number?_arrive rfl other))
  | begin caller c there resting connected =>
    let expecting := client.draw.2.expect client.executor.counter (c.entry caller)
    have still : expecting.callers[caller]? = some c :=
      callers_expect there (by simp [Caller.awaited?, resting])
    have begun : (client.begun caller c).number? other =
        if caller = other then some client.executor.counter else expecting.number? other :=
      number?_withCaller (List.getElem?_eq_some_iff.mp still).1 other
    rw [begun]
    split
    · exact .inr ⟨rfl, @counter_expect client.draw.2 _ (c.entry caller)⟩
    · exact .inl (.inr (@number?_forget client.draw.2 _ other))
  | release caller purpose request exchange there turn =>
    rw [number?_forget]
    exact .inl (number?_set there rfl other)
  | rest caller attempt request delay there => exact .inl (number?_set there rfl other)
  | finish caller c answer there resting => exact .inl (number?_set there rfl other)
  | leave caller purpose request there leaves => exact .inl (number?_set there rfl other)
  | abandon caller purpose request exchange there leaves =>
    rw [number?_forget]
    exact .inl (number?_set there rfl other)
  | stop closing phase => exact .inl (.inr (number?_shutDown other))
  | lose connected => exact .inl (.inr (number?_disconnect other))
  | replay key params left next => exact .inl (.inr (@number?_forget client.draw.2 _ other))
  | loseReplay key params left next =>
    have replaying := @number?_forget client.draw.2 client.executor.counter other
    exact .inl (.inr ((number?_disconnect other).trans replaying))
  | reply text number response entry received means serving pending =>
    exact .inl (.inr (number?_takeReply _ _ _ other))
  | probe serving => exact .inl (.inr (@number?_forget client.draw.2 _ other))
  | redial dial dialling => exact .inl (.inr (number?_pause _ other))
  | _ => exact .inl (.inr rfl)

/-! ### What a move does to the entry under a number -/

theorem get?_pending_expect (drawn : UInt64) (entry : Pending) (number : UInt64) :
    (client.expect drawn entry).pending.get? number = client.pending.get? number ∨
      number = drawn := by
  rw [pending_expect, Table.get?_insert, Table.get?_erase]
  split
  · next heq => exact .inr heq.symm
  · exact .inl rfl

theorem get?_pending_bindOrEnd (key : Key) (id : String) (number : UInt64) :
    (client.bindOrEnd key id).pending.get? number = client.pending.get? number ∨
      number = client.executor.counter ∧
        (client.bindOrEnd key id).executor.counter = client.executor.counter + 1 := by
  rw [bindOrEnd_eq]
  split
  · exact .inl rfl
  · rcases @get?_pending_expect client.draw.2 client.executor.counter .keepAlive number with
      same | drawn
    · exact .inl same
    · exact .inr ⟨drawn, counter_writeOwn _ _⟩

theorem get?_pending_takeReply (m : UInt64) (entry : Pending) (response : Response)
    (number : UInt64) :
    (client.takeReply m entry response).1.pending.get? number = client.pending.get? number ∨
      number = client.executor.counter ∧
        (client.takeReply m entry response).1.executor.counter = client.executor.counter + 1 := by
  unfold takeReply
  cases entry with
  | call caller => exact .inl (congrArg (Table.get? · number) (pending_deliver caller m _))
  | keepAlive => exact .inl rfl
  | subscribe key caller =>
    dsimp only
    rw [pending_deliver, counter_deliver]
    split
    · exact get?_pending_bindOrEnd key _ number
    · exact .inl rfl
  | resubscribe key =>
    dsimp only
    split
    · exact get?_pending_bindOrEnd key _ number
    · exact .inl rfl

theorem entered_disconnect : .entered .disconnected ∈ client.disconnect.2 := by
  unfold disconnect
  dsimp only
  split
  · exact List.mem_cons_self
  · exact List.mem_cons_self

theorem get?_pending_release {caller : Nat} {purpose : Purpose} {request : Request} {d : Caller}
    {exchange : Exchange}
    (there : client.callers[caller]? = some ⟨purpose, request, .waiting exchange⟩)
    (number : UInt64) :
    ((client.withCaller caller d).forget exchange.number).pending.get? number =
        client.pending.get? number ∨
      ((client.withCaller caller d).forget exchange.number).pending.get? number = none ∧
        ∃ caller, client.number? caller = some number := by
  rw [pending_forget, Table.get?_erase]
  split
  · next heq =>
    refine .inr ⟨rfl, caller, ?_⟩
    simp [number?, there, Caller.number?, heq]
  · exact .inl rfl

/-- An entry under a number is untouched, has been taken out, or has been put under the number that
was just drawn. -/
theorem Move.entry (move : Move event client next effects) (number : UInt64) :
    next.pending.get? number = client.pending.get? number ∨
      (next.pending.get? number = none ∧
        ((∃ caller, client.number? caller = some number) ∨ (∃ state, .entered state ∈ effects) ∨
          ∃ text response, event = .receive text ∧ Incoming.ofText text = .reply number response)) ∨
      number = client.executor.counter ∧
        next.executor.counter = client.executor.counter + 1 := by
  cases move with
  | begin caller c there resting connected =>
    rcases @get?_pending_expect client.draw.2 client.executor.counter (c.entry caller) number with
      same | drawn
    · exact .inl same
    · exact .inr (.inr ⟨drawn, @counter_expect client.draw.2 _ (c.entry caller)⟩)
  | release caller purpose request exchange there turn =>
    rcases get?_pending_release there number with same | ⟨gone, holder⟩
    · exact .inl same
    · exact .inr (.inl ⟨gone, .inl holder⟩)
  | abandon caller purpose request exchange there leaves =>
    rcases get?_pending_release there number with same | ⟨gone, holder⟩
    · exact .inl same
    · exact .inr (.inl ⟨gone, .inl holder⟩)
  | stop closing phase =>
    refine .inr (.inl ⟨?_, .inr (.inl ⟨.closed, List.mem_singleton.mpr rfl⟩)⟩)
    exact congrArg (Table.get? · number) (pending_failPending .shutdown)
  | lose connected =>
    refine .inr (.inl ⟨?_, .inr (.inl ⟨.disconnected, entered_disconnect⟩)⟩)
    rw [disconnect_same.1, Table.get?_empty]
  | replay key params left next =>
    rcases @get?_pending_expect client.draw.2 client.executor.counter (.resubscribe key) number with
      same | drawn
    · exact .inl same
    · exact .inr (.inr ⟨drawn, counter_replaying key⟩)
  | loseReplay key params left next =>
    refine .inr (.inl ⟨?_, .inr (.inl ⟨.disconnected, entered_disconnect⟩)⟩)
    rw [disconnect_same.1, Table.get?_empty]
  | reply text m response entry received means serving pending =>
    rcases @get?_pending_takeReply { client with pending := client.pending.erase m } m entry
      response number with same | drawn
    · rw [same, Table.get?_erase]
      split
      · next heq =>
        subst heq
        exact .inr (.inl ⟨rfl, .inr (.inr ⟨text, response, received, means⟩)⟩)
      · exact .inl rfl
    · exact .inr (.inr drawn)
  | probe serving =>
    rcases @get?_pending_expect client.draw.2 client.executor.counter .keepAlive number with
      same | drawn
    · exact .inl same
    · exact .inr (.inr ⟨drawn, counter_writeOwn _ _⟩)
  | redial dial dialling =>
    unfold pause
    split
    · exact .inl rfl
    · refine .inr (.inl ⟨?_, .inr (.inl ⟨.closed, List.mem_singleton.mpr rfl⟩)⟩)
      exact congrArg (Table.get? · number) (pending_failPending .shutdown)
  | _ => exact .inl rfl

theorem Move.began (move : Move event client next effects) {caller : Nat} {number : UInt64}
    (member : .began caller number ∈ effects) :
    number = client.executor.counter ∧ next.executor.counter = client.executor.counter + 1 ∧
      ∃ c : Caller, next.pending.get? number = some (c.entry caller) := by
  have nobody {effects : List Effect} (member : .began caller number ∈ effects)
      (nobody : ∀ effect ∈ effects, effect.caller? = none) : False := by
    simpa [Effect.caller?] using nobody _ member
  cases move with
  | begin other c there resting connected =>
    obtain ⟨rfl, rfl⟩ := Effect.began.inj (List.mem_singleton.mp member)
    refine ⟨rfl, @counter_expect client.draw.2 _ (c.entry caller), c, ?_⟩
    show (client.draw.2.expect client.executor.counter (c.entry caller)).pending.get? _ = _
    rw [pending_expect, Table.get?_insert, if_pos rfl]
  | lose connected => exact (nobody member fun _ => caller?_disconnect).elim
  | loseReplay key params left next => exact (nobody member fun _ => caller?_disconnect).elim
  | reply text m response entry received means serving pending =>
    exact (nobody member fun _ => caller?_takeReply).elim
  | redial dial dialling => exact (nobody member fun _ => caller?_pause).elim
  | stop closing phase => simp [shutDown] at member
  | reconnect dial dialling => simp [reconnected] at member
  | refuse request answer => simp [joinOver] at member
  | finish other c answer there resting => simp [Client.finish] at member
  | _ => simp at member

/-! ### Numbers of a run -/

/-- Exchanges have numbers that were drawn, and what stands under the number of an exchange stands
for its caller. -/
structure Numbered (first : Counter) (drawn : Nat) (effects : List Effect) (client : Client) :
    Prop where
  counter : client.executor.counter = first + UInt64.ofNat drawn
  exchanges : ∀ {caller number}, client.number? caller = some number → first.Drawn drawn number
  began : ∀ {caller number}, .began caller number ∈ effects → first.Drawn drawn number ∧
    ∀ entry, client.pending.get? number = some entry → entry.caller? = some caller

variable {first : Counter} {drawn : Nat}

theorem counter_of_drawnTo (counter : client.executor.counter = first + UInt64.ofNat drawn) :
    next.executor.counter = first + UInt64.ofNat (drawn + client.drawnTo next) := by
  rw [counter_eq_drawnTo client next, counter, UInt64.ofNat_add, UInt64.add_assoc]

theorem Numbered.move (move : Move event client next effects)
    (few : drawn + client.drawnTo next < UInt64.size)
    (numbered : Numbered first drawn others client) :
    Numbered first (drawn + client.drawnTo next) (others ++ effects) next where
  counter := counter_of_drawnTo numbered.counter
  exchanges := by
    intro caller number hnumber
    rcases move.number caller with (none | same) | ⟨now, succ⟩
    · simp [none] at hnumber
    · rw [same] at hnumber
      exact (numbered.exchanges hnumber).mono (by omega)
    · rw [now] at hnumber
      obtain rfl := Option.some.inj hnumber
      exact ⟨drawn, by rw [drawnTo_of_draw succ]; omega, numbered.counter⟩
  began := by
    intro caller number member
    rcases List.mem_append.mp member with old | new
    · obtain ⟨past, stands⟩ := numbered.began old
      refine ⟨past.mono (by omega), ?_⟩
      intro entry hentry
      -- a number that was drawn before is not drawn again
      rcases move.entry number with same | ⟨gone, -⟩ | ⟨now, -⟩
      · exact stands entry (same ▸ hentry)
      · simp [gone] at hentry
      · exact absurd (now.trans numbered.counter) (past.ne_next (by omega))
    · obtain ⟨rfl, succ, c, hentry⟩ := move.began new
      refine ⟨⟨drawn, by rw [drawnTo_of_draw succ]; omega, numbered.counter⟩, ?_⟩
      intro entry hentry'
      rw [← Option.some.inj (hentry.symm.trans hentry')]
      exact c.entry_caller? caller

end Client

namespace Run

theorem numbered (config : Config) (display : String) {events : List Event}
    (few : (connected config display).draws events < UInt64.size) :
    Client.Numbered config.first ((connected config display).draws events)
      ((connected config display).steps events).effects
      ((connected config display).steps events).client := by
  let P (drawn : Nat) (effects : List Effect) (client : Client) : Prop :=
    drawn < UInt64.size → Client.Numbered config.first drawn effects client
  have initial : P 0 (connected config display).effects (connected config display).client := by
    intro _
    refine ⟨?_, ?_, ?_⟩
    · simp [connected, start, Client.connected]
    · simp [Client.number?, connected, start, Client.connected]
    · simp [connected, start]
  have numbered : P (0 + (connected config display).draws events) _ _ :=
    draws_invariant (fun _ move holds few => (holds (by omega)).move move few) initial
  rw [Nat.zero_add] at numbered
  exact numbered few

end Run
end NodeCall.Socket
