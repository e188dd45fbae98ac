import NodeCall.Proofs.Socket.Moves

/-!
# Runs and the numbers they draw

What every move keeps holds all through a run.  A turn draws a few numbers at most, so the numbers
of a whole run can be counted, and as long as the counter has not come round none is drawn twice.
-/

namespace NodeCall.Socket

namespace Client

/-- How many numbers have been drawn between two clients, unless they are a whole round. -/
def drawnTo (client next : Client) : Nat :=
  (next.executor.counter - client.executor.counter).toNat

theorem drawnTo_self (client : Client) : client.drawnTo client = 0 := by
  simp [drawnTo]

theorem drawnTo_trans {client next last : Client}
    (small : client.drawnTo next + next.drawnTo last < UInt64.size) :
    client.drawnTo last = client.drawnTo next + next.drawnTo last := by
  unfold drawnTo at *
  have whole : last.executor.counter - client.executor.counter =
      (next.executor.counter - client.executor.counter) +
        (last.executor.counter - next.executor.counter) := by
    grind
  rw [whole, UInt64.toNat_add, Nat.mod_eq_of_lt small]

theorem counter_eq_drawnTo (client next : Client) :
    next.executor.counter = client.executor.counter + UInt64.ofNat (client.drawnTo next) := by
  unfold drawnTo
  rw [UInt64.ofNat_toNat]
  grind

theorem drawnTo_of_counter {client next : Client}
    (counter : next.executor.counter = client.executor.counter) : client.drawnTo next = 0 := by
  simp [drawnTo, counter]

theorem drawnTo_of_draw {client next : Client}
    (counter : next.executor.counter = client.executor.counter + 1) :
    client.drawnTo next = 1 := by
  unfold drawnTo
  rw [counter]
  have one : client.executor.counter + 1 - client.executor.counter = 1 := by grind
  rw [one]
  rfl

variable {client next last : Client} {event : Event} {effects others : List Effect} {most : Nat}

/-! ### Moves draw one number at most -/

theorem counter_expect (number : UInt64) (entry : Pending) :
    (client.expect number entry).executor.counter = client.executor.counter := by
  rw [(expect_same number entry).executor]

theorem counter_replaying (key : Key) :
    (client.replaying key).executor.counter = client.executor.counter + 1 :=
  @counter_expect client.draw.2 _ _

theorem counter_writeOwn (method : String) (params : List Json) :
    (client.writeOwn method params).executor.counter = client.executor.counter + 1 :=
  @counter_expect client.draw.2 _ .keepAlive

theorem counter_deliver (caller : Nat) (number : UInt64) (reply : Outcome Response) :
    (client.deliver caller number reply).executor.counter = client.executor.counter := by
  rw [(deliver_same caller number reply).executor]

theorem counter_shutDown : client.shutDown.1.executor.counter = client.executor.counter :=
  congrArg Executor.counter (failPending_same .shutdown).executor

theorem counter_pause (dial : Nat) :
    (client.pause dial).1.executor.counter = client.executor.counter := by
  unfold pause
  split
  · rfl
  · exact counter_shutDown

theorem counter_disconnect : client.disconnect.1.executor.counter = client.executor.counter := by
  rw [disconnect_same.2.2]
  exact congrArg Executor.counter (failPending_same .socketClosed).executor

theorem counter_bindOrEnd (key : Key) (id : String) :
    (client.bindOrEnd key id).executor.counter = client.executor.counter ∨
      (client.bindOrEnd key id).executor.counter = client.executor.counter + 1 := by
  rw [bindOrEnd_eq]
  split
  · exact .inl rfl
  · exact .inr (counter_writeOwn _ _)

theorem counter_takeReply (number : UInt64) (entry : Pending) (response : Response) :
    (client.takeReply number entry response).1.executor.counter = client.executor.counter ∨
      (client.takeReply number entry response).1.executor.counter =
        client.executor.counter + 1 := by
  unfold takeReply
  cases entry with
  | call caller => exact .inl (counter_deliver caller number _)
  | keepAlive => exact .inl rfl
  | subscribe key caller =>
    dsimp only
    rw [counter_deliver]
    split
    · exact counter_bindOrEnd key _
    · exact .inl rfl
  | resubscribe key =>
    dsimp only
    split
    · exact counter_bindOrEnd key _
    · exact .inl rfl

theorem Move.counter (move : Move event client next effects) :
    next.executor.counter = client.executor.counter ∨
      next.executor.counter = client.executor.counter + 1 := by
  cases move with
  | draw => exact .inr rfl
  | begin caller c there resting connected =>
    exact .inr (@counter_expect client.draw.2 _ (c.entry caller))
  | release caller purpose request exchange there turn =>
    exact .inl (congrArg Executor.counter (forget_same _).executor)
  | abandon caller purpose request exchange there leaves =>
    exact .inl (congrArg Executor.counter (forget_same _).executor)
  | stop closing phase => exact .inl counter_shutDown
  | lose connected => exact .inl counter_disconnect
  | replay key params left next => exact .inr (counter_replaying key)
  | loseReplay key params left next =>
    exact .inr (counter_disconnect.trans (counter_replaying key))
  | reply text number response entry received means serving pending =>
    exact counter_takeReply number entry response
  | probe serving => exact .inr (counter_writeOwn _ _)
  | redial dial dialling => exact .inl (counter_pause _)
  | _ => exact .inl rfl

theorem Move.drawnTo_le (move : Move event client next effects) : client.drawnTo next ≤ 1 := by
  rcases move.counter with same | drawn
  · rw [drawnTo_of_counter same]
    omega
  · exact Nat.le_of_eq (drawnTo_of_draw drawn)

theorem Moves.drawnTo_le (moves : Moves event most client last effects)
    (small : most < UInt64.size) : client.drawnTo last ≤ most := by
  induction moves with
  | done most client =>
    rw [drawnTo_self]
    omega
  | @move most client next last effects others first rest ih =>
    -- the two differences add up because neither is a whole round
    have one := first.drawnTo_le
    have few := ih (by omega)
    rw [@drawnTo_trans client next last (by omega)]
    omega

theorem Moves.invariant {P : Nat → List Effect → Client → Prop}
    (kept : ∀ {client next effects others drawn}, Move event client next effects →
      P drawn others client → P (drawn + client.drawnTo next) (others ++ effects) next)
    {drawn : Nat} (moves : Moves event most client last effects) (small : most < UInt64.size)
    (holds : P drawn others client) : P (drawn + client.drawnTo last) (others ++ effects) last := by
  induction moves generalizing others drawn with
  | done most client => simpa [drawnTo_self] using holds
  | @move most client next last effects others first rest ih =>
    have one := first.drawnTo_le
    have few := rest.drawnTo_le (by omega)
    rw [@drawnTo_trans client next last (by omega), ← Nat.add_assoc, ← List.append_assoc]
    exact ih (by omega) (kept first holds)

end Client

/-! ### Runs -/

namespace Run

/-- The run of a client that has just been connected. -/
def connected (config : Config) (display : String) : Run :=
  .start (.connected config display)

/-- How many numbers are drawn in the course of these turns. -/
def draws (run : Run) : List Event → Nat
  | [] => 0
  | event :: rest => run.client.drawnTo (run.step event).client + (run.step event).draws rest

theorem steps_append (run : Run) (before after : List Event) :
    run.steps (before ++ after) = (run.steps before).steps after :=
  List.foldl_append

theorem draws_append (run : Run) (before after : List Event) :
    run.draws (before ++ after) = run.draws before + (run.steps before).draws after := by
  induction before generalizing run with
  | nil => simp [draws, steps]
  | cons event rest ih =>
    show _ + (run.step event).draws (rest ++ after) = _ + _ + _
    rw [ih, Nat.add_assoc]
    rfl

/-- The effects of further turns. -/
def further (run : Run) (events : List Event) : List Effect :=
  (steps ⟨run.client, []⟩ events).effects

theorem client_steps {run other : Run} (same : run.client = other.client) (events : List Event) :
    (run.steps events).client = (other.steps events).client := by
  induction events generalizing run other with
  | nil => exact same
  | cons event rest ih =>
    refine ih ?_
    show (run.client.step event).1 = (other.client.step event).1
    rw [same]

theorem draws_eq {run other : Run} (same : run.client = other.client) (events : List Event) :
    run.draws events = other.draws events := by
  induction events generalizing run other with
  | nil => rfl
  | cons event rest ih =>
    have step : (run.step event).client = (other.step event).client := client_steps same [event]
    unfold draws
    rw [same, step, ih step]

/-- What every move of a run keeps, given the numbers that were drawn and the effects so far, holds
all through the run. -/
theorem draws_invariant {P : Nat → List Effect → Client → Prop} {events : List Event}
    (kept : ∀ {event client next effects others drawn}, event ∈ events →
      Client.Move event client next effects → P drawn others client →
      P (drawn + client.drawnTo next) (others ++ effects) next)
    {run : Run} {drawn : Nat} (holds : P drawn run.effects run.client) :
    P (drawn + run.draws events) (run.steps events).effects (run.steps events).client := by
  induction events generalizing run drawn with
  | nil => exact holds
  | cons event rest ih =>
    have first : P (drawn + run.client.drawnTo (run.step event).client) (run.step event).effects
        (run.step event).client :=
      (Client.moves_step run.client event).invariant (kept (List.mem_cons_self)) (by decide) holds
    unfold draws
    rw [← Nat.add_assoc]
    exact ih (fun member => kept (List.mem_cons_of_mem _ member)) first

theorem invariant {P : List Effect → Client → Prop}
    (kept : ∀ {event client next effects others}, Client.Move event client next effects →
      P others client → P (others ++ effects) next)
    {run : Run} (holds : P run.effects run.client) (events : List Event) :
    P (run.steps events).effects (run.steps events).client :=
  @draws_invariant (fun _ => P) events (fun _ => kept) run 0 holds

end Run
end NodeCall.Socket
