import NodeCall.Proofs.Socket.Runs

/-!
# Phases and entries

While the task has a connection the client is connected, and while it has none there are no
entries: nobody can begin to wait, and whoever waited has been told.
-/

namespace NodeCall.Socket

/-- Whether the task has a connection.  It never stands before an empty list of subscriptions. -/
def Phase.linked : Phase → Bool
  | .replaying left => !left.isEmpty
  | .serving => true
  | .writing _ => true
  | .pausing _ => false
  | .dialling _ => false
  | .stopped => false

namespace Client

theorem replayPhase_linked (left : List (Key × List Json)) :
    (replayPhase left).linked = true := by
  cases left <;> rfl

structure Linked (client : Client) : Prop where
  state : client.state = .connected ↔ client.phase.linked = true
  unlinked : client.phase.linked = false → client.pending = .empty

namespace Linked

variable {client next : Client}

theorem of_same (linked : Linked client) (state : next.state = client.state)
    (phase : next.phase = client.phase)
    (pending : client.pending = .empty → next.pending = .empty) : Linked next where
  state := by rw [state, phase, linked.state]
  unlinked := by
    intro unlinked
    exact pending (linked.unlinked (phase ▸ unlinked))

theorem of_linked (linked : next.phase.linked = true) (state : next.state = .connected) :
    Linked next where
  state := ⟨fun _ => linked, fun _ => state⟩
  unlinked := by simp [linked]

theorem of_unlinked (unlinked : next.phase.linked = false) (state : next.state ≠ .connected)
    (pending : next.pending = .empty) : Linked next where
  state := by simp [unlinked, state]
  unlinked := fun _ => pending

theorem not_connected (linked : Linked client) (unlinked : client.phase.linked = false) :
    client.state ≠ .connected := by
  rw [Ne, linked.state, unlinked]
  simp

theorem deliver (linked : Linked client) (caller : Nat) (number : UInt64)
    (reply : Outcome Response) : Linked (client.deliver caller number reply) := by
  have same : SameElsewhere client (client.deliver caller number reply) := deliver_same _ _ _
  exact linked.of_same same.state same.phase (pending_deliver caller number reply).trans

theorem forget (linked : Linked client) (number : UInt64) : Linked (client.forget number) := by
  refine linked.of_same (forget_same number).state (forget_same number).phase ?_
  intro hpending
  rw [pending_forget, hpending]
  rfl

theorem shutDown (client : Client) : Linked client.shutDown.1 :=
  of_unlinked rfl (by simp [Client.shutDown]) (pending_failPending _)

theorem pause (state : client.state ≠ .connected) (pending : client.pending = .empty)
    (dial : Nat) : Linked (client.pause dial).1 := by
  unfold Client.pause
  split
  · exact of_unlinked rfl state pending
  · exact shutDown client

theorem disconnect (client : Client) : Linked client.disconnect.1 := by
  unfold Client.disconnect
  dsimp only
  split
  · refine pause ?_ ?_ 1
    · simp
    · exact pending_failPending _
  · exact shutDown _

theorem writeOwn (linked : Linked client) (phase : client.phase.linked = true) (method : String)
    (params : List Json) : Linked (client.writeOwn method params) := by
  have same := client.drawn_same .keepAlive
  exact of_linked rfl (same.state.trans (linked.state.mpr phase))

theorem bindOrEnd (linked : Linked client) (phase : client.phase.linked = true) (key : Key)
    (id : String) : Linked (client.bindOrEnd key id) := by
  rw [bindOrEnd_eq]
  split
  · exact linked.of_same rfl rfl fun pending => pending
  · exact linked.writeOwn phase _ _

theorem takeReply (linked : Linked client) (phase : client.phase.linked = true) (number : UInt64)
    (entry : Pending) (response : Response) :
    Linked (client.takeReply number entry response).1 := by
  unfold Client.takeReply
  cases entry with
  | call caller => exact linked.deliver caller number _
  | keepAlive => exact linked
  | subscribe key caller =>
    refine deliver ?_ caller number _
    split
    · exact linked.bindOrEnd phase key _
    · exact linked
  | resubscribe key =>
    dsimp only
    split
    · exact linked.bindOrEnd phase key _
    · exact linked.of_same rfl rfl id

theorem move {event : Event} {effects : List Effect} (move : Move event client next effects)
    (linked : Linked client) : Linked next := by
  cases move with
  | draw => exact linked.of_same rfl rfl id
  | arrive c resting => exact linked.of_same rfl rfl id
  | refuse request answer => exact linked.of_same rfl rfl id
  | begin caller c there resting connected =>
    have same := client.drawn_same (c.entry caller)
    exact of_linked (same.phase ▸ linked.state.mp connected) (same.state.trans connected)
  | release caller purpose request exchange there turn =>
    refine forget ?_ _
    exact linked.of_same rfl rfl id
  | rest caller attempt request delay there => exact linked.of_same rfl rfl id
  | finish caller c answer there resting => exact linked.of_same rfl rfl id
  | leave caller purpose request there leaves => exact linked.of_same rfl rfl id
  | abandon caller purpose request exchange there leaves =>
    refine forget ?_ _
    exact linked.of_same rfl rfl id
  | insert params => exact linked.of_same rfl rfl id
  | remove key => exact linked.of_same rfl rfl id
  | close => exact linked.of_same rfl rfl id
  | stop closing phase => exact shutDown client
  | lose connected => exact disconnect client
  | write frame rest serving next => exact linked.of_same rfl rfl id
  | writeOwn frame writing =>
    exact of_linked rfl (linked.state.mpr (by rw [writing]; rfl))
  | replay key params left next =>
    have same := client.drawn_same (.resubscribe key)
    have connected := linked.state.mpr (by rw [next]; rfl)
    exact of_linked (replayPhase_linked left) (same.state.trans connected)
  | loseReplay key params left next => exact disconnect _
  | push notification key serving routed => exact linked
  | reply text number response entry received means serving pending =>
    have connected := linked.state.mpr (by rw [serving]; rfl)
    have phase : client.phase.linked = true := by rw [serving]; rfl
    have erased : Linked { client with pending := client.pending.erase number } :=
      of_linked phase connected
    exact erased.takeReply phase number entry response
  | probe serving => exact linked.writeOwn (by rw [serving]; rfl) _ _
  | dial dial pausing =>
    have unlinked : client.phase.linked = false := by rw [pausing]; rfl
    exact of_unlinked rfl (linked.not_connected unlinked) (linked.unlinked unlinked)
  | reconnect dial dialling =>
    exact of_linked (replayPhase_linked _) rfl
  | redial dial dialling =>
    have unlinked : client.phase.linked = false := by rw [dialling]; rfl
    exact pause (linked.not_connected unlinked) (linked.unlinked unlinked) (dial + 1)

end Linked
end Client

theorem Run.linked (config : Config) (display : String) (events : List Event) :
    ((connected config display).steps events).client.Linked := by
  have initial : (connected config display).client.Linked := .of_linked rfl rfl
  exact invariant (P := fun _ client => client.Linked) (fun move => Client.Linked.move move)
    initial events

end NodeCall.Socket
