import NodeCall.Proofs.Socket.Ledger
import NodeCall.Proofs.Socket.Phases

/-!
# Every wait comes to one end

Whoever waits has an entry, and the reply under it, the loss of the connection and the end of the
client each settle the wait.  A settled caller is left alone by everybody else, so no wait ends
twice, and no caller is given two answers.
-/

namespace NodeCall.Socket

namespace Client

variable {client next : Client} {event : Event} {effects : List Effect}
variable {caller other : Nat} {c d : Caller} {number : UInt64}

/-! ### Settled callers are left alone -/

theorem callers_withCaller (there : client.callers[other]? = some c) (hne : caller ≠ other) :
    (client.withCaller caller d).callers[other]? = some c := by
  simpa [withCaller, List.getElem?_set, hne] using there

theorem callers_joined (there : client.callers[other]? = some c) :
    (client.callers ++ [d])[other]? = some c := by
  rwa [List.getElem?_append_left (List.getElem?_eq_some_iff.mp there).1]

theorem callers_shutDown (there : client.callers[other]? = some c) (settled : c.awaited? = none) :
    client.shutDown.1.callers[other]? = some c :=
  callers_failPending there settled

theorem callers_pause (there : client.callers[other]? = some c) (settled : c.awaited? = none)
    (dial : Nat) : (client.pause dial).1.callers[other]? = some c := by
  unfold pause
  split
  · exact there
  · exact callers_shutDown there settled

theorem callers_disconnect (there : client.callers[other]? = some c)
    (settled : c.awaited? = none) : client.disconnect.1.callers[other]? = some c := by
  rw [disconnect_same.2.1]
  exact callers_failPending there settled

theorem callers_bindOrEnd {key : Key} {id : String} (there : client.callers[other]? = some c)
    (settled : c.awaited? = none) : (client.bindOrEnd key id).callers[other]? = some c := by
  rw [bindOrEnd_eq]
  split
  · exact there
  · exact callers_writeOwn there settled

theorem callers_takeReply {entry : Pending} {response : Response}
    (there : client.callers[other]? = some c) (settled : c.awaited? = none) :
    (client.takeReply number entry response).1.callers[other]? = some c := by
  unfold takeReply
  cases entry with
  | call caller => exact callers_deliver there settled
  | keepAlive => exact there
  | subscribe key caller =>
    refine callers_deliver ?_ settled
    split
    · exact callers_bindOrEnd there settled
    · exact there
  | resubscribe key =>
    dsimp only
    split
    · exact callers_bindOrEnd there settled
    · exact there

/-- A caller that is done stays so, and one whose reply is there keeps it until it gets a turn of
its own or goes away. -/
theorem Move.keeps (move : Move event client next effects)
    (there : client.callers[other]? = some c) (settled : c.awaited? = none)
    (awake : c.stage ≠ .resting)
    (others : c.stage = .over ∨ event ≠ .resume other ∧ event ≠ .leave other) :
    next.callers[other]? = some c := by
  -- a caller that moves at rest is not the one in question
  have resting_ne {caller : Nat} {d : Caller} (hd : client.callers[caller]? = some d)
      (resting : d.stage = .resting) : caller ≠ other := by
    rintro rfl
    obtain rfl := Option.some.inj (hd.symm.trans there)
    exact awake resting
  cases move with
  | draw => exact there
  | arrive d resting => exact callers_joined there
  | refuse request answer => exact callers_joined there
  | begin caller d hd resting connected =>
    refine callers_withCaller ?_ (resting_ne hd resting)
    exact callers_forget there settled
  | release caller purpose request exchange hd turn =>
    refine callers_forget (callers_withCaller there ?_) settled
    rintro rfl
    obtain rfl := Option.some.inj (hd.symm.trans there)
    rcases others with hover | ⟨resume, -⟩
    · simp at hover
    · obtain heq | ⟨-, unanswered⟩ := turn
      · exact resume heq
      · obtain ⟨n, callerId, reply⟩ := exchange
        obtain rfl : reply = none := unanswered
        simp [Caller.awaited?] at settled
  | rest caller attempt request delay hd =>
    exact callers_withCaller there (resting_ne hd rfl)
  | finish caller d answer hd resting => exact callers_withCaller there (resting_ne hd resting)
  | leave caller purpose request hd leaves => exact callers_withCaller there (resting_ne hd rfl)
  | abandon caller purpose request exchange hd leaves =>
    refine callers_forget (callers_withCaller there ?_) settled
    rintro rfl
    obtain rfl := Option.some.inj (hd.symm.trans there)
    rcases others with hover | ⟨-, leave⟩
    · simp at hover
    · exact leave leaves
  | insert params => exact there
  | remove key => exact there
  | close => exact there
  | stop closing phase => exact callers_shutDown there settled
  | lose connected => exact callers_disconnect there settled
  | write frame rest serving next => exact there
  | writeOwn frame writing => exact there
  | replay key params left next => exact callers_forget there settled
  | loseReplay key params left next =>
    exact callers_disconnect (callers_forget there settled) settled
  | push notification key serving routed => exact there
  | reply text number response entry received means serving pending =>
    exact callers_takeReply there settled
  | probe serving => exact callers_writeOwn there settled
  | dial dial pausing => exact there
  | reconnect dial dialling => exact there
  | redial dial dialling => exact callers_pause there settled _

theorem Moves.keeps {most : Nat} (moves : Moves event most client next effects)
    (there : client.callers[other]? = some c) (settled : c.awaited? = none)
    (awake : c.stage ≠ .resting)
    (others : c.stage = .over ∨ event ≠ .resume other ∧ event ≠ .leave other) :
    next.callers[other]? = some c := by
  induction moves with
  | done most client => exact there
  | move first rest ih => exact ih (first.keeps there settled awake others)

/-! ### How a wait is settled -/

/-- A caller has a reply for its exchange under a number. -/
def Holds (client : Client) (caller : Nat) (number : UInt64) (reply : Outcome Response) : Prop :=
  ∃ purpose request callerId, client.callers[caller]? =
    some ⟨purpose, request, .waiting ⟨number, callerId, some reply⟩⟩

variable {entry : Pending} {reply : Outcome Response}

theorem holds_deliver (owed : client.owed? caller = some (number, entry)) :
    (client.deliver caller number reply).Holds caller number reply := by
  obtain ⟨purpose, request, callerId, there, heq⟩ | ⟨idle, -⟩ :=
    client.deliver_cases caller number reply
  · have inside := (List.getElem?_eq_some_iff.mp there).1
    refine ⟨purpose, request, callerId, ?_⟩
    rw [heq]
    simp [withCaller, inside]
  · obtain ⟨c, hc, hawaited, -⟩ := owed?_eq_some.mp owed
    exact absurd hawaited (idle c hc)

theorem holds_settleAll {rows : List (UInt64 × Pending)}
    (owed : client.owed? caller = some (number, entry)) (member : (number, entry) ∈ rows) :
    (settleAll reply client rows).Holds caller number reply := by
  induction rows generalizing client with
  | nil => simp at member
  | cons row rest ih =>
    unfold settleAll
    by_cases hrow : row.2.caller? = some caller ∧ number = row.1
    · obtain ⟨hcaller, rfl⟩ := hrow
      have settled : (client.settle row.1 row.2 reply).Holds caller row.1 reply := by
        unfold settle
        rw [hcaller]
        exact holds_deliver owed
      obtain ⟨purpose, request, callerId, there⟩ := settled
      exact ⟨purpose, request, callerId, callers_settleAll there rfl⟩
    · refine ih (owed?_settle.mpr ⟨owed, hrow⟩) ?_
      rcases List.mem_cons.mp member with rfl | member
      · exact absurd ⟨owed?_entry owed, rfl⟩ hrow
      · exact member

theorem holds_failPending (ledger : Ledger client)
    (owed : client.owed? caller = some (number, entry)) (error : TransportError) :
    (client.failPending error).Holds caller number (.error error) := by
  refine holds_settleAll owed ?_
  exact Table.mem_rows_of_get? (ledger.matched.mp owed).1

theorem holds_shutDown (ledger : Ledger client)
    (owed : client.owed? caller = some (number, entry)) :
    client.shutDown.1.Holds caller number (.error .shutdown) :=
  holds_failPending ledger owed .shutdown

theorem holds_disconnect (ledger : Ledger client)
    (owed : client.owed? caller = some (number, entry)) :
    client.disconnect.1.Holds caller number (.error .socketClosed) := by
  have present : Ledger { client with state := .disconnected, outgoing := [] } :=
    ledger.of_views rfl Iff.rfl
  unfold Holds
  rw [disconnect_same.2.1]
  exact holds_failPending present owed .socketClosed

theorem owed?_bindOrEnd {key : Key} {id : String}
    (owed : client.owed? caller = some (number, entry))
    (taken : client.pending.get? number = none) :
    (client.bindOrEnd key id).owed? caller = some (number, entry) := by
  rw [bindOrEnd_eq]
  split
  · exact owed
  · refine owed?_writeOwn.mpr ⟨owed, ?_⟩
    rintro ⟨other, hother, -, rfl⟩
    simp [taken] at hother

theorem holds_or_owed_forget (ledger : Ledger client)
    (owed : client.owed? caller = some (number, entry)) (m : UInt64) :
    (client.forget m).Holds caller number (.error .socketClosed) ∨
      (client.forget m).owed? caller = some (number, entry) := by
  obtain ⟨hget, hcaller⟩ := ledger.matched.mp owed
  by_cases hnumber : number = m
  · subst hnumber
    left
    unfold forget settle
    rw [hget]
    dsimp only
    rw [hcaller]
    exact holds_deliver owed
  · right
    refine owed?_forget.mpr ⟨owed, ?_⟩
    rintro ⟨other, -, -, heq⟩
    exact hnumber heq

theorem holds_takeReply (owed : client.owed? caller = some (number, entry)) (response : Response) :
    ({ client with pending := client.pending.erase number }.takeReply number entry
      response).1.Holds caller number (.ok response) := by
  have hcaller := owed?_entry owed
  unfold takeReply
  cases entry with
  | call other =>
    obtain rfl : other = caller := Option.some.inj hcaller
    exact holds_deliver owed
  | subscribe key other =>
    obtain rfl : other = caller := Option.some.inj hcaller
    have taken : (client.pending.erase number).get? number = none := by simp [Table.get?_erase]
    dsimp only
    split
    · exact holds_deliver (owed?_bindOrEnd owed taken)
    · exact holds_deliver owed
  | resubscribe key => simp [Pending.caller?] at hcaller
  | keepAlive => simp [Pending.caller?] at hcaller

/-- A reply under the number, the loss of the connection and the end of the client each settle the
wait of a caller: these are the turns that the task can come to at its phase. -/
def Resolvable (client : Client) (caller : Nat) (number : UInt64) : Prop :=
  match client.phase with
  | .serving =>
    (∀ text response, Incoming.ofText text = .reply number response →
      (client.step (.receive text)).1.Holds caller number (.ok response)) ∧
    (client.step .lose).1.Holds caller number (.error .socketClosed) ∧
    (client.closing = true → (client.step .stop).1.Holds caller number (.error .shutdown))
  | .writing _ | .replaying (_ :: _) =>
    (client.step (.write false)).1.Holds caller number (.error .socketClosed)
  | _ => False

theorem resolvable (ledger : Ledger client) (linked : Linked client)
    (owed : client.owed? caller = some (number, entry)) : client.Resolvable caller number := by
  have pending := (ledger.matched.mp owed).1
  have phase : client.phase.linked = true := by
    cases hphase : client.phase.linked with
    | true => rfl
    | false => simp [linked.unlinked hphase] at pending
  unfold Resolvable
  cases hphase : client.phase with
  | serving =>
    refine ⟨?_, ?_, ?_⟩
    · intro text response means
      rw [step_receive hphase]
      unfold receive
      rw [means]
      dsimp only
      rw [pending]
      exact holds_takeReply owed response
    · have hstep : client.step .lose = client.disconnect := by simp only [step, hphase]
      rw [hstep]
      exact holds_disconnect ledger owed
    · intro closing
      have hstep : client.step .stop = client.shutDown := by
        simp only [step, closing, hphase, if_true]
      rw [hstep]
      exact holds_shutDown ledger owed
  | writing frame =>
    have hstep : client.step (.write false) = client.disconnect := by simp [step, write, hphase]
    dsimp only
    rw [hstep]
    exact holds_disconnect ledger owed
  | replaying left =>
    cases left with
    | nil => simp [hphase, Phase.linked] at phase
    | cons next left =>
      have hstep : client.step (.write false) = (client.replaying next.1).disconnect := by
        simp [step, write, hphase, replaying, draw, Counter.draw]
      dsimp only
      rw [hstep]
      -- the entry of the new number may take the place of the one that is waited under
      have drawn : Ledger client.draw.2 := ledger.of_views rfl Iff.rfl
      rcases holds_or_owed_forget drawn owed client.executor.counter with held | owed
      · obtain ⟨purpose, request, callerId, there⟩ := held
        exact ⟨purpose, request, callerId, callers_disconnect there rfl⟩
      · exact holds_disconnect (ledger.replaying next.1) owed
  | pausing dial => simp [hphase, Phase.linked] at phase
  | dialling dial => simp [hphase, Phase.linked] at phase
  | stopped => simp [hphase, Phase.linked] at phase

end Client
end NodeCall.Socket
