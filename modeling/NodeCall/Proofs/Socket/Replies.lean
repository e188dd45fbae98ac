import NodeCall.Proofs.Socket.Replays
import NodeCall.Proofs.Socket.Settled

/-!
# Replies and the exchanges they are for

An exchange returns the first reply that comes under its number while its connection lasts, with the
id that the caller had chosen.  Whatever else the node sends under numbers changes nothing at all.
-/

namespace NodeCall.Socket

/-- What a text says as a reply under a number. -/
def replyTo? (number : UInt64) (text : String) : Option Response :=
  match Response.ofText text with
  | .error _ => none
  | .ok response =>
    if response.notification.isNone && response.id = .number number then some response else none

/-- A text that does not decode, or a reply without a number. -/
def Stray (text : String) : Prop :=
  match Response.ofText text with
  | .error _ => True
  | .ok response => response.notification.isNone ∧ ∀ number, response.id ≠ .number number

theorem ofText_of_replyTo? {number : UInt64} {text : String} {reply : Response}
    (replies : replyTo? number text = some reply) :
    Incoming.ofText text = .reply number reply := by
  unfold replyTo? at replies
  split at replies
  · simp at replies
  · next response decoded =>
    split at replies
    · next numbered =>
      obtain ⟨plain, hid⟩ := by simpa using numbered
      obtain rfl := Option.some.inj replies
      unfold Incoming.ofText
      simp only [decoded, plain, hid]
    · simp at replies

theorem replyTo?_of_ofText {number : UInt64} {text : String} {reply : Response}
    (means : Incoming.ofText text = .reply number reply) : replyTo? number text = some reply := by
  unfold Incoming.ofText at means
  split at means
  · simp at means
  · next response decoded =>
    split at means
    · simp at means
    · next plain =>
      split at means
      · next n hid =>
        obtain ⟨rfl, rfl⟩ := Incoming.reply.inj means
        simp [replyTo?, decoded, plain, hid]
      · simp at means

theorem Stray.ofText {text : String} (stray : Stray text) : Incoming.ofText text = .ignored := by
  unfold Stray at stray
  unfold Incoming.ofText
  split
  · rfl
  · next response decoded =>
    rw [decoded] at stray
    obtain ⟨plain, unnumbered⟩ := stray
    have silent : response.notification = none := by simpa using plain
    rw [silent]
    dsimp only
    split
    · next number hid => exact absurd hid (unnumbered number)
    · rfl

namespace Client

variable {client next last : Client} {event : Event} {effects : List Effect}
variable {caller other : Nat} {c : Caller} {number : UInt64} {exchange : Exchange}

/-- The exchange that a caller waits for. -/
def wait? (client : Client) (caller : Nat) : Option Exchange :=
  client.callers[caller]?.bind fun c =>
    match c.stage with
    | .waiting exchange => some exchange
    | _ => none

/-- What the exchange of a caller returns as soon as the caller has its turn. -/
def returned? (client : Client) (caller : Nat) : Option (Outcome Response) :=
  (client.wait? caller).bind fun exchange =>
    exchange.reply.map fun reply => reply.map (·.withId exchange.callerId)

theorem wait?_eq_some : client.wait? caller = some exchange ↔
    ∃ purpose request, client.callers[caller]? = some ⟨purpose, request, .waiting exchange⟩ := by
  unfold wait?
  rw [Option.bind_eq_some_iff]
  constructor
  · rintro ⟨⟨purpose, request, stage⟩, there, waits⟩
    refine ⟨purpose, request, ?_⟩
    cases stage with
    | waiting other =>
      obtain rfl := Option.some.inj waits
      exact there
    | _ => simp at waits
  · rintro ⟨purpose, request, there⟩
    exact ⟨_, there, rfl⟩

theorem step_resume {outcome : Outcome Response}
    (returned : client.returned? caller = some outcome) :
    ∃ released purpose request, client.step (.resume caller) =
      Client.conclude released caller ⟨purpose, request, .resting⟩ outcome := by
  unfold returned? at returned
  obtain ⟨⟨number, callerId, reply⟩, waits, returns⟩ := Option.bind_eq_some_iff.mp returned
  obtain ⟨purpose, request, there⟩ := wait?_eq_some.mp waits
  cases reply with
  | none => simp at returns
  | some reply =>
    obtain rfl := Option.some.inj returns
    refine ⟨(client.withCaller caller ⟨purpose, request, .resting⟩).forget number, purpose,
      request, ?_⟩
    simp only [step, resume, there]

theorem owed?_of_wait? {callerId : RpcId} (waits : client.wait? caller = some ⟨number, callerId, none⟩) :
    ∃ entry, client.owed? caller = some (number, entry) := by
  obtain ⟨purpose, request, there⟩ := wait?_eq_some.mp waits
  exact ⟨_, owed?_eq_some.mpr ⟨_, there, rfl, rfl⟩⟩

/-! ### Exchanges that fail -/

/-- Between two clients no exchange has begun, and none has come to anything but an error. -/
def Fails (client next : Client) : Prop :=
  ∀ caller exchange, next.wait? caller = some exchange →
    client.wait? caller = some exchange ∨ ∃ error, exchange.reply = some (.error error)

namespace Fails

theorem of_callers (callers : next.callers = client.callers) : Fails client next := by
  intro caller exchange waits
  unfold wait? at waits
  rw [callers] at waits
  exact .inl waits

theorem trans (first : Fails client next) (second : Fails next last) : Fails client last := by
  intro caller exchange waits
  rcases second caller exchange waits with waited | failed
  · exact first caller exchange waited
  · exact .inr failed

end Fails

theorem wait?_withCaller (inside : caller < client.callers.length) :
    (client.withCaller caller c).wait? other =
      if caller = other then
        match c.stage with
        | .waiting exchange => some exchange
        | _ => none
      else client.wait? other := by
  unfold wait? withCaller
  rw [List.getElem?_set]
  split
  · next heq =>
    subst heq
    rfl
  · rfl

theorem wait?_deliver {reply : Outcome Response}
    (waits : (client.deliver caller number reply).wait? other = some exchange) :
    client.wait? other = some exchange ∨ exchange.number = number ∧
      client.wait? other = some { exchange with reply := none } ∧
      exchange.reply = some reply := by
  obtain ⟨purpose, request, callerId, there, heq⟩ | ⟨-, heq⟩ :=
    client.deliver_cases caller number reply
  · rw [heq, wait?_withCaller (List.getElem?_eq_some_iff.mp there).1] at waits
    split at waits
    · next hother =>
      subst hother
      obtain rfl := Option.some.inj waits
      exact .inr ⟨rfl, wait?_eq_some.mpr ⟨purpose, request, there⟩, rfl⟩
    · exact .inl waits
  · rw [heq] at waits
    exact .inl waits

theorem fails_settle (number : UInt64) (entry : Pending) (error : TransportError) :
    Fails client (client.settle number entry (.error error)) := by
  unfold settle
  split
  · intro other exchange waits
    rcases wait?_deliver waits with waited | ⟨-, -, failed⟩
    · exact .inl waited
    · exact .inr ⟨error, failed⟩
  · exact .of_callers rfl

theorem fails_forget (number : UInt64) : Fails client (client.forget number) := by
  unfold forget
  split
  · have taken : Fails client { client with pending := client.pending.erase number } :=
      .of_callers rfl
    exact taken.trans (fails_settle _ _ _)
  · exact .of_callers rfl

theorem fails_expect (number : UInt64) (entry : Pending) :
    Fails client (client.expect number entry) := by
  have put : Fails (client.forget number) (client.expect number entry) := .of_callers rfl
  exact (fails_forget number).trans put

theorem fails_drawn_expect (entry : Pending) :
    Fails client (client.draw.2.expect client.executor.counter entry) := by
  have drawn : Fails client client.draw.2 := .of_callers rfl
  exact drawn.trans (fails_expect _ entry)

theorem fails_settleAll (error : TransportError) (rows : List (UInt64 × Pending)) :
    Fails client (settleAll (.error error) client rows) := by
  induction rows generalizing client with
  | nil => exact .of_callers rfl
  | cons row rest ih => exact (fails_settle _ _ _).trans ih

theorem fails_failPending (error : TransportError) : Fails client (client.failPending error) := by
  have emptied : Fails client { client with pending := .empty } := .of_callers rfl
  exact emptied.trans (fails_settleAll error _)

theorem fails_shutDown : Fails client client.shutDown.1 := by
  have stopped : Fails (client.failPending .shutdown) client.shutDown.1 := .of_callers rfl
  exact (fails_failPending _).trans stopped

theorem fails_pause (dial : Nat) : Fails client (client.pause dial).1 := by
  unfold pause
  split
  · exact .of_callers rfl
  · exact fails_shutDown

theorem fails_disconnect : Fails client client.disconnect.1 := by
  have unlinked : Fails client { client with state := .disconnected, outgoing := [] } :=
    .of_callers rfl
  have told : Fails client.lost client.disconnect.1 := .of_callers disconnect_same.2.1
  exact (unlinked.trans (fails_failPending _)).trans told

theorem fails_writeOwn (method : String) (params : List Json) :
    Fails client (client.writeOwn method params) := by
  exact (fails_drawn_expect .keepAlive).trans (.of_callers rfl)

theorem fails_bindOrEnd (key : Key) (id : String) : Fails client (client.bindOrEnd key id) := by
  rw [bindOrEnd_eq]
  split
  · exact .of_callers rfl
  · exact fails_writeOwn _ _

theorem fails_withCaller {d : Caller} (there : client.callers[caller]? = some c)
    (idle : d.number? = none) : Fails client (client.withCaller caller d) := by
  intro other exchange waits
  rw [wait?_withCaller (List.getElem?_eq_some_iff.mp there).1] at waits
  split at waits
  · split at waits
    · next other hstage => simp [Caller.number?, hstage] at idle
    · simp at waits
  · exact .inl waits

theorem fails_arrive (idle : c.number? = none) :
    Fails client { client with callers := client.callers ++ [c] } := by
  intro other exchange waits
  unfold wait? at waits
  rw [callers_arrive] at waits
  · exact .inl waits
  · split
    · next other hstage => simp [Caller.number?, hstage] at idle
    · rfl

/-- A reply is for the exchange under its number, and other exchanges fail at most. -/
theorem wait?_takeReply {entry : Pending} {response : Response}
    (waits : (client.takeReply number entry response).1.wait? caller = some exchange) :
    (client.wait? caller = some exchange ∨ ∃ error, exchange.reply = some (.error error)) ∨
      exchange.number = number ∧ client.wait? caller = some { exchange with reply := none } ∧
        exchange.reply = some (.ok response) := by
  have delivered {bound : Client} (fails : Fails client bound) {target : Nat}
      (waits : (bound.deliver target number (.ok response)).wait? caller = some exchange) :
      (client.wait? caller = some exchange ∨ ∃ error, exchange.reply = some (.error error)) ∨
        exchange.number = number ∧ client.wait? caller = some { exchange with reply := none } ∧
          exchange.reply = some (.ok response) := by
    rcases wait?_deliver waits with waited | ⟨same, waited, replied⟩
    · exact .inl (fails caller exchange waited)
    · rcases fails caller _ waited with waited | ⟨error, failed⟩
      · exact .inr ⟨same, waited, replied⟩
      · simp at failed
  unfold takeReply at waits
  cases entry with
  | call target => exact delivered (.of_callers rfl) waits
  | keepAlive => exact .inl (.inl waits)
  | subscribe key target =>
    dsimp only at waits
    split at waits
    · exact delivered (fails_bindOrEnd key _) waits
    · exact delivered (.of_callers rfl) waits
  | resubscribe key =>
    dsimp only at waits
    split at waits
    · exact .inl (fails_bindOrEnd key _ caller exchange waits)
    · exact .inl (.inl waits)

/-- How it comes that a caller waits for an exchange after a turn. -/
inductive Origin (client : Client) (event : Event) (effects : List Effect) (caller : Nat)
    (exchange : Exchange) : Prop
  | began (member : .began caller exchange.number ∈ effects)
  | still (waited : client.wait? caller = some exchange)
  | failed (error : TransportError) (failed : exchange.reply = some (.error error))
  | replied (text : String) (response : Response) (received : event = .receive text)
      (serving : client.phase = .serving) (replies : replyTo? exchange.number text = some response)
      (waited : client.wait? caller = some { exchange with reply := none })
      (replied : exchange.reply = some (.ok response))

theorem Fails.origin (fails : Fails client next) (waits : next.wait? caller = some exchange) :
    Origin client event effects caller exchange := by
  rcases fails caller exchange waits with waited | ⟨error, failed⟩
  · exact .still waited
  · exact .failed error failed

theorem wait?_begun (there : client.callers[caller]? = some c) (resting : c.stage = .resting) :
    (client.begun caller c).wait? other =
      if caller = other then some ⟨client.executor.counter, c.request.id, none⟩
      else (client.draw.2.expect client.executor.counter (c.entry caller)).wait? other := by
  have still : (client.draw.2.expect client.executor.counter (c.entry caller)).callers[caller]? =
      some c := callers_expect there (by simp [Caller.awaited?, resting])
  exact wait?_withCaller (List.getElem?_eq_some_iff.mp still).1

theorem Move.origin (move : Move event client next effects)
    (waits : next.wait? caller = some exchange) :
    Origin client event effects caller exchange := by
  cases move with
  | arrive c resting => exact (fails_arrive (by simp [Caller.number?, resting])).origin waits
  | refuse request answer => exact (fails_arrive rfl).origin waits
  | begin other c there resting connected =>
    rw [wait?_begun there resting] at waits
    split at waits
    · next same =>
      obtain rfl := Option.some.inj waits
      exact .began (by simp [same])
    · exact (fails_drawn_expect _).origin waits
  | release other purpose request exchange there turn =>
    exact ((fails_withCaller there rfl).trans (fails_forget _)).origin waits
  | rest other attempt request delay there => exact (fails_withCaller there rfl).origin waits
  | finish other c answer there resting => exact (fails_withCaller there rfl).origin waits
  | leave other purpose request there leaves => exact (fails_withCaller there rfl).origin waits
  | abandon other purpose request exchange there leaves =>
    exact ((fails_withCaller there rfl).trans (fails_forget _)).origin waits
  | stop closing phase => exact fails_shutDown.origin waits
  | lose connected => exact fails_disconnect.origin waits
  | replay key params left next =>
    have replaying : Fails client (client.replaying key) := fails_drawn_expect _
    exact replaying.origin waits
  | loseReplay key params left next =>
    exact ((fails_drawn_expect _).trans fails_disconnect).origin waits
  | reply text number response entry received means serving pending =>
    rcases wait?_takeReply waits with (waited | ⟨error, failed⟩) | ⟨rfl, waited, replied⟩
    · exact .still waited
    · exact .failed error failed
    · exact .replied text response received serving (replyTo?_of_ofText means) waited replied
  | probe serving => exact (fails_writeOwn _ _).origin waits
  | redial dial dialling => exact (fails_pause _).origin waits
  | _ => exact Fails.origin (.of_callers rfl) waits

theorem Moves.origin {most : Nat} (moves : Moves event most client last effects)
    (unread : ∀ text, event ≠ .receive text) (waits : last.wait? caller = some exchange) :
    Origin client event effects caller exchange := by
  induction moves with
  | done most client => exact .still waits
  | move first rest ih =>
    cases ih waits with
    | began member => exact .began (List.mem_append_right _ member)
    | failed error failed => exact .failed error failed
    | replied text response received => exact absurd received (unread text)
    | still waited =>
      cases first.origin waited with
      | began member => exact .began (List.mem_append_left _ member)
      | failed error failed => exact .failed error failed
      | replied text response received => exact absurd received (unread text)
      | still waited => exact .still waited

theorem origin_step (waits : (client.step event).1.wait? caller = some exchange) :
    Origin client event (client.step event).2 caller exchange := by
  cases task : event.ofCaller with
  | true =>
    refine (moves_step client event).origin ?_ waits
    rintro text rfl
    simp [Event.ofCaller] at task
  | false =>
    rcases step_of_task task with same | move
    · rw [same] at waits
      exact .still waits
    · exact move.origin waits

/-! ### Exchanges that begin -/

/-- A caller begins an exchange in a turn: it waits, and its request has been handed over. -/
structure Begins (turn : Client × List Effect) (caller : Nat) (number : UInt64)
    (request : Request) : Prop where
  began : .began caller number ∈ turn.2
  waits : ∃ purpose, turn.1.callers[caller]? =
    some ⟨purpose, request, .waiting ⟨number, request.id, none⟩⟩
  handed : (request.withId (.number number)).text ∈ turn.1.outgoing

theorem not_began_conclude (outcome : Outcome Response) :
    .began caller number ∉ (client.conclude other c outcome).2 := by
  unfold conclude
  split
  · unfold concludeSend
    dsimp only
    split
    · simp
    · simp [finish]
  · split
    · simp [finish]
    · simp [finish]
  · simp [finish]

theorem begins_startExchange (there : client.callers[other]? = some c)
    (resting : c.stage = .resting) (began : .began caller number ∈ (client.startExchange other c).2) :
    Begins (client.startExchange other c) caller number c.request := by
  by_cases connected : client.state = .connected
  · rw [startExchange_connected connected] at began ⊢
    obtain ⟨rfl, rfl⟩ := Effect.began.inj (List.mem_singleton.mp began)
    have still : (client.draw.2.expect client.executor.counter (c.entry caller)).callers[caller]? =
        some c := callers_expect there (by simp [Caller.awaited?, resting])
    have inside := (List.getElem?_eq_some_iff.mp still).1
    exact ⟨began, ⟨c.purpose, List.getElem?_set_self inside⟩, by simp [begun]⟩
  · rw [startExchange_unconnected connected] at began
    exact absurd began (not_began_conclude _)

theorem begins_join (resting : c.stage = .resting)
    (began : .began caller number ∈ (client.join c).2) :
    Begins (client.join c) caller number c.request :=
  begins_startExchange (by simp) resting began

theorem begins_step (began : .began caller number ∈ (client.step event).2) :
    ∃ request, Begins (client.step event) caller number request := by
  have ofCaller : event.ofCaller = true := due_of_mem began
  cases event with
  | send request =>
    simp only [step, send] at began ⊢
    split at began
    · simp [joinOver] at began
    · exact ⟨_, begins_join rfl began⟩
  | subscribe params =>
    simp only [step, subscribe] at began ⊢
    split at began
    · simp [joinOver] at began
    · exact ⟨_, begins_join rfl began⟩
  | unsubscribe key =>
    simp only [step, unsubscribe] at began ⊢
    split at began
    · simp [joinOver] at began
    · exact ⟨_, begins_join rfl began⟩
  | resume other =>
    simp only [step, resume] at began
    split at began
    · exact absurd began (not_began_conclude _)
    · simp at began
  | timeout other n =>
    simp only [step, giveUp] at began
    split at began
    · split at began
      · exact absurd began (not_began_conclude _)
      · simp at began
    · simp at began
  | wake other =>
    simp only [step, wake] at began ⊢
    split at began
    · next there => exact ⟨_, begins_startExchange there rfl began⟩
    · simp at began
  | leave other => simp [step] at began
  | _ => simp [Event.ofCaller] at ofCaller

/-! ### Connections that change -/

variable {state : State}

theorem Move.pending_of_entered (move : Move event client next effects) (linked : client.Linked)
    (entered : .entered state ∈ effects) : next.pending = .empty := by
  cases move with
  | refuse request answer => simp [joinOver] at entered
  | finish other c answer there resting => simp [Client.finish] at entered
  | stop closing phase => exact pending_failPending .shutdown
  | lose connected => exact disconnect_same.1
  | loseReplay key params left next => exact disconnect_same.1
  | reply text number response entry received means serving pending =>
    have silent := List.any_eq_false.mp (enters_takeReply number entry response state) _ entered
    simp [Effect.enters] at silent
  | reconnect dial dialling => exact linked.unlinked (by rw [dialling]; rfl)
  | redial dial dialling =>
    rcases @pause_cases client (dial + 1) with ⟨-, heq⟩ | ⟨-, heq⟩
    · simp [heq] at entered
    · rw [heq]
      exact pending_failPending .shutdown
  | _ => simp at entered

theorem pending_of_entered (linked : client.Linked)
    (entered : .entered state ∈ (client.step event).2) :
    (client.step event).1.pending = .empty := by
  have task : event.ofCaller = false := by
    have due : client.Due event (.entered state) := due_of_mem entered
    cases state with
    | connected => rw [due.1]; rfl
    | _ => exact due
  rcases step_of_task task with same | move
  · rw [same] at entered
    exact absurd entered List.not_mem_nil
  · exact move.pending_of_entered linked entered

theorem step_reply {text : String} {reply : Response} {entry : Pending}
    (serving : client.phase = .serving) (replies : replyTo? number text = some reply)
    (pending : client.pending.get? number = some entry) :
    client.step (.receive text) =
      { client with pending := client.pending.erase number }.takeReply number entry reply :=
  step_of_reply serving (ofText_of_replyTo? replies) pending

/-- A reply under the number of an exchange is left for the caller that waits for it. -/
theorem wait?_receive {text : String} {callerId : RpcId} {reply : Response} (ledger : client.Ledger)
    (serving : client.phase = .serving) (replies : replyTo? number text = some reply)
    (waits : client.wait? caller = some ⟨number, callerId, none⟩) :
    (client.step (.receive text)).1.wait? caller = some ⟨number, callerId, some (.ok reply)⟩ := by
  obtain ⟨entry, owed⟩ := owed?_of_wait? waits
  have pending := (ledger.matched.mp owed).1
  obtain ⟨purpose, request, otherId, there⟩ := holds_takeReply owed reply
  rw [← step_reply serving replies pending] at there
  have replied : (client.step (.receive text)).1.wait? caller =
      some ⟨number, otherId, some (.ok reply)⟩ := wait?_eq_some.mpr ⟨purpose, request, there⟩
  obtain rfl : callerId = otherId := by
    cases origin_step replied with
    | began member => exact absurd (due_of_mem member) (by simp [Due, Event.ofCaller])
    | still waited => exact absurd (waits.symm.trans waited) (by simp)
    | failed error failed => simp at failed
    | replied text response received serving replies waited replied =>
      simpa using waits.symm.trans waited
  exact replied

/-! ### Numbers under which nobody waits -/

variable {first : Counter} {drawn : Nat}

/-- Entries stand under numbers that have been drawn. -/
structure Booked (first : Counter) (drawn : Nat) (client : Client) : Prop where
  counter : client.executor.counter = first + UInt64.ofNat drawn
  entries : ∀ {number entry}, client.pending.get? number = some entry → first.Drawn drawn number

theorem Booked.move (move : Move event client next effects) (booked : Booked first drawn client) :
    Booked first (drawn + client.drawnTo next) next where
  counter := counter_of_drawnTo booked.counter
  entries := by
    intro number entry there
    rcases move.entry number with same | ⟨gone, -⟩ | ⟨now, succ⟩
    · rw [same] at there
      exact (booked.entries there).mono (by omega)
    · simp [gone] at there
    · exact ⟨drawn, by rw [drawnTo_of_draw succ]; omega, now.trans booked.counter⟩

/-- A number has been drawn and nothing stands under it. -/
structure Spent (first : Counter) (number : UInt64) (drawn : Nat) (client : Client) : Prop where
  counter : client.executor.counter = first + UInt64.ofNat drawn
  past : first.Drawn drawn number
  gone : client.pending.get? number = none

/-- A number that is not drawn again has no entry again. -/
theorem Spent.move (move : Move event client next effects) (few : drawn < UInt64.size)
    (spent : Spent first number drawn client) :
    Spent first number (drawn + client.drawnTo next) next where
  counter := counter_of_drawnTo spent.counter
  past := spent.past.mono (by omega)
  gone := by
    rcases move.entry number with same | ⟨gone, -⟩ | ⟨now, -⟩
    · exact same.trans spent.gone
    · exact gone
    · exact absurd (now.trans spent.counter) (spent.past.ne_next few)

/-- A turn that takes out the entry under a number: the time of the attempt is over, its caller goes
away, its reply is there, or its connection is lost. -/
inductive Retires (client : Client) (number : UInt64) : Event → Prop
  | timeout (caller : Nat) (entry : Pending) (owed : client.owed? caller = some (number, entry)) :
      Retires client number (.timeout caller number)
  | leave (caller : Nat) (entry : Pending) (owed : client.owed? caller = some (number, entry)) :
      Retires client number (.leave caller)
  | replied (text : String) (reply : Response) (entry : Pending)
      (pending : client.pending.get? number = some entry) (serving : client.phase = .serving)
      (replies : replyTo? number text = some reply) : Retires client number (.receive text)
  | lost (event : Event) (entry : Pending) (state : State)
      (pending : client.pending.get? number = some entry)
      (entered : .entered state ∈ (client.step event).2) : Retires client number event

theorem Retires.pending (ledger : client.Ledger) (retires : client.Retires number event) :
    ∃ entry, client.pending.get? number = some entry := by
  cases retires with
  | timeout caller entry owed => exact ⟨entry, (ledger.matched.mp owed).1⟩
  | leave caller entry owed => exact ⟨entry, (ledger.matched.mp owed).1⟩
  | replied text reply entry pending serving replies => exact ⟨entry, pending⟩
  | lost _ entry state pending entered => exact ⟨entry, pending⟩

theorem pending_conclude (outcome : Outcome Response) :
    (client.conclude caller c outcome).1.pending = client.pending := by
  unfold conclude
  split
  · unfold concludeSend
    dsimp only
    split <;> rfl
  · split <;> rfl
  · rfl

theorem get?_pending_forget : (client.forget number).pending.get? number = none := by
  rw [pending_forget, Table.get?_erase, if_pos rfl]

theorem Retires.gone (linked : client.Linked) (past : number ≠ client.executor.counter)
    (retires : client.Retires number event) :
    (client.step event).1.pending.get? number = none := by
  cases retires with
  | timeout caller entry owed =>
    obtain ⟨⟨purpose, request, stage⟩, there, awaited, -⟩ := owed?_eq_some.mp owed
    obtain ⟨callerId, hstage⟩ := Caller.awaited?_eq_some.mp awaited
    obtain rfl : stage = .waiting ⟨number, callerId, none⟩ := hstage
    simp only [step, giveUp, there, if_true, pending_conclude, get?_pending_forget]
  | leave caller entry owed =>
    obtain ⟨⟨purpose, request, stage⟩, there, awaited, -⟩ := owed?_eq_some.mp owed
    obtain ⟨callerId, hstage⟩ := Caller.awaited?_eq_some.mp awaited
    obtain rfl : stage = .waiting ⟨number, callerId, none⟩ := hstage
    cases purpose <;> simp only [step, Client.leave, there, get?_pending_forget]
  | replied text reply entry pending serving replies =>
    have taken : client.step (.receive text) =
        { client with pending := client.pending.erase number }.takeReply number entry reply :=
      step_reply serving replies pending
    rw [taken]
    rcases @get?_pending_takeReply { client with pending := client.pending.erase number } number
      entry reply number with same | ⟨now, -⟩
    · rw [same, Table.get?_erase, if_pos rfl]
    · exact absurd now past
  | lost _ entry state pending entered =>
    rw [pending_of_entered linked entered, Table.get?_empty]

theorem step_stray {text : String} (stray : Stray text) :
    client.step (.receive text) = (client, []) := by
  unfold step
  dsimp only
  split
  · unfold receive
    rw [stray.ofText]
  · rfl

theorem step_unknown {text : String} {reply : Response} (replies : replyTo? number text = some reply)
    (unknown : client.pending.get? number = none) :
    client.step (.receive text) = (client, []) := by
  unfold step
  dsimp only
  split
  · unfold receive
    rw [ofText_of_replyTo? replies]
    dsimp only
    rw [unknown]
  · rfl

end Client

namespace Run

/-- In a turn after these a caller begins an exchange with a request under a number. -/
def Asks (run : Run) (caller : Nat) (number : UInt64) (request : Request) (before : List Event)
    (event : Event) : Prop :=
  Client.Begins ((run.steps before).client.step event) caller number request

/-- In a turn after these a reply under a number comes, or the connection changes. -/
def Settles (run : Run) (number : UInt64) (before : List Event) (event : Event) : Prop :=
  (∃ text reply, event = .receive text ∧ (run.steps before).client.phase = .serving ∧
    replyTo? number text = some reply) ∨
  ∃ state, .entered state ∈ ((run.steps before).client.step event).2

variable {config : Config} {display : String} {events : List Event} {caller : Nat}
variable {number : UInt64} {callerId : RpcId}

theorem not_settles {event : Event}
    (before : ((connected config display).steps events).client.wait? caller =
      some ⟨number, callerId, none⟩)
    (after : (((connected config display).steps events).client.step event).1.wait? caller =
      some ⟨number, callerId, none⟩) :
    ¬(connected config display).Settles number events event := by
  let client := ((connected config display).steps events).client
  have ledger : client.Ledger := ledger config display events
  rintro (⟨text, reply, rfl, serving, replies⟩ | ⟨state, entered⟩)
  · have replied := Client.wait?_receive ledger serving replies before
    exact absurd (after.symm.trans replied) (by simp)
  · have emptied := Client.pending_of_entered (linked config display events) entered
    have next : (client.step event).1.Ledger := by
      have ledger := Run.ledger config display (events ++ [event])
      rwa [steps_snoc] at ledger
    obtain ⟨entry, owed⟩ := Client.owed?_of_wait? after
    have pending := (next.matched.mp owed).1
    rw [emptied] at pending
    simp at pending

/-- Whoever waits has begun an exchange, and nothing has settled it since. -/
theorem since_asked
    (waits : ((connected config display).steps events).client.wait? caller =
      some ⟨number, callerId, none⟩) :
    ∃ request, request.id = callerId ∧ Since ((connected config display).Asks caller number request)
      ((connected config display).Settles number) events := by
  induction events using List.reverseRecOn with
  | nil => simp [steps, connected, start, Client.connected, Client.wait?] at waits
  | append_singleton events event ih =>
    rw [steps_snoc] at waits
    cases Client.origin_step waits with
    | began member =>
      obtain ⟨request, begins⟩ := Client.begins_step member
      obtain ⟨purpose, there⟩ := begins.waits
      have heq := (Client.wait?_eq_some.mpr ⟨purpose, request, there⟩).symm.trans waits
      obtain ⟨-, hid, -⟩ := Exchange.mk.inj (Option.some.inj heq)
      exact ⟨request, hid, since_snoc.mpr (.inl begins)⟩
    | still waited =>
      obtain ⟨request, hid, since⟩ := ih waited
      exact ⟨request, hid, since_snoc.mpr (.inr ⟨since, not_settles waited waits⟩)⟩
    | failed error failed => simp at failed
    | replied text response received serving replies waited replied => simp at replied

/-- Whoever has got a reply waited for it until it came. -/
theorem replied_since_asked {reply : Response}
    (waits : ((connected config display).steps events).client.wait? caller =
      some ⟨number, callerId, some (.ok reply)⟩) :
    ∃ request asked text later, request.id = callerId ∧
      events = asked ++ [.receive text] ++ later ∧
      ((connected config display).steps asked).client.phase = .serving ∧
      replyTo? number text = some reply ∧
      Since ((connected config display).Asks caller number request)
        ((connected config display).Settles number) asked := by
  induction events using List.reverseRecOn with
  | nil => simp [steps, connected, start, Client.connected, Client.wait?] at waits
  | append_singleton events event ih =>
    rw [steps_snoc] at waits
    cases Client.origin_step waits with
    | began member =>
      obtain ⟨request, begins⟩ := Client.begins_step member
      obtain ⟨purpose, there⟩ := begins.waits
      have heq := (Client.wait?_eq_some.mpr ⟨purpose, request, there⟩).symm.trans waits
      simp at heq
    | still waited =>
      obtain ⟨request, asked, text, later, hid, rfl, rest⟩ := ih waited
      exact ⟨request, asked, text, later ++ [event], hid, by simp, rest⟩
    | failed error failed => simp at failed
    | replied text response received serving replies waited replied =>
      obtain ⟨request, hid, since⟩ := since_asked waited
      obtain rfl : reply = response := by simpa using replied
      exact ⟨request, events, text, [], hid, by simp [received], serving, replies, since⟩

theorem booked (config : Config) (display : String) (events : List Event) :
    Client.Booked config.first ((connected config display).draws events)
      ((connected config display).steps events).client := by
  let P (drawn : Nat) (_ : List Effect) (client : Client) : Prop :=
    Client.Booked config.first drawn client
  have initial : P 0 (connected config display).effects (connected config display).client := by
    refine ⟨?_, ?_⟩
    · simp [connected, start, Client.connected]
    · simp [connected, start, Client.connected]
  have booked : P (0 + (connected config display).draws events)
      ((connected config display).steps events).effects
      ((connected config display).steps events).client :=
    draws_invariant (P := P) (fun _ move booked => Client.Booked.move move booked) initial
  rwa [Nat.zero_add] at booked

theorem spent_steps {first : Counter} {run : Run} {drawn : Nat}
    (spent : Client.Spent first number drawn run.client)
    (few : drawn + run.draws events < UInt64.size) :
    Client.Spent first number (drawn + run.draws events) (run.steps events).client := by
  let P (drawn : Nat) (_ : List Effect) (client : Client) : Prop :=
    drawn < UInt64.size → Client.Spent first number drawn client
  have holds : P (drawn + run.draws events) _ _ :=
    draws_invariant (fun _ move holds few => (holds (by omega)).move move (by omega))
      (fun _ => spent)
  exact holds few

/-- Once a number has done its service it is not in use again. -/
theorem spent_of_retires {before after : List Event} {event : Event}
    (few : (connected config display).draws (before ++ [event] ++ after) < UInt64.size)
    (retires : ((connected config display).steps before).client.Retires number event) :
    ((connected config display).steps (before ++ [event] ++ after)).client.pending.get? number =
      none := by
  have bookedBefore := booked config display before
  have bookedAfter := booked config display (before ++ [event])
  obtain ⟨entry, pending⟩ := retires.pending (ledger config display before)
  have past := bookedBefore.entries pending
  rw [draws_append] at few
  have le : (connected config display).draws before ≤
      (connected config display).draws (before ++ [event]) := by
    rw [draws_append]
    omega
  have unlike : number ≠ ((connected config display).steps before).client.executor.counter := by
    rw [bookedBefore.counter]
    exact past.ne_next (by omega)
  have spent : Client.Spent config.first number
      ((connected config display).draws (before ++ [event]))
      ((connected config display).steps (before ++ [event])).client := by
    refine ⟨bookedAfter.counter, past.mono le, ?_⟩
    rw [steps_snoc]
    exact retires.gone (linked config display before) unlike
  rw [steps_append]
  exact (spent_steps spent few).gone

theorem step_of_nothing {run : Run} {event : Event} (nothing : run.client.step event = (run.client, [])) :
    run.step event = run := by
  unfold step
  rw [nothing]
  simp

/-- Whatever the node sends and in whatever order, what an exchange returns is the first reply under
its number since it began, on the connection on which it began, with the id that the caller had put
into the request; and such a reply is returned.  Texts that do not decode and replies without a
number change nothing, and neither do replies under a number without an entry.  There is none under
a number that has not been drawn, or under one that has done its service. -/
theorem replies_match_exchanges (config : Config) (display : String) (events : List Event) :
    let start := connected config display
    let run := start.steps events
    (∀ caller response, run.client.returned? caller = some (.ok response) →
      (∃ released purpose request, run.client.step (.resume caller) =
        Client.conclude released caller ⟨purpose, request, .resting⟩ (.ok response)) ∧
      ∃ number request asked text later reply,
        events = asked ++ [.receive text] ++ later ∧
        (start.steps asked).client.phase = .serving ∧
        replyTo? number text = some reply ∧ response = reply.withId request.id ∧
        Since (start.Asks caller number request) (start.Settles number) asked) ∧
    (∀ caller number callerId text reply, run.client.wait? caller = some ⟨number, callerId, none⟩ →
      run.client.phase = .serving → replyTo? number text = some reply →
      (run.step (.receive text)).client.returned? caller = some (.ok (reply.withId callerId))) ∧
    (∀ text, Stray text → run.step (.receive text) = run) ∧
    (∀ number text reply, replyTo? number text = some reply →
      run.client.pending.get? number = none → run.step (.receive text) = run) ∧
    (start.draws events < UInt64.size → ∀ number,
      (¬Counter.Drawn config.first (start.draws events) number ∨
        ∃ before event after, events = before ++ [event] ++ after ∧
          (start.steps before).client.Retires number event) →
      run.client.pending.get? number = none ∧
        ∀ text reply, replyTo? number text = some reply → run.step (.receive text) = run) := by
  intro start run
  have unknown {number : UInt64} {text : String} {reply : Response}
      (replies : replyTo? number text = some reply)
      (gone : run.client.pending.get? number = none) : run.step (.receive text) = run :=
    step_of_nothing (Client.step_unknown replies gone)
  refine ⟨?_, ?_, ?_, fun _ _ _ => unknown, ?_⟩
  · intro caller response returned
    refine ⟨Client.step_resume returned, ?_⟩
    unfold Client.returned? at returned
    obtain ⟨⟨number, callerId, reply⟩, waits, returns⟩ := Option.bind_eq_some_iff.mp returned
    obtain ⟨reply, rfl, hresponse⟩ := Option.map_eq_some_iff.mp returns
    cases reply with
    | error error => cases hresponse
    | ok reply =>
      obtain ⟨request, asked, text, later, rfl, heq, serving, replies, since⟩ :=
        replied_since_asked waits
      cases hresponse
      exact ⟨number, request, asked, text, later, reply, heq, serving, replies, rfl, since⟩
  · intro caller number callerId text reply waits serving replies
    have replied := Client.wait?_receive (ledger config display events) serving replies waits
    show (run.client.step (.receive text)).1.returned? caller = _
    unfold Client.returned?
    rw [replied]
    rfl
  · intro text stray
    exact step_of_nothing (Client.step_stray stray)
  · intro few number unused
    have gone : run.client.pending.get? number = none := by
      rcases unused with undrawn | ⟨before, event, after, rfl, retires⟩
      · cases pending : run.client.pending.get? number with
        | none => rfl
        | some entry => exact absurd ((booked config display events).entries pending) undrawn
      · exact spent_of_retires few retires
    exact ⟨gone, fun _ _ replies => unknown replies gone⟩

/-- Two calls whose replies come the other way round, and more under a number that has done its
service. -/
theorem replies_match_exchanges_crosswise :
    let start := connected .standard "ws://node"
    let asked := [Event.send (Request.call "eth_chainId" []),
      .send (Request.call "eth_blockNumber" []), .write true, .write true,
      .receive (replyFrame "4" "0xb")]
    let run := start.steps (asked ++ [.receive (replyFrame "2" "0xa")] ++ [])
    (∃ response number request before, run.client.returned? 0 = some (.ok response) ∧
      response.id = .number 1 ∧ request.id = .number 1 ∧
      Since (start.Asks 0 number request) (start.Settles number) before) ∧
    run.step (.receive (replyFrame "2" "0xc")) = run ∧ run.step (.receive "0xc") = run := by
  intro start asked run
  have returned : (run.client.returned? 0).bind (fun outcome => outcome.toOption.map (·.id)) =
      some (.number 1) := by decide +kernel
  have retires : (start.steps asked).client.Retires 2 (.receive (replyFrame "2" "0xa")) := by
    have pending : (start.steps asked).client.pending.get? 2 = some (.call 0) := by decide +kernel
    have serving : (start.steps asked).client.phase = .serving :=
      Phase.eq_serving (by decide +kernel)
    obtain ⟨reply, replies⟩ : ∃ reply, replyTo? 2 (replyFrame "2" "0xa") = some reply :=
      Option.isSome_iff_exists.mp (by decide +kernel)
    exact .replied _ reply (.call 0) pending serving replies
  have few : start.draws (asked ++ [.receive (replyFrame "2" "0xa")] ++ []) < UInt64.size := by
    decide +kernel
  obtain ⟨reply, replies⟩ : ∃ reply, replyTo? 2 (replyFrame "2" "0xc") = some reply :=
    Option.isSome_iff_exists.mp (by decide +kernel)
  have stray : Stray "0xc" := by
    have undecoded : (Response.ofText "0xc").isOk = false := by decide +kernel
    unfold Stray
    cases decoded : Response.ofText "0xc" with
    | error error => trivial
    | ok response => simp [decoded, Except.isOk, Except.toBool] at undecoded
  -- the turns are not to be run again where the statement is applied to them
  clear_value asked
  obtain ⟨first, -, second, -, third⟩ := replies_match_exchanges .standard "ws://node"
    (asked ++ [.receive (replyFrame "2" "0xa")] ++ [])
  refine ⟨?_, (third few 2 (.inr ⟨asked, _, [], rfl, retires⟩)).2 _ reply replies, second _ stray⟩
  obtain ⟨outcome, hreturned, view⟩ := Option.bind_eq_some_iff.mp returned
  obtain ⟨response, there, hid⟩ := Option.map_eq_some_iff.mp view
  cases outcome with
  | error error => simp [Except.toOption] at there
  | ok other =>
    obtain rfl := Option.some.inj there
    obtain ⟨-, number, request, before, -, -, reply, -, -, -, rfl, since⟩ := first 0 _ hreturned
    exact ⟨_, number, request, before, hreturned, hid, hid, since⟩

end Run
end NodeCall.Socket
