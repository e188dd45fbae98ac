import NodeCall.Proofs.Socket.Ledger
import NodeCall.Proofs.Socket.Numbers

/-!
# Confirmations of subscriptions

The node confirms a subscription with an id of its choice.  The id is covered when news for it are
let through or the node is about to be told to end the subscription.  The main statement says which
confirmations are covered: always those of subscriptions that are made again, and those of a new
one just as long as its subscriber waits, unless the id is in use already.
-/

namespace NodeCall.Socket

/-- The number and the id of a reply that confirms a subscription. -/
def Incoming.confirmation? : Incoming → Option (UInt64 × String)
  | .reply number response =>
    match response.result, response.error with
    | some (.string id), none => some (number, id)
    | _, _ => none
  | _ => none

theorem Incoming.confirmation?_eq_some {incoming : Incoming} {number : UInt64} {id : String}
    (confirms : incoming.confirmation? = some (number, id)) :
    ∃ response, incoming = .reply number response ∧ response.result = some (.string id) := by
  cases incoming with
  | push notification => simp [confirmation?] at confirms
  | ignored => simp [confirmation?] at confirms
  | reply n response =>
    refine ⟨response, ?_⟩
    unfold confirmation? at confirms
    dsimp only at confirms
    split at confirms
    · next hresult _ =>
      obtain ⟨rfl, rfl⟩ := Prod.mk.inj (Option.some.inj confirms)
      exact ⟨rfl, hresult⟩
    · simp at confirms

theorem Phase.eq_serving {phase : Phase} (matching : (phase matches .serving) = true) :
    phase = .serving := by
  cases phase with
  | serving => rfl
  | _ => simp at matching

theorem Registry.dispatch_bind {registry : Registry} {key : Key}
    (there : registry.entries.contains key = true) (id : String) :
    (registry.bind key id).2.dispatch id = some key := by
  unfold Table.contains at there
  obtain ⟨entry, hentry⟩ := Option.isSome_iff_exists.mp there
  simp [bind, hentry, dispatch, Table.get?_insert, Table.contains, Option.filter]

namespace Client

variable {client next : Client} {event : Event} {effects : List Effect} {number : UInt64}

/-- News for an id are let through, or the node is about to be told to end its subscription. -/
def Covers (client : Client) (id : String) : Prop :=
  (∃ key, client.registry.dispatch id = some key) ∨
    ∃ number, client.phase = .writing (frame number unsubscribeMethod [.string id])

theorem covers_serving (serving : client.phase = .serving) {id : String} :
    client.Covers id ↔ ∃ key, client.registry.dispatch id = some key := by
  simp [Covers, serving]

theorem covers_deliver {caller : Nat} {reply : Outcome Response} {id : String} :
    (client.deliver caller number reply).Covers id ↔ client.Covers id := by
  unfold Covers
  rw [(deliver_same caller number reply).registry, (deliver_same caller number reply).phase]

theorem covers_bindOrEnd (key : Key) (id : String) : (client.bindOrEnd key id).Covers id := by
  rw [bindOrEnd_eq]
  split
  · next there => exact .inl ⟨key, Registry.dispatch_bind there id⟩
  · exact .inr ⟨client.executor.counter, rfl⟩

theorem covers_takeReply {entry : Pending} {response : Response} {id : String}
    (serving : client.phase = .serving) (result : response.result = some (.string id)) :
    (client.takeReply number entry response).1.Covers id ↔
      (∃ key caller, entry = .subscribe key caller) ∨ (∃ key, entry = .resubscribe key) ∨
        ∃ key, client.registry.dispatch id = some key := by
  unfold takeReply
  cases entry with
  | call caller => simp [covers_deliver, covers_serving serving]
  | keepAlive => simp [covers_serving serving]
  | subscribe key caller =>
    have covered : (client.bindOrEnd key id).Covers id := covers_bindOrEnd key id
    simp [result, covers_deliver, covered]
  | resubscribe key =>
    have covered : (client.bindOrEnd key id).Covers id := covers_bindOrEnd key id
    simp [result, covered]

theorem covers_receive {text : String} {id : String} (serving : client.phase = .serving)
    (confirms : (Incoming.ofText text).confirmation? = some (number, id)) :
    (client.step (.receive text)).1.Covers id ↔
      (∃ key caller, client.pending.get? number = some (.subscribe key caller)) ∨
      (∃ key, client.pending.get? number = some (.resubscribe key)) ∨
        ∃ key, client.registry.dispatch id = some key := by
  obtain ⟨response, means, result⟩ := Incoming.confirmation?_eq_some confirms
  rw [step_receive serving]
  unfold receive
  rw [means]
  dsimp only
  split
  · next absent => simp [absent, covers_serving serving]
  · next entry there =>
    have taken := @covers_takeReply { client with pending := client.pending.erase number } number
      entry response id serving result
    rw [taken]
    simp [there]

/-! ### Subscriptions that are made again -/

/-- The subscription that the task makes again next, and the number for that. -/
def asks? (client : Client) : Option (Key × UInt64) :=
  match client.phase with
  | .replaying ((key, _) :: _) => some (key, client.executor.counter)
  | _ => none

theorem step_write_of_asks {key : Key} (asks : client.asks? = some (key, number)) :
    number = client.executor.counter ∧ ∃ left, (client.step (.write true)).1 =
      { client.replaying key with phase := replayPhase left } := by
  unfold asks? at asks
  split at asks
  · next key params left hphase =>
    obtain ⟨rfl, rfl⟩ := Prod.mk.inj (Option.some.inj asks)
    refine ⟨rfl, left, ?_⟩
    simp [step, write, hphase, replaying, draw, Counter.draw]
  · simp at asks

/-- A subscription is being made again under a number that was drawn so many draws ago. -/
structure Asked (number : UInt64) (key : Key) (drawn : Nat) (client : Client) : Prop where
  counter : client.executor.counter = number + UInt64.ofNat (drawn + 1)
  nobody : ∀ caller, client.number? caller ≠ some number
  entry : client.pending.get? number = some (.resubscribe key)

variable {key : Key} {drawn : Nat}

theorem Asked.ne_counter (asked : Asked number key drawn client)
    (few : drawn + 1 < UInt64.size) : number ≠ client.executor.counter := by
  have first : Counter.Drawn number (drawn + 1) number := ⟨0, by omega, by simp⟩
  rw [asked.counter]
  exact first.ne_next few

theorem Asked.move (move : Move event client next effects) (asked : Asked number key drawn client)
    (few : drawn + client.drawnTo next + 1 < UInt64.size)
    (connection : ∀ state, .entered state ∉ effects)
    (unanswered : ∀ text response, event = .receive text →
      Incoming.ofText text ≠ .reply number response) :
    Asked number key (drawn + client.drawnTo next) next where
  counter := by
    rcases move.counter with same | succ
    · rw [same, drawnTo_of_counter same]
      exact asked.counter
    · rw [succ, drawnTo_of_draw succ, asked.counter]
      exact Counter.next_add_one number (drawn + 1)
  nobody := by
    intro caller hnumber
    rcases move.number caller with (none | same) | ⟨now, -⟩
    · simp [none] at hnumber
    · exact asked.nobody caller (same ▸ hnumber)
    · rw [now] at hnumber
      exact asked.ne_counter (by omega) (Option.some.inj hnumber).symm
  entry := by
    rcases move.entry number with same | ⟨-, ⟨caller, holder⟩ | ⟨state, ended⟩ | answer⟩ | ⟨now, -⟩
    · exact same.trans asked.entry
    · exact absurd holder (asked.nobody caller)
    · exact absurd ended (connection state)
    · obtain ⟨text, response, received, means⟩ := answer
      exact absurd means (unanswered text response received)
    · exact absurd now (asked.ne_counter (by omega))

theorem Numbered.asked {first : Counter} (numbered : Numbered first drawn effects client)
    (few : drawn < UInt64.size) (key : Key) :
    Asked client.executor.counter key 0 (client.replaying key) where
  counter := counter_replaying key
  nobody := by
    intro caller hnumber
    have same := @number?_forget client.draw.2 client.executor.counter caller
    have past := numbered.exchanges (same.symm.trans hnumber)
    exact past.ne_next few numbered.counter
  entry := by
    show (client.draw.2.expect client.executor.counter (.resubscribe key)).pending.get? _ = _
    rw [pending_expect, Table.get?_insert, if_pos rfl]

end Client

namespace Run

variable {config : Config} {display : String} {number : UInt64} {id text : String}

theorem asked_steps {run : Run} {key : Key} {events : List Event}
    (asked : Client.Asked number key 0 run.client) (few : run.draws events + 1 < UInt64.size)
    (connection : ∀ state, .entered state ∉ run.further events)
    (unanswered : ∀ text response, .receive text ∈ events →
      Incoming.ofText text ≠ .reply number response) :
    (run.steps events).client.pending.get? number = some (.resubscribe key) := by
  let P (drawn : Nat) (effects : List Effect) (client : Client) : Prop :=
    drawn + 1 < UInt64.size → (∀ state, .entered state ∉ effects) →
      Client.Asked number key drawn client
  let bare : Run := ⟨run.client, []⟩
  have initial : P 0 bare.effects bare.client := fun _ _ => asked
  have final :
      P (0 + bare.draws events) (bare.steps events).effects (bare.steps events).client := by
    refine draws_invariant ?_ initial
    intro event client next effects others drawn member move holds few connection
    have before : Client.Asked number key drawn client := by
      refine holds (by omega) ?_
      intro state hstate
      exact connection state (List.mem_append_left _ hstate)
    refine before.move move few ?_ ?_
    · intro state hstate
      exact connection state (List.mem_append_right _ hstate)
    · rintro text response rfl
      exact unanswered text response member
  rw [Nat.zero_add, ← draws_eq (show run.client = bare.client from rfl) events,
    ← client_steps (show run.client = bare.client from rfl) events] at final
  exact (final few connection).entry

/-- While the counter has not come round, a subscriber's number has an entry for a subscription just
as long as the subscriber waits. -/
theorem entry_of_began {events : List Event}
    (few : (connected config display).draws events < UInt64.size) {caller : Nat} {c : Caller}
    {key : Key} (began : .began caller number ∈ ((connected config display).steps events).effects)
    (there : ((connected config display).steps events).client.callers[caller]? = some c)
    (purpose : c.purpose = .subscribe key) :
    let client := ((connected config display).steps events).client
    ((∃ other i, client.pending.get? number = some (.subscribe other i)) ∨
      ∃ other, client.pending.get? number = some (.resubscribe other)) ↔
      client.owed? caller = some (number, .subscribe key caller) := by
  intro client
  have ledger : client.Ledger := ledger config display events
  have stands := ((numbered config display few).began began).2
  have hentry : c.entry caller = .subscribe key caller := by simp [Caller.entry, purpose]
  constructor
  · rintro (⟨other, i, hget⟩ | ⟨other, hget⟩)
    · have owed := ledger.matched.mpr ⟨hget, stands _ hget⟩
      obtain ⟨d, hd, -, hd'⟩ := Client.owed?_eq_some.mp owed
      obtain rfl := Option.some.inj (there.symm.trans hd)
      rwa [← hd', hentry] at owed
    · exact absurd (stands _ hget) (by simp [Pending.caller?])
  · intro owed
    exact .inl ⟨key, caller, (ledger.matched.mp owed).1⟩

theorem entry_of_asks {before after : List Event} {key : Key}
    (few : (connected config display).draws (before ++ .write true :: after) < UInt64.size)
    (asks : ((connected config display).steps before).client.asks? = some (key, number))
    (connection : ∀ state, .entered state ∉
      (((connected config display).steps before).step (.write true)).further after)
    (unanswered : ∀ text response, .receive text ∈ after →
      Incoming.ofText text ≠ .reply number response) :
    ((connected config display).steps (before ++ .write true :: after)).client.pending.get? number =
      some (.resubscribe key) := by
  let asking := (connected config display).steps before
  obtain ⟨hnumber, left, hstep⟩ := Client.step_write_of_asks asks
  have one : asking.client.drawnTo (asking.step (.write true)).client = 1 := by
    refine Client.drawnTo_of_draw ?_
    show (asking.client.step (.write true)).1.executor.counter = _
    rw [hstep]
    exact Client.counter_replaying key
  rw [draws_append] at few
  have total : (connected config display).draws before +
      (1 + (asking.step (.write true)).draws after) < UInt64.size := by
    rw [← one]
    exact few
  have asked : Client.Asked number key 0 (asking.step (.write true)).client := by
    have earlier : (connected config display).draws before < UInt64.size := by omega
    have fresh := (numbered config display earlier).asked earlier key
    show Client.Asked number key 0 (asking.client.step (.write true)).1
    rw [hstep, hnumber]
    exact ⟨fresh.counter, fresh.nobody, fresh.entry⟩
  have hsteps : (connected config display).steps (before ++ .write true :: after) =
      (asking.step (.write true)).steps after := steps_append _ _ _
  rw [hsteps]
  exact asked_steps asked (by omega) connection unanswered

/-- A confirmation under a number that a subscriber waited under is covered just when it still
waits or the id is in use; one under a number of a subscription that is made again on the present
connection is always covered, also when that subscription has ended meanwhile. -/
theorem covers_confirmation_iff {events : List Event}
    (few : (connected config display).draws events < UInt64.size)
    (serving : ((connected config display).steps events).client.phase = .serving)
    (confirms : (Incoming.ofText text).confirmation? = some (number, id)) :
    let run := (connected config display).steps events
    let taken := (run.client.step (.receive text)).1
    (∀ caller c key, .began caller number ∈ run.effects → run.client.callers[caller]? = some c →
      c.purpose = .subscribe key →
      (taken.Covers id ↔ run.client.owed? caller = some (number, .subscribe key caller) ∨
        ∃ key, run.client.registry.dispatch id = some key)) ∧
    ∀ before after key, events = before ++ .write true :: after →
      let asking := (connected config display).steps before
      asking.client.asks? = some (key, number) →
      (∀ state, .entered state ∉ (asking.step (.write true)).further after) →
      (∀ other response, .receive other ∈ after → Incoming.ofText other ≠ .reply number response) →
      taken.Covers id := by
  intro run taken
  have covers := Client.covers_receive serving confirms
  refine ⟨?_, ?_⟩
  · intro caller c key began there purpose
    rw [covers, ← or_assoc]
    exact or_congr_left (entry_of_began few began there purpose)
  · rintro before after key rfl asking asks connection unanswered
    have entry := entry_of_asks few asks connection unanswered
    exact covers.mpr (.inr (.inl ⟨key, entry⟩))

/-- The frame with which a node confirms what it was asked under a number. -/
def confirmation (number : String) : String :=
  "\x7b\"jsonrpc\":\"2.0\",\"id\":" ++ number ++ ",\"result\":\"0xabc\"\x7d"

/-- A subscriber that still waits, and a subscription that has ended before it is made again. -/
theorem covers_confirmation_iff_waiting_and_ended :
    let run := connected .standard "ws://node"
    let before := [Event.subscribe [.string "newHeads"], .write true]
    let lost := before ++ [.receive (confirmation "1"), .lose, .dial, .dialled true, .unsubscribe 1]
    let again := lost ++ [.write true]
    ((run.steps before).client.step (.receive (confirmation "1"))).1.Covers "0xabc" ∧
      (run.steps lost).client.asks? = some (1, 2) ∧
      ((run.steps again).client.step (.receive (confirmation "2"))).1.Covers "0xabc" := by
  intro run before lost again
  have asks : (run.steps lost).client.asks? = some (1, 2) := by decide +kernel
  refine ⟨?_, asks, ?_⟩
  · have few : (connected .standard "ws://node").draws before < UInt64.size := by decide
    have confirms : (Incoming.ofText (confirmation "1")).confirmation? = some (1, "0xabc") := by
      decide +kernel
    have covers := (covers_confirmation_iff few rfl confirms).1
    exact (covers 0 _ 1 (List.mem_of_getElem? (i := 2) rfl) rfl rfl).mpr (.inl rfl)
  · have few : (connected .standard "ws://node").draws again < UInt64.size := by decide +kernel
    have serving : ((connected .standard "ws://node").steps again).client.phase = .serving :=
      Phase.eq_serving (by decide +kernel)
    have confirms : (Incoming.ofText (confirmation "2")).confirmation? = some (2, "0xabc") := by
      decide +kernel
    have covers := (covers_confirmation_iff few serving confirms).2
    refine covers lost [] 1 rfl asks ?_ ?_
    · intro state member
      exact absurd member List.not_mem_nil
    · intro other response member
      exact absurd member List.not_mem_nil

/-- A subscriber that gave up after the timeout leaves its subscription with the node: the
confirmation that comes after that is not covered. -/
theorem late_confirmation_not_covered :
    let run := (connected .standard "ws://node").steps
      [.subscribe [.string "newHeads"], .write true, .timeout 0 1]
    let text := confirmation "1"
    run.client.phase = .serving ∧
      run.effects[3]? = some (.wrote (frame 1 subscribeMethod [.string "newHeads"])) ∧
      (Incoming.ofText text).confirmation? = some (1, "0xabc") ∧
      ¬(run.client.step (.receive text)).1.Covers "0xabc" := by
  intro run text
  have confirms : (Incoming.ofText text).confirmation? = some (1, "0xabc") := by decide +kernel
  have gone : run.client.pending.get? 1 = none := rfl
  have unrouted : run.client.registry.dispatch "0xabc" = none := rfl
  refine ⟨rfl, rfl, confirms, ?_⟩
  rw [Client.covers_receive rfl confirms, gone, unrouted]
  simp

end Run
end NodeCall.Socket
