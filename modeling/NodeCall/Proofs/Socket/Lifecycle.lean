import NodeCall.Proofs.Socket.Phases
import NodeCall.Proofs.Socket.Subscriptions

/-!
# The life of a connection

The states of a client follow one another in few ways, and an attempt at a new connection is a pause
and a dial.  Where there is no connection there are no entries and no routes; after the end there are
no subscriptions either, and whoever asks is told.
-/

namespace NodeCall.Socket

/-- The states that may come after a state. -/
def State.next : State → List State
  | .connecting => [.connected]
  | .connected => [.disconnected, .closed]
  | .disconnected => [.reconnecting, .closed]
  | .reconnecting => [.connected, .closed]
  | .closed => []

inductive Attempt
  | pause (delay : Duration)
  | dial
  deriving DecidableEq

/-- The states that a client has been in, the latest first, each with the attempts made in it. -/
abbrev Past := List (State × List Attempt)

def Past.attempt (past : Past) (attempt : Attempt) : Past :=
  match past with
  | [] => []
  | (state, attempts) :: earlier => (state, attempts ++ [attempt]) :: earlier

def Past.record (past : Past) : Effect → Past
  | .entered state => (state, []) :: past
  | .pausing delay => past.attempt (.pause delay)
  | .dialling => past.attempt .dial
  | _ => past

def pastOf (effects : List Effect) : Past := effects.foldl Past.record []

/-- So many dials, each after a whole pause. -/
def rounds (delay : Duration) (dials : Nat) : List Attempt :=
  (List.replicate dials [.pause delay, .dial]).flatten

theorem rounds_succ (delay : Duration) (dials : Nat) :
    rounds delay (dials + 1) = rounds delay dials ++ [.pause delay, .dial] := by
  unfold rounds
  rw [List.replicate_succ', List.flatten_append]
  rfl

theorem rounds_within (delay : Duration) {dials most : Nat} (le : dials ≤ most) :
    rounds delay dials <+: rounds delay most := by
  obtain ⟨more, rfl⟩ := Nat.exists_eq_add_of_le le
  unfold rounds
  rw [← List.replicate_append_replicate, List.flatten_append]
  exact List.prefix_append _ _

theorem pause_within (delay : Duration) {dials most : Nat} (le : dials + 1 ≤ most) :
    rounds delay dials ++ [.pause delay] <+: rounds delay most := by
  refine List.IsPrefix.trans ?_ (rounds_within delay le)
  rw [rounds_succ]
  exact ⟨[.dial], by simp⟩

/-- The attempts that may be made in a state: as many as the client is configured to make when it
reconnects, and none otherwise. -/
def Reconnect.allowed (reconnect : Reconnect) : State → List Attempt
  | .reconnecting => rounds reconnect.delay reconnect.maxAttempts.toNat
  | _ => []

/-- A past that began with the first dial, in which states follow one another as they may. -/
structure Past.Regular (reconnect : Reconnect) (past : Past) : Prop where
  first : past.getLast? = some (.connecting, [])
  path : (past.map Prod.fst).IsChain fun later earlier => later ∈ earlier.next
  attempts : ∀ {state attempts}, (state, attempts) ∈ past → attempts <+: reconnect.allowed state

namespace Past.Regular

variable {reconnect : Reconnect} {past : Past} {state : State} {attempts : List Attempt}

theorem enter (regular : Regular reconnect ((state, attempts) :: past)) {next : State}
    (after : next ∈ state.next) :
    Regular reconnect ((next, []) :: (state, attempts) :: past) where
  first := regular.first
  path := .cons_cons after regular.path
  attempts := by
    intro other made member
    rcases List.mem_cons.mp member with heq | member
    · obtain ⟨-, rfl⟩ := Prod.mk.inj heq
      exact List.nil_prefix
    · exact regular.attempts member

theorem retry (regular : Regular reconnect ((state, attempts) :: past)) {more : List Attempt}
    (reconnecting : state = .reconnecting) (allowed : more <+: reconnect.allowed state) :
    Regular reconnect ((state, more) :: past) where
  first := by
    cases past with
    | nil =>
      have first := regular.first
      simp [reconnecting] at first
    | cons row past => exact regular.first
  path := regular.path
  attempts := by
    intro other made member
    rcases List.mem_cons.mp member with heq | member
    · obtain ⟨rfl, rfl⟩ := Prod.mk.inj heq
      exact allowed
    · exact regular.attempts (List.mem_cons_of_mem _ member)

end Past.Regular

/-- The state in which a client is when its task stands at a phase. -/
def Phase.state : Phase → State
  | .replaying _ | .serving | .writing _ => .connected
  | .pausing _ | .dialling _ => .reconnecting
  | .stopped => .closed

/-- The attempts that have been made in the present state. -/
def Phase.attempts (delay : Duration) : Phase → List Attempt
  | .pausing dial => rounds delay (dial - 1) ++ [.pause delay]
  | .dialling dial => rounds delay dial
  | _ => []

/-- The dial that the task has come to. -/
def Phase.dial? : Phase → Option Nat
  | .pausing dial => some dial
  | .dialling dial => some dial
  | _ => none

namespace Client

variable {client next : Client} {event : Event} {effects others : List Effect}

/-- A client that has come to where it is by a regular past. -/
structure Lives (config : Config) (effects : List Effect) (client : Client) : Prop where
  configured : client.config = config
  state : client.state = client.phase.state
  dial : ∀ {dial}, client.phase.dial? = some dial →
    1 ≤ dial ∧ dial ≤ config.reconnect.maxAttempts.toNat
  past : ∃ earlier, pastOf effects =
    (client.state, client.phase.attempts config.reconnect.delay) :: earlier
  regular : (pastOf effects).Regular config.reconnect

theorem pastOf_append (effects others : List Effect) :
    pastOf (effects ++ others) = others.foldl Past.record (pastOf effects) :=
  List.foldl_append

theorem SameElsewhere.config (same : SameElsewhere client next) : next.config = client.config := by
  rw [same]

theorem state_replayPhase (left : List (Key × List Json)) :
    (replayPhase left).state = .connected := by
  cases left <;> rfl

theorem dial?_of_state {phase : Phase} (connected : phase.state = .connected) :
    phase.dial? = none := by
  cases phase <;> simp_all [Phase.state, Phase.dial?]

theorem attempts_of_state {phase : Phase} (connected : phase.state = .connected)
    (delay : Duration) : phase.attempts delay = [] := by
  cases phase <;> simp_all [Phase.state, Phase.attempts]

theorem stays_bindOrEnd (key : Key) (id : String) :
    (client.bindOrEnd key id).config = client.config ∧
      (client.bindOrEnd key id).state = client.state ∧
      ((client.bindOrEnd key id).phase = client.phase ∨
        (client.bindOrEnd key id).phase.state = .connected) := by
  rw [bindOrEnd_eq]
  split
  · exact ⟨rfl, rfl, .inl rfl⟩
  · have same := client.drawn_same .keepAlive
    exact ⟨same.config, same.state, .inr rfl⟩

/-- A reply leaves the task with a connection. -/
theorem stays_takeReply (number : UInt64) (entry : Pending) (response : Response) :
    (client.takeReply number entry response).1.config = client.config ∧
      (client.takeReply number entry response).1.state = client.state ∧
      ((client.takeReply number entry response).1.phase = client.phase ∨
        (client.takeReply number entry response).1.phase.state = .connected) := by
  unfold takeReply
  cases entry with
  | call caller =>
    have same := @deliver_same client caller number (.ok response)
    exact ⟨same.config, same.state, .inl same.phase⟩
  | keepAlive => exact ⟨rfl, rfl, .inl rfl⟩
  | subscribe key caller =>
    dsimp only
    rw [(deliver_same caller number _).config, (deliver_same caller number _).state,
      (deliver_same caller number _).phase]
    split
    · exact stays_bindOrEnd key _
    · exact ⟨rfl, rfl, .inl rfl⟩
  | resubscribe key =>
    dsimp only
    split
    · exact stays_bindOrEnd key _
    · exact ⟨rfl, rfl, .inl rfl⟩

theorem record_told {told : List Effect} (only : ∀ effect ∈ told, ∃ key error, effect = .told key error)
    (past : Past) : told.foldl Past.record past = past := by
  induction told with
  | nil => rfl
  | cons effect told ih =>
    obtain ⟨key, error, rfl⟩ := only effect List.mem_cons_self
    exact ih fun effect member => only effect (List.mem_cons_of_mem _ member)

theorem record_takeReply {number : UInt64} {entry : Pending} {response : Response} (past : Past) :
    (client.takeReply number entry response).2.foldl Past.record past = past :=
  record_told (fun _ member => told_of_takeReply member) past

theorem record_toldLost (past : Past) : client.toldLost.foldl Past.record past = past := by
  refine record_told ?_ past
  intro effect member
  obtain ⟨key, -, rfl⟩ := List.mem_map.mp member
  exact ⟨key, .socketClosed, rfl⟩

namespace Lives

variable {config : Config}

theorem keep (lives : Lives config others client) (same : next.config = client.config)
    (state : next.state = client.state)
    (phase : next.phase = client.phase ∨
      client.phase.state = .connected ∧ next.phase.state = .connected)
    (quiet : pastOf (others ++ effects) = pastOf others) :
    Lives config (others ++ effects) next := by
  obtain ⟨hstate, hattempts, hdial⟩ : next.phase.state = client.phase.state ∧
      (∀ delay, next.phase.attempts delay = client.phase.attempts delay) ∧
      next.phase.dial? = client.phase.dial? := by
    rcases phase with heq | ⟨before, after⟩
    · rw [heq]
      exact ⟨rfl, fun _ => rfl, rfl⟩
    · refine ⟨after.trans before.symm, ?_, ?_⟩
      · intro delay
        rw [attempts_of_state after, attempts_of_state before]
      · rw [dial?_of_state after, dial?_of_state before]
  refine ⟨same.trans lives.configured, ?_, ?_, ?_, ?_⟩
  · rw [state, hstate, lives.state]
  · rw [hdial]
    exact lives.dial
  · rw [quiet, state, hattempts]
    exact lives.past
  · rw [quiet]
    exact lives.regular

/-- The end comes after any state but the first and the last. -/
theorem ended {state : State} {attempts : List Attempt} {earlier : Past}
    (configured : next.config = config) (phase : next.phase = .stopped)
    (closed : next.state = .closed) (past : pastOf others = (state, attempts) :: earlier)
    (regular : (pastOf others).Regular config.reconnect) (after : .closed ∈ state.next) :
    Lives config (others ++ [.entered .closed]) next := by
  have last : pastOf (others ++ [.entered .closed]) =
      (.closed, []) :: (state, attempts) :: earlier := by
    rw [pastOf_append, past]
    rfl
  refine ⟨configured, ?_, ?_, ⟨(state, attempts) :: earlier, ?_⟩, ?_⟩
  · rw [phase, closed]
    rfl
  · simp [phase, Phase.dial?]
  · rw [last, phase, closed]
    rfl
  · rw [last]
    exact (past ▸ regular).enter after

theorem shutDown (lives : Lives config others client) (phase : client.phase ≠ .stopped) :
    Lives config (others ++ client.shutDown.2) client.shutDown.1 := by
  have same : SameElsewhere client (client.failPending .shutdown) := failPending_same _
  have configured : client.shutDown.1.config = client.config :=
    show (client.failPending .shutdown).config = _ by rw [same]
  obtain ⟨earlier, past⟩ := lives.past
  refine ended (configured.trans lives.configured) rfl rfl past lives.regular ?_
  rw [lives.state]
  cases hphase : client.phase with
  | stopped => exact absurd hphase phase
  | _ => simp [Phase.state, State.next]

theorem pause (lives : Lives config others client) {dial : Nat}
    (dialling : client.phase = .dialling dial) :
    Lives config (others ++ (client.pause (dial + 1)).2) (client.pause (dial + 1)).1 := by
  obtain ⟨earlier, past⟩ := lives.past
  have state := lives.state
  obtain rfl := lives.configured
  rw [dialling] at past state
  rcases @pause_cases client (dial + 1) with ⟨enough, heq⟩ | ⟨-, heq⟩
  · let delay := client.config.reconnect.delay
    have next : pastOf (others ++ [.pausing delay]) =
        (client.state, rounds delay dial ++ [.pause delay]) :: earlier := by
      rw [pastOf_append, past]
      rfl
    rw [heq]
    refine ⟨rfl, state, ?_, ⟨earlier, next⟩, ?_⟩
    · intro other hdial
      obtain rfl := Option.some.inj hdial
      exact ⟨by omega, enough⟩
    · rw [next]
      refine (past ▸ lives.regular).retry state ?_
      rw [state]
      exact pause_within delay enough
  · rw [heq]
    exact lives.shutDown (by simp [dialling])

theorem disconnect (lives : Lives config others client)
    (connected : client.phase.state = .connected) :
    Lives config (others ++ client.disconnect.2) client.disconnect.1 := by
  obtain ⟨earlier, past⟩ := lives.past
  obtain rfl := lives.configured
  have configured : client.adrift.config = client.config :=
    show client.lost.config = _ by rw [lost_same]
  rw [lives.state, connected] at past
  let attempts := client.phase.attempts client.config.reconnect.delay
  let lost : Past := (.disconnected, []) :: (.connected, attempts) :: earlier
  have disconnected (effects : List Effect) :
      pastOf (others ++ (.entered .disconnected :: client.toldLost ++ effects)) =
        effects.foldl Past.record lost := by
    rw [pastOf_append, past, List.foldl_append, List.foldl_cons, record_toldLost]
    rfl
  have regular : lost.Regular client.config.reconnect :=
    (past ▸ lives.regular).enter (by simp [State.next])
  obtain ⟨⟨-, enough⟩, heq⟩ | ⟨state, tried, tries, heq⟩ := @disconnect_cases client
  · rw [heq]
    have now := disconnected [.entered .reconnecting, .pausing client.config.reconnect.delay]
    refine ⟨configured, rfl, ?_, ⟨lost, now⟩, ?_⟩
    · intro dial hdial
      obtain rfl := Option.some.inj hdial
      exact ⟨Nat.le_refl 1, enough⟩
    · rw [now]
      have allowed : State.reconnecting ∈ State.disconnected.next := by simp [State.next]
      have entered := regular.enter allowed
      exact entered.retry rfl (pause_within client.config.reconnect.delay enough)
  · rw [heq, ← List.append_assoc, ← List.append_assoc, List.append_assoc others]
    have same : SameElsewhere { client.adrift with state }
        ({ client.adrift with state }.failPending .shutdown) := failPending_same _
    have config : ({ client.adrift with state }.failPending .shutdown).config = client.config := by
      rw [same]
      exact configured
    rcases tries with ⟨rfl, rfl⟩ | ⟨rfl, rfl⟩
    · have now := disconnected []
      refine ended config rfl rfl now ?_ ?_
      · rw [now]
        exact regular
      · simp [State.next]
    · have now := disconnected [.entered .reconnecting]
      refine ended config rfl rfl now ?_ ?_
      · rw [now]
        exact regular.enter (by simp [State.next])
      · simp [State.next]

theorem dialling (lives : Lives config others client) {dial : Nat}
    (pausing : client.phase = .pausing dial) :
    Lives config (others ++ [.dialling]) { client with phase := .dialling dial } := by
  obtain ⟨earlier, past⟩ := lives.past
  have state := lives.state
  have dials : client.phase.dial? = some dial := by rw [pausing]; rfl
  have bounds := lives.dial dials
  rw [pausing] at past state
  obtain ⟨before, rfl⟩ : ∃ before, dial = before + 1 := ⟨dial - 1, by omega⟩
  let delay := config.reconnect.delay
  have next : pastOf (others ++ [.dialling]) = (client.state, rounds delay (before + 1)) :: earlier := by
    rw [pastOf_append, past, rounds_succ]
    show (client.state, (rounds delay before ++ [.pause delay]) ++ [.dial]) :: earlier = _
    rw [List.append_assoc]
    rfl
  refine ⟨lives.configured, state, ?_, ⟨earlier, next⟩, ?_⟩
  · intro other hdial
    obtain rfl := Option.some.inj hdial
    exact bounds
  · rw [next]
    refine (past ▸ lives.regular).retry state ?_
    rw [state]
    exact rounds_within delay bounds.2

theorem reconnected (lives : Lives config others client) {dial : Nat}
    (dialling : client.phase = .dialling dial) :
    Lives config (others ++ client.reconnected.2) client.reconnected.1 := by
  obtain ⟨earlier, past⟩ := lives.past
  have state := lives.state
  rw [dialling] at past state
  have next : pastOf (others ++ [.entered .connected]) = (.connected, []) :: pastOf others := by
    rw [pastOf_append]
    rfl
  refine ⟨lives.configured, (state_replayPhase _).symm, ?_, ⟨pastOf others, ?_⟩, ?_⟩
  · intro other hdial
    have none := dial?_of_state (state_replayPhase client.registry.parked)
    simp [Client.reconnected, none] at hdial
  · have none := attempts_of_state (state_replayPhase client.registry.parked) config.reconnect.delay
    show pastOf (others ++ [.entered .connected]) = _
    rw [next]
    show _ = (State.connected, Phase.attempts _ (replayPhase client.registry.parked)) :: _
    rw [none]
  · show (pastOf (others ++ [.entered .connected])).Regular _
    rw [next, past]
    refine (past ▸ lives.regular).enter ?_
    rw [state]
    simp [Phase.state, State.next]

theorem move (move : Move event client next effects) (lives : Lives config others client) :
    Lives config (others ++ effects) next := by
  have silent : pastOf (others ++ []) = pastOf others := by rw [List.append_nil]
  have past (effect : Effect) (quiet : ∀ past, Past.record past effect = past) :
      pastOf (others ++ [effect]) = pastOf others := by
    rw [pastOf_append]
    exact quiet _
  cases move with
  | draw => exact lives.keep rfl rfl (.inl rfl) silent
  | arrive c resting => exact lives.keep rfl rfl (.inl rfl) silent
  | refuse request answer => exact lives.keep rfl rfl (.inl rfl) (past _ fun _ => rfl)
  | begin caller c there resting connected =>
    have same := client.drawn_same (c.entry caller)
    exact lives.keep same.config same.state (.inl same.phase) (past _ fun _ => rfl)
  | release caller purpose request exchange there turn =>
    have same := @forget_same (client.withCaller caller ⟨purpose, request, .resting⟩) exchange.number
    exact lives.keep same.config same.state (.inl same.phase) silent
  | rest caller attempt request delay there =>
    exact lives.keep rfl rfl (.inl rfl) (past _ fun _ => rfl)
  | finish caller c answer there resting =>
    exact lives.keep rfl rfl (.inl rfl) (past _ fun _ => rfl)
  | leave caller purpose request there leaves => exact lives.keep rfl rfl (.inl rfl) silent
  | abandon caller purpose request exchange there leaves =>
    have same := @forget_same (client.withCaller caller ⟨purpose, request, .over⟩) exchange.number
    exact lives.keep same.config same.state (.inl same.phase) silent
  | insert params => exact lives.keep rfl rfl (.inl rfl) silent
  | remove key => exact lives.keep rfl rfl (.inl rfl) silent
  | close => exact lives.keep rfl rfl (.inl rfl) silent
  | stop closing phase => exact lives.shutDown phase
  | lose connected =>
    refine lives.disconnect ?_
    rcases connected with serving | ⟨frame, writing⟩
    · rw [serving]
      rfl
    · rw [writing]
      rfl
  | write frame rest serving next => exact lives.keep rfl rfl (.inl rfl) (past _ fun _ => rfl)
  | writeOwn frame writing =>
    refine lives.keep rfl rfl (.inr ⟨?_, rfl⟩) (past _ fun _ => rfl)
    rw [writing]
    rfl
  | replay key params left next =>
    have same := client.drawn_same (.resubscribe key)
    refine lives.keep same.config same.state (.inr ⟨?_, state_replayPhase left⟩) (past _ fun _ => rfl)
    rw [next]
    rfl
  | loseReplay key params left next =>
    have same := client.drawn_same (.resubscribe key)
    have kept := lives.keep same.config same.state (.inl same.phase) silent
    rw [List.append_nil] at kept
    refine kept.disconnect ?_
    rw [same.phase]
    show client.phase.state = _
    rw [next]
    rfl
  | push notification key serving routed => exact lives.keep rfl rfl (.inl rfl) (past _ fun _ => rfl)
  | reply text number response entry received means serving pending =>
    let erased := { client with pending := client.pending.erase number }
    obtain ⟨config, state, phase⟩ := @stays_takeReply erased number entry response
    refine lives.keep config state ?_ ?_
    · refine phase.imp_right fun after => ⟨?_, after⟩
      rw [serving]
      rfl
    · rw [pastOf_append]
      exact record_takeReply _
  | probe serving =>
    have same := client.drawn_same .keepAlive
    refine lives.keep same.config same.state (.inr ⟨?_, rfl⟩) silent
    rw [serving]
    rfl
  | dial dial pausing => exact lives.dialling pausing
  | reconnect dial dialling => exact lives.reconnected dialling
  | redial dial dialling => exact lives.pause dialling

end Lives

/-! ### Where there is no connection -/

/-- A turn leaves the state alone, or it brings a connection, or its loss, or the end. -/
def Passes (client : Client) (turn : Client × List Effect) : Prop :=
  turn.1.state = client.state ∨ turn.1.state = .connected ∨
    (turn.1.state = .reconnecting ∧ ∀ change, Change.unlessOver turn.2 change = .parked) ∨
      turn.1.state = .closed ∧ ∀ change, Change.unlessOver turn.2 change = .cleared

theorem passes_pause (dial : Nat) : client.Passes (client.pause dial) := by
  rcases @pause_cases client dial with ⟨-, heq⟩ | ⟨-, heq⟩
  · exact .inl (by rw [heq])
  · exact .inr (.inr (.inr (by rw [heq]; exact ⟨rfl, fun _ => rfl⟩)))

theorem passes_disconnect {other : Client} : other.Passes client.disconnect := by
  obtain ⟨-, heq⟩ | ⟨state, tried, -, heq⟩ := @disconnect_cases client
  · refine .inr (.inr (.inl ?_))
    rw [heq]
    refine ⟨rfl, ?_⟩
    intro change
    simp [Change.unlessOver, enters_toldLost, Effect.enters]
  · refine .inr (.inr (.inr ?_))
    rw [heq]
    refine ⟨rfl, ?_⟩
    intro change
    simp [Change.unlessOver, Effect.enters]

theorem Move.passes (move : Move event client next effects) : client.Passes (next, effects) := by
  cases move with
  | begin caller c there resting connected =>
    have same := client.drawn_same (c.entry caller)
    exact .inl same.state
  | release caller purpose request exchange there turn => exact .inl (forget_same _).state
  | abandon caller purpose request exchange there leaves => exact .inl (forget_same _).state
  | stop closing phase => exact .inr (.inr (.inr ⟨rfl, fun _ => rfl⟩))
  | lose connected => exact passes_disconnect
  | replay key params left next =>
    have same := client.drawn_same (.resubscribe key)
    exact .inl same.state
  | loseReplay key params left next => exact passes_disconnect
  | reply text number response entry received means serving pending =>
    let taken := { client with pending := client.pending.erase number }
    exact .inl (@stays_takeReply taken number entry response).2.1
  | probe serving =>
    have same := client.drawn_same .keepAlive
    exact .inl same.state
  | reconnect dial dialling => exact .inr (.inl rfl)
  | redial dial dialling => exact passes_pause _
  | _ => exact .inl rfl

theorem passes_step (client : Client) (event : Event) : client.Passes (client.step event) := by
  cases ofCaller : event.ofCaller with
  | true => exact .inl (aside_step ofCaller).state
  | false =>
    rcases step_of_task ofCaller with same | move
    · exact .inl (by rw [same])
    · exact move.passes

/-- Without a connection no id leads anywhere, and after the end there is no subscription. -/
structure Barren (client : Client) : Prop where
  routes : client.state ≠ .connected → client.registry.routes = .empty
  entries : client.state = .closed → client.registry.entries = .empty

theorem Barren.step (barren : Barren client) (linked : Linked client) (event : Event) :
    Barren (client.step event).1 := by
  have registry := registry_step client event
  have unconfirmed (unconnected : client.state ≠ .connected) (key : Key) (id : String) :
      client.change event ≠ .confirmed key id := by
    intro confirmed
    obtain ⟨text, number, response, entry, -, serving, -⟩ := confirms_of_change confirmed
    exact unconnected (linked.state.mpr (by rw [serving]; rfl))
  have unmade (closed : client.state = .closed) (params : List Json) :
      client.change event ≠ .made params := by
    intro made
    simpa [closed] using connected_of_made made
  rcases passes_step client event with same | connected | ⟨lost, parked⟩ | ⟨closed, cleared⟩
  · refine ⟨?_, ?_⟩
    · intro unconnected
      rw [same] at unconnected
      rw [registry]
      exact Registry.routes_after_of_empty (barren.routes unconnected) (unconfirmed unconnected)
    · intro closed
      rw [same] at closed
      rw [registry]
      exact Registry.entries_after_of_empty (barren.entries closed) (unmade closed)
  · exact ⟨fun unconnected => absurd connected unconnected, by simp [connected]⟩
  · have change : client.change event = .parked := parked _
    rw [change] at registry
    refine ⟨fun _ => ?_, by simp [lost]⟩
    rw [registry]
    rfl
  · have change : client.change event = .cleared := cleared _
    rw [change] at registry
    refine ⟨fun _ => ?_, fun _ => ?_⟩
    · rw [registry]
      rfl
    · rw [registry]
      rfl

/-! ### Asking after the end -/

variable {caller : Nat} {c : Caller}

theorem conclude_shutdown_send {attempt : UInt32} (purpose : c.purpose = .send attempt) :
    client.conclude caller c (.error .shutdown) =
      client.finish caller c (.response (.error .shutdown)) := by
  have final : client.executor.policy.shouldRetry attempt .shutdown = false := by
    simp [RetryPolicy.shouldRetry, TransportError.isRetryable]
  simp [conclude, purpose, concludeSend, Executor.judge, RetryPolicy.next, final, Executor.conclude]

theorem conclude_shutdown_subscribe {key : Key} (purpose : c.purpose = .subscribe key) :
    (client.conclude caller c (.error .shutdown)).2 =
      [.answered caller (.subscription (.error .shutdown))] := by
  simp only [conclude, purpose]
  rfl

theorem join_closed (closed : client.state = .closed) (c : Caller) :
    client.join c = { client with callers := client.callers ++ [c] }.conclude
      client.callers.length c (.error .shutdown) := by
  have unconnected : client.state ≠ .connected := by simp [closed]
  have start := @startExchange_unconnected { client with callers := client.callers ++ [c] }
    client.callers.length c unconnected
  unfold join
  rw [start]
  simp only [closed, closedError]

theorem send_closed (closed : client.state = .closed) {request : Request}
    (allowed : client.executor.check request.method = .ok ()) :
    (client.step (.send request)).2 =
      [.answered client.callers.length (.response (.error .shutdown))] := by
  show (client.send request).2 = _
  unfold send
  rw [allowed]
  dsimp only
  let drawn := { client with executor := (client.executor.prepare request).2 }
  rw [@join_closed drawn closed, conclude_shutdown_send rfl]
  rfl

theorem subscribe_closed (closed : client.state = .closed) {params : List Json}
    (allowed : client.executor.check subscribeMethod = .ok ()) :
    (client.step (.subscribe params)).2 =
      [.answered client.callers.length (.subscription (.error .shutdown))] := by
  show (client.subscribe params).2 = _
  unfold subscribe
  dsimp only
  rw [allowed]
  dsimp only
  let inserted := { client with registry := (client.registry.insert params).2 }
  rw [@join_closed inserted closed]
  exact conclude_shutdown_subscribe rfl

/-- There is nothing that a reply or a push could be for. -/
structure Bare (client : Client) : Prop where
  pending : client.pending = .empty
  routes : client.registry.routes = .empty

structure Over (client : Client) : Prop extends client.Bare where
  state : client.state = .closed
  entries : client.registry.entries = .empty

end Client

namespace Run

theorem lives (config : Config) (display : String) (events : List Event) :
    Client.Lives config ((connected config display).steps events).effects
      ((connected config display).steps events).client := by
  have initial : Client.Lives config (connected config display).effects
      (connected config display).client := by
    refine ⟨rfl, rfl, ?_, ⟨_, rfl⟩, rfl, ?_, ?_⟩
    · intro dial hdial
      exact absurd hdial (by simp [connected, start, Client.connected, Phase.dial?])
    · show List.IsChain _ [State.connected, State.connecting]
      simp [State.next]
    · intro state attempts member
      have none : attempts = [] := by
        have member : (state, attempts) ∈ [(State.connected, []), (State.connecting, [])] := member
        simp at member
        rcases member with ⟨-, heq⟩ | ⟨-, heq⟩
        · exact heq
        · exact heq
      rw [none]
      exact List.nil_prefix
  exact invariant (P := Client.Lives config) (fun move => Client.Lives.move move) initial events

theorem barren (config : Config) (display : String) (events : List Event) :
    ((connected config display).steps events).client.Barren := by
  induction events using List.reverseRecOn with
  | nil => exact ⟨fun _ => rfl, fun _ => rfl⟩
  | append_singleton events event ih =>
    rw [steps_snoc]
    exact ih.step (linked config display events) event

theorem bare (config : Config) (display : String) (events : List Event)
    (unconnected : ((connected config display).steps events).client.state ≠ .connected) :
    ((connected config display).steps events).client.Bare where
  pending := by
    have linked := linked config display events
    refine linked.unlinked ?_
    rw [← Bool.not_eq_true, ← linked.state]
    exact unconnected
  routes := (barren config display events).routes unconnected

theorem over_of_closed (config : Config) (display : String) (events : List Event)
    (closed : ((connected config display).steps events).client.state = .closed) :
    ((connected config display).steps events).client.Over where
  toBare := bare config display events (by simp [closed])
  state := closed
  entries := (barren config display events).entries closed

/-- Callers do not bring a client back that is over. -/
theorem over_step (config : Config) (display : String) (events : List Event) {event : Event}
    (closed : ((connected config display).steps events).client.state = .closed)
    (ofCaller : event.ofCaller = true) :
    (((connected config display).steps events).client.step event).1.Over := by
  have still := (Client.aside_step ofCaller).state.trans closed
  rw [← steps_snoc] at still ⊢
  exact over_of_closed config display (events ++ [event]) still

/-- The states of a client are a walk from the first dial on, along which it reconnects with as many
dials as it is configured to make at most, each after a whole pause, until the first that succeeds.
In every state but the connected one there is neither an entry nor a route; after the end there is no
subscription either, and whoever calls or subscribes is told so and leaves nothing behind. -/
theorem lifecycle (config : Config) (display : String) (events : List Event) :
    let run := (connected config display).steps events
    (pastOf run.effects).Regular config.reconnect ∧
    (∃ attempts earlier, pastOf run.effects = (run.client.state, attempts) :: earlier) ∧
    (∀ event, .entered .connected ∈ (run.client.step event).2 ↔
      event = .dialled true ∧ ∃ dial, run.client.phase = .dialling dial) ∧
    (run.client.state ≠ .connected → run.client.Bare) ∧
    (run.client.state = .closed → run.client.Over ∧
      (∀ request, run.client.executor.check request.method = .ok () →
        (run.client.step (.send request)).2 =
          [.answered run.client.callers.length (.response (.error .shutdown))] ∧
        (run.client.step (.send request)).1.Over) ∧
      ∀ params, run.client.executor.check subscribeMethod = .ok () →
        (run.client.step (.subscribe params)).2 =
          [.answered run.client.callers.length (.subscription (.error .shutdown))] ∧
        (run.client.step (.subscribe params)).1.Over) := by
  intro run
  have lives : Client.Lives config run.effects run.client := lives config display events
  refine ⟨lives.regular, ?_, ?_, bare config display events, ?_⟩
  · obtain ⟨earlier, past⟩ := lives.past
    exact ⟨_, earlier, past⟩
  · intro event
    constructor
    · intro entered
      exact Client.due_of_mem entered
    · rintro ⟨rfl, dial, dialling⟩
      simp [Client.step, dialling, Client.dialled, Client.reconnected]
  · intro closed
    refine ⟨over_of_closed config display events closed, ?_, ?_⟩
    · intro request allowed
      exact ⟨Client.send_closed closed allowed, over_step config display events closed rfl⟩
    · intro params allowed
      exact ⟨Client.subscribe_closed closed allowed, over_step config display events closed rfl⟩

end Run
end NodeCall.Socket
