import NodeCall.Proofs.Socket.Deliveries
import Mathlib.Data.List.Nodup

/-!
# Subscriptions that are made again

On a fresh connection the task first writes one frame for each parked subscription, and nothing
comes between these frames.  Whatever becomes of them, a subscription stays parked until the node
confirms it again or it ends.
-/

namespace NodeCall.Socket

def Event.writes : Event → Bool
  | .write succeeds => succeeds
  | _ => false

/-- The frames that the task has written. -/
def written (effects : List Effect) : List String :=
  effects.filterMap fun
    | .wrote frame => some frame
    | _ => none

theorem written_append (effects others : List Effect) :
    written (effects ++ others) = written effects ++ written others :=
  List.filterMap_append

theorem Phase.eq_dialling {phase : Phase} (matching : (phase matches .dialling _) = true) :
    ∃ dial, phase = .dialling dial := by
  cases phase with
  | dialling dial => exact ⟨dial, rfl⟩
  | _ => simp at matching

namespace Client

variable {client : Client} {event : Event} {key : Key} {params : List Json}
variable {left : List (Key × List Json)}

theorem written_step (other : event ≠ .write true) : written (client.step event).2 = [] := by
  refine List.filterMap_eq_nil_iff.mpr ?_
  intro effect member
  split
  · exact absurd (due_of_mem member) other
  · rfl

theorem phase_step_of_replaying (replaying : client.phase = .replaying left)
    (other : ∀ succeeds, event ≠ .write succeeds) :
    (client.step event).1.phase = .replaying left := by
  cases event with
  | close => exact replaying
  | write succeeds => exact absurd rfl (other succeeds)
  | stop =>
    have same : client.step .stop = (client, []) := by
      simp only [step, replaying]
      split <;> rfl
    rw [same]
    exact replaying
  | receive text => simp only [step, replaying]
  | lose => simp only [step, replaying]
  | tick => simp only [step, replaying]
  | dial => simp only [step, replaying]
  | dialled succeeds => simp only [step, replaying]
  | _ => exact (aside_step rfl).phase.trans replaying

theorem step_write_of_replaying (replaying : client.phase = .replaying ((key, params) :: left)) :
    client.step (.write true) = ({ client.replaying key with phase := replayPhase left },
      [.wrote (frame client.executor.counter subscribeMethod params)]) := by
  simp [step, write, replaying, Client.replaying, draw, Counter.draw]

theorem entered_of_failed (replaying : client.phase = .replaying ((key, params) :: left)) :
    .entered .disconnected ∈ (client.step (.write false)).2 := by
  have lost : client.step (.write false) = (client.replaying key).disconnect := by
    simp [step, write, replaying, Client.replaying, draw, Counter.draw]
  rw [lost]
  exact entered_disconnect

end Client

namespace Run

variable {run : Run} {events after : List Event} {event : Event} {rows : List (Key × List Json)}
variable {indices : List Nat}

theorem steps_eq_further (client : Client) (effects : List Effect) (events : List Event) :
    steps ⟨client, effects⟩ events =
      ⟨(steps ⟨client, []⟩ events).client, effects ++ (steps ⟨client, []⟩ events).effects⟩ := by
  induction events generalizing client effects with
  | nil => simp [steps]
  | cons event rest ih =>
    let next := (client.step event).1
    let now := (client.step event).2
    show steps ⟨next, effects ++ now⟩ rest =
      ⟨(steps ⟨next, [] ++ now⟩ rest).client, effects ++ (steps ⟨next, [] ++ now⟩ rest).effects⟩
    rw [ih next (effects ++ now), ih next ([] ++ now)]
    simp

theorem further_cons (run : Run) (event : Event) (events : List Event) :
    run.further (event :: events) =
      (run.client.step event).2 ++ (run.step event).further events := by
  let now := (run.client.step event).2
  show (steps ⟨(run.client.step event).1, [] ++ now⟩ events).effects = _
  rw [steps_eq_further]
  rfl

/-- The task has made subscriptions again, in this order and before it has written anything else, as
far as it could write.  Each frame carries the number that was next, here counted from the start. -/
structure Replayed (run : Run) (rows : List (Key × List Json)) (after : List Event)
    (indices : List Nat) : Prop where
  length : indices.length = min (after.countP Event.writes) rows.length
  rising : indices.Pairwise (· < ·)
  below : ∀ index ∈ indices, index < run.draws after
  frames : (written (run.further after)).take rows.length = List.zipWith
    (fun index row =>
      frame (run.client.executor.counter + UInt64.ofNat index) subscribeMethod row.2) indices rows
  turns : ∀ {index key params}, (index, key, params) ∈ indices.zip rows →
    ∃ mid rest, after = mid ++ .write true :: rest ∧
      (run.steps mid).client.asks? =
        some (key, run.client.executor.counter + UInt64.ofNat index)

theorem Replayed.nil (run : Run) (after : List Event) : run.Replayed [] after [] where
  length := by simp
  rising := .nil
  below := by simp
  frames := by simp
  turns := by simp

/-- A number that is next some draws later is next more draws from now. -/
theorem counter_later (run : Run) (event : Event) (index : Nat) :
    (run.step event).client.executor.counter + UInt64.ofNat index =
      run.client.executor.counter +
        UInt64.ofNat (run.client.drawnTo (run.step event).client + index) := by
  rw [Client.counter_eq_drawnTo run.client (run.step event).client, UInt64.ofNat_add,
    UInt64.add_assoc]

theorem zip_shifted {more : Nat} {index : Nat} {row : Key × List Json}
    (member : (index, row) ∈ (indices.map (more + ·)).zip rows) :
    ∃ earlier, index = more + earlier ∧ (earlier, row) ∈ indices.zip rows := by
  rw [List.zip_map_left] at member
  obtain ⟨⟨earlier, other⟩, there, heq⟩ := List.mem_map.mp member
  obtain ⟨rfl, rfl⟩ := Prod.mk.inj heq
  exact ⟨earlier, rfl, there⟩

theorem zipWith_shifted (run : Run) (event : Event) :
    List.zipWith
      (fun index row =>
        frame (run.client.executor.counter + UInt64.ofNat index) subscribeMethod row.2)
      (indices.map (run.client.drawnTo (run.step event).client + ·)) rows =
    List.zipWith
      (fun index row => frame ((run.step event).client.executor.counter + UInt64.ofNat index)
        subscribeMethod row.2)
      indices rows := by
  rw [List.zipWith_map_left]
  simp only [counter_later]

/-- A turn in which the task does not write leaves all that is still to be made again. -/
theorem Replayed.cons (replayed : (run.step event).Replayed rows after indices)
    (other : event ≠ .write true) :
    run.Replayed rows (event :: after)
      (indices.map (run.client.drawnTo (run.step event).client + ·)) where
  length := by
    have still : event.writes = false := by
      cases event with
      | write succeeds =>
        cases succeeds with
        | true => exact absurd rfl other
        | false => rfl
      | _ => rfl
    rw [List.length_map, replayed.length, List.countP_cons, still]
    rfl
  rising := by
    rw [List.pairwise_map]
    exact replayed.rising.imp fun lt => Nat.add_lt_add_left lt _
  below := by
    intro index member
    obtain ⟨earlier, there, rfl⟩ := List.mem_map.mp member
    exact Nat.add_lt_add_left (replayed.below earlier there) _
  frames := by
    rw [zipWith_shifted, ← replayed.frames, further_cons, written_append,
      Client.written_step other, List.nil_append]
  turns := by
    intro index key params member
    obtain ⟨earlier, rfl, there⟩ := zip_shifted member
    obtain ⟨mid, rest, rfl, asks⟩ := replayed.turns there
    refine ⟨event :: mid, rest, rfl, ?_⟩
    rw [← counter_later]
    exact asks

/-- In a turn in which it writes the task makes the next one again. -/
theorem Replayed.write {key : Key} {params : List Json} {left : List (Key × List Json)}
    (replaying : run.client.phase = .replaying ((key, params) :: left))
    (replayed : (run.step (.write true)).Replayed left after indices) :
    run.Replayed ((key, params) :: left) (.write true :: after)
      (0 :: indices.map (run.client.drawnTo (run.step (.write true)).client + ·)) := by
  have step := Client.step_write_of_replaying replaying
  have one : run.client.drawnTo (run.step (.write true)).client = 1 := by
    refine Client.drawnTo_of_draw ?_
    show (run.client.step (.write true)).1.executor.counter = _
    rw [step]
    exact Client.counter_replaying key
  have next : run.client.executor.counter + UInt64.ofNat 0 = run.client.executor.counter := by simp
  refine ⟨?_, ?_, ?_, ?_, ?_⟩
  · rw [List.length_cons, List.length_map, replayed.length, List.length_cons, List.countP_cons]
    exact (Nat.add_min_add_right _ _ 1).symm
  · refine List.pairwise_cons.mpr ⟨?_, ?_⟩
    · intro index member
      obtain ⟨earlier, -, rfl⟩ := List.mem_map.mp member
      omega
    · rw [List.pairwise_map]
      exact replayed.rising.imp fun lt => Nat.add_lt_add_left lt _
  · intro index member
    show index < run.client.drawnTo (run.step (.write true)).client + _
    rcases List.mem_cons.mp member with rfl | member
    · omega
    · obtain ⟨earlier, there, rfl⟩ := List.mem_map.mp member
      exact Nat.add_lt_add_left (replayed.below earlier there) _
  · rw [further_cons, step, written_append]
    show frame run.client.executor.counter subscribeMethod params ::
      (written ((run.step (.write true)).further after)).take left.length = _
    rw [replayed.frames, List.zipWith_cons_cons, next, zipWith_shifted]
  · intro index other given member
    rcases List.mem_cons.mp member with heq | member
    · obtain ⟨rfl, rfl, rfl⟩ : index = 0 ∧ other = key ∧ given = params := by simpa using heq
      refine ⟨[], after, rfl, ?_⟩
      rw [next]
      show run.client.asks? = _
      simp [Client.asks?, replaying]
    · obtain ⟨earlier, rfl, there⟩ := zip_shifted member
      obtain ⟨mid, rest, rfl, asks⟩ := replayed.turns there
      refine ⟨.write true :: mid, rest, rfl, ?_⟩
      rw [← counter_later]
      exact asks

theorem replayed (phase : run.client.phase = Client.replayPhase rows)
    (intact : ∀ state, .entered state ∉ run.further after) :
    ∃ indices, run.Replayed rows after indices := by
  induction after generalizing run rows with
  | nil =>
    refine ⟨[], by simp, .nil, by simp, ?_, by simp⟩
    simp [further, steps, written]
  | cons event after ih =>
    rw [further_cons] at intact
    have later (state : State) : .entered state ∉ (run.step event).further after := by
      intro member
      exact intact state (List.mem_append_right _ member)
    cases rows with
    | nil => exact ⟨[], .nil run _⟩
    | cons row left =>
      have replaying : run.client.phase = .replaying (row :: left) := phase
      by_cases writes : ∃ succeeds, event = .write succeeds
      · obtain ⟨succeeds, rfl⟩ := writes
        cases succeeds with
        | false =>
          have lost := Client.entered_of_failed replaying
          exact absurd (List.mem_append_left _ lost) (intact .disconnected)
        | true =>
          have next : (run.step (.write true)).client.phase = Client.replayPhase left := by
            show (run.client.step (.write true)).1.phase = _
            rw [Client.step_write_of_replaying replaying]
          obtain ⟨indices, replayed⟩ := ih next later
          exact ⟨_, replayed.write replaying⟩
      · have other (succeeds : Bool) : event ≠ .write succeeds := by
          rintro rfl
          exact writes ⟨succeeds, rfl⟩
        have still : (run.step event).client.phase = Client.replayPhase (row :: left) :=
          Client.phase_step_of_replaying replaying other
        obtain ⟨indices, replayed⟩ := ih still later
        exact ⟨_, replayed.cons (other true)⟩

/-! ### Numbers and entries of these frames -/

theorem further_append (run : Run) (before after : List Event) :
    run.further (before ++ after) = run.further before ++ (run.steps before).further after := by
  induction before generalizing run with
  | nil => rfl
  | cons event before ih =>
    rw [List.cons_append, further_cons, further_cons, ih, List.append_assoc]
    rfl

theorem effects_steps (run : Run) (events : List Event) :
    (run.steps events).effects = run.effects ++ run.further events :=
  congrArg Run.effects (steps_eq_further run.client run.effects events)

theorem further_snoc (run : Run) (before : List Event) (event : Event) :
    run.further (before ++ [event]) =
      run.further before ++ ((run.steps before).client.step event).2 := by
  rw [further_append, further_cons]
  exact congrArg (run.further before ++ ·) (List.append_nil _)

theorem counter_steps (run : Run) (events : List Event) :
    (run.steps events).client.executor.counter =
      run.client.executor.counter + UInt64.ofNat (run.draws events) := by
  induction events generalizing run with
  | nil => simp [steps, draws]
  | cons event events ih =>
    show ((run.step event).steps events).client.executor.counter = _
    rw [ih, counter_later]
    rfl

variable {config : Config} {display : String} {before : List Event}

/-- The number that is next so many draws after some turns, among all numbers of the counter. -/
theorem counter_connected (config : Config) (display : String) (before : List Event) (index : Nat) :
    ((connected config display).steps before).client.executor.counter + UInt64.ofNat index =
      config.first + UInt64.ofNat ((connected config display).draws before + index) := by
  rw [counter_steps, UInt64.ofNat_add, UInt64.add_assoc]
  rfl

theorem Replayed.fresh
    (replayed : ((connected config display).steps before).Replayed rows after indices)
    (few : (connected config display).draws (before ++ after) < UInt64.size) :
    let number := fun index =>
      ((connected config display).steps before).client.executor.counter + UInt64.ofNat index
    (indices.map number).Nodup ∧ ∀ index ∈ indices,
      ¬Counter.Drawn config.first ((connected config display).draws before) (number index) := by
  intro number
  let drawn := (connected config display).draws before
  have small (index : Nat) (member : index ∈ indices) : drawn + index < UInt64.size := by
    rw [draws_append] at few
    have := replayed.below index member
    omega
  have heq (index : Nat) : number index = config.first + UInt64.ofNat (drawn + index) :=
    counter_connected config display before index
  refine ⟨?_, ?_⟩
  · refine List.Nodup.map_on ?_ (replayed.rising.imp Nat.ne_of_lt)
    intro index hindex other hother same
    rw [heq, heq] at same
    have := Counter.number_injective config.first (small index hindex) (small other hother) same
    omega
  · rintro index member ⟨earlier, lt, same⟩
    rw [heq] at same
    have := small index member
    have := Counter.number_injective config.first (small index member) (by omega) same
    omega

/-- A frame of these is known to be about its subscription until it is answered. -/
theorem Replayed.entry
    (replayed : ((connected config display).steps before).Replayed rows after indices)
    (few : (connected config display).draws (before ++ after) < UInt64.size)
    (intact : ∀ state, .entered state ∉ ((connected config display).steps before).further after)
    {index : Nat} {key : Key} {params : List Json} (member : (index, key, params) ∈ indices.zip rows) :
    let number :=
      ((connected config display).steps before).client.executor.counter + UInt64.ofNat index
    (∀ text response, .receive text ∈ after → Incoming.ofText text ≠ .reply number response) →
    ((connected config display).steps (before ++ after)).client.pending.get? number =
      some (.resubscribe key) := by
  intro number unanswered
  obtain ⟨mid, rest, rfl, asks⟩ := replayed.turns member
  rw [← List.append_assoc] at few ⊢
  refine entry_of_asks few ?_ ?_ ?_
  · rw [steps_append]
    exact asks
  · intro state there
    rw [steps_append] at there
    refine intact state ?_
    rw [further_append, further_cons]
    exact List.mem_append_right _ (List.mem_append_right _ there)
  · intro text response there
    exact unanswered text response (List.mem_append_right _ (List.mem_cons_of_mem _ there))

/-! ### What becomes of a parked subscription -/

variable {key : Key} {params : List Json} {id : String}

theorem nodup_keys_entries (initial : run.client.registry = .empty) (events : List Event) :
    (run.steps events).client.registry.entries.keys.Nodup := by
  induction events using List.reverseRecOn with
  | nil =>
    show run.client.registry.entries.keys.Nodup
    rw [initial]
    exact Table.nodup_keys_empty
  | append_singleton events event ih =>
    rw [registry_snoc]
    exact Registry.nodup_keys_after ih _

theorem mem_parked (initial : run.client.registry = .empty) :
    (key, params) ∈ (run.steps events).client.registry.parked ↔
      run.Parked key events ∧ run.Made key params events := by
  rw [Registry.mem_parked (nodup_keys_entries initial events), parked_iff initial, made_iff initial]

/-- A turn after which an id need not lead to the same subscription any more. -/
def Disturbs (run : Run) (id : String) (key : Key) (before : List Event) (event : Event) : Prop :=
  (run.steps before).client.registry.Disturbs id key (run.change before event)

theorem leads_of_answer (initial : run.client.registry = .empty)
    (made : run.Made key params events) (sole : ∀ other, run.Confirmed other id events → other = key)
    (confirmed : run.change events event = .confirmed key id)
    (calm : Spares (run.Disturbs id key) (events ++ [event]) after) :
    (run.steps (events ++ [event] ++ after)).client.registry.Leads id key := by
  induction after using List.reverseRecOn with
  | nil =>
    rw [List.append_nil, registry_snoc, confirmed]
    refine .confirmed ((holds_iff initial).mpr ⟨params, made⟩) ?_
    intro other known
    exact sole other ((confirmed_iff initial).mpr known)
  | append_singleton after last ih =>
    obtain ⟨calm, kept⟩ := spares_snoc.mp calm
    rw [← List.append_assoc, registry_snoc]
    exact (ih calm).after kept

/-- On a new connection the task makes the parked subscriptions again, each once and before it writes
anything else, with the params that they were made with and with numbers that were next; parked are
those that were confirmed when a connection was lost, and have since neither ended nor been confirmed
again.  Whatever happens to the frames, such a one stays parked until it ends or is confirmed again.
After the answer to such a frame, news under its id call the subscriber as before, as long as no
other subscription that is there is confirmed under the same id. -/
theorem parked_are_made_again (config : Config) (display : String) (before : List Event) :
    let run := connected config display
    let lost := run.steps before
    let parked := lost.client.registry.parked
    ((parked.map Prod.fst).Nodup ∧ ∀ key params, (key, params) ∈ parked ↔
      run.Parked key before ∧ run.Made key params before) ∧
    (∀ dial after, lost.client.phase = .dialling dial →
      let fresh := run.steps (before ++ [.dialled true])
      (∀ state, .entered state ∉ fresh.further after) →
      ∃ indices, fresh.Replayed parked after indices ∧
        (run.draws (before ++ [.dialled true] ++ after) < UInt64.size →
          let number := fun index => fresh.client.executor.counter + UInt64.ofNat index
          ((indices.map number).Nodup ∧ ∀ index ∈ indices,
            ¬Counter.Drawn config.first (run.draws (before ++ [.dialled true])) (number index)) ∧
          ∀ index key params, (index, key, params) ∈ indices.zip parked →
            (∀ text response, .receive text ∈ after →
              Incoming.ofText text ≠ .reply (number index) response) →
            (run.steps (before ++ [.dialled true] ++ after)).client.pending.get? (number index) =
              some (.resubscribe key))) ∧
    (∀ key params later, (key, params) ∈ parked → Spares (run.Unparks key) before later →
      (key, params) ∈ (run.steps (before ++ later)).client.registry.parked) ∧
    ∀ key params number text response id later, run.Made key params before →
      lost.client.phase = .serving → lost.client.pending.get? number = some (.resubscribe key) →
      Incoming.ofText text = .reply number response → response.result = some (.string id) →
      (∀ other, run.Confirmed other id before → other = key) →
      Spares (run.Disturbs id key) (before ++ [.receive text]) later →
      let answered := run.steps (before ++ [.receive text] ++ later)
      ∀ push notification, answered.client.phase = .serving →
        Incoming.ofText push = .push notification → notification.subscription = id →
        answered.client.step (.receive push) =
          (answered.client, [.pushed key notification.result]) := by
  intro run lost parked
  have initial : run.client.registry = .empty := rfl
  refine ⟨⟨Registry.nodup_keys_parked (nodup_keys_entries initial before), ?_⟩, ?_, ?_, ?_⟩
  · intro key params
    exact mem_parked initial
  · intro dial after dialling fresh intact
    have reconnected : lost.client.step (.dialled true) = lost.client.reconnected := by
      simp [Client.step, dialling, Client.dialled]
    have phase : fresh.client.phase = Client.replayPhase parked := by
      show (run.steps (before ++ [.dialled true])).client.phase = _
      rw [steps_snoc]
      show (lost.client.step (.dialled true)).1.phase = _
      rw [reconnected]
      rfl
    obtain ⟨indices, replayed⟩ := replayed phase intact
    refine ⟨indices, replayed, ?_⟩
    intro few number
    refine ⟨replayed.fresh few, ?_⟩
    intro index key params member
    exact replayed.entry few intact member
  · intro key params later member spares
    obtain ⟨isParked, made⟩ := (mem_parked initial).mp member
    have stays : Spares (run.Ends key) before later := by
      intro earlier event rest heq ends
      exact spares earlier event rest heq (.inl ends)
    exact (mem_parked initial).mpr ⟨isParked.append spares, made.append stays⟩
  · intro key params number text response id later made serving pending means result sole calm
      answered push notification serves pushes hid
    have confirmed : run.change before (.receive text) = .confirmed key id := by
      show lost.client.change (.receive text) = _
      rw [Client.change_of_reply serving means pending, Pending.change_of_confirmed (.inr rfl) result]
    have leads : answered.client.registry.Leads id key :=
      leads_of_answer initial made sole confirmed calm
    subst hid
    rw [Client.step_push serves pushes, leads.dispatch]
    rfl

/-- The frame with which a node replies under a number, with a text for a result. -/
def replyFrame (number result : String) : String :=
  "\x7b\"jsonrpc\":\"2.0\",\"id\":" ++ number ++ ",\"result\":\"" ++ result ++ "\"\x7d"

/-- One subscription that is made again in the first turn on the new connection. -/
theorem parked_are_made_again_at_once :
    let run := connected .standard "ws://node"
    let before := [Event.subscribe [.string "newHeads"], .write true,
      .receive (replyFrame "1" "0xa"), .lose, .dial]
    let fresh := run.steps (before ++ [.dialled true])
    ∃ params number, run.Parked 1 before ∧ run.Made 1 params before ∧
      written (fresh.further [.write true]) = [frame number subscribeMethod params] := by
  intro run before fresh
  have keys : (run.steps before).client.registry.parked.map Prod.fst = [1] := by decide +kernel
  obtain ⟨dial, dialling⟩ : ∃ dial, (run.steps before).client.phase = .dialling dial :=
    Phase.eq_dialling (by decide +kernel)
  have intact (state : State) : (fresh.further [.write true]).any (Effect.enters state) = false := by
    cases state <;> decide +kernel
  have one : (written (fresh.further [.write true])).length = 1 := by decide +kernel
  obtain ⟨row, parked, hkey⟩ := List.map_eq_singleton_iff.mp keys
  obtain ⟨key, params⟩ := row
  obtain rfl : key = 1 := hkey
  clear_value before
  obtain ⟨⟨-, which⟩, again, -⟩ := parked_are_made_again .standard "ws://node" before
  have connected (state : State) : .entered state ∉ fresh.further [.write true] := by
    intro member
    simpa [Effect.enters] using List.any_eq_false.mp (intact state) _ member
  obtain ⟨indices, replayed, -⟩ := again dial [.write true] dialling connected
  obtain ⟨isParked, made⟩ := (which 1 params).mp (by rw [parked]; exact List.mem_singleton_self _)
  have length := replayed.length
  have frames := replayed.frames
  rw [parked] at length frames
  obtain ⟨index, rfl⟩ := List.length_eq_one_iff.mp length
  refine ⟨params, fresh.client.executor.counter + UInt64.ofNat index, isParked, made, ?_⟩
  exact (List.take_of_length_le (Nat.le_of_eq one)).symm.trans frames

/-- The subscribers that are called. -/
def called (effects : List Effect) : List Key :=
  effects.filterMap fun
    | .pushed key _ => some key
    | _ => none

/-- Two subscriptions that are made again and confirmed under the same id: news for it call only the
subscriber that was confirmed last.  One whose subscriber goes away before it has seen its
confirmation does not stay parked. -/
theorem shared_id_or_abandoned :
    let run := connected .standard "ws://node"
    let lost := [Event.subscribe [.string "newHeads"], .subscribe [.string "logs"], .write true,
      .write true, .receive (replyFrame "1" "0xa"), .receive (replyFrame "2" "0xb"), .lose]
    let again := lost ++ [.dial, .dialled true, .write true, .write true,
      .receive (replyFrame "3" "0xc"), .receive (replyFrame "4" "0xc")]
    (run.Confirmed 1 "0xc" again ∧ (run.steps again).client.phase = .serving ∧
      called ((run.steps again).client.step (.receive (pushFrame "0xc"))).2 = [2]) ∧
    run.Parked 1 lost ∧
      ((run.steps (lost ++ [.leave 0, .dial])).client.phase matches .dialling _) = true ∧
      (run.steps (lost ++ [.leave 0, .dial])).client.registry.parked.map Prod.fst = [2] := by
  intro run lost again
  have initial : run.client.registry = .empty := rfl
  have confirmed : run.Confirmed 1 "0xc" again := (confirmed_iff initial).mpr (by decide +kernel)
  have serving : (run.steps again).client.phase = .serving := Phase.eq_serving (by decide +kernel)
  have member : 1 ∈ (run.steps lost).client.registry.parked.map Prod.fst := by decide +kernel
  obtain ⟨⟨key, params⟩, there, rfl⟩ := List.mem_map.mp member
  have isParked := ((mem_parked initial).mp there).1
  exact ⟨⟨confirmed, serving, by decide +kernel⟩, isParked, by decide +kernel, by decide +kernel⟩

end Run
end NodeCall.Socket
