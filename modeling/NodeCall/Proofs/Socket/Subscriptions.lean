import NodeCall.Proofs.Socket.Runs
import NodeCall.Proofs.Socket.Connection
import Mathlib.Data.List.Induction

/-!
# The past of a subscription

A subscription has been made and has not ended; it has been confirmed under an id on the present
connection; it has been parked and not confirmed again.  Each of these is said through the turns so
far, and the registry holds neither more nor less.
-/

namespace NodeCall.Socket

/-- After some turns, none of these further turns undoes something. -/
def Spares (undone : List Event → Event → Prop) (events more : List Event) : Prop :=
  ∀ earlier event later, more = earlier ++ event :: later → ¬undone (events ++ earlier) event

/-- Something happened in one of the turns, and no turn since then has undone it. -/
def Since (happens undone : List Event → Event → Prop) (events : List Event) : Prop :=
  ∃ before event after, events = before ++ [event] ++ after ∧ happens before event ∧
    Spares undone (before ++ [event]) after

section Since

variable {happens undone : List Event → Event → Prop} {events : List Event} {event : Event}

theorem snoc_inj {α : Type} {front rest : List α} {last final : α}
    (heq : front ++ [last] = rest ++ [final]) : front = rest ∧ last = final := by
  obtain ⟨hfront, hlast⟩ := List.append_inj' heq rfl
  exact ⟨hfront, List.singleton_inj.mp hlast⟩

theorem spares_snoc {more : List Event} : Spares undone events (more ++ [event]) ↔
    Spares undone events more ∧ ¬undone (events ++ more) event := by
  constructor
  · intro spares
    refine ⟨?_, spares more event [] rfl⟩
    rintro earlier other later rfl
    exact spares earlier other (later ++ [event]) (by simp)
  · rintro ⟨spares, last⟩ earlier other later heq
    cases later using List.reverseRecOn with
    | nil =>
      obtain ⟨rfl, rfl⟩ := snoc_inj heq
      exact last
    | append_singleton later final =>
      obtain ⟨rfl, -⟩ := snoc_inj (heq.trans (List.append_assoc earlier (other :: later) _).symm)
      exact spares earlier other later rfl

theorem spares_nil : Spares undone events [] := by
  intro earlier other later heq
  simp at heq

theorem not_since_nil : ¬Since happens undone [] := by
  rintro ⟨before, event, after, heq, -⟩
  simp at heq

/-- The last turn is the one, or it does not undo what the turns before it have brought about. -/
theorem since_snoc : Since happens undone (events ++ [event]) ↔
    happens events event ∨ Since happens undone events ∧ ¬undone events event := by
  constructor
  · rintro ⟨before, first, after, heq, happened, spares⟩
    cases after using List.reverseRecOn with
    | nil =>
      rw [List.append_nil] at heq
      obtain ⟨rfl, rfl⟩ := snoc_inj heq
      exact .inl happened
    | append_singleton later last =>
      rw [← List.append_assoc] at heq
      obtain ⟨rfl, rfl⟩ := snoc_inj heq
      obtain ⟨spares, kept⟩ := spares_snoc.mp spares
      exact .inr ⟨⟨before, first, later, rfl, happened, spares⟩, kept⟩
  · rintro (happened | ⟨⟨before, first, after, rfl, happened, spares⟩, kept⟩)
    · exact ⟨events, event, [], by simp, happened, spares_nil⟩
    · exact ⟨before, first, after ++ [event], by simp, happened, spares_snoc.mpr ⟨spares, kept⟩⟩

/-- What one turn makes true and keeps true just so is what has happened and not been undone. -/
theorem since_iff {P : List Event → Prop} (initial : ¬P [])
    (turn : ∀ events event, P (events ++ [event]) ↔
      happens events event ∨ P events ∧ ¬undone events event) :
    Since happens undone events ↔ P events := by
  induction events using List.reverseRecOn with
  | nil => exact iff_of_false not_since_nil initial
  | append_singleton events event ih => rw [since_snoc, turn, ih]

/-- It stays so through turns that do not undo it. -/
theorem Since.append {more : List Event} (since : Since happens undone events)
    (spares : Spares undone events more) : Since happens undone (events ++ more) := by
  induction more using List.reverseRecOn with
  | nil => rwa [List.append_nil]
  | append_singleton more last ih =>
    obtain ⟨spares, kept⟩ := spares_snoc.mp spares
    rw [← List.append_assoc]
    exact since_snoc.mpr (.inr ⟨ih spares, kept⟩)

/-- What holds after more turns held before them, or has happened in one of them. -/
theorem Since.before_or_in {more : List Event} (since : Since happens undone (events ++ more)) :
    Since happens undone events ∨
      ∃ mid event rest, more = mid ++ event :: rest ∧ happens (events ++ mid) event := by
  induction more using List.reverseRecOn with
  | nil =>
    rw [List.append_nil] at since
    exact .inl since
  | append_singleton more last ih =>
    rw [← List.append_assoc] at since
    rcases since_snoc.mp since with happened | ⟨since, -⟩
    · exact .inr ⟨more, last, [], rfl, happened⟩
    · rcases ih since with earlier | ⟨mid, event, rest, rfl, happened⟩
      · exact .inl earlier
      · exact .inr ⟨mid, event, rest ++ [last], by simp, happened⟩

end Since

namespace Run

variable {run : Run} {key : Key} {id : String} {params : List Json} {events : List Event}

/-- What a turn does to the subscriptions, after the turns before it. -/
def change (run : Run) (before : List Event) (event : Event) : Change :=
  (run.steps before).client.change event

/-- A turn after others ends the subscription under a key. -/
def Ends (run : Run) (key : Key) (before : List Event) (event : Event) : Prop :=
  (run.steps before).client.registry.Ends key (run.change before event)

/-- There is a subscription under a key. -/
def Made (run : Run) (key : Key) (params : List Json) : List Event → Prop :=
  Since
    (fun before event => run.change before event = .made params ∧
      (run.steps before).client.registry.nextKey = key)
    (run.Ends key)

/-- A turn after which a subscription is not known under its former id. -/
def Unconfirms (run : Run) (key : Key) (before : List Event) (event : Event) : Prop :=
  run.Ends key before event ∨ run.change before event = .parked ∨
    ∃ id, run.change before event = .confirmed key id

/-- The node has confirmed a subscription under an id, on the present connection. -/
def Confirmed (run : Run) (key : Key) (id : String) : List Event → Prop :=
  Since
    (fun before event => run.change before event = .confirmed key id ∧
      ∃ params, run.Made key params before)
    (run.Unconfirms key)

/-- A turn that ends a subscription or confirms it, so that it is not to be made again. -/
def Unparks (run : Run) (key : Key) (before : List Event) (event : Event) : Prop :=
  run.Ends key before event ∨ ∃ id, run.change before event = .confirmed key id

/-- A confirmed subscription has lost its connection, and it has not been confirmed again. -/
def Parked (run : Run) (key : Key) : List Event → Prop :=
  Since
    (fun before event => run.change before event = .parked ∧ ∃ id, run.Confirmed key id before)
    (run.Unparks key)

theorem steps_snoc (run : Run) (events : List Event) (event : Event) :
    (run.steps (events ++ [event])).client = ((run.steps events).client.step event).1 := by
  rw [steps_append]
  rfl

theorem registry_snoc (run : Run) (events : List Event) (event : Event) :
    (run.steps (events ++ [event])).client.registry =
      (run.steps events).client.registry.after (run.change events event) := by
  rw [steps_snoc]
  exact Client.registry_step _ _

variable (initial : run.client.registry = .empty)

include initial

theorem made_iff : run.Made key params events ↔
    (run.steps events).client.registry.params? key = some params := by
  refine since_iff (P := fun events => (run.steps events).client.registry.params? key = some params)
    ?_ ?_
  · show ¬run.client.registry.params? key = some params
    rw [initial]
    simp [Registry.params?, Registry.empty]
  · intro events event
    rw [registry_snoc]
    exact Registry.params?_after

theorem holds_iff : (run.steps events).client.registry.Holds key ↔
    ∃ params, run.Made key params events :=
  exists_congr fun _ => (made_iff initial).symm

theorem confirmed_iff : run.Confirmed key id events ↔
    (run.steps events).client.registry.serverId key = some id := by
  refine since_iff (P := fun events => (run.steps events).client.registry.serverId key = some id)
    ?_ ?_
  · show ¬run.client.registry.serverId key = some id
    rw [initial]
    simp [Registry.serverId, Registry.empty]
  · intro events event
    rw [registry_snoc, Registry.serverId_after, holds_iff initial]
    simp only [Unconfirms, not_or, not_exists, Ends]

theorem parked_iff : run.Parked key events ↔
    (run.steps events).client.registry.Parks key := by
  refine since_iff (P := fun events => (run.steps events).client.registry.Parks key) ?_ ?_
  · show ¬run.client.registry.Parks key
    rw [initial]
    simp [Registry.Parks, Registry.empty]
  · intro events event
    rw [registry_snoc, Registry.parks_after]
    simp only [confirmed_iff initial, Unparks, not_or, not_exists, Ends]

end Run
end NodeCall.Socket
