import NodeCall.Proofs.Batch.Operations

/-!
# Which calls are accepted

A scheduler accepts the requests that come before it is closed, in order.  Tickets and numbers
count the requests, so the calls that are accepted can be read off the events alone.
-/

namespace NodeCall.Batch

/-- The requests that come before the scheduler is closed, in order. -/
def requests : List Event → List Request
  | [] => []
  | .schedule request :: rest => request :: requests rest
  | .close :: _ => []
  | _ :: rest => requests rest

theorem requests_cons {event : Event} (rest : List Event)
    (unscheduled : ∀ request, event ≠ .schedule request) (unclosed : event ≠ .close) :
    requests (event :: rest) = requests rest := by
  cases event with
  | schedule request => exact absurd rfl (unscheduled request)
  | close => exact absurd rfl unclosed
  | _ => rfl

/-- What a request becomes: its place in the order of arrival is its ticket and, counted from the
first number, the number it travels under. -/
def Item.of (first : Counter) (ticket : Nat) (request : Request) : Item :=
  ⟨ticket, request.withId (.number (first + UInt64.ofNat ticket)), request.id⟩

namespace Run

/-- The counter and the tickets of a scheduler move together. -/
def InStep (first : Counter) (run : Run) : Prop :=
  run.scheduler.counter = first + UInt64.ofNat run.scheduler.nextTicket

theorem inStep_drawn {first : Counter} {run : Run} (h : InStep first run) :
    run.scheduler.drawn.counter = first + UInt64.ofNat run.scheduler.drawn.nextTicket := by
  show run.scheduler.counter + 1 = first + UInt64.ofNat (run.scheduler.nextTicket + 1)
  rw [h, UInt64.ofNat_add, UInt64.add_assoc]
  rfl

theorem itemFor_eq {first : Counter} {run : Run} (h : InStep first run) (request : Request) :
    itemFor run.scheduler request = .of first run.scheduler.nextTicket request := by
  show (⟨_, request.withId (.number run.scheduler.counter), _⟩ : Item) = _
  rw [h]
  rfl

theorem step_unscheduled (run : Run) {event : Event}
    (unscheduled : ∀ request, event ≠ .schedule request) :
    (run.step event).accepted = run.accepted ∧
      (run.step event).scheduler.nextTicket = run.scheduler.nextTicket ∧
      (run.step event).scheduler.counter = run.scheduler.counter ∧
      (event ≠ .close → (run.step event).scheduler.closed = run.scheduler.closed) := by
  cases event with
  | schedule request => exact absurd rfl (unscheduled request)
  | flush => simp [step, Scheduler.flush]
  | fire generation =>
    show (if generation ∈ run.armed then run.apply (run.scheduler.fire generation)
        else run).accepted
      = _ ∧ _
    unfold step Scheduler.fire
    dsimp only
    split
    · split <;> simp
    · simp
  | close =>
    rcases run.scheduler.close_cases with ⟨closed, eq⟩ | ⟨opened, eq⟩ <;> simp [step, eq]
  | turn batch reply =>
    rcases run.scheduler.turn_cases batch reply with
      eq | ⟨dispatch, -, -, eq⟩ | ⟨dispatch, outcomes, -, -, -, eq⟩ <;>
      simp [step, eq, Scheduler.withStage]
  | leave ticket => simp [step]

theorem step_schedule_opened {run : Run} (opened : run.scheduler.closed = false)
    (request : Request) :
    (run.step (.schedule request)).accepted =
        run.accepted ++ [itemFor run.scheduler request] ∧
      (run.step (.schedule request)).scheduler.nextTicket = run.scheduler.drawn.nextTicket ∧
      (run.step (.schedule request)).scheduler.counter = run.scheduler.drawn.counter ∧
      (run.step (.schedule request)).scheduler.closed = false := by
  rcases run.scheduler.schedule_cases request with
    ⟨closed, -⟩ | ⟨-, -, eq⟩ | ⟨-, -, timer, effects, -, eq⟩
  · exact absurd (closed.symm.trans opened) (by decide)
  · simp [step, opened, eq, Scheduler.joined, Scheduler.drawn]
  · simp [step, opened, eq, Scheduler.joined, Scheduler.drawn]

theorem closed_step_close (run : Run) : (run.step .close).scheduler.closed = true := by
  rcases run.scheduler.close_cases with ⟨closed, eq⟩ | ⟨-, eq⟩
  · simp [step, closed, eq]
  · simp [step, eq]

theorem closed_step {run : Run} (closed : run.scheduler.closed = true) (event : Event) :
    (run.step event).scheduler.closed = true ∧ (run.step event).accepted = run.accepted := by
  by_cases hschedule : ∃ request, event = .schedule request
  · obtain ⟨request, rfl⟩ := hschedule
    rcases run.scheduler.schedule_cases request with ⟨-, eq⟩ | ⟨opened, -⟩ | ⟨opened, -⟩
    · simp [step, closed, eq, Scheduler.drawn]
    all_goals exact absurd (closed.symm.trans opened) (by decide)
  · obtain ⟨haccepted, -, -, hclosed⟩ :=
      run.step_unscheduled (fun request eq => hschedule ⟨request, eq⟩)
    by_cases hclose : event = .close
    · subst hclose
      exact ⟨closed_step_close run, haccepted⟩
    · exact ⟨(hclosed hclose).trans closed, haccepted⟩

theorem accepted_steps_closed {run : Run} (closed : run.scheduler.closed = true)
    (events : List Event) : (run.steps events).accepted = run.accepted := by
  induction events generalizing run with
  | nil => rfl
  | cons event rest ih =>
    obtain ⟨hclosed, haccepted⟩ := closed_step closed event
    exact (ih hclosed).trans haccepted

theorem accepted_steps_opened {first : Counter} {run : Run} (opened : run.scheduler.closed = false)
    (inStep : InStep first run) (events : List Event) :
    (run.steps events).accepted = run.accepted ++
      (requests events).mapIdx fun index => .of first (run.scheduler.nextTicket + index) := by
  induction events generalizing run with
  | nil => exact (List.append_nil _).symm
  | cons event rest ih =>
    show ((run.step event).steps rest).accepted = _
    by_cases hschedule : ∃ request, event = .schedule request
    · obtain ⟨request, rfl⟩ := hschedule
      obtain ⟨haccepted, hticket, hcounter, hopened⟩ := step_schedule_opened opened request
      have hinStep : InStep first (run.step (.schedule request)) := by
        rw [InStep, hcounter, hticket]
        exact inStep_drawn inStep
      rw [ih hopened hinStep, haccepted, hticket, itemFor_eq inStep, requests, List.mapIdx_cons,
        List.append_assoc, List.singleton_append]
      simp only [Scheduler.drawn, Nat.add_zero, Nat.add_right_comm, Nat.add_assoc]
    · have hother : ∀ request, event ≠ .schedule request := fun request eq =>
        hschedule ⟨request, eq⟩
      obtain ⟨haccepted, hticket, hcounter, hclosed⟩ := run.step_unscheduled hother
      by_cases hclose : event = .close
      · subst hclose
        rw [accepted_steps_closed run.closed_step_close, haccepted, requests, List.mapIdx_nil,
          List.append_nil]
      · have hinStep : InStep first (run.step event) := by
          rw [InStep, hcounter, hticket]
          exact inStep
        rw [ih ((hclosed hclose).trans opened) hinStep, haccepted, hticket,
          requests_cons rest hother hclose]

/-- The accepted calls are the requests that came before the close, in order. -/
theorem accepted_steps (config : Config) (first : Counter) (events : List Event) :
    ((initial config first).steps events).accepted = (requests events).mapIdx (.of first) := by
  have hinStep : InStep first (initial config first) := by
    show first = first + 0
    rw [UInt64.add_zero]
  have h := accepted_steps_opened rfl hinStep events
  simpa [initial, Scheduler.new] using h

end Run
end NodeCall.Batch
