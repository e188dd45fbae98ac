import NodeCall.Proofs.Batch.Outcomes
import NodeCall.Proofs.Batch.Timers

/-!
# Closing a scheduler

The close gives the news of it to every call that has no outcome yet: to the pending ones at once,
to those in batches at the next turn of their task, whatever the node has answered by then.  From
then on nothing is sent, and whoever comes is turned away.
-/

namespace NodeCall.Batch

/-- An event gives the task of a batch a turn. -/
def Event.turns (batch : Nat) : Event → Bool
  | .turn other _ => other = batch
  | _ => false

namespace Run

/-- The outcomes that the call of a ticket has been given. -/
def outcomesFor (run : Run) (ticket : Nat) : List (Outcome Response) :=
  (run.outcomes.filter fun entry => entry.1 = ticket).map (·.2)

/-- A scheduler that has been closed. -/
structure Shut (run : Run) : Prop where
  closed : run.scheduler.closed = true
  pending : run.scheduler.pending = []

variable {config : Config} {run : Run} {ticket batch : Nat} {call : Item} {dispatch : Dispatch}
  {outcome : Outcome Response}

/-! ### Outcomes of one call -/

theorem outcomesFor_of_mem (h : Conserved run) (given : (ticket, outcome) ∈ run.outcomes) :
    run.outcomesFor ticket = [outcome] := by
  rw [outcomesFor, h.filter_outcomes given]
  rfl

theorem outcomesFor_eq_nil : run.outcomesFor ticket = [] ↔ ticket ∉ run.outcomes.map (·.1) := by
  rw [outcomesFor, List.map_eq_nil_iff, List.filter_eq_nil_iff, List.mem_map]
  constructor
  · rintro none ⟨entry, member, rfl⟩
    exact none entry member (by simp)
  · intro absent entry member same
    exact absent ⟨entry, member, by simpa using same⟩

theorem outcomesFor_of_waiting (h : Conserved run) (waiting : call ∈ run.scheduler.waiting) :
    run.outcomesFor call.ticket = [] := by
  have distinct := h.nodup_iff.mpr List.nodup_range
  rw [List.nodup_append] at distinct
  rw [outcomesFor_eq_nil]
  intro given
  exact distinct.2.2 _ given _ (List.mem_map_of_mem waiting) rfl

theorem mem_liveItems {batches : List Dispatch} : call ∈ liveItems batches ↔
    ∃ (batch : Nat) (dispatch : Dispatch), batches[batch]? = some dispatch ∧
      dispatch.stage ≠ .over ∧ call ∈ dispatch.items := by
  unfold liveItems
  rw [List.mem_flatMap]
  constructor
  · rintro ⟨dispatch, member, there⟩
    obtain ⟨member, live⟩ := List.mem_filter.mp member
    obtain ⟨batch, hbatch⟩ := List.mem_iff_getElem?.mp member
    exact ⟨batch, dispatch, hbatch, by simpa using live, there⟩
  · rintro ⟨batch, dispatch, hbatch, live, there⟩
    exact ⟨dispatch, List.mem_filter.mpr ⟨List.mem_of_getElem? hbatch, by simpa using live⟩, there⟩

/-- A call without an outcome is pending or in a batch whose task is not over. -/
theorem pending_or_underWay (h : Conserved run) (given : ticket < run.scheduler.nextTicket)
    (unanswered : run.outcomesFor ticket = []) :
    (∃ call ∈ run.scheduler.pending, call.ticket = ticket) ∨
      ∃ (batch : Nat) (dispatch : Dispatch), run.scheduler.batches[batch]? = some dispatch ∧
        dispatch.stage ≠ .over ∧ ∃ call ∈ dispatch.items, call.ticket = ticket := by
  have member := h.mem_iff.mpr (List.mem_range.mpr given)
  rcases List.mem_append.mp member with answered | waiting
  · exact absurd answered (outcomesFor_eq_nil.mp unanswered)
  · obtain ⟨call, there, hticket⟩ := List.mem_map.mp waiting
    rcases List.mem_append.mp there with live | pending
    · obtain ⟨batch, dispatch, hbatch, live, there⟩ := mem_liveItems.mp live
      exact .inr ⟨batch, dispatch, hbatch, live, call, there, hticket⟩
    · exact .inl ⟨call, pending, hticket⟩

/-! ### Turns of a closed scheduler -/

theorem shut_close (h : Settled config run) : (run.step .close).Shut :=
  ⟨run.closed_step_close, h.closing.closed run.closed_step_close⟩

theorem step_close_of_shut (shut : run.Shut) : run.step .close = run := by
  rcases run.scheduler.close_cases with ⟨closed, eq⟩ | ⟨opened, -⟩
  · simp only [step, closed, if_true, eq]
    rfl
  · exact absurd (shut.closed.symm.trans opened) (by decide)

theorem dispatch_of_shut (shut : run.Shut) : run.apply run.scheduler.dispatch =
    { run with scheduler := { run.scheduler with
      timer := none, generation := run.scheduler.generation + 1 } } := by
  simp [Scheduler.dispatch, shut.pending, apply]

theorem turn_of_shut (shut : run.Shut) (batch : Nat) (reply : Option (Outcome (List Response))) :
    run.scheduler.turn batch reply = (run.scheduler, []) ∧
      (∀ dispatch, run.scheduler.batches[batch]? = some dispatch → dispatch.stage = .over) ∨
    ∃ dispatch, run.scheduler.batches[batch]? = some dispatch ∧ dispatch.stage ≠ .over ∧
      run.scheduler.turn batch reply = (run.scheduler.withStage batch .over,
        Scheduler.settledAll (failAll .shutdown dispatch.items)) := by
  unfold Scheduler.turn
  rw [shut.closed]
  split
  · next missing => exact .inl ⟨rfl, by simp [missing]⟩
  · next dispatch there =>
    split
    · next ended => exact .inl ⟨rfl, by simp [there, ended]⟩
    · next queued => exact .inr ⟨dispatch, there, by simp [queued], rfl⟩
    · next sending => exact .inr ⟨dispatch, there, by simp [sending], rfl⟩

theorem schedule_of_shut (shut : run.Shut) (request : Request) :
    run.step (.schedule request) = run.apply
      (run.scheduler.drawn, [.settled run.scheduler.nextTicket (.error .shutdown)]) := by
  rcases run.scheduler.schedule_cases request with ⟨closed, eq⟩ | ⟨opened, -⟩ | ⟨opened, -⟩
  · simp only [step, closed, if_true, eq]
  all_goals exact absurd (shut.closed.symm.trans opened) (by decide)

/-- A closed scheduler sends nothing.  It turns a request away, ends the task of a batch that had
not ended, or does nothing that a caller could notice. -/
theorem step_cases_of_shut (shut : run.Shut) (event : Event) :
    (run.step event).sent = run.sent ∧
    ((∃ request, event = .schedule request ∧
      (run.step event).outcomes = run.outcomes ++ [(run.scheduler.nextTicket, .error .shutdown)] ∧
      (run.step event).scheduler.batches = run.scheduler.batches) ∨
    (∃ batch reply dispatch, event = .turn batch reply ∧
      run.scheduler.batches[batch]? = some dispatch ∧ dispatch.stage ≠ .over ∧
      (run.step event).outcomes = run.outcomes ++ failAll .shutdown dispatch.items ∧
      (run.step event).scheduler = run.scheduler.withStage batch .over) ∨
    ((run.step event).outcomes = run.outcomes ∧
      (run.step event).scheduler.batches = run.scheduler.batches ∧
      ∀ batch dispatch, run.scheduler.batches[batch]? = some dispatch → dispatch.stage ≠ .over →
        event.turns batch = false)) := by
  cases event with
  | schedule request =>
    rw [schedule_of_shut shut request]
    refine ⟨by simp [Effect.batch?], .inl ⟨request, rfl, ?_, ?_⟩⟩
    · simp [outcomesOf, Effect.outcome?]
    · simp [Scheduler.drawn]
  | turn batch reply =>
    rcases turn_of_shut shut batch reply with ⟨eq, ended⟩ | ⟨dispatch, hbatch, live, eq⟩
    · refine ⟨by simp [step, eq], .inr (.inr ?_)⟩
      refine ⟨by simp [step, eq, outcomesOf], by simp [step, eq], ?_⟩
      intro other dispatch hother live
      refine decide_eq_false ?_
      rintro rfl
      exact live (ended dispatch hother)
    · refine ⟨by simp [step, eq, batches_settledAll], .inr (.inl ?_)⟩
      refine ⟨batch, reply, dispatch, rfl, hbatch, live, ?_, ?_⟩
      · simp [step, eq, outcomesOf_settledAll]
      · simp [step, eq]
  | close =>
    rw [step_close_of_shut shut]
    exact ⟨rfl, .inr (.inr ⟨rfl, rfl, fun _ _ _ _ => rfl⟩)⟩
  | flush =>
    have eq : run.step .flush = run.apply run.scheduler.dispatch := rfl
    rw [eq, dispatch_of_shut shut]
    exact ⟨rfl, .inr (.inr ⟨rfl, rfl, fun _ _ _ _ => rfl⟩)⟩
  | fire generation =>
    unfold step Scheduler.fire
    dsimp only
    split
    · split
      · rw [dispatch_of_shut shut]
        exact ⟨rfl, .inr (.inr ⟨rfl, rfl, fun _ _ _ _ => rfl⟩)⟩
      · exact ⟨rfl, .inr (.inr ⟨rfl, rfl, fun _ _ _ _ => rfl⟩)⟩
    · exact ⟨rfl, .inr (.inr ⟨rfl, rfl, fun _ _ _ _ => rfl⟩)⟩
  | leave ticket => exact ⟨rfl, .inr (.inr ⟨rfl, rfl, fun _ _ _ _ => rfl⟩)⟩

/-! ### Runs of a closed scheduler -/

theorem Shut.step (shut : run.Shut) (h : Settled config run) (event : Event) :
    (run.step event).Shut := by
  have closed := (closed_step shut.closed event).1
  exact ⟨closed, (h.step event).closed closed⟩

theorem Shut.steps (shut : run.Shut) (h : Settled config run) (events : List Event) :
    (run.steps events).Shut := by
  induction events generalizing run with
  | nil => exact shut
  | cons event rest ih => exact ih (shut.step h event) (h.step event)

theorem sent_steps_of_shut (shut : run.Shut) (h : Settled config run) (events : List Event) :
    (run.steps events).sent = run.sent := by
  induction events generalizing run with
  | nil => rfl
  | cons event rest ih =>
    exact (ih (shut.step h event) (h.step event)).trans (step_cases_of_shut shut event).1

theorem turn_of_turns {event : Event} (turns : event.turns batch = true) :
    ∃ reply, event = .turn batch reply := by
  cases event with
  | turn other reply =>
    obtain rfl : other = batch := of_decide_eq_true turns
    exact ⟨reply, rfl⟩
  | _ => cases turns

theorem told_of_turns (shut : run.Shut) {event : Event} (turns : event.turns batch = true)
    (there : run.scheduler.batches[batch]? = some dispatch) (live : dispatch.stage ≠ .over)
    (member : call ∈ dispatch.items) :
    (call.ticket, .error .shutdown) ∈ (run.step event).outcomes := by
  obtain ⟨reply, rfl⟩ := turn_of_turns turns
  rcases (step_cases_of_shut shut (.turn batch reply)).2 with
    ⟨request, eq, -⟩ | ⟨other, reply, ended, eq, hended, -, outcomes, -⟩ | ⟨-, -, unturned⟩
  · cases eq
  · obtain ⟨rfl, rfl⟩ := Event.turn.inj eq
    obtain rfl : dispatch = ended := Option.some.inj (there.symm.trans hended)
    rw [outcomes]
    exact List.mem_append_right _ (List.mem_map.mpr ⟨call, member, rfl⟩)
  · exact absurd turns (by rw [unturned batch dispatch there live]; decide)

theorem underWay_of_unturned (shut : run.Shut) {event : Event}
    (unturned : event.turns batch = false)
    (there : run.scheduler.batches[batch]? = some dispatch) :
    (run.step event).scheduler.batches[batch]? = some dispatch := by
  rcases (step_cases_of_shut shut event).2 with
    ⟨request, -, -, same⟩ | ⟨other, reply, ended, rfl, -, -, -, eq⟩ | ⟨-, same, -⟩
  · rw [same, there]
  · have hne : other ≠ batch := of_decide_eq_false unturned
    rw [eq, Scheduler.withStage, List.getElem?_modify_ne _ _ hne, there]
  · rw [same, there]

/-- A call in a batch under way is told by the next turn of the batch's task, and not before. -/
theorem outcomesFor_steps_of_shut (shut : run.Shut) (h : Settled config run)
    (conserved : Conserved run) (there : run.scheduler.batches[batch]? = some dispatch)
    (live : dispatch.stage ≠ .over) (member : call ∈ dispatch.items) (events : List Event) :
    (run.steps events).outcomesFor call.ticket =
      if events.any (·.turns batch) then [.error .shutdown] else [] := by
  induction events generalizing run with
  | nil =>
    have waiting : call ∈ run.scheduler.waiting :=
      List.mem_append_left _ (mem_liveItems.mpr ⟨batch, dispatch, there, live, member⟩)
    exact outcomesFor_of_waiting conserved waiting
  | cons event rest ih =>
    show ((run.step event).steps rest).outcomesFor call.ticket = _
    rw [List.any_cons]
    cases turns : event.turns batch with
    | true =>
      have told := told_of_turns shut turns there live member
      have kept := (outcomes_prefix_steps (run.step event) rest).subset told
      rw [Bool.true_or, if_pos rfl]
      exact outcomesFor_of_mem ((conserved.step event).steps rest) kept
    | false =>
      rw [Bool.false_or]
      exact ih (shut.step h event) (h.step event) (conserved.step event)
        (underWay_of_unturned shut turns there)

theorem outcomesFor_schedule_of_shut (shut : run.Shut) (conserved : Conserved run)
    (request : Request) (events : List Event) :
    (run.steps (.schedule request :: events)).outcomesFor run.scheduler.nextTicket =
      [.error .shutdown] := by
  have told : (run.scheduler.nextTicket, .error .shutdown) ∈
      (run.step (.schedule request)).outcomes := by
    rw [schedule_of_shut shut request]
    simp [outcomesOf, Effect.outcome?]
  have kept := (outcomes_prefix_steps _ events).subset told
  exact outcomesFor_of_mem (conserved.steps (.schedule request :: events)) kept

theorem told_of_pending (h : Settled config run) (pending : call ∈ run.scheduler.pending) :
    (call.ticket, .error .shutdown) ∈ (run.step .close).outcomes := by
  rcases run.scheduler.close_cases with ⟨closed, -⟩ | ⟨-, eq⟩
  · rw [h.closed closed] at pending
    cases pending
  · have outcomes : (run.step .close).outcomes =
        run.outcomes ++ failAll .shutdown run.scheduler.pending := by
      simp [step, eq, outcomesOf_settledAll]
    rw [outcomes]
    exact List.mem_append_right _ (List.mem_map.mpr ⟨call, pending, rfl⟩)

theorem outcomesFor_close_of_pending (h : Settled config run) (conserved : Conserved run)
    (pending : call ∈ run.scheduler.pending) (events : List Event) :
    ((run.step .close).steps events).outcomesFor call.ticket = [.error .shutdown] := by
  have kept := (outcomes_prefix_steps _ events).subset (told_of_pending h pending)
  exact outcomesFor_of_mem ((conserved.step .close).steps events) kept

theorem batches_close (run : Run) :
    (run.step .close).scheduler.batches = run.scheduler.batches := by
  rcases run.scheduler.close_cases with ⟨-, eq⟩ | ⟨-, eq⟩ <;> simp [step, eq]

theorem sent_close (run : Run) : (run.step .close).sent = run.sent := by
  rcases run.scheduler.close_cases with ⟨-, eq⟩ | ⟨-, eq⟩ <;> simp [step, eq, batches_settledAll]

theorem outcomesFor_steps (h : Conserved run) (answered : run.outcomesFor ticket ≠ [])
    (events : List Event) : (run.steps events).outcomesFor ticket = run.outcomesFor ticket := by
  have known : ticket ∈ run.outcomes.map (·.1) := by
    by_contra absent
    exact answered (outcomesFor_eq_nil.mpr absent)
  obtain ⟨⟨_, outcome⟩, given, rfl⟩ := List.mem_map.mp known
  have kept := (outcomes_prefix_steps run events).subset given
  rw [outcomesFor_of_mem h given, outcomesFor_of_mem (h.steps events) kept]

/-- Whatever comes before and after, once the scheduler is closed every call that had no outcome is
told so and nothing else: a pending one at once, one in a batch at the next turn of its task,
whatever reply the turn brings.  No batch is sent any more, outcomes that had been given stay, every
later request is turned away, a further close changes nothing, and a flush nothing but the
generation.  So does a timer at most, and unless the generations have come round it changes nothing
either. -/
theorem close_is_final (config : Config) (first : Counter) (before after : List Event) :
    let run := (initial config first).steps before
    let closed := run.step .close
    let later := closed.steps after
    (∀ ticket < run.scheduler.nextTicket, run.outcomesFor ticket = [] →
      ((∃ call ∈ run.scheduler.pending, call.ticket = ticket) ∧
        later.outcomesFor ticket = [.error .shutdown]) ∨
      ∃ (batch : Nat) (dispatch : Dispatch), run.scheduler.batches[batch]? = some dispatch ∧
        dispatch.stage ≠ .over ∧ (∃ call ∈ dispatch.items, call.ticket = ticket) ∧
        later.outcomesFor ticket =
          if after.any (·.turns batch) then [.error .shutdown] else []) ∧
    later.sent = run.sent ∧
    (∀ ticket, run.outcomesFor ticket ≠ [] →
      later.outcomesFor ticket = run.outcomesFor ticket) ∧
    (∀ front request back, after = front ++ .schedule request :: back →
      let ticket := (closed.steps front).scheduler.nextTicket
      (closed.steps (front ++ [.schedule request])).outcomesFor ticket = [.error .shutdown] ∧
      later.outcomesFor ticket = [.error .shutdown]) ∧
    later.step .close = later ∧
    later.step .flush = { later with scheduler :=
      { later.scheduler with generation := later.scheduler.generation + 1 } } ∧
    (∀ generation, later.step (.fire generation) = later ∨
      later.step (.fire generation) = later.step .flush) ∧
    ((initial config first).takes (before ++ .close :: after) < UInt64.size →
      ∀ generation, later.step (.fire generation) = later) := by
  intro run closed later
  have settled : Settled config run := (settled_initial config first).steps before
  have conserved : Conserved run := (conserved_initial config first).steps before
  have settled' : Settled config closed := settled.step .close
  have conserved' : Conserved closed := conserved.step .close
  have shut : closed.Shut := shut_close settled
  have shut' : later.Shut := shut.steps settled' after
  have guarded : later.queue.Guarded :=
    guarded_of_steps (guarded_step (guarded_steps config first before) .close) after
  have idle : later.scheduler.timer = none := by
    have timer := guarded.timer
    rwa [if_pos (by simp [queue, shut'.pending])] at timer
  refine ⟨?_, ?_, ?_, ?_, step_close_of_shut shut', ?_, later.step_fire_cases, ?_⟩
  · intro ticket given unanswered
    rcases pending_or_underWay conserved given unanswered with
      ⟨call, pending, rfl⟩ | ⟨batch, dispatch, there, live, call, member, rfl⟩
    · exact .inl ⟨⟨call, pending, rfl⟩,
        outcomesFor_close_of_pending settled conserved pending after⟩
    · have there' : closed.scheduler.batches[batch]? = some dispatch := by
        rw [run.batches_close, there]
      exact .inr ⟨batch, dispatch, there, live, ⟨call, member, rfl⟩,
        outcomesFor_steps_of_shut shut settled' conserved' there' live member after⟩
  · exact (sent_steps_of_shut shut settled' after).trans run.sent_close
  · intro ticket answered
    exact outcomesFor_steps conserved answered (.close :: after)
  · rintro front request back rfl
    have shutFront : (closed.steps front).Shut := shut.steps settled' front
    have conservedFront : Conserved (closed.steps front) := conserved'.steps front
    intro ticket
    refine ⟨?_, ?_⟩
    · rw [steps_append]
      exact outcomesFor_schedule_of_shut shutFront conservedFront request []
    · show (closed.steps (front ++ .schedule request :: back)).outcomesFor ticket = _
      rw [steps_append]
      exact outcomesFor_schedule_of_shut shutFront conservedFront request back
  · have eq : later.step .flush = later.apply later.scheduler.dispatch := rfl
    rw [eq, dispatch_of_shut shut', ← idle]
  · intro few generation
    have reached : (initial config first).steps (before ++ .close :: after) = later := by
      rw [steps_append]
      rfl
    rw [← reached] at idle ⊢
    exact step_fire_of_unrecorded few (by simp [idle])

-- One batch awaits its reply, one is queued, and a call is pending when the close comes.
example :
    let request := fun method => Request.new (.number 7) method []
    let before : List Event := [.schedule (request "a"), .schedule (request "b"), .turn 0 none,
      .schedule (request "c"), .schedule (request "d"), .schedule (request "e")]
    let run := (initial ⟨2, .zero⟩ 1).steps
      (before ++ [.close, .turn 1 none, .flush, .turn 0 (some (.ok [])), .turn 0 none])
    run.outcomes = [4, 2, 3, 0, 1].map (·, .error .shutdown) ∧ run.sent = [0] :=
  ⟨rfl, rfl⟩

end Run
end NodeCall.Batch
