import NodeCall.Proofs.Batch.Partition
import NodeCall.Proofs.IdGenerator
import Mathlib.Data.List.Induction

/-!
# Timers of the pending list

As long as calls are pending there is a timer for them, armed by the first of them, and without
pending calls there is none.  A timer of an earlier generation does nothing when it fires, unless
the list has been taken so often since that the word for its generation has come round.  No pending
call outstays the timer that is recorded.
-/

namespace NodeCall.Batch

/-- The pending list, the timer recorded for it, its generation, and the generations for which a
timer has ever been armed. -/
structure Queue where
  pending : List Item
  timer : Option UInt64
  generation : UInt64
  armed : List UInt64

namespace Queue

/-- A call joins the list; the first one arms the timer. -/
def join (q : Queue) (call : Item) : Queue :=
  if q.pending.isEmpty then ⟨[call], some q.generation, q.generation, q.armed ++ [q.generation]⟩
  else { q with pending := q.pending ++ [call] }

/-- The list is taken, to be sent or to be drained. -/
def take (q : Queue) : Queue := ⟨[], none, q.generation + 1, q.armed⟩

/-- A timer is recorded just when calls are pending, and then it has been armed for the present
generation. -/
structure Guarded (q : Queue) : Prop where
  timer : q.timer = if q.pending.isEmpty then none else some q.generation
  armed : ∀ {generation}, q.timer = some generation → generation ∈ q.armed

variable {q : Queue} {generation : UInt64}

theorem Guarded.current (h : q.Guarded) (recorded : q.timer = some generation) :
    generation = q.generation := by
  rw [h.timer] at recorded
  split at recorded
  · simp at recorded
  · exact (Option.some.inj recorded).symm

theorem Guarded.join (h : q.Guarded) (call : Item) : (q.join call).Guarded := by
  unfold Queue.join
  split
  · refine ⟨rfl, ?_⟩
    intro generation recorded
    simp [Option.some.inj recorded]
  · next waiting =>
    refine ⟨?_, h.armed⟩
    rw [h.timer, if_neg waiting, if_neg (by simp)]

theorem Guarded.take (q : Queue) : q.take.Guarded where
  timer := rfl
  armed := by simp [Queue.take]

end Queue

namespace Run

def queue (run : Run) : Queue :=
  ⟨run.scheduler.pending, run.scheduler.timer, run.scheduler.generation, run.armed⟩

variable {config : Config} {first : Counter} {run : Run} {event : Event} {events : List Event}
  {generation : UInt64} {call : Item}

/-! ### What one turn does to the queue -/

theorem queue_dispatch (run : Run) : (run.apply run.scheduler.dispatch).queue = run.queue.take := by
  simp [queue, Queue.take]

theorem queue_of_same {result : Scheduler × List Effect}
    (pending : result.1.pending = run.scheduler.pending)
    (timer : result.1.timer = run.scheduler.timer)
    (generation : result.1.generation = run.scheduler.generation)
    (silent : result.2.filterMap Effect.generation? = []) :
    (run.apply result).queue = run.queue := by
  simp [queue, pending, timer, generation, silent]

theorem queue_schedule (run : Run) (request : Request) :
    (run.step (.schedule request)).queue =
      if run.scheduler.closed then run.queue
      else if run.scheduler.size ≤ run.scheduler.pending.length + 1 then run.queue.take
      else run.queue.join (itemFor run.scheduler request) := by
  unfold step
  dsimp only
  generalize (if run.scheduler.closed then run.accepted
    else run.accepted ++ [itemFor run.scheduler request]) = accepted
  rcases run.scheduler.schedule_cases request with
    ⟨closed, eq⟩ | ⟨opened, full, eq⟩ | ⟨opened, short, -⟩
  · rw [closed, if_pos rfl, eq]
    exact queue_of_same rfl rfl rfl rfl
  · rw [opened, if_neg (by decide), if_pos full, eq]
    simp [queue, Queue.take, Scheduler.joined, Scheduler.drawn]
  · rw [opened, if_neg (by decide), if_neg (by omega), Scheduler.schedule_joining opened short]
    unfold Queue.join
    cases hpending : run.scheduler.pending with
    | nil => simp [queue, hpending, Scheduler.joined, Scheduler.drawn, Effect.generation?]
    | cons call rest => simp [queue, hpending, Scheduler.joined, Scheduler.drawn]

/-- A turn leaves the pending list alone, takes it, or lets a call join it. -/
theorem queue_step (run : Run) (event : Event) :
    (run.step event).queue = run.queue ∨ (run.step event).queue = run.queue.take ∨
      ∃ request, event = .schedule request ∧
        (run.step event).queue = run.queue.join (itemFor run.scheduler request) := by
  cases event with
  | schedule request =>
    rw [queue_schedule]
    split
    · exact .inl rfl
    · split
      · exact .inr (.inl rfl)
      · exact .inr (.inr ⟨request, rfl, rfl⟩)
  | flush => exact .inr (.inl run.queue_dispatch)
  | fire generation =>
    unfold step Scheduler.fire
    dsimp only
    split
    · split
      · exact .inr (.inl run.queue_dispatch)
      · exact .inl rfl
    · exact .inl rfl
  | close =>
    rcases run.scheduler.close_cases with ⟨closed, eq⟩ | ⟨opened, eq⟩
    · exact .inl (by simp [step, eq, queue])
    · exact .inr (.inl (by simp [step, eq, queue, Queue.take, generations_settledAll]))
  | turn batch reply =>
    left
    show (run.apply (run.scheduler.turn batch reply)).queue = _
    rcases run.scheduler.turn_cases batch reply with
      eq | ⟨dispatch, -, -, eq⟩ | ⟨dispatch, outcomes, -, -, -, eq⟩ <;> rw [eq]
    · rfl
    · exact queue_of_same rfl rfl rfl rfl
    · exact queue_of_same rfl rfl rfl (generations_settledAll _)
  | leave ticket => exact .inl rfl

theorem guarded_step (h : run.queue.Guarded) (event : Event) : (run.step event).queue.Guarded := by
  rcases run.queue_step event with eq | eq | ⟨request, -, eq⟩ <;> rw [eq]
  · exact h
  · exact .take _
  · exact h.join _

theorem guarded_of_steps (h : run.queue.Guarded) (events : List Event) :
    (run.steps events).queue.Guarded := by
  induction events generalizing run with
  | nil => exact h
  | cons event rest ih => exact ih (guarded_step h event)

theorem guarded_steps (config : Config) (first : Counter) (events : List Event) :
    ((initial config first).steps events).queue.Guarded := by
  have start : (initial config first).queue.Guarded := by
    refine ⟨rfl, ?_⟩
    intro generation recorded
    cases recorded
  exact guarded_of_steps start events

/-! ### How often the list has been taken -/

/-- How often the pending list is taken in the course of events.  Each time begins a generation. -/
def takes (run : Run) : List Event → Nat
  | [] => 0
  | event :: rest =>
    (if (run.step event).scheduler.generation = run.scheduler.generation then 0 else 1) +
      (run.step event).takes rest

theorem takes_append (run : Run) (before after : List Event) :
    run.takes (before ++ after) = run.takes before + (run.steps before).takes after := by
  induction before generalizing run with
  | nil => simp [takes, steps]
  | cons event rest ih =>
    rw [List.cons_append, takes, takes, ih, Nat.add_assoc]
    rfl

theorem generation_step (run : Run) (event : Event) :
    (run.step event).scheduler.generation =
      run.scheduler.generation + UInt64.ofNat (run.takes [event]) := by
  unfold takes takes
  split
  · next same => simp [same]
  · next changed =>
    rcases run.queue_step event with eq | eq | ⟨request, -, eq⟩
    · exact absurd (congrArg Queue.generation eq) changed
    · exact congrArg Queue.generation eq
    · refine absurd ((congrArg Queue.generation eq).trans ?_) changed
      unfold Queue.join
      split <;> rfl

/-- Generations count the times that the list has been taken, in a 64-bit word. -/
theorem generation_steps (run : Run) (events : List Event) :
    (run.steps events).scheduler.generation =
      run.scheduler.generation + UInt64.ofNat (run.takes events) := by
  induction events generalizing run with
  | nil => simp [takes, steps]
  | cons event rest ih =>
    have split : run.takes (event :: rest) = run.takes [event] + (run.step event).takes rest := by
      rw [← List.singleton_append, takes_append]
      rfl
    show ((run.step event).steps rest).scheduler.generation = _
    rw [ih, generation_step, split, UInt64.ofNat_add, UInt64.add_assoc]

theorem generation_steps_initial (config : Config) (first : Counter) (events : List Event) :
    ((initial config first).steps events).scheduler.generation =
      UInt64.ofNat ((initial config first).takes events) := by
  rw [generation_steps]
  exact UInt64.zero_add _

/-- A timer stays recorded as long as the list is not taken. -/
theorem timer_of_untaken (h : run.queue.Guarded) (recorded : run.scheduler.timer = some generation)
    (untaken : run.takes events = 0) : (run.steps events).scheduler.timer = some generation := by
  induction events generalizing run with
  | nil => exact recorded
  | cons event rest ih =>
    obtain ⟨same, still⟩ := Nat.add_eq_zero_iff.mp untaken
    replace same : (run.step event).scheduler.generation = run.scheduler.generation := by
      by_contra changed
      rw [if_neg changed] at same
      cases same
    have current : run.scheduler.generation = generation := (h.current recorded).symm
    refine ih (guarded_step h event) ?_ still
    rcases run.queue_step event with eq | eq | ⟨request, -, eq⟩
    · exact (congrArg Queue.timer eq).trans recorded
    · -- taking the list would begin another generation
      have changed : (run.step event).scheduler.generation = run.scheduler.generation + 1 :=
        congrArg Queue.generation eq
      simp [same] at changed
    · have timer := congrArg Queue.timer eq
      rw [Queue.join] at timer
      split at timer
      · exact timer.trans (congrArg some current)
      · exact timer.trans recorded

/-! ### What a timer does -/

theorem queue_fire (h : run.queue.Guarded) (recorded : run.scheduler.timer = some generation) :
    (run.step (.fire generation)).queue = run.queue.take := by
  have current : run.scheduler.generation = generation := (h.current recorded).symm
  have armed : generation ∈ run.armed := h.armed recorded
  unfold step Scheduler.fire
  dsimp only
  rw [if_pos armed, if_pos current]
  exact run.queue_dispatch

/-- A timer of another generation than the present one does nothing. -/
theorem step_fire_of_ne (other : generation ≠ run.scheduler.generation) :
    run.step (.fire generation) = run := by
  unfold step Scheduler.fire
  dsimp only
  split
  · rw [if_neg other.symm]
    rfl
  · rfl

/-- At most a timer does what a flush would do. -/
theorem step_fire_cases (run : Run) (generation : UInt64) :
    run.step (.fire generation) = run ∨ run.step (.fire generation) = run.step .flush := by
  by_cases current : generation = run.scheduler.generation
  · unfold step Scheduler.fire
    dsimp only
    rw [if_pos current.symm]
    split
    · exact .inr rfl
    · exact .inl rfl
  · exact .inl (step_fire_of_ne current)

/-! ### Since when a timer is recorded -/

/-- A call finds the pending list empty and arms the timer of a generation. -/
structure Arms (run : Run) (request : Request) (generation : UInt64) : Prop where
  empty : run.scheduler.pending = []
  idle : run.scheduler.timer = none
  current : run.scheduler.generation = generation
  alone : (run.step (.schedule request)).scheduler.pending = [itemFor run.scheduler request]
  armed : (run.step (.schedule request)).armed = run.armed ++ [generation]

/-- The timer of a generation is recorded, and a call stands first on the pending list. -/
def Stands (run : Run) (call : Item) (generation : UInt64) : Prop :=
  run.scheduler.timer = some generation ∧ run.scheduler.pending.head? = some call

/-- A call armed the timer of a generation when the pending list was empty.  Since then it has stood
first on the list, and the timer has been recorded and has not fired. -/
def ArmedSince (run : Run) (events : List Event) (generation : UInt64) : Prop :=
  ∃ before request after, events = before ++ .schedule request :: after ∧
    (run.steps before).Arms request generation ∧ .fire generation ∉ after ∧
    ∀ front, front <+: after → (run.steps (before ++ .schedule request :: front)).Stands
      (itemFor (run.steps before).scheduler request) generation

theorem Stands.step (stands : run.Stands call generation) (event : Event)
    (recorded : (run.step event).scheduler.timer = some generation) :
    (run.step event).Stands call generation := by
  refine ⟨recorded, ?_⟩
  have hhead := stands.2
  rcases run.queue_step event with eq | eq | ⟨request, -, eq⟩
  · have same : (run.step event).scheduler.pending = run.scheduler.pending :=
      congrArg Queue.pending eq
    rw [same, hhead]
  · have none : (run.step event).scheduler.timer = none := congrArg Queue.timer eq
    simp [none] at recorded
  · have joined := congrArg Queue.pending eq
    have waiting : run.queue.pending.isEmpty = false := by
      cases hpending : run.scheduler.pending with
      | nil => simp [hpending] at hhead
      | cons call rest => simp [queue, hpending]
    rw [Queue.join, waiting] at joined
    have same : (run.step event).scheduler.pending =
      run.scheduler.pending ++ [itemFor run.scheduler request] := joined
    rw [same, List.head?_append, hhead, Option.some_or]

theorem ArmedSince.snoc {run : Run} (since : run.ArmedSince events generation)
    (unfired : event ≠ .fire generation)
    (recorded : (run.steps (events ++ [event])).scheduler.timer = some generation) :
    run.ArmedSince (events ++ [event]) generation := by
  obtain ⟨before, request, after, rfl, arms, quiet, stands⟩ := since
  refine ⟨before, request, after ++ [event], by simp, arms, ?_, ?_⟩
  · simpa [quiet] using unfired.symm
  · intro front front_le
    rcases List.prefix_concat_iff.mp front_le with rfl | front_le
    · have last := stands after (List.prefix_refl after)
      rw [steps_append] at recorded
      have next := last.step event recorded
      rwa [← List.cons_append, ← List.append_assoc, steps_append]
    · exact stands front front_le

theorem arms_of_join (h : run.queue.Guarded) (empty : run.scheduler.pending = [])
    {request : Request} (joined : (run.step (.schedule request)).queue =
      run.queue.join (itemFor run.scheduler request)) :
    run.Arms request run.scheduler.generation ∧
      (run.step (.schedule request)).Stands (itemFor run.scheduler request)
        run.scheduler.generation := by
  have alone : (run.step (.schedule request)).queue = ⟨[itemFor run.scheduler request],
      some run.scheduler.generation, run.scheduler.generation,
      run.armed ++ [run.scheduler.generation]⟩ := by
    rw [joined, Queue.join, if_pos (by simp [queue, empty])]
    rfl
  have idle : run.scheduler.timer = none := by
    have htimer := h.timer
    rwa [if_pos (by simp [queue, empty])] at htimer
  have pending := congrArg Queue.pending alone
  exact ⟨⟨empty, idle, rfl, pending, congrArg Queue.armed alone⟩, congrArg Queue.timer alone,
    congrArg List.head? pending⟩

theorem armedSince (config : Config) (first : Counter) (events : List Event)
    (recorded : ((initial config first).steps events).scheduler.timer = some generation) :
    (initial config first).ArmedSince events generation := by
  induction events using List.reverseRecOn with
  | nil => cases recorded
  | append_singleton events event ih =>
    have guarded := guarded_steps config first events
    generalize hnow : (initial config first).steps events = now at guarded ih
    have next : (initial config first).steps (events ++ [event]) = now.step event := by
      rw [steps_append, hnow]
      rfl
    rw [next] at recorded
    have kept (before : now.scheduler.timer = some generation) :
        (initial config first).ArmedSince (events ++ [event]) generation := by
      refine (ih before).snoc ?_ (by rw [next, recorded])
      rintro rfl
      have fired : (now.step (.fire generation)).scheduler.timer = none :=
        congrArg Queue.timer (queue_fire guarded before)
      simp [fired] at recorded
    rcases now.queue_step event with eq | eq | ⟨request, rfl, eq⟩
    · exact kept ((congrArg Queue.timer eq).symm.trans recorded)
    · have none : (now.step event).scheduler.timer = none := congrArg Queue.timer eq
      simp [none] at recorded
    · by_cases empty : now.scheduler.pending = []
      · obtain ⟨arms, stands⟩ := arms_of_join guarded empty eq
        obtain rfl : now.scheduler.generation = generation :=
          Option.some.inj (stands.1.symm.trans recorded)
        refine ⟨events, request, [], rfl, by rwa [hnow], by simp, ?_⟩
        intro front front_le
        obtain rfl := List.prefix_nil.mp front_le
        rw [next, hnow]
        exact stands
      · have same := congrArg Queue.timer eq
        rw [Queue.join, if_neg (by simpa [queue] using empty)] at same
        exact kept (same.symm.trans recorded)

/-! ### How long ago a timer was armed -/

/-- A call armed the timer of a generation when the pending list was empty, and the list has been
taken so often since. -/
def ArmedAgo (run : Run) (events : List Event) (generation : UInt64) (taken : Nat) : Prop :=
  ∃ before request after, events = before ++ .schedule request :: after ∧
    (run.steps before).Arms request generation ∧
    (run.steps (before ++ [.schedule request])).takes after = taken

theorem Arms.queue {request : Request} (arms : run.Arms request generation) :
    (run.step (.schedule request)).queue =
      ⟨[itemFor run.scheduler request], some generation, generation, run.armed ++ [generation]⟩ := by
  obtain rfl := arms.current
  rcases run.queue_step (.schedule request) with eq | eq | ⟨joining, same, eq⟩
  · have same := (congrArg Queue.pending eq).symm.trans arms.alone
    exact absurd (arms.empty.symm.trans same) (by simp)
  · have taken := (congrArg Queue.pending eq).symm.trans arms.alone
    exact absurd taken (by simp [Queue.take])
  · obtain rfl := Event.schedule.inj same
    rw [eq, Queue.join, if_pos (by simp [Run.queue, arms.empty])]
    rfl

theorem steps_snoc_append (run : Run) (before after : List Event) (event : Event) :
    run.steps (before ++ event :: after) = (run.steps (before ++ [event])).steps after := by
  rw [List.append_cons before, steps_append]

namespace ArmedAgo

variable {taken : Nat}

theorem snoc (ago : run.ArmedAgo events generation taken) (event : Event) :
    run.ArmedAgo (events ++ [event]) generation (taken + (run.steps events).takes [event]) := by
  obtain ⟨before, request, after, rfl, arms, rfl⟩ := ago
  refine ⟨before, request, after ++ [event], by simp, arms, ?_⟩
  rw [takes_append, run.steps_snoc_append before after]

theorem le (ago : run.ArmedAgo events generation taken) : taken ≤ run.takes events := by
  obtain ⟨before, request, after, rfl, -, rfl⟩ := ago
  have split := run.takes_append (before ++ [.schedule request]) after
  rw [List.append_assoc, List.singleton_append] at split
  omega

theorem generation_eq (ago : run.ArmedAgo events generation taken) :
    (run.steps events).scheduler.generation = generation + UInt64.ofNat taken := by
  obtain ⟨before, request, after, rfl, arms, rfl⟩ := ago
  have armed : (run.steps (before ++ [.schedule request])).scheduler.generation = generation := by
    rw [steps_append]
    exact congrArg Queue.generation arms.queue
  rw [steps_snoc_append, generation_steps, armed]

theorem recorded (ago : run.ArmedAgo events generation 0) (guarded : run.queue.Guarded) :
    (run.steps events).scheduler.timer = some generation := by
  obtain ⟨before, request, after, rfl, arms, untaken⟩ := ago
  have armed : (run.steps (before ++ [.schedule request])).scheduler.timer = some generation := by
    rw [steps_append]
    exact congrArg Queue.timer arms.queue
  rw [steps_snoc_append]
  exact timer_of_untaken (guarded_of_steps guarded _) armed untaken

/-- The list has been taken, but not so often that the generations have come round. -/
theorem ne (ago : run.ArmedAgo events generation taken) (later : 0 < taken)
    (few : taken < UInt64.size) : generation ≠ (run.steps events).scheduler.generation := by
  rw [ago.generation_eq]
  intro same
  have same' : generation + UInt64.ofNat 0 = generation + UInt64.ofNat taken :=
    (UInt64.add_zero generation).trans same
  have := Counter.number_injective generation (by decide) few same'
  omega

end ArmedAgo

theorem armedAgo_of_mem (config : Config) (first : Counter) (events : List Event)
    (member : generation ∈ ((initial config first).steps events).armed) :
    ∃ taken, (initial config first).ArmedAgo events generation taken := by
  induction events using List.reverseRecOn with
  | nil => cases member
  | append_singleton events event ih =>
    have guarded := guarded_steps config first events
    generalize hnow : (initial config first).steps events = now at guarded ih
    rw [steps_append, hnow] at member
    replace member : generation ∈ (now.step event).queue.armed := member
    have old (before : generation ∈ now.armed) :
        ∃ taken, (initial config first).ArmedAgo (events ++ [event]) generation taken := by
      obtain ⟨taken, ago⟩ := ih before
      exact ⟨_, ago.snoc event⟩
    rcases now.queue_step event with eq | eq | ⟨request, rfl, eq⟩
    · exact old (by rwa [eq] at member)
    · exact old (by rwa [eq] at member)
    · by_cases empty : now.scheduler.pending = []
      · obtain ⟨arms, -⟩ := arms_of_join guarded empty eq
        rw [arms.queue] at member
        rcases List.mem_append.mp member with before | new
        · exact old before
        · rw [List.mem_singleton.mp new]
          exact ⟨0, events, request, [], rfl, by rwa [hnow], rfl⟩
      · rw [eq, Queue.join, if_neg (by simpa [queue] using empty)] at member
        exact old member

/-- A timer that is not recorded was armed for an earlier generation, unless the generations have
come round. -/
theorem lt_of_unrecorded (few : (initial config first).takes events < UInt64.size)
    (member : generation ∈ ((initial config first).steps events).armed)
    (unrecorded : ((initial config first).steps events).scheduler.timer ≠ some generation) :
    generation < ((initial config first).steps events).scheduler.generation := by
  obtain ⟨taken, ago⟩ := armedAgo_of_mem config first events member
  have later : 0 < taken := by
    refine Nat.pos_of_ne_zero ?_
    rintro rfl
    exact unrecorded (ago.recorded (guarded_steps config first []))
  have le := ago.le
  have now := generation_steps_initial config first events
  -- the list has been taken `taken` times fewer when the timer was armed
  have past : generation = UInt64.ofNat ((initial config first).takes events - taken) := by
    have both : generation + UInt64.ofNat taken =
        UInt64.ofNat ((initial config first).takes events - taken) + UInt64.ofNat taken := by
      rw [← ago.generation_eq, now, ← UInt64.ofNat_add, Nat.sub_add_cancel le]
    exact UInt64.add_left_inj _ |>.mp both
  rw [now, past]
  exact (UInt64.ofNat_lt_iff_lt (by omega) few).mpr (by omega)

theorem step_fire_of_unrecorded (few : (initial config first).takes events < UInt64.size)
    (unrecorded : ((initial config first).steps events).scheduler.timer ≠ some generation) :
    ((initial config first).steps events).step (.fire generation) =
      (initial config first).steps events := by
  by_cases member : generation ∈ ((initial config first).steps events).armed
  · exact step_fire_of_ne (UInt64.ne_of_lt (lt_of_unrecorded few member unrecorded))
  · exact if_neg member

theorem nodup_armed (config : Config) (first : Counter) (events : List Event)
    (few : (initial config first).takes events < UInt64.size) :
    ((initial config first).steps events).armed.Nodup := by
  induction events using List.reverseRecOn with
  | nil => exact List.nodup_nil
  | append_singleton events event ih =>
    rw [takes_append] at few
    replace few : (initial config first).takes events < UInt64.size := by omega
    have distinct := ih few
    have guarded := guarded_steps config first events
    rw [steps_append]
    show (((initial config first).steps events).step event).queue.armed.Nodup
    rcases ((initial config first).steps events).queue_step event with eq | eq | ⟨request, rfl, eq⟩
    · rw [eq]
      exact distinct
    · rw [eq]
      exact distinct
    · by_cases empty : ((initial config first).steps events).scheduler.pending = []
      · obtain ⟨arms, -⟩ := arms_of_join guarded empty eq
        rw [arms.queue]
        refine List.nodup_append.mpr ⟨distinct, by simp, ?_⟩
        rintro generation member _ new rfl
        have earlier := lt_of_unrecorded few member (by simp [arms.idle])
        rw [List.mem_singleton.mp new] at earlier
        exact absurd earlier (by simp)
      · rw [eq, Queue.join, if_neg (by simpa [queue] using empty)]
        exact distinct

/-! ### Calls that have left the list -/

theorem accepted_subset_step (run : Run) (event : Event) :
    run.accepted ⊆ (run.step event).accepted := by
  cases event with
  | schedule request =>
    unfold step
    dsimp only
    rw [accepted_apply]
    split
    · exact List.Subset.refl _
    · exact List.subset_append_left _ _
  | _ => rw [(run.step_unscheduled (by simp)).1]; exact List.Subset.refl _

theorem gone_step (h : Settled config run) (accepted : call ∈ run.accepted)
    (gone : call ∉ run.scheduler.pending) (event : Event) :
    call ∉ (run.step event).scheduler.pending := by
  rcases run.queue_step event with eq | eq | ⟨request, -, eq⟩
  · have same : (run.step event).scheduler.pending = run.scheduler.pending :=
      congrArg Queue.pending eq
    rwa [same]
  · have empty : (run.step event).scheduler.pending = [] := congrArg Queue.pending eq
    simp [empty]
  · -- the call that joins has a ticket of its own
    have joined : (run.step event).scheduler.pending =
        run.scheduler.pending ++ [itemFor run.scheduler request] := by
      have hpending := congrArg Queue.pending eq
      rw [Queue.join] at hpending
      split at hpending
      · next empty =>
        have hnil : run.scheduler.pending = [] := by simpa [queue] using empty
        rw [hnil]
        exact hpending
      · exact hpending
    have ticket : call.ticket < run.scheduler.nextTicket :=
      List.mem_range.mp (h.tickets.subset (List.mem_map_of_mem accepted))
    rw [joined, List.mem_append, not_or]
    refine ⟨gone, ?_⟩
    rw [List.mem_singleton]
    rintro rfl
    exact Nat.lt_irrefl _ ticket

theorem gone_steps (h : Settled config run) (accepted : call ∈ run.accepted)
    (gone : call ∉ run.scheduler.pending) (events : List Event) :
    call ∉ (run.steps events).scheduler.pending := by
  induction events generalizing run with
  | nil => exact gone
  | cons event rest ih =>
    exact ih (h.step event) (run.accepted_subset_step event accepted)
      (gone_step h accepted gone event)

theorem accepted_subset_steps (run : Run) (events : List Event) :
    run.accepted ⊆ (run.steps events).accepted := by
  induction events generalizing run with
  | nil => exact List.Subset.refl _
  | cons event rest ih => exact List.Subset.trans (run.accepted_subset_step event) (ih _)

/-- As long as a call is pending its list keeps the timer. -/
theorem timer_of_pending (h : Settled config run) (accepted : call ∈ run.accepted)
    (recorded : run.scheduler.timer = some generation) (there : call ∈ run.scheduler.pending)
    (still : call ∈ (run.steps events).scheduler.pending) :
    (run.steps events).scheduler.timer = some generation := by
  induction events generalizing run with
  | nil => exact recorded
  | cons event rest ih =>
    have stays : call ∈ (run.step event).scheduler.pending := by
      by_contra gone
      exact gone_steps (h.step event) (run.accepted_subset_step event accepted) gone rest still
    refine ih (h.step event) (run.accepted_subset_step event accepted) ?_ stays still
    rcases run.queue_step event with eq | eq | ⟨request, -, eq⟩
    · exact (congrArg Queue.timer eq).trans recorded
    · have empty : (run.step event).scheduler.pending = [] := congrArg Queue.pending eq
      simp [empty] at stays
    · have timer := congrArg Queue.timer eq
      rw [Queue.join, if_neg (by simpa [queue] using List.ne_nil_of_mem there)] at timer
      exact timer.trans recorded

/-- A pending call leaves the list when the recorded timer fires, if it is still there then, and
does not come back. -/
theorem gone_after_fire (h : Settled config run) (guarded : run.queue.Guarded)
    (recorded : run.scheduler.timer = some generation) (there : call ∈ run.scheduler.pending)
    (before after : List Event) :
    call ∉ (run.steps (before ++ .fire generation :: after)).scheduler.pending := by
  have accepted : call ∈ run.accepted := h.mem_accepted_iff.mpr ⟨.pending, there⟩
  have accepted' : call ∈ (run.steps before).accepted := run.accepted_subset_steps before accepted
  have h' : Settled config (run.steps before) := h.steps before
  have fired : call ∉ ((run.steps before).step (.fire generation)).scheduler.pending := by
    by_cases still : call ∈ (run.steps before).scheduler.pending
    · have recorded' := timer_of_pending h accepted recorded there still
      have empty : ((run.steps before).step (.fire generation)).scheduler.pending = [] :=
        congrArg Queue.pending (queue_fire (guarded_of_steps guarded before) recorded')
      simp [empty]
    · exact gone_step h' accepted' still _
  rw [steps_append]
  exact gone_steps (h'.step _) (accepted_subset_step _ _ accepted') fired after

/-- In every run calls are pending just when a timer is recorded.  It is of the present generation,
was armed by the call that has stood first on the list ever since, and has not fired.  A closed
scheduler has neither.  Every timer was armed by some call; as long as the list has not been taken
since, it is the recorded one, and once the list has been taken, fewer than 2⁶⁴ times, it is of
another generation and changes nothing when it fires.  In a run that takes the list fewer than 2⁶⁴
times no two timers are armed for one generation, and any but the recorded one is of an earlier
generation.  When the recorded timer has fired, every call that was pending under it has left the
list for good, for a batch or by the close. -/
theorem timer_stands_for_pending (config : Config) (first : Counter) (events : List Event) :
    let run := (initial config first).steps events
    (run.scheduler.pending ≠ [] ↔ run.scheduler.timer ≠ none) ∧
    (∀ generation, run.scheduler.timer = some generation →
      generation = run.scheduler.generation ∧
        (initial config first).ArmedSince events generation) ∧
    (run.scheduler.closed = true → run.scheduler.pending = [] ∧ run.scheduler.timer = none) ∧
    (∀ generation ∈ run.armed, ∃ taken,
      (initial config first).ArmedAgo events generation taken) ∧
    (∀ generation taken, (initial config first).ArmedAgo events generation taken →
      (taken = 0 → run.scheduler.timer = some generation) ∧
      (0 < taken → taken < UInt64.size →
        generation ≠ run.scheduler.generation ∧ run.step (.fire generation) = run)) ∧
    ((initial config first).takes events < UInt64.size → run.armed.Nodup ∧
      ∀ generation ∈ run.armed, run.scheduler.timer ≠ some generation →
        generation < run.scheduler.generation ∧ run.step (.fire generation) = run) ∧
    (∀ call ∈ run.scheduler.pending, ∃ generation, run.scheduler.timer = some generation ∧
      ∀ before after, let later := run.steps (before ++ .fire generation :: after)
        call ∉ later.scheduler.pending ∧
        ∃ place, place ≠ .pending ∧ call ∈ later.callsAt place) := by
  intro run
  have guarded : run.queue.Guarded := guarded_steps config first events
  have settled : Settled config run := (settled_initial config first).steps events
  have timer : run.scheduler.timer =
      if run.scheduler.pending.isEmpty then none else some run.scheduler.generation := guarded.timer
  refine ⟨?_, ?_, ?_, ?_, ?_, ?_, ?_⟩
  · rw [timer]
    split
    · next empty => simp [List.isEmpty_iff.mp empty]
    · next waiting => simpa using waiting
  · intro generation recorded
    exact ⟨guarded.current recorded, armedSince config first events recorded⟩
  · intro closed
    have empty := settled.closed closed
    exact ⟨empty, by rw [timer, empty]; rfl⟩
  · intro generation member
    exact armedAgo_of_mem config first events member
  · intro generation taken ago
    refine ⟨?_, ?_⟩
    · rintro rfl
      exact ago.recorded (guarded_steps config first [])
    · intro later few
      exact ⟨ago.ne later few, step_fire_of_ne (ago.ne later few)⟩
  · intro few
    refine ⟨nodup_armed config first events few, ?_⟩
    intro generation member unrecorded
    exact ⟨lt_of_unrecorded few member unrecorded, step_fire_of_unrecorded few unrecorded⟩
  · intro call there
    have recorded : run.scheduler.timer = some run.scheduler.generation := by
      rw [timer, if_neg (by simpa using List.ne_nil_of_mem there)]
    refine ⟨_, recorded, fun before after => ?_⟩
    have gone := gone_after_fire settled guarded recorded there before after
    refine ⟨gone, ?_⟩
    have accepted : call ∈ run.accepted := settled.mem_accepted_iff.mpr ⟨.pending, there⟩
    obtain ⟨place, elsewhere⟩ := (settled.steps (before ++ .fire _ :: after)).mem_accepted_iff.mp
      (run.accepted_subset_steps _ accepted)
    refine ⟨place, ?_, elsewhere⟩
    rintro rfl
    exact gone elsewhere

end Run
end NodeCall.Batch
