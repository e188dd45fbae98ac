import NodeCall.Proofs.Batch.Accepted
import Mathlib.Data.List.Nodup

/-!
# Where accepted calls are

Every call that a scheduler has accepted is in one place: it is pending, in one batch, or it has
been drained.  Batches and the pending list together hold the calls in the order in which they
came, and no batch is empty or longer than the configuration allows.
-/

namespace NodeCall.Batch

/-- A place where an accepted call can be. -/
inductive Place
  | pending
  /-- The batch of a number, counted in the order of the flushes. -/
  | batch (batch : Nat)
  | drained

namespace Run

/-- The calls at a place. -/
def callsAt (run : Run) : Place → List Item
  | .pending => run.scheduler.pending
  | .batch batch => (run.scheduler.batches[batch]?).elim [] (·.items)
  | .drained => run.drained

/-! ### The invariant -/

/-- The accepted calls are split between batches, pending list and drained calls.  The bound on
the pending list is the one that also holds within a turn. -/
structure Partitioned (config : Config) (run : Run) : Prop where
  size : run.scheduler.size = max config.batchSize 1
  split : run.accepted = run.scheduler.dispatched ++ run.scheduler.pending ++ run.drained
  tickets : (run.accepted.map (·.ticket)).Sublist (List.range run.scheduler.nextTicket)
  batches : ∀ batch ∈ run.scheduler.batches,
    1 ≤ batch.items.length ∧ batch.items.length ≤ run.scheduler.size
  bound : run.scheduler.pending.length ≤ run.scheduler.size
  opened : run.scheduler.closed = false → run.drained = []
  closed : run.scheduler.closed = true → run.scheduler.pending = []

/-- Between turns the pending list is not even full. -/
structure Settled (config : Config) (run : Run) : Prop extends Partitioned config run where
  short : run.scheduler.pending.length < run.scheduler.size

variable {config : Config} {run : Run}

theorem settled_initial (config : Config) (first : Counter) :
    Settled config (initial config first) := by
  refine ⟨⟨rfl, rfl, by simp [initial], ?_, Nat.zero_le _, fun _ => rfl, fun _ => rfl⟩, ?_⟩
  · intro batch member
    simp [initial, Scheduler.new] at member
  · show 0 < max config.batchSize 1
    omega

theorem Partitioned.dispatch (h : Partitioned config run) :
    Settled config (run.apply run.scheduler.dispatch) := by
  refine ⟨⟨?_, ?_, ?_, ?_, ?_, ?_, ?_⟩, ?_⟩
  · simpa using h.size
  · simp only [accepted_apply, scheduler_apply, Scheduler.dispatched_dispatch,
      Scheduler.pending_dispatch, drained_apply, List.append_nil]
    exact h.split
  · simpa using h.tickets
  · intro batch member
    simp only [scheduler_apply, Scheduler.batches_dispatch, Scheduler.size_dispatch] at member ⊢
    split at member
    · exact h.batches batch member
    · next hne =>
      rcases List.mem_append.mp member with old | new
      · exact h.batches batch old
      · obtain rfl : batch = ⟨run.scheduler.pending, .queued⟩ := by simpa using new
        have hpos : run.scheduler.pending.length ≠ 0 := by
          simpa [List.isEmpty_iff] using hne
        exact ⟨by show 1 ≤ run.scheduler.pending.length; omega, h.bound⟩
  · simp
  · simpa using h.opened
  · simp
  · have hsize := h.size
    simp only [scheduler_apply, Scheduler.pending_dispatch, Scheduler.size_dispatch,
      List.length_nil, hsize]
    omega

/-- What only gives out tickets or changes a timer moves no call. -/
theorem Partitioned.kept (h : Partitioned config run) (scheduler : Scheduler)
    (effects : List Effect) (size : scheduler.size = run.scheduler.size)
    (batches : scheduler.batches = run.scheduler.batches)
    (pending : scheduler.pending = run.scheduler.pending)
    (closed : scheduler.closed = run.scheduler.closed)
    (tickets : run.scheduler.nextTicket ≤ scheduler.nextTicket) :
    Partitioned config (run.apply (scheduler, effects)) := by
  have dispatched : scheduler.dispatched = run.scheduler.dispatched := by
    simp only [Scheduler.dispatched, batches]
  refine ⟨?_, ?_, ?_, ?_, ?_, ?_, ?_⟩
  all_goals
    simp only [scheduler_apply, accepted_apply, drained_apply, size, batches, pending, closed,
      dispatched]
  · exact h.size
  · exact h.split
  · exact h.tickets.trans (List.range_sublist.mpr tickets)
  · exact h.batches
  · exact h.bound
  · exact h.opened
  · exact h.closed

theorem Settled.rejected (h : Settled config run) (effects : List Effect) :
    Settled config (run.apply (run.scheduler.drawn, effects)) := by
  refine ⟨h.toPartitioned.kept run.scheduler.drawn effects rfl rfl rfl rfl (Nat.le_succ _), ?_⟩
  rw [scheduler_apply]
  exact h.short

theorem Settled.joined (h : Settled config run) (opened : run.scheduler.closed = false)
    (request : Request) :
    Partitioned config { run with
      accepted := run.accepted ++ [itemFor run.scheduler request]
      scheduler := run.scheduler.joined request } := by
  have hdrained := h.opened opened
  refine ⟨h.size, ?_, ?_, h.batches, ?_, fun _ => hdrained, ?_⟩
  · show run.accepted ++ _ = run.scheduler.dispatched ++ (run.scheduler.pending ++ _) ++ run.drained
    rw [h.split, hdrained, List.append_nil, List.append_nil, List.append_assoc]
  · show ((run.accepted ++ _).map (·.ticket)).Sublist (List.range (run.scheduler.nextTicket + 1))
    rw [List.map_append, List.range_succ]
    exact h.tickets.append (List.Sublist.refl _)
  · have hshort := h.short
    show (run.scheduler.pending ++ _).length ≤ run.scheduler.size
    rw [List.length_append, List.length_singleton]
    omega
  · intro hclosed
    exact absurd (opened.symm.trans hclosed) (by decide)

theorem Partitioned.waits (h : Partitioned config run) (timer : Option UInt64) (effects : List Effect)
    (short : run.scheduler.pending.length < run.scheduler.size) :
    Settled config (run.apply ({ run.scheduler with timer }, effects)) := by
  refine ⟨h.kept { run.scheduler with timer } effects rfl rfl rfl rfl (Nat.le_refl _), ?_⟩
  rw [scheduler_apply]
  exact short

theorem Settled.withStage (h : Settled config run) (batch : Nat) (stage : Stage)
    (effects : List Effect) :
    Settled config (run.apply (run.scheduler.withStage batch stage, effects)) := by
  refine ⟨⟨?_, ?_, ?_, ?_, ?_, ?_, ?_⟩, ?_⟩
  all_goals
    simp only [scheduler_apply, accepted_apply, drained_apply, Scheduler.dispatched_withStage]
  · exact h.size
  · exact h.split
  · exact h.tickets
  · intro changed member
    obtain ⟨old, hold, hitems⟩ := Scheduler.exists_of_mem_withStage member
    rw [← hitems]
    exact h.batches old hold
  · exact h.bound
  · exact h.opened
  · exact h.closed
  · exact h.short

theorem Settled.close (h : Settled config run) (opened : run.scheduler.closed = false)
    (effects : List Effect) :
    Settled config ({ run with drained := run.drained ++ run.scheduler.pending }.apply
      ({ run.scheduler with closed := true, pending := [], timer := none,
                            generation := run.scheduler.generation + 1 }, effects)) := by
  have hdrained := h.opened opened
  have hshort := h.short
  refine ⟨⟨?_, ?_, ?_, ?_, ?_, ?_, ?_⟩, ?_⟩
  all_goals simp only [scheduler_apply, accepted_apply, drained_apply]
  · exact h.size
  · show run.accepted = run.scheduler.dispatched ++ [] ++ (run.drained ++ run.scheduler.pending)
    rw [h.split, hdrained, List.append_nil, List.append_nil, List.nil_append]
  · exact h.tickets
  · exact h.batches
  · exact Nat.zero_le _
  · exact fun hfalse => absurd hfalse (by decide)
  · exact fun _ => trivial
  · show 0 < run.scheduler.size
    omega

/-! ### Turns and runs -/

theorem Settled.schedule (h : Settled config run) (request : Request) :
    Settled config (run.step (.schedule request)) := by
  rcases run.scheduler.schedule_cases request with
    ⟨closed, eq⟩ | ⟨opened, -, eq⟩ | ⟨opened, short, timer, effects, -, eq⟩
  · have hstep : run.step (.schedule request) = run.apply (run.scheduler.schedule request) := by
      simp only [step, closed, if_true]
    rw [hstep, eq]
    exact h.rejected _
  all_goals
    have hstep : run.step (.schedule request) =
        { run with
          accepted := run.accepted ++ [itemFor run.scheduler request]
          scheduler := run.scheduler.joined request }.apply (run.scheduler.schedule request) := by
      simp only [step, opened, Bool.false_eq_true, if_false]
      rfl
    rw [hstep, eq]
  · exact (h.joined opened request).dispatch
  · refine (h.joined opened request).waits timer effects ?_
    show (run.scheduler.pending ++ _).length < run.scheduler.size
    simpa using short

theorem Settled.turn (h : Settled config run) (batch : Nat)
    (reply : Option (Outcome (List Response))) : Settled config (run.step (.turn batch reply)) := by
  show Settled config (run.apply (run.scheduler.turn batch reply))
  rcases run.scheduler.turn_cases batch reply with
    eq | ⟨dispatch, -, -, eq⟩ | ⟨dispatch, outcomes, -, -, -, eq⟩ <;> rw [eq]
  · exact h.toPartitioned.waits run.scheduler.timer [] h.short
  · exact h.withStage batch .sending _
  · exact h.withStage batch .over _

theorem Settled.closing (h : Settled config run) : Settled config (run.step .close) := by
  rcases run.scheduler.close_cases with ⟨closed, eq⟩ | ⟨opened, eq⟩
  · have hstep : run.step .close = run.apply run.scheduler.close := by
      simp only [step, closed, if_true]
    rw [hstep, eq]
    exact h.toPartitioned.waits run.scheduler.timer [] h.short
  · have hstep : run.step .close =
        { run with drained := run.drained ++ run.scheduler.pending }.apply run.scheduler.close := by
      simp only [step, opened, Bool.false_eq_true, if_false]
    rw [hstep, eq]
    exact h.close opened _

/-- No turn loses or doubles a call. -/
theorem Settled.step (h : Settled config run) (event : Event) :
    Settled config (run.step event) := by
  cases event with
  | schedule request => exact h.schedule request
  | flush => exact h.toPartitioned.dispatch
  | fire generation =>
    show Settled config
      (if generation ∈ run.armed then run.apply (run.scheduler.fire generation) else run)
    split
    · unfold Scheduler.fire
      split
      · exact h.toPartitioned.dispatch
      · exact h.toPartitioned.waits run.scheduler.timer [] h.short
    · exact h
  | close => exact h.closing
  | turn batch reply => exact h.turn batch reply
  | leave ticket =>
    exact ⟨⟨h.size, h.split, h.tickets, h.batches, h.bound, h.opened, h.closed⟩, h.short⟩

theorem Settled.steps (h : Settled config run) (events : List Event) :
    Settled config (run.steps events) := by
  induction events generalizing run with
  | nil => exact h
  | cons event rest ih => exact ih (h.step event)

/-! ### Exactly one place -/

theorem callsAt_batch {run : Run} {batch : Nat} {call : Item}
    (there : call ∈ run.callsAt (.batch batch)) :
    ∃ dispatch, run.scheduler.batches[batch]? = some dispatch ∧ call ∈ dispatch.items := by
  simp only [callsAt] at there
  cases hbatch : run.scheduler.batches[batch]? with
  | none => simp [hbatch] at there
  | some dispatch => exact ⟨dispatch, rfl, by simpa [hbatch] using there⟩

theorem mem_dispatched_iff {run : Run} {call : Item} :
    call ∈ run.scheduler.dispatched ↔ ∃ batch, call ∈ run.callsAt (.batch batch) := by
  simp only [Scheduler.dispatched, List.mem_flatMap]
  constructor
  · rintro ⟨dispatch, member, there⟩
    obtain ⟨batch, hbatch⟩ := List.mem_iff_getElem?.mp member
    exact ⟨batch, by simpa [callsAt, hbatch] using there⟩
  · rintro ⟨batch, there⟩
    obtain ⟨dispatch, hbatch, hcall⟩ := callsAt_batch there
    exact ⟨dispatch, List.mem_of_getElem? hbatch, hcall⟩

theorem Settled.mem_accepted_iff (h : Settled config run) {call : Item} :
    call ∈ run.accepted ↔ ∃ place, call ∈ run.callsAt place := by
  rw [h.split, List.mem_append, List.mem_append, mem_dispatched_iff]
  constructor
  · rintro ((⟨batch, there⟩ | there) | there)
    · exact ⟨.batch batch, there⟩
    · exact ⟨.pending, there⟩
    · exact ⟨.drained, there⟩
  · rintro ⟨place, there⟩
    cases place with
    | pending => exact .inl (.inr there)
    | batch batch => exact .inl (.inl ⟨batch, there⟩)
    | drained => exact .inr there

theorem Settled.nodup_tickets (h : Settled config run) : (run.accepted.map (·.ticket)).Nodup :=
  h.tickets.nodup List.nodup_range

theorem Settled.batch_eq (h : Settled config run) {first second : Nat} {call other : Item}
    (there : call ∈ run.callsAt (.batch first)) (elsewhere : other ∈ run.callsAt (.batch second))
    (same : call.ticket = other.ticket) : first = second := by
  obtain ⟨dispatch, hfirst, hcall⟩ := callsAt_batch there
  obtain ⟨dispatch', hsecond, hother⟩ := callsAt_batch elsewhere
  have hnodup : ((run.scheduler.batches.flatMap (·.items)).map (·.ticket)).Nodup := by
    have haccepted := h.nodup_tickets
    rw [h.split, List.append_assoc, List.map_append] at haccepted
    exact (List.nodup_append.mp haccepted).1
  rw [List.map_flatMap, List.nodup_flatMap, List.pairwise_iff_getElem] at hnodup
  obtain ⟨hlt, rfl⟩ := List.getElem?_eq_some_iff.mp hfirst
  obtain ⟨hlt', rfl⟩ := List.getElem?_eq_some_iff.mp hsecond
  have hticket := List.mem_map_of_mem (f := (·.ticket)) hcall
  have hticket' := List.mem_map_of_mem (f := (·.ticket)) hother
  rw [← same] at hticket'
  rcases Nat.lt_trichotomy first second with hless | heq | hless
  · exact absurd hticket' (hnodup.2 first second hlt hlt' hless hticket)
  · exact heq
  · exact absurd hticket (hnodup.2 second first hlt' hlt hless hticket')

theorem Settled.place_eq (h : Settled config run) {place place' : Place} {call : Item}
    (there : call ∈ run.callsAt place) (elsewhere : call ∈ run.callsAt place') :
    place = place' := by
  have haccepted := h.nodup_tickets
  rw [h.split, List.map_append, List.map_append, List.nodup_append] at haccepted
  obtain ⟨hsent, -, hdrained⟩ := haccepted
  have hpending := (List.nodup_append.mp hsent).2.2
  have ticket {items : List Item} (member : call ∈ items) : call.ticket ∈ items.map (·.ticket) :=
    List.mem_map_of_mem member
  have sent {batch : Nat} (member : call ∈ run.callsAt (.batch batch)) :
      call.ticket ∈ run.scheduler.dispatched.map (·.ticket) :=
    ticket (mem_dispatched_iff.mpr ⟨batch, member⟩)
  have pending_of_sent {batch : Nat} (member : call ∈ run.callsAt (.batch batch)) :
      call ∉ run.callsAt .pending :=
    fun waiting => hpending _ (sent member) _ (ticket waiting) rfl
  have drained_of_sent {batch : Nat} (member : call ∈ run.callsAt (.batch batch)) :
      call ∉ run.callsAt .drained :=
    fun drained => hdrained _ (List.mem_append_left _ (sent member)) _ (ticket drained) rfl
  have drained_of_pending (waiting : call ∈ run.callsAt .pending) : call ∉ run.callsAt .drained :=
    fun drained => hdrained _ (List.mem_append_right _ (ticket waiting)) _ (ticket drained) rfl
  cases place with
  | pending =>
    cases place' with
    | pending => rfl
    | batch batch => exact absurd there (pending_of_sent elsewhere)
    | drained => exact absurd elsewhere (drained_of_pending there)
  | batch batch =>
    cases place' with
    | pending => exact absurd elsewhere (pending_of_sent there)
    | batch batch' => rw [h.batch_eq there elsewhere rfl]
    | drained => exact absurd elsewhere (drained_of_sent there)
  | drained =>
    cases place' with
    | pending => exact absurd there (drained_of_pending elsewhere)
    | batch batch' => exact absurd there (drained_of_sent elsewhere)
    | drained => rfl

theorem Settled.undrained (h : Settled config run) :
    run.accepted.filter (fun call => call.ticket ∉ run.drained.map (·.ticket)) =
      run.scheduler.dispatched ++ run.scheduler.pending := by
  have haccepted := h.nodup_tickets
  rw [h.split, List.map_append, List.nodup_append] at haccepted
  have hkept : (run.scheduler.dispatched ++ run.scheduler.pending).filter
      (fun call => call.ticket ∉ run.drained.map (·.ticket)) =
        run.scheduler.dispatched ++ run.scheduler.pending := by
    apply List.filter_eq_self.mpr
    intro call member
    have hdisjoint := haccepted.2.2 call.ticket (List.mem_map_of_mem member)
    simpa using fun other hother same =>
      hdisjoint other.ticket (List.mem_map_of_mem hother) same.symm
  have hgone : run.drained.filter (fun call => call.ticket ∉ run.drained.map (·.ticket)) = [] := by
    apply List.filter_eq_nil_iff.mpr
    intro call member
    simpa using ⟨call, member, rfl⟩
  rw [h.split, List.filter_append, hkept, hgone, List.append_nil]

/-- In every run the accepted calls are the requests that came before the close, each of them is
in exactly one place, batches and pending list hold those that were not drained in the order in
which they came, no batch is empty or too long, and the pending list is never full. -/
theorem accepted_in_one_place (config : Config) (first : Counter) (events : List Event) :
    let run := (initial config first).steps events
    run.accepted = (requests events).mapIdx (.of first) ∧
    (run.accepted.map (·.ticket)).Nodup ∧
    (∀ call, call ∈ run.accepted ↔ ∃ place, call ∈ run.callsAt place) ∧
    (∀ call ∈ run.accepted, ∃! place, call ∈ run.callsAt place) ∧
    run.scheduler.batches.flatMap (·.items) ++ run.scheduler.pending =
      run.accepted.filter (fun call => call.ticket ∉ run.drained.map (·.ticket)) ∧
    (∀ batch ∈ run.scheduler.batches,
      1 ≤ batch.items.length ∧ batch.items.length ≤ max config.batchSize 1) ∧
    run.scheduler.pending.length < max config.batchSize 1 := by
  intro run
  have h : Settled config run := (settled_initial config first).steps events
  refine ⟨accepted_steps config first events, h.nodup_tickets, fun call => h.mem_accepted_iff, ?_,
    h.undrained.symm, ?_, ?_⟩
  · intro call member
    obtain ⟨place, there⟩ := h.mem_accepted_iff.mp member
    exact ⟨place, there, fun place' elsewhere => h.place_eq elsewhere there⟩
  · have hbatches := h.batches
    rwa [h.size] at hbatches
  · have hshort := h.short
    rwa [h.size] at hshort

end Run
end NodeCall.Batch
