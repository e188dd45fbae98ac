import NodeCall.Proofs.Batch.Operations

/-!
# One outcome for each call

Every ticket that has been given out either has its outcome or still waits for it, and never
twice: the tickets of the outcomes and of the waiting calls together are the tickets given out,
up to order.
-/

namespace NodeCall.Batch.Run

/-- The tickets that have an outcome and those that wait for one are all tickets given out. -/
def Conserved (run : Run) : Prop :=
  (run.outcomes.map (·.1) ++ run.scheduler.waiting.map (·.ticket)).Perm
    (List.range run.scheduler.nextTicket)

variable {run : Run}

theorem conserved_initial (config : Config) (first : Counter) : Conserved (initial config first) :=
  List.Perm.refl _

theorem Conserved.apply (h : Conserved run) {result : Scheduler × List Effect}
    (waiting : result.1.waiting = run.scheduler.waiting)
    (tickets : result.1.nextTicket = run.scheduler.nextTicket)
    (silent : outcomesOf result.2 = []) : Conserved (run.apply result) := by
  unfold Conserved
  rw [outcomes_apply, scheduler_apply, silent, waiting, tickets, List.append_nil]
  exact h

theorem Conserved.settle (h : Conserved run) {s : Scheduler}
    {outcomes : List (Nat × Outcome Response)} {items : List Item}
    (waiting : run.scheduler.waiting.Perm (items ++ s.waiting))
    (tickets : s.nextTicket = run.scheduler.nextTicket)
    (given : outcomes.map (·.1) = items.map (·.ticket)) :
    Conserved (run.apply (s, Scheduler.settledAll outcomes)) := by
  unfold Conserved
  rw [outcomes_apply, scheduler_apply, outcomesOf_settledAll, tickets, List.map_append, given,
    List.append_assoc, ← List.map_append]
  exact ((waiting.map Item.ticket).symm.append_left _).trans h

theorem Conserved.rejected (h : Conserved run) (error : TransportError) :
    Conserved (run.apply
      (run.scheduler.drawn, [.settled run.scheduler.nextTicket (.error error)])) := by
  unfold Conserved
  rw [outcomes_apply, scheduler_apply, List.map_append, List.append_assoc]
  show (_ ++ ([run.scheduler.nextTicket] ++ run.scheduler.waiting.map _)).Perm
    (List.range (run.scheduler.nextTicket + 1))
  rw [List.range_succ]
  exact (List.perm_append_comm.append_left _).trans
    (by rw [← List.append_assoc]; exact List.Perm.append_right [run.scheduler.nextTicket] h)

theorem Conserved.joined (h : Conserved run) (accepted : List Item) (request : Request) :
    Conserved { run with accepted, scheduler := run.scheduler.joined request } := by
  show (run.outcomes.map _ ++ (liveItems run.scheduler.batches ++
    (run.scheduler.pending ++ [itemFor run.scheduler request])).map Item.ticket).Perm
      (List.range (run.scheduler.nextTicket + 1))
  rw [List.range_succ, ← List.append_assoc, List.map_append, ← List.append_assoc]
  exact List.Perm.append_right [run.scheduler.nextTicket] h

/-! ### Turns and runs -/

theorem Conserved.schedule (h : Conserved run) (request : Request) :
    Conserved (run.step (.schedule request)) := by
  unfold step
  dsimp only
  generalize (if run.scheduler.closed then run.accepted
    else run.accepted ++ [itemFor run.scheduler request]) = accepted
  rcases run.scheduler.schedule_cases request with
    ⟨-, eq⟩ | ⟨-, -, eq⟩ | ⟨-, -, timer, effects, silent, eq⟩ <;> rw [eq]
  · exact h.rejected .shutdown
  · exact (h.joined accepted request).apply (Scheduler.waiting_dispatch _)
      (Scheduler.nextTicket_dispatch _) (Scheduler.outcomesOf_dispatch _)
  · exact (h.joined accepted request).apply rfl rfl silent

theorem Conserved.dispatch (h : Conserved run) : Conserved (run.apply run.scheduler.dispatch) :=
  h.apply (Scheduler.waiting_dispatch _) (Scheduler.nextTicket_dispatch _)
    (Scheduler.outcomesOf_dispatch _)

theorem Conserved.turn (h : Conserved run) (batch : Nat)
    (reply : Option (Outcome (List Response))) : Conserved (run.step (.turn batch reply)) := by
  show Conserved (run.apply (run.scheduler.turn batch reply))
  rcases run.scheduler.turn_cases batch reply with
    eq | ⟨dispatch, there, queued, eq⟩ | ⟨dispatch, outcomes, there, live, given, eq⟩ <;> rw [eq]
  · exact h.apply rfl rfl rfl
  · refine h.apply ?_ rfl rfl
    show liveItems (run.scheduler.batches.modify batch _) ++ _ = _
    rw [liveItems_sending there queued]
    rfl
  · refine h.settle ?_ rfl given
    show (liveItems run.scheduler.batches ++ run.scheduler.pending).Perm
      (dispatch.items ++ (liveItems (run.scheduler.batches.modify batch _) ++ _))
    rw [← List.append_assoc]
    exact (liveItems_over there live).append_right _

theorem Conserved.close (h : Conserved run) : Conserved (run.step .close) := by
  unfold step
  dsimp only
  generalize (if run.scheduler.closed then run.drained
    else run.drained ++ run.scheduler.pending) = drained
  have hrun : Conserved { run with drained } := h
  rcases run.scheduler.close_cases with ⟨-, eq⟩ | ⟨-, eq⟩ <;> rw [eq]
  · exact hrun.apply rfl rfl rfl
  · refine hrun.settle ?_ rfl (tickets_failAll .shutdown run.scheduler.pending)
    show (liveItems run.scheduler.batches ++ run.scheduler.pending).Perm
      (run.scheduler.pending ++ (liveItems run.scheduler.batches ++ []))
    rw [List.append_nil]
    exact List.perm_append_comm

theorem Conserved.step (h : Conserved run) (event : Event) : Conserved (run.step event) := by
  cases event with
  | schedule request => exact h.schedule request
  | flush => exact h.dispatch
  | fire generation =>
    show Conserved
      (if generation ∈ run.armed then run.apply (run.scheduler.fire generation) else run)
    unfold Scheduler.fire
    split
    · split
      · exact h.dispatch
      · exact h.apply rfl rfl rfl
    · exact h
  | close => exact h.close
  | turn batch reply => exact h.turn batch reply
  | leave ticket => exact h

theorem Conserved.steps (h : Conserved run) (events : List Event) :
    Conserved (run.steps events) := by
  induction events generalizing run with
  | nil => exact h
  | cons event rest ih => exact ih (h.step event)

theorem Conserved.nodup (h : Conserved run) : (run.outcomes.map (·.1)).Nodup :=
  (List.nodup_append.mp (h.nodup_iff.mpr List.nodup_range)).1

/-! ### Outcomes stay -/

theorem outcomes_prefix_step (run : Run) (event : Event) :
    run.outcomes <+: (run.step event).outcomes := by
  have key : ∀ (run' : Run) (result : Scheduler × List Effect), run'.outcomes = run.outcomes →
      run.outcomes <+: (run'.apply result).outcomes := by
    intro run' result same
    rw [outcomes_apply, same]
    exact List.prefix_append _ _
  cases event with
  | fire generation =>
    unfold step
    dsimp only
    split
    · exact key run _ rfl
    · exact List.prefix_rfl
  | leave ticket => exact List.prefix_rfl
  | _ => exact key _ _ rfl

theorem outcomes_prefix_steps (run : Run) (events : List Event) :
    run.outcomes <+: (run.steps events).outcomes := by
  induction events generalizing run with
  | nil => exact List.prefix_rfl
  | cons event rest ih => exact (outcomes_prefix_step run event).trans (ih (run.step event))

theorem filter_ticket {outcomes : List (Nat × Outcome Response)}
    (nodup : (outcomes.map (·.1)).Nodup) {ticket : Nat} {outcome : Outcome Response}
    (given : (ticket, outcome) ∈ outcomes) :
    outcomes.filter (fun entry => entry.1 = ticket) = [(ticket, outcome)] := by
  induction outcomes with
  | nil => simp at given
  | cons first rest ih =>
    rw [List.map_cons, List.nodup_cons] at nodup
    rcases List.mem_cons.mp given with rfl | member
    · have hrest : rest.filter (fun entry => entry.1 = ticket) = [] := by
        apply List.filter_eq_nil_iff.mpr
        intro entry hentry hsame
        have hticket : entry.1 = ticket := by simpa using hsame
        have hmember : entry.1 ∈ rest.map (·.1) := List.mem_map_of_mem hentry
        exact nodup.1 (by rwa [hticket] at hmember)
      simp [hrest]
    · have hne : first.1 ≠ ticket := by
        intro hsame
        have hmember : ticket ∈ rest.map (·.1) := List.mem_map_of_mem member
        exact nodup.1 (by rwa [hsame])
      simp [hne, ih nodup.2 member]

theorem Conserved.filter_outcomes (h : Conserved run) {ticket : Nat} {outcome : Outcome Response}
    (given : (ticket, outcome) ∈ run.outcomes) :
    run.outcomes.filter (fun entry => entry.1 = ticket) = [(ticket, outcome)] :=
  filter_ticket h.nodup given

end NodeCall.Batch.Run
