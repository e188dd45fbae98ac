import NodeCall.Proofs.Batch.Pairing

/-!
# What replies hold for the items of a scheduler

The operations of a scheduler keep its items and may add some.  A call is told that all is over, or
it is given what the reply to its batch holds for its item.
-/

namespace NodeCall.Batch

/-- What a reply holds for one item: an element under its number, which is handed on under the id of
the caller, or an error. -/
inductive Holds (item : Item) : Outcome (List Response) → Outcome Response → Prop
  | element {responses : List Response} {answer : Response} (member : answer ∈ responses)
      (own : answer.id = item.request.id) :
      Holds item (.ok responses) (.ok (answer.withId item.callerId))
  | missing (responses : List Response) :
      Holds item (.ok responses) (.error (.missingResponse item.callerId))
  | failed (e : TransportError) : Holds item (.error e) (.error e)

theorem holds_of_mem_pair {items : List Item} {responses : List Response} {ticket : Nat}
    {outcome : Outcome Response} (member : (ticket, outcome) ∈ pair responses items) :
    ∃ item ∈ items, item.ticket = ticket ∧ Holds item (.ok responses) outcome := by
  induction items generalizing responses with
  | nil => cases member
  | cons first rest ih =>
    unfold pair at member
    split at member
    · next answer hlast =>
      obtain ⟨before, after, eq, own, -⟩ := lastWithId_eq_some hlast
      rcases List.mem_cons.mp member with now | later
      · cases now
        exact ⟨first, List.mem_cons_self, rfl, .element (by simp [eq]) own⟩
      · obtain ⟨item, among, same, holds⟩ := ih later
        refine ⟨item, List.mem_cons_of_mem _ among, same, ?_⟩
        cases holds with
        | element answered own => exact .element (List.mem_of_mem_filter answered) own
        | missing => exact .missing responses
    · rcases List.mem_cons.mp member with now | later
      · cases now
        exact ⟨first, List.mem_cons_self, rfl, .missing responses⟩
      · obtain ⟨item, among, same, holds⟩ := ih later
        exact ⟨item, List.mem_cons_of_mem _ among, same, holds⟩

theorem mem_failAll {items : List Item} {e : TransportError} {ticket : Nat}
    {outcome : Outcome Response} (member : (ticket, outcome) ∈ failAll e items) :
    ∃ item ∈ items, item.ticket = ticket ∧ outcome = .error e := by
  obtain ⟨item, among, eq⟩ := List.mem_map.mp member
  cases eq
  exact ⟨item, among, rfl, rfl⟩

theorem holds_of_mem_settle {items : List Item} {reply : Outcome (List Response)} {ticket : Nat}
    {outcome : Outcome Response} (member : (ticket, outcome) ∈ settle reply items) :
    ∃ item ∈ items, item.ticket = ticket ∧ Holds item reply outcome := by
  cases reply with
  | ok responses => exact holds_of_mem_pair member
  | error e =>
    obtain ⟨item, among, same, rfl⟩ := mem_failAll member
    exact ⟨item, among, same, .failed e⟩

namespace Scheduler

/-- The items of all calls that have been accepted and were not told when the scheduler closed. -/
def items (s : Scheduler) : List Item := s.dispatched ++ s.pending

@[simp] theorem items_dispatch (s : Scheduler) : s.dispatch.1.items = s.items := by
  rw [items, dispatched_dispatch, pending_dispatch, List.append_nil, items]

@[simp] theorem items_withStage (s : Scheduler) (batch : Nat) (stage : Stage) :
    (s.withStage batch stage).items = s.items := by
  rw [items, dispatched_withStage]
  rfl

theorem items_joined (s : Scheduler) (request : Request) :
    (s.joined request).items = s.items ++ [Run.itemFor s request] :=
  (List.append_assoc s.dispatched s.pending [Run.itemFor s request]).symm

/-- What an operation does to the items of a scheduler: it may add these ones. -/
structure Adds (added : List Item) (s s' : Scheduler) : Prop where
  items : s'.items ⊆ s.items ++ added
  nextTicket : s.nextTicket ≤ s'.nextTicket

namespace Adds

theorem same (s : Scheduler) {s' : Scheduler} (items : s'.items = s.items)
    (nextTicket : s'.nextTicket = s.nextTicket) : Adds [] s s' :=
  ⟨by simp [items], Nat.le_of_eq nextTicket.symm⟩

theorem dispatch (s : Scheduler) : Adds [] s s.dispatch.1 :=
  same s s.items_dispatch s.nextTicket_dispatch

theorem fire (s : Scheduler) (generation : UInt64) : Adds [] s (s.fire generation).1 := by
  unfold Scheduler.fire
  split
  · exact dispatch s
  · exact same s rfl rfl

theorem schedule (s : Scheduler) (request : Request) :
    Adds [Run.itemFor s request] s (s.schedule request).1 ∧
      s.nextTicket < (s.schedule request).1.nextTicket := by
  have next : (s.joined request).nextTicket = s.nextTicket + 1 := rfl
  rcases s.schedule_cases request with ⟨-, eq⟩ | ⟨-, -, eq⟩ | ⟨-, -, timer, effects, -, eq⟩ <;>
    rw [eq]
  · exact ⟨⟨List.subset_append_left _ _, Nat.le_succ _⟩, Nat.lt_succ_self _⟩
  · exact ⟨⟨by simp [items_joined], by simp [next]⟩, by simp [next]⟩
  · exact ⟨⟨s.items_joined request ▸ List.Subset.refl _, Nat.le_succ _⟩, Nat.lt_succ_self _⟩

theorem close (s : Scheduler) : Adds [] s s.close.1 := by
  rcases s.close_cases with ⟨-, eq⟩ | ⟨-, eq⟩ <;> rw [eq]
  · exact same s rfl rfl
  · refine ⟨fun item member => ?_, Nat.le_refl _⟩
    rw [Scheduler.items, List.append_nil] at member
    exact List.mem_append_left _ (List.mem_append_left _ member)

theorem turn (s : Scheduler) (batch : Nat) (reply : Option (Outcome (List Response))) :
    Adds [] s (s.turn batch reply).1 := by
  rcases s.turn_cases batch reply with eq | ⟨_, -, -, eq⟩ | ⟨_, _, -, -, -, eq⟩ <;> rw [eq]
  · exact same s rfl rfl
  · exact same s (s.items_withStage batch .sending) rfl
  · exact same s (s.items_withStage batch .over) rfl

end Adds

/-- A scheduler whose operations end no call otherwise than by telling it that all is over. -/
def OnlyShuts (effects : List Effect) : Prop :=
  ∀ ticket outcome, (ticket, outcome) ∈ outcomesOf effects → outcome = .error .shutdown

namespace OnlyShuts

theorem of_silent {effects : List Effect} (silent : outcomesOf effects = []) :
    OnlyShuts effects := by
  intro ticket outcome member
  rw [silent] at member
  cases member

theorem fire (s : Scheduler) (generation : UInt64) : OnlyShuts (s.fire generation).2 := by
  unfold Scheduler.fire
  split
  · exact of_silent s.outcomesOf_dispatch
  · exact of_silent rfl

theorem schedule (s : Scheduler) (request : Request) : OnlyShuts (s.schedule request).2 := by
  rcases s.schedule_cases request with ⟨-, eq⟩ | ⟨-, -, eq⟩ | ⟨-, -, timer, effects, silent, eq⟩ <;>
    rw [eq]
  · intro ticket outcome member
    cases List.mem_singleton.mp member
    rfl
  · exact of_silent (outcomesOf_dispatch _)
  · exact of_silent silent

theorem close (s : Scheduler) : OnlyShuts s.close.2 := by
  rcases s.close_cases with ⟨-, eq⟩ | ⟨-, eq⟩ <;> rw [eq]
  · exact of_silent rfl
  · intro ticket outcome member
    rw [outcomesOf_settledAll] at member
    obtain ⟨-, -, -, eq⟩ := mem_failAll member
    exact eq

end OnlyShuts

/-- What the turn of a batch gives to a call is what the reply holds for its item. -/
theorem settled_of_turn {s : Scheduler} {batch ticket : Nat}
    {reply : Option (Outcome (List Response))} {outcome : Outcome Response}
    (settled : (ticket, outcome) ∈ outcomesOf (s.turn batch reply).2) :
    outcome = .error .shutdown ∨ ∃ taken dispatch item, reply = some taken ∧
      s.batches[batch]? = some dispatch ∧ item ∈ dispatch.items ∧ item.ticket = ticket ∧
      Holds item taken outcome := by
  unfold turn at settled
  split at settled
  · cases settled
  · next dispatch there =>
    have shuts (member : (ticket, outcome) ∈ outcomesOf
        (settledAll (failAll .shutdown dispatch.items))) : outcome = .error .shutdown := by
      rw [outcomesOf_settledAll] at member
      obtain ⟨-, -, -, eq⟩ := mem_failAll member
      exact eq
    split at settled
    · cases settled
    · split at settled
      · exact .inl (shuts settled)
      · cases settled
    · split at settled
      · exact .inl (shuts settled)
      · split at settled
        · cases settled
        · next taken =>
          rw [outcomesOf_settledAll] at settled
          obtain ⟨item, among, same, holds⟩ := holds_of_mem_settle settled
          exact .inr ⟨taken, dispatch, item, rfl, there, among, same, holds⟩

end Scheduler

end NodeCall.Batch
