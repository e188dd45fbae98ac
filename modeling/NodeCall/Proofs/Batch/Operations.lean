import NodeCall.Batch.Scheduler

/-!
# What the operations of a batch scheduler do

One lemma for each operation and each thing that is looked at: the items that have been
dispatched, those that are pending, and the outcomes that an operation brings about.  Later
modules use these lemmas and do not open the operations again.
-/

namespace NodeCall.Batch

/-! ### Recorded effects -/

/-- The outcome that an effect gives to a call. -/
def Effect.outcome? : Effect → Option (Nat × Outcome Response)
  | .settled ticket outcome => some (ticket, outcome)
  | _ => none

/-- The outcomes among effects. -/
def outcomesOf (effects : List Effect) : List (Nat × Outcome Response) :=
  effects.filterMap Effect.outcome?

theorem outcomesOf_settledAll (outcomes : List (Nat × Outcome Response)) :
    outcomesOf (Scheduler.settledAll outcomes) = outcomes := by
  induction outcomes with
  | nil => rfl
  | cons outcome rest ih =>
    simp only [outcomesOf, Scheduler.settledAll, List.map_cons, List.filterMap_cons] at ih ⊢
    simp only [Effect.outcome?, ih]

/-- The generation for which an effect arms a timer. -/
def Effect.generation? : Effect → Option UInt64
  | .armed generation => some generation
  | _ => none

/-- The batch that an effect hands to the sender. -/
def Effect.batch? : Effect → Option Nat
  | .sent batch _ => some batch
  | _ => none

theorem generations_settledAll (outcomes : List (Nat × Outcome Response)) :
    (Scheduler.settledAll outcomes).filterMap Effect.generation? = [] := by
  simp [Scheduler.settledAll, List.filterMap_map, Function.comp_def, Effect.generation?]

theorem batches_settledAll (outcomes : List (Nat × Outcome Response)) :
    (Scheduler.settledAll outcomes).filterMap Effect.batch? = [] := by
  simp [Scheduler.settledAll, List.filterMap_map, Function.comp_def, Effect.batch?]

namespace Run

theorem scheduler_note (run : Run) (effect : Effect) :
    (run.note effect).scheduler = run.scheduler := by
  cases effect <;> rfl

theorem accepted_note (run : Run) (effect : Effect) :
    (run.note effect).accepted = run.accepted := by
  cases effect <;> rfl

theorem drained_note (run : Run) (effect : Effect) :
    (run.note effect).drained = run.drained := by
  cases effect <;> rfl

theorem outcomes_note (run : Run) (effect : Effect) :
    (run.note effect).outcomes = run.outcomes ++ outcomesOf [effect] := by
  cases effect <;> simp [note, outcomesOf, Effect.outcome?]

theorem foldl_note (run : Run) (effects : List Effect) :
    (effects.foldl note run).scheduler = run.scheduler ∧
      (effects.foldl note run).accepted = run.accepted ∧
      (effects.foldl note run).drained = run.drained ∧
      (effects.foldl note run).outcomes = run.outcomes ++ outcomesOf effects := by
  induction effects generalizing run with
  | nil => simp [outcomesOf]
  | cons effect rest ih =>
    obtain ⟨hs, ha, hd, ho⟩ := ih (run.note effect)
    have hcons : outcomesOf (effect :: rest) = outcomesOf [effect] ++ outcomesOf rest := by
      simp only [outcomesOf, ← List.filterMap_append, List.singleton_append]
    rw [List.foldl_cons, hs, ha, hd, ho, scheduler_note, accepted_note, drained_note,
      outcomes_note, hcons, List.append_assoc]
    exact ⟨rfl, rfl, rfl, rfl⟩

theorem foldl_note_timers (run : Run) (effects : List Effect) :
    (effects.foldl note run).armed = run.armed ++ effects.filterMap Effect.generation? ∧
      (effects.foldl note run).sent = run.sent ++ effects.filterMap Effect.batch? := by
  induction effects generalizing run with
  | nil => simp
  | cons effect rest ih =>
    obtain ⟨harmed, hsent⟩ := ih (run.note effect)
    rw [List.foldl_cons, harmed, hsent]
    cases effect <;> simp [note, List.filterMap_cons, Effect.generation?, Effect.batch?]

variable (run : Run) (result : Scheduler × List Effect)

@[simp] theorem scheduler_apply : (run.apply result).scheduler = result.1 :=
  (foldl_note { run with scheduler := result.1 } result.2).1

@[simp] theorem accepted_apply : (run.apply result).accepted = run.accepted :=
  (foldl_note { run with scheduler := result.1 } result.2).2.1

@[simp] theorem drained_apply : (run.apply result).drained = run.drained :=
  (foldl_note { run with scheduler := result.1 } result.2).2.2.1

@[simp] theorem outcomes_apply :
    (run.apply result).outcomes = run.outcomes ++ outcomesOf result.2 :=
  (foldl_note { run with scheduler := result.1 } result.2).2.2.2

@[simp] theorem armed_apply :
    (run.apply result).armed = run.armed ++ result.2.filterMap Effect.generation? :=
  (foldl_note_timers { run with scheduler := result.1 } result.2).1

@[simp] theorem sent_apply :
    (run.apply result).sent = run.sent ++ result.2.filterMap Effect.batch? :=
  (foldl_note_timers { run with scheduler := result.1 } result.2).2

theorem steps_append (before after : List Event) :
    run.steps (before ++ after) = (run.steps before).steps after :=
  List.foldl_append

end Run

/-! ### Taking the pending list -/

/-- The items of the batches whose tasks are not over. -/
def liveItems (batches : List Dispatch) : List Item :=
  (batches.filter fun batch => batch.stage ≠ .over).flatMap (·.items)

namespace Scheduler

/-- The items of all batches in the order of their flushes. -/
def dispatched (s : Scheduler) : List Item := s.batches.flatMap (·.items)

/-- The items whose calls have no outcome yet. -/
def waiting (s : Scheduler) : List Item := liveItems s.batches ++ s.pending

variable (s : Scheduler)

@[simp] theorem size_dispatch : s.dispatch.1.size = s.size := by
  unfold dispatch; dsimp only; split <;> rfl

@[simp] theorem nextTicket_dispatch : s.dispatch.1.nextTicket = s.nextTicket := by
  unfold dispatch; dsimp only; split <;> rfl

@[simp] theorem counter_dispatch : s.dispatch.1.counter = s.counter := by
  unfold dispatch; dsimp only; split <;> rfl

@[simp] theorem closed_dispatch : s.dispatch.1.closed = s.closed := by
  unfold dispatch; dsimp only; split <;> rfl

@[simp] theorem pending_dispatch : s.dispatch.1.pending = [] := by
  unfold dispatch; dsimp only; split <;> rfl

@[simp] theorem outcomesOf_dispatch : outcomesOf s.dispatch.2 = [] := by
  unfold dispatch; dsimp only; split <;> rfl

@[simp] theorem timer_dispatch : s.dispatch.1.timer = none := by
  unfold dispatch; dsimp only; split <;> rfl

@[simp] theorem generation_dispatch : s.dispatch.1.generation = s.generation + 1 := by
  unfold dispatch; dsimp only; split <;> rfl

@[simp] theorem generations_dispatch : s.dispatch.2.filterMap Effect.generation? = [] := by
  unfold dispatch; dsimp only; split <;> rfl

@[simp] theorem sent_dispatch : s.dispatch.2.filterMap Effect.batch? = [] := by
  unfold dispatch; dsimp only; split <;> rfl

theorem batches_dispatch : s.dispatch.1.batches =
    if s.pending.isEmpty then s.batches else s.batches ++ [⟨s.pending, .queued⟩] := by
  unfold dispatch; dsimp only; split <;> rfl

theorem dispatched_dispatch : s.dispatch.1.dispatched = s.dispatched ++ s.pending := by
  rw [dispatched, batches_dispatch]
  split
  · next h => simp [dispatched, List.isEmpty_iff.mp h]
  · simp [dispatched]

theorem waiting_dispatch : s.dispatch.1.waiting = s.waiting := by
  rw [waiting, batches_dispatch, pending_dispatch]
  split
  · next h => simp [waiting, List.isEmpty_iff.mp h]
  · simp [waiting, liveItems]

end Scheduler

/-! ### Stages of batches -/

theorem flatMap_items_modify (batches : List Dispatch) (batch : Nat) (stage : Stage) :
    (batches.modify batch ({ · with stage })).flatMap (·.items) = batches.flatMap (·.items) := by
  induction batches generalizing batch with
  | nil => simp
  | cons first rest ih =>
    cases batch with
    | zero => simp
    | succ batch => simp [ih batch]

theorem liveItems_cons (first : Dispatch) (rest : List Dispatch) :
    liveItems (first :: rest) =
      (if first.stage = .over then [] else first.items) ++ liveItems rest := by
  by_cases h : first.stage = .over <;> simp [liveItems, h]

theorem liveItems_sending {batches : List Dispatch} {batch : Nat} {dispatch : Dispatch}
    (there : batches[batch]? = some dispatch) (queued : dispatch.stage = .queued) :
    liveItems (batches.modify batch ({ · with stage := .sending })) = liveItems batches := by
  induction batches generalizing batch with
  | nil => simp
  | cons first rest ih =>
    cases batch with
    | zero =>
      obtain rfl : first = dispatch := by simpa using there
      simp [liveItems_cons, queued]
    | succ batch =>
      rw [List.modify_succ_cons, liveItems_cons, liveItems_cons, ih (by simpa using there)]

theorem liveItems_over {batches : List Dispatch} {batch : Nat} {dispatch : Dispatch}
    (there : batches[batch]? = some dispatch) (live : dispatch.stage ≠ .over) :
    (liveItems batches).Perm
      (dispatch.items ++ liveItems (batches.modify batch ({ · with stage := .over }))) := by
  induction batches generalizing batch with
  | nil => simp at there
  | cons first rest ih =>
    cases batch with
    | zero =>
      obtain rfl : first = dispatch := by simpa using there
      simp [liveItems_cons, live]
    | succ batch =>
      have hrest := ih (show rest[batch]? = some dispatch by simpa using there)
      rw [List.modify_succ_cons, liveItems_cons, liveItems_cons]
      exact (hrest.append_left _).trans (List.perm_append_comm_assoc ..)

/-! ### Outcomes of a batch -/

theorem tickets_pair (responses : List Response) (items : List Item) :
    (pair responses items).map (·.1) = items.map (·.ticket) := by
  induction items generalizing responses with
  | nil => rfl
  | cons item rest ih =>
    unfold pair
    split <;> simp only [List.map_cons, ih]

theorem tickets_failAll (error : TransportError) (items : List Item) :
    (failAll error items).map (·.1) = items.map (·.ticket) := by
  simp [failAll]

theorem tickets_settle (reply : Outcome (List Response)) (items : List Item) :
    (settle reply items).map (·.1) = items.map (·.ticket) := by
  cases reply with
  | ok responses => exact tickets_pair responses items
  | error e => exact tickets_failAll e items

namespace Scheduler

@[simp] theorem dispatched_withStage (s : Scheduler) (batch : Nat) (stage : Stage) :
    (s.withStage batch stage).dispatched = s.dispatched :=
  flatMap_items_modify s.batches batch stage

theorem exists_of_mem_withStage {s : Scheduler} {batch : Nat} {stage : Stage} {changed : Dispatch}
    (member : changed ∈ (s.withStage batch stage).batches) :
    ∃ old ∈ s.batches, old.items = changed.items := by
  obtain ⟨index, hindex⟩ := List.mem_iff_getElem?.mp member
  rw [withStage, List.getElem?_modify] at hindex
  obtain ⟨old, hold, rfl⟩ := Option.map_eq_some_iff.mp hindex
  exact ⟨old, List.mem_of_getElem? hold, by split <;> rfl⟩

/-! ### What an operation can do -/

/-- The scheduler that has drawn a number and a ticket for a call. -/
def drawn (s : Scheduler) : Scheduler :=
  { s with counter := s.counter.draw.2, nextTicket := s.nextTicket + 1 }

/-- The scheduler whose pending list has been joined by a call. -/
def joined (s : Scheduler) (request : Request) : Scheduler :=
  { s.drawn with pending := s.pending ++ [Run.itemFor s request] }

theorem schedule_eq (s : Scheduler) (request : Request) : s.schedule request =
    if s.closed then (s.drawn, [.settled s.nextTicket (.error .shutdown)])
    else if s.size ≤ (s.joined request).pending.length then (s.joined request).dispatch
    else if (s.joined request).pending.length = 1 then
      ({ s.joined request with timer := some s.generation }, [.armed s.generation])
    else (s.joined request, []) := rfl

/-- A call is turned away, fills a batch, or joins the pending list. -/
theorem schedule_cases (s : Scheduler) (request : Request) :
    (s.closed = true ∧
      s.schedule request = (s.drawn, [.settled s.nextTicket (.error .shutdown)])) ∨
    (s.closed = false ∧ s.size ≤ s.pending.length + 1 ∧
      s.schedule request = (s.joined request).dispatch) ∨
    (s.closed = false ∧ s.pending.length + 1 < s.size ∧
      ∃ timer effects, outcomesOf effects = [] ∧
        s.schedule request = ({ s.joined request with timer }, effects)) := by
  have hlength : (s.joined request).pending.length = s.pending.length + 1 := by
    simp [joined]
  rw [schedule_eq, hlength]
  cases hclosed : s.closed with
  | true => exact .inl ⟨rfl, rfl⟩
  | false =>
    by_cases hfull : s.size ≤ s.pending.length + 1
    · exact .inr (.inl ⟨rfl, hfull, if_pos hfull⟩)
    · refine .inr (.inr ⟨rfl, by omega, ?_⟩)
      by_cases hone : s.pending.length + 1 = 1
      · exact ⟨_, _, rfl, (if_neg hfull).trans (if_pos hone)⟩
      · exact ⟨s.timer, _, rfl, (if_neg hfull).trans (if_neg hone)⟩

/-- The first call on the pending list arms its timer. -/
theorem schedule_joining {s : Scheduler} (opened : s.closed = false)
    (short : s.pending.length + 1 < s.size) (request : Request) :
    s.schedule request = if s.pending.isEmpty then
      ({ s.joined request with timer := some s.generation }, [.armed s.generation])
    else (s.joined request, []) := by
  have hlength : (s.joined request).pending.length = s.pending.length + 1 := by
    simp [joined]
  have hfirst : s.pending.length + 1 = 1 ↔ s.pending.isEmpty = true := by
    simp
  rw [schedule_eq, hlength, opened, if_neg (by decide), if_neg (by omega)]
  simp only [hfirst]

/-- The task of a batch waits on, hands its requests over, or ends with one outcome for each of
its calls. -/
theorem turn_cases (s : Scheduler) (batch : Nat) (reply : Option (Outcome (List Response))) :
    s.turn batch reply = (s, []) ∨
    (∃ dispatch, s.batches[batch]? = some dispatch ∧ dispatch.stage = .queued ∧
      s.turn batch reply =
        (s.withStage batch .sending, [.sent batch (dispatch.items.map (·.request))])) ∨
    (∃ dispatch outcomes, s.batches[batch]? = some dispatch ∧ dispatch.stage ≠ .over ∧
      outcomes.map (·.1) = dispatch.items.map (·.ticket) ∧
      s.turn batch reply = (s.withStage batch .over, settledAll outcomes)) := by
  unfold turn
  split
  · exact .inl rfl
  · next dispatch there =>
    split
    · exact .inl rfl
    · next queued =>
      split
      · exact .inr (.inr ⟨dispatch, _, there, by simp [queued], tickets_failAll _ _, rfl⟩)
      · exact .inr (.inl ⟨dispatch, there, queued, rfl⟩)
    · next sending =>
      split
      · exact .inr (.inr ⟨dispatch, _, there, by simp [sending], tickets_failAll _ _, rfl⟩)
      · split
        · exact .inl rfl
        · exact .inr (.inr ⟨dispatch, _, there, by simp [sending], tickets_settle _ _, rfl⟩)

/-- A closed scheduler stays as it is; any other one gives its pending list up. -/
theorem close_cases (s : Scheduler) :
    (s.closed = true ∧ s.close = (s, [])) ∨
    (s.closed = false ∧ s.close =
      ({ s with closed := true, pending := [], timer := none, generation := s.generation + 1 },
        settledAll (failAll .shutdown s.pending))) := by
  cases hclosed : s.closed with
  | true => exact .inl ⟨rfl, by simp only [close, hclosed, if_true]⟩
  | false => exact .inr ⟨rfl, by simp only [close, hclosed, Bool.false_eq_true, if_false]⟩

end Scheduler
end NodeCall.Batch
