import NodeCall.Proofs.Batch.Outcomes
import NodeCall.Proofs.Batch.Partition
import NodeCall.Proofs.IdGenerator

/-!
# Which reply a call gets

The calls of a batch travel under distinct numbers, so each of them gets the last response that
carries its number, whatever ids the callers chose and in whatever order the responses came.
-/

namespace NodeCall.Batch

/-- The outcome of one call, computed without the others. -/
def answer (responses : List Response) (call : Item) : Outcome Response :=
  match lastWithId call.request.id responses with
  | some response => .ok (response.withId call.callerId)
  | none => .error (.missingResponse call.callerId)

/-! ### The last response with an id -/

theorem lastWithId_eq_some {id : RpcId} {responses : List Response} {response : Response}
    (h : lastWithId id responses = some response) :
    ∃ before after, responses = before ++ response :: after ∧ response.id = id ∧
      ∀ later ∈ after, later.id ≠ id := by
  obtain ⟨hid, after, before, hsplit, hlast⟩ := List.find?_eq_some_iff_append.mp h
  refine ⟨before.reverse, after.reverse, ?_, by simpa using hid, ?_⟩
  · rw [← List.reverse_reverse responses, hsplit]
    simp
  · intro later member
    simpa using hlast later (List.mem_reverse.mp member)

theorem lastWithId_eq_none {id : RpcId} {responses : List Response} :
    lastWithId id responses = none ↔ ∀ response ∈ responses, response.id ≠ id := by
  simp [lastWithId, List.find?_eq_none]

theorem lastWithId_filter {id other : RpcId} (ne : id ≠ other) (responses : List Response) :
    lastWithId id (responses.filter fun r => r.id ≠ other) = lastWithId id responses := by
  rw [lastWithId, lastWithId, ← List.filter_reverse, List.find?_filter]
  congr 1
  funext response
  by_cases h : response.id = id <;> simp [h, ne]

theorem lastWithId_of_mem {responses : List Response} {response : Response}
    (distinct : (responses.map (·.id)).Nodup) (member : response ∈ responses) :
    lastWithId response.id responses = some response := by
  cases hlast : lastWithId response.id responses with
  | none => exact absurd rfl (lastWithId_eq_none.mp hlast response member)
  | some other =>
    obtain ⟨before, after, rfl, hid, -⟩ := lastWithId_eq_some hlast
    rw [List.inj_on_of_nodup_map distinct (by simp) member hid]

theorem answer_filter {call other : Item} (ne : call.request.id ≠ other.request.id)
    (responses : List Response) :
    answer (responses.filter fun r => r.id ≠ other.request.id) call = answer responses call := by
  rw [answer, answer, lastWithId_filter ne]

/-- Although each response that is handed on is taken from the list, every call of a batch with
distinct numbers gets what it would get from the whole list. -/
theorem pair_eq_map {calls : List Item} (distinct : (calls.map (·.request.id)).Nodup)
    (responses : List Response) :
    pair responses calls = calls.map fun call => (call.ticket, answer responses call) := by
  induction calls generalizing responses with
  | nil => rfl
  | cons call rest ih =>
    rw [List.map_cons, List.nodup_cons] at distinct
    obtain ⟨hfresh, hrest⟩ := distinct
    cases hlast : lastWithId call.request.id responses with
    | none =>
      have hhead : answer responses call = .error (.missingResponse call.callerId) := by
        simp only [answer, hlast]
      simp only [pair, hlast, ih hrest, List.map_cons, hhead]
    | some response =>
      have hhead : answer responses call = .ok (response.withId call.callerId) := by
        simp only [answer, hlast]
      have htail : (rest.map fun other => (other.ticket,
          answer (responses.filter fun r => r.id ≠ call.request.id) other)) =
            rest.map fun other => (other.ticket, answer responses other) := by
        apply List.map_congr_left
        intro other member
        have hne : other.request.id ≠ call.request.id := fun same =>
          hfresh (same ▸ List.mem_map_of_mem member)
        rw [answer_filter hne]
      simp only [pair, hlast, ih hrest, List.map_cons, hhead, htail]

namespace Run

variable {config : Config} {first : Counter} {events : List Event} {batch : Nat}
  {dispatch : Dispatch}

theorem item_of_batch (there : ((initial config first).steps events).scheduler.batches[batch]? =
    some dispatch) {call : Item} (member : call ∈ dispatch.items) :
    ∃ request, (requests events)[call.ticket]? = some request ∧
      call = .of first call.ticket request := by
  have h := (settled_initial config first).steps events
  have haccepted : call ∈ ((initial config first).steps events).accepted :=
    h.mem_accepted_iff.mpr ⟨.batch batch, by simpa [callsAt, there] using member⟩
  rw [accepted_steps] at haccepted
  obtain ⟨index, hindex⟩ := List.mem_iff_getElem?.mp haccepted
  rw [List.getElem?_mapIdx] at hindex
  obtain ⟨request, hrequest, rfl⟩ := Option.map_eq_some_iff.mp hindex
  exact ⟨request, hrequest, rfl⟩

/-- The calls of a batch came one after the other. -/
theorem consecutive_batch
    (there : ((initial config first).steps events).scheduler.batches[batch]? = some dispatch) :
    ∃ start, ∀ (index : Nat) (call : Item), dispatch.items[index]? = some call →
      ∃ request, call = .of first (start + index) request := by
  have h := (settled_initial config first).steps events
  obtain ⟨earlier, later, hbatches⟩ := List.append_of_mem (List.mem_of_getElem? there)
  have hsplit := h.split
  rw [accepted_steps, Scheduler.dispatched, hbatches, List.flatMap_append, List.flatMap_cons,
    List.append_assoc, List.append_assoc, List.append_assoc] at hsplit
  refine ⟨(earlier.flatMap (·.items)).length, fun index call member => ?_⟩
  have hlt := (List.getElem?_eq_some_iff.mp member).1
  have hindex := congrArg (·[(earlier.flatMap (·.items)).length + index]?) hsplit
  simp only [List.getElem?_mapIdx] at hindex
  rw [List.getElem?_append_right (Nat.le_add_right _ _), Nat.add_sub_cancel_left,
    List.getElem?_append_left hlt, member] at hindex
  obtain ⟨request, -, hcall⟩ := Option.map_eq_some_iff.mp hindex
  exact ⟨request, hcall.symm⟩

/-- However many calls came before, a batch that is not too long has distinct numbers. -/
theorem nodup_numbers_short
    (there : ((initial config first).steps events).scheduler.batches[batch]? = some dispatch)
    (short : config.batchSize ≤ UInt64.size) : (dispatch.items.map (·.request.id)).Nodup := by
  have h := (settled_initial config first).steps events
  have hlength := (h.batches dispatch (List.mem_of_getElem? there)).2
  rw [h.size] at hlength
  have hsmall : dispatch.items.length ≤ UInt64.size := by
    have hpos : 1 ≤ UInt64.size := by decide
    omega
  obtain ⟨start, hitems⟩ := consecutive_batch there
  rw [List.Nodup, List.pairwise_iff_getElem]
  intro index other hindex hother hlt same
  rw [List.length_map] at hindex hother
  obtain ⟨request, hcall⟩ := hitems index _ (List.getElem?_eq_getElem hindex)
  obtain ⟨request', hcall'⟩ := hitems other _ (List.getElem?_eq_getElem hother)
  rw [List.getElem_map, List.getElem_map, hcall, hcall'] at same
  have := Counter.number_injective_from first start (by omega) (by omega) (RpcId.number.inj same)
  omega

/-! ### The reply to a batch -/

/-- The task of a batch takes the sender's reply: it awaits one, and the scheduler is open. -/
def Takes (run : Run) (batch : Nat) (dispatch : Dispatch) : Prop :=
  run.scheduler.batches[batch]? = some dispatch ∧ dispatch.stage = .sending ∧
    run.scheduler.closed = false

theorem step_taken {run : Run} (takes : Takes run batch dispatch)
    (reply : Outcome (List Response)) :
    run.step (.turn batch (some reply)) =
      run.apply (run.scheduler.withStage batch .over,
        Scheduler.settledAll (settle reply dispatch.items)) := by
  obtain ⟨there, sending, opened⟩ := takes
  show run.apply (run.scheduler.turn batch (some reply)) = _
  simp only [Scheduler.turn, there, sending, opened, Bool.false_eq_true, if_false]

theorem step_reply {run : Run} (takes : Takes run batch dispatch) (responses : List Response) :
    run.step (.turn batch (some (.ok responses))) =
      run.apply (run.scheduler.withStage batch .over,
        Scheduler.settledAll (pair responses dispatch.items)) :=
  step_taken takes (.ok responses)

end Run
end NodeCall.Batch
