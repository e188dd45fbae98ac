import NodeCall.Proofs.Http.Runs
import Mathlib.Data.List.Induction

/-!
# Nothing is waited for in vain

Whatever a client waits for, some effect has asked for: a POST asks for its answer, a rest for its
end, a timer to fire, and a batch for its turns.  This holds in every run, whatever happens in it.
-/

namespace NodeCall.Http

open Batch (Scheduler)

/-- An effect asks for an event. -/
def Effect.asks : Effect → Event → Bool
  | .posted call _, .delivered other _ => call = other
  | .postedBatch batch _ _, .turn other (some _) => batch = other
  | .refusedBatch batch _, .turn other (some _) => batch = other
  | .queued batch, .turn other none => batch = other
  | .armed generation, .fire other => generation = other
  | .resting call _, .wake other => call = other
  | _, _ => false

/-- An effect of a scheduler asks its client for an event. -/
def asksFor : Batch.Effect → Event → Bool
  | .sent batch _, .turn other (some _) => batch = other
  | .queued batch, .turn other none => batch = other
  | .armed generation, .fire other => generation = other
  | _, _ => false

/-! ### Schedulers -/

/-- A scheduler waits for nothing new unless it asks for it. -/
def AskedOf (s : Scheduler) (result : Scheduler × List Batch.Effect) : Prop :=
  ∀ event, result.1.awaits event = true →
    s.awaits event = true ∨ ∃ effect ∈ result.2, asksFor effect event = true

namespace AskedOf

variable {s s' : Scheduler} {effects : List Batch.Effect}

/-- The timer is given up or stays, and the batches stay. -/
theorem of_batches (timer : s'.timer = none ∨ s'.timer = s.timer)
    (batches : s'.batches = s.batches) : AskedOf s (s', effects) := by
  intro event waits
  left
  cases event with
  | fire generation =>
    rcases timer with gone | same
    · simp [Scheduler.awaits, gone] at waits
    · rwa [Scheduler.awaits, ← same]
  | turn batch reply => rwa [Scheduler.awaits, ← batches]
  | _ => cases waits

theorem dispatch (s : Scheduler) : AskedOf s s.dispatch := by
  intro event waits
  cases event with
  | fire generation => simp [Scheduler.awaits] at waits
  | turn batch reply =>
    rw [Scheduler.awaits, Scheduler.batches_dispatch] at waits
    split at waits
    · exact .inl waits
    · next pending =>
      rcases Nat.lt_or_ge batch s.batches.length with lt | ge
      · rw [List.getElem?_append_left lt] at waits
        exact .inl waits
      · -- only the new batch can be meant, and it is queued
        rw [List.getElem?_append_right ge] at waits
        obtain ⟨queued, there, idle⟩ := (Option.any_eq_true _ _).mp waits
        have lt := (List.getElem?_eq_some_iff.mp there).1
        obtain rfl : batch = s.batches.length := by
          simp only [List.length_singleton] at lt
          omega
        rw [Nat.sub_self] at there
        obtain rfl := Option.some.inj there
        obtain rfl := Option.isNone_iff_eq_none.mp idle
        refine .inr ⟨.queued s.batches.length, ?_, by simp [asksFor]⟩
        simp [Scheduler.dispatch, pending]
  | _ => cases waits

theorem schedule (s : Scheduler) (request : Request) : AskedOf s (s.schedule request) := by
  rcases s.schedule_cases request with ⟨-, eq⟩ | ⟨-, -, eq⟩ | ⟨opened, short, -⟩
  · rw [eq]
    exact of_batches (.inr rfl) rfl
  · rw [eq]
    exact dispatch (s.joined request)
  · rw [Scheduler.schedule_joining opened short]
    split
    · intro event waits
      cases event with
      | fire generation =>
        refine .inr ⟨.armed s.generation, List.mem_singleton_self _, ?_⟩
        simpa [Scheduler.awaits, asksFor] using waits
      | turn batch reply => exact .inl waits
      | _ => cases waits
    · exact of_batches (.inr rfl) rfl

theorem fire (s : Scheduler) (generation : UInt64) : AskedOf s (s.fire generation) := by
  unfold Scheduler.fire
  split
  · exact dispatch s
  · exact of_batches (.inr rfl) rfl

theorem close (s : Scheduler) : AskedOf s s.close := by
  rcases s.close_cases with ⟨-, eq⟩ | ⟨-, eq⟩ <;> rw [eq]
  · exact of_batches (.inr rfl) rfl
  · exact of_batches (.inl rfl) rfl

theorem withStage {batch : Nat} {stage : Batch.Stage}
    (asked : ∀ reply, stage = .sending → reply.isSome = true →
      ∃ effect ∈ effects, asksFor effect (.turn batch reply) = true)
    (unqueued : stage ≠ .queued) : AskedOf s (s.withStage batch stage, effects) := by
  intro event waits
  cases event with
  | fire generation => exact .inl waits
  | turn other reply =>
    by_cases same : batch = other
    · subst same
      right
      rw [Scheduler.awaits, Scheduler.withStage, List.getElem?_modify_eq] at waits
      obtain ⟨dispatch, there, next⟩ := (Option.any_eq_true _ _).mp waits
      obtain ⟨_, -, rfl⟩ := Option.map_eq_some_iff.mp there
      cases stage with
      | queued => exact absurd rfl unqueued
      | sending => exact asked reply rfl next
      | _ => cases next
    · left
      rwa [Scheduler.awaits, Scheduler.withStage, List.getElem?_modify_ne _ _ same] at waits
  | _ => cases waits

theorem turn (s : Scheduler) (batch : Nat) (reply : Option (Outcome (List Response))) :
    AskedOf s (s.turn batch reply) := by
  rcases s.turn_cases batch reply with
    eq | ⟨dispatch, -, -, eq⟩ | ⟨dispatch, outcomes, -, -, -, eq⟩ <;> rw [eq]
  · exact of_batches (.inr rfl) rfl
  · refine withStage (fun reply _ some => ?_) (by simp)
    obtain ⟨taken, rfl⟩ := Option.isSome_iff_exists.mp some
    exact ⟨_, List.mem_singleton_self _, by simp [asksFor]⟩
  · exact withStage (fun reply sending => by cases sending) (by simp)

end AskedOf

/-! ### Clients -/

variable {client client' client'' : Client} {effects more : List Effect} {call : Nat} {c : Call}
  {event : Event}

/-- A client waits for nothing new unless it asks for it. -/
def Asked (client client' : Client) (effects : List Effect) : Prop :=
  ∀ event, client'.awaits event = true →
    client.awaits event = true ∨ ∃ effect ∈ effects, effect.asks event = true

theorem Asked.refl (client : Client) (effects : List Effect) : Asked client client effects :=
  fun _ waits => .inl waits

theorem Asked.trans (first : Asked client client' effects) (second : Asked client' client'' more) :
    Asked client client'' (effects ++ more) := by
  intro event waits
  rcases second event waits with waits | ⟨effect, member, asks⟩
  · rcases first event waits with waits | ⟨effect, member, asks⟩
    · exact .inl waits
    · exact .inr ⟨effect, List.mem_append_left _ member, asks⟩
  · exact .inr ⟨effect, List.mem_append_right _ member, asks⟩

/-- An event that moves a call of its own. -/
def Event.moves (call : Nat) : Event → Bool
  | .delivered other _ | .wake other => other = call
  | _ => false

/-- The other calls wait as before, and this one for what its new stage needs. -/
theorem awaits_withCall {c' : Call} (waits : (client.withCall call c').awaits event = true) :
    (event.moves call = false ∧ client.awaits event = true) ∨
      (event.moves call = true ∧ c'.awaits event = true) := by
  have set {other : Nat} {own : Event}
      (there : ((client.calls.set call c')[other]?).any (·.awaits own) = true) :
      (other ≠ call ∧ (client.calls[other]?).any (·.awaits own) = true) ∨
        (other = call ∧ c'.awaits own = true) := by
    by_cases same : other = call
    · subst same
      obtain ⟨d, hd, next⟩ := (Option.any_eq_true _ _).mp there
      have lt := (List.getElem?_eq_some_iff.mp hd).1
      rw [List.getElem?_set_self (by simpa using lt)] at hd
      obtain rfl := Option.some.inj hd
      exact .inr ⟨rfl, next⟩
    · rw [List.getElem?_set_ne (Ne.symm same)] at there
      exact .inl ⟨same, there⟩
  cases event with
  | delivered other delivery =>
    rcases set waits with ⟨ne, before⟩ | ⟨rfl, now⟩
    · exact .inl ⟨decide_eq_false ne, before⟩
    · exact .inr ⟨decide_eq_true rfl, now⟩
  | wake other =>
    rcases set waits with ⟨ne, before⟩ | ⟨rfl, now⟩
    · exact .inl ⟨decide_eq_false ne, before⟩
    · exact .inr ⟨decide_eq_true rfl, now⟩
  | fire generation => exact .inl ⟨rfl, waits⟩
  | turn batch reply => exact .inl ⟨rfl, waits⟩
  | _ => cases waits

/-- A call whose attempt is over waits for the end of its rest or for nothing. -/
theorem asked_conclude (there : client.calls[call]? = some c) (outcome : Outcome Response)
    (waits : (client.conclude call outcome).1.awaits event = true) :
    (event.moves call = false ∧ client.awaits event = true) ∨
      ∃ effect ∈ (client.conclude call outcome).2, effect.asks event = true := by
  rcases Client.conclude_cases there outcome with ⟨-, delay, eq⟩ | eq <;> rw [eq] at waits ⊢ <;>
    rcases awaits_withCall waits with before | ⟨moves, now⟩
  · exact .inl before
  · right
    cases event with
    | wake other =>
      obtain rfl : other = call := of_decide_eq_true moves
      exact ⟨_, List.mem_singleton_self _, by simp [Effect.asks]⟩
    | _ => cases now
  · exact .inl before
  · cases event <;> cases now

theorem Asked.conclude (there : client.calls[call]? = some c) (outcome : Outcome Response) :
    Asked client (client.conclude call outcome).1 (client.conclude call outcome).2 :=
  fun _ waits => (asked_conclude there outcome waits).imp_left And.right

/-! ### Effects of the scheduler -/

theorem asked_postEffects (endpoint : Endpoint) (batch : Nat) (requests : List Request) :
    ∃ effect ∈ Client.postEffects endpoint (requestsText requests) (.postedBatch batch requests)
      (.refusedBatch batch), ∀ reply, effect.asks (.turn batch (some reply)) = true := by
  unfold Client.postEffects
  cases endpoint.post (requestsText requests) with
  | ok post => exact ⟨.postedBatch batch requests post, by simp, by simp [Effect.asks]⟩
  | error e => exact ⟨.refusedBatch batch e, by simp, by simp [Effect.asks]⟩

/-- The client passes on what its scheduler asks for. -/
theorem asked_absorb (state : Client × List Effect) (effect : Batch.Effect) :
    ∃ more, (Client.absorb state effect).2 = state.2 ++ more ∧
      Asked state.1 (Client.absorb state effect).1 more ∧
      ∀ event, asksFor effect event = true → ∃ own ∈ more, own.asks event = true := by
  obtain ⟨client, before⟩ := state
  cases effect with
  | armed generation =>
    refine ⟨_, rfl, .refl _ _, fun event asks => ⟨_, List.mem_singleton_self _, ?_⟩⟩
    cases event <;> exact asks
  | queued batch =>
    refine ⟨_, rfl, .refl _ _, fun event asks => ⟨_, List.mem_singleton_self _, ?_⟩⟩
    rcases event with _ | _ | _ | _ | _ | _ | ⟨other, _ | reply⟩ | _ | _ <;> exact asks
  | sent batch requests =>
    refine ⟨_, rfl, .refl _ _, fun event asks => ?_⟩
    obtain ⟨own, member, asksOwn⟩ := asked_postEffects client.endpoint batch requests
    rcases event with _ | _ | _ | _ | _ | _ | ⟨other, _ | reply⟩ | _ | _ <;> try cases asks
    obtain rfl : batch = other := of_decide_eq_true asks
    exact ⟨own, member, asksOwn reply⟩
  | settled ticket outcome =>
    unfold Client.absorb
    cases found : client.callOf ticket with
    | none =>
      simp only [found]
      exact ⟨[], (List.append_nil _).symm, .refl _ _, fun event asks => by cases event <;> cases asks⟩
    | some call =>
      simp only [found]
      have lt := (List.findIdx?_eq_some_iff_getElem.mp found).1
      exact ⟨_, rfl, .conclude (List.getElem?_eq_getElem lt) outcome,
        fun event asks => by cases event <;> cases asks⟩

theorem asked_absorbAll (effects : List Batch.Effect) (state : Client × List Effect) :
    ∃ more, (effects.foldl Client.absorb state).2 = state.2 ++ more ∧
      Asked state.1 (effects.foldl Client.absorb state).1 more ∧
      ∀ effect ∈ effects, ∀ event, asksFor effect event = true →
        ∃ own ∈ more, own.asks event = true := by
  induction effects generalizing state with
  | nil => exact ⟨[], (List.append_nil _).symm, .refl _ _, by simp⟩
  | cons effect rest ih =>
    obtain ⟨own, hown, asked, passed⟩ := asked_absorb state effect
    obtain ⟨others, hothers, asked', passed'⟩ := ih (Client.absorb state effect)
    refine ⟨own ++ others, ?_, asked.trans asked', fun other member event asks => ?_⟩
    · rw [List.foldl_cons, hothers, hown, List.append_assoc]
    · rcases List.mem_cons.mp member with rfl | member
      · obtain ⟨e, he, asks⟩ := passed event asks
        exact ⟨e, List.mem_append_left _ he, asks⟩
      · obtain ⟨e, he, asks⟩ := passed' other member event asks
        exact ⟨e, List.mem_append_right _ he, asks⟩

/-- An operation of the scheduler. -/
theorem Asked.schedule (client : Client)
    {operation : Scheduler → Scheduler × List Batch.Effect}
    (asked : ∀ s, AskedOf s (operation s)) :
    Asked client (client.schedule operation).1 (client.schedule operation).2 := by
  unfold Client.schedule
  cases scheduler : client.scheduler with
  | none => exact .refl _ _
  | some s =>
    let drawing : Scheduler := { s with counter := client.executor.counter }
    let result := operation drawing
    let moved : Client := { client with
      scheduler := some result.1,
      executor := { client.executor with counter := result.1.counter } }
    obtain ⟨more, heffects, absorbed, passed⟩ := asked_absorbAll result.2 (moved, [])
    show Asked client (result.2.foldl Client.absorb (moved, [])).1
      (result.2.foldl Client.absorb (moved, [])).2
    rw [heffects, List.nil_append]
    intro event waits
    rcases absorbed event waits with waits | asks
    · have scheduled (waits : result.1.awaits event = true) :
          drawing.awaits event = true ∨ ∃ own ∈ more, own.asks event = true := by
        rcases asked drawing event waits with before | ⟨effect, member, asks⟩
        · exact .inl before
        · exact .inr (passed effect member event asks)
      cases event with
      | fire generation =>
        rw [Client.awaits, scheduler]
        exact scheduled waits
      | turn batch reply =>
        rw [Client.awaits, scheduler]
        exact scheduled waits
      | delivered other delivery => exact .inl waits
      | wake other => exact .inl waits
      | _ => cases waits
    · exact .inr asks

/-! ### Attempts and steps -/

/-- A call whose attempt begins waits for its answer, or for a batch. -/
theorem asked_attempt (there : client.calls[call]? = some c)
    (waits : (client.attempt call).1.awaits event = true) :
    (event.moves call = false ∧ client.awaits event = true) ∨
      ∃ effect ∈ (client.attempt call).2, effect.asks event = true := by
  cases scheduler : client.scheduler with
  | some s =>
    let waiting := client.withCall call { c with stage := .gathered s.nextTicket }
    have made : client.attempt call = ((waiting.schedule (·.schedule c.request)).1,
        [.began call c.attempt] ++ (waiting.schedule (·.schedule c.request)).2) := by
      unfold Client.attempt
      simp only [there, scheduler]
      rfl
    rw [made] at waits ⊢
    rcases Asked.schedule waiting (AskedOf.schedule · c.request) event waits with
      before | ⟨effect, member, asks⟩
    · rcases awaits_withCall before with before | ⟨-, now⟩
      · exact .inl before
      · cases event <;> cases now
    · exact .inr ⟨effect, List.mem_append_right _ member, asks⟩
  | none =>
    rcases Client.attempt_posting scheduler there with ⟨-, post, eq⟩ | ⟨-, eq⟩ <;> rw [eq] at waits ⊢
    · rcases awaits_withCall waits with before | ⟨moves, now⟩
      · exact .inl before
      · right
        cases event with
        | delivered other delivery =>
          obtain rfl : other = call := of_decide_eq_true moves
          exact ⟨.posted other post, by simp, by simp [Effect.asks]⟩
        | _ => cases now
    · have there' := Client.getElem?_withCall there { c with stage := .posting }
      rcases asked_conclude there' _ waits with ⟨others, before⟩ | ⟨effect, member, asks⟩
      · rcases awaits_withCall before with before | ⟨moves, -⟩
        · exact .inl before
        · exact absurd (others.symm.trans moves) (by decide)
      · exact .inr ⟨effect, List.mem_append_right _ member, asks⟩

theorem Asked.attempt (there : client.calls[call]? = some c) :
    Asked client (client.attempt call).1 (client.attempt call).2 :=
  fun _ waits => (asked_attempt there waits).imp_left And.right

/-- A new call adds what it waits for itself. -/
theorem awaits_joined (client : Client) (executor : Executor) (c : Call)
    (waits : ({ client with executor, calls := client.calls ++ [c] } : Client).awaits event =
      true) :
    client.awaits event = true ∨
      (event.moves client.calls.length = true ∧ c.awaits event = true) := by
  have joined {other : Nat} {own : Event}
      (there : ((client.calls ++ [c])[other]?).any (·.awaits own) = true) :
      (client.calls[other]?).any (·.awaits own) = true ∨
        (other = client.calls.length ∧ c.awaits own = true) := by
    rcases Nat.lt_or_ge other client.calls.length with lt | ge
    · rw [List.getElem?_append_left lt] at there
      exact .inl there
    · rw [List.getElem?_append_right ge] at there
      obtain ⟨d, hd, next⟩ := (Option.any_eq_true _ _).mp there
      have lt := (List.getElem?_eq_some_iff.mp hd).1
      obtain rfl := List.mem_singleton.mp (List.mem_of_getElem? hd)
      simp only [List.length_singleton] at lt
      exact .inr ⟨by omega, next⟩
  cases event with
  | delivered other delivery =>
    exact (joined waits).imp_right fun ⟨same, now⟩ => ⟨decide_eq_true same, now⟩
  | wake other => exact (joined waits).imp_right fun ⟨same, now⟩ => ⟨decide_eq_true same, now⟩
  | fire generation => exact .inl waits
  | turn batch reply => exact .inl waits
  | _ => cases waits

theorem Asked.send (client : Client) (request : Request) :
    Asked client (client.send request).1 (client.send request).2 := by
  intro event waits
  unfold Client.send at waits ⊢
  cases checked : client.executor.check request.method with
  | error e =>
    simp only [checked] at waits ⊢
    rcases awaits_joined client client.executor _ waits with before | ⟨-, now⟩
    · exact .inl before
    · cases event <;> cases now
  | ok _ =>
    simp only [checked] at waits ⊢
    let c : Call := ⟨(client.executor.prepare request).1, 0, .resting⟩
    let begun : Client := { client with
      executor := (client.executor.prepare request).2
      calls := client.calls ++ [c] }
    have there : begun.calls[client.calls.length]? = some c := by simp [begun]
    rcases asked_attempt there waits with ⟨others, before⟩ | asks
    · rcases awaits_joined client _ c before with before | ⟨moves, -⟩
      · exact .inl before
      · exact absurd (others.symm.trans moves) (by decide)
    · exact .inr asks

/-- Whatever happens, a client waits for nothing that it has not asked for. -/
theorem Asked.step (client : Client) (event : Event) :
    Asked client (client.step event).1 (client.step event).2 := by
  cases event with
  | send request => exact .send client request
  | fire generation => exact .schedule client (AskedOf.fire · generation)
  | turn batch reply => exact .schedule client (AskedOf.turn · batch reply)
  | flush => exact .schedule client AskedOf.dispatch
  | close =>
    intro event waits
    rcases Asked.schedule client AskedOf.close event waits with before | ⟨effect, member, asks⟩
    · exact .inl before
    · exact .inr ⟨effect, List.mem_append_left _ member, asks⟩
  | delivered call delivery =>
    unfold Client.step
    dsimp only
    split
    · next there => exact .conclude there _
    · exact .refl _ _
  | timeout call attempt =>
    unfold Client.step
    dsimp only
    split
    · next there =>
      -- the stage decides whether an attempt is under way, its number whether it is this one
      split <;> split
      all_goals first
        | exact .conclude there _
        | exact .refl _ _
    · exact .refl _ _
  | wake call =>
    unfold Client.step
    dsimp only
    split
    · next there => exact .attempt there
    · exact .refl _ _
  | leave call =>
    unfold Client.step
    dsimp only
    split
    · exact .refl _ _
    · exact .refl _ _
    · intro event waits
      rcases awaits_withCall waits with ⟨-, before⟩ | ⟨-, now⟩
      · exact .inl before
      · cases event <;> cases now

/-- In every run of a client that has been made, what is waited for has been asked for. -/
theorem asked_for {raw : String} {config : Config} (made : Client.new raw config = .ok client)
    (events : List Event) (waits : ((Run.start client).steps events).client.awaits event = true) :
    ∃ effect ∈ ((Run.start client).steps events).effects, effect.asks event = true := by
  induction events using List.reverseRecOn generalizing event with
  | nil =>
    obtain ⟨calls, -, scheduler⟩ := Client.of_new made
    replace waits : client.awaits event = true := waits
    cases event with
    | delivered call delivery => simp [Client.awaits, calls] at waits
    | wake call => simp [Client.awaits, calls] at waits
    | fire generation =>
      cases batch : config.batch <;>
        simp [Client.awaits, scheduler, batch, Scheduler.new, Scheduler.awaits] at waits
    | turn number reply =>
      cases batch : config.batch <;>
        simp [Client.awaits, scheduler, batch, Scheduler.new, Scheduler.awaits] at waits
    | _ => cases waits
  | append_singleton before last ih =>
    rw [Run.steps, List.foldl_append] at waits ⊢
    rcases Asked.step _ last event waits with earlier | ⟨effect, member, asks⟩
    · obtain ⟨effect, member, asks⟩ := ih earlier
      exact ⟨effect, List.mem_append_left _ member, asks⟩
    · exact ⟨effect, List.mem_append_right _ member, asks⟩

end NodeCall.Http
