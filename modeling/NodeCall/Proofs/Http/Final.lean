import NodeCall.Proofs.Http.Requests

/-!
# Calls that are over

A call that is over is left alone.  No attempt of it is made any more and it is told nothing, whatever
the network, the timers and the scheduler do for the calls beside it.
-/

namespace NodeCall.Http

open Batch (Scheduler)

variable {client : Client} {effects : List Effect} {call other : Nat} {c : Call}

/-- The call that an effect is about; what the scheduler brings about is for a batch. -/
def Effect.call? : Effect → Option Nat
  | .posted call _ | .began call _ | .resting call _ | .finished call _ => some call
  | .told _ | .postedBatch _ _ _ | .refusedBatch _ _ | .armed _ | .queued _ => none

/-- None of these effects is about a call. -/
def Without (call : Nat) (effects : List Effect) : Prop :=
  ∀ effect ∈ effects, effect.call? ≠ some call

namespace Without

variable {more : List Effect}

theorem nil (call : Nat) : Without call [] := fun _ member => absurd member List.not_mem_nil

theorem append (first : Without call effects) (second : Without call more) :
    Without call (effects ++ more) := by
  intro effect member
  rcases List.mem_append.mp member with member | member
  · exact first effect member
  · exact second effect member

theorem cons {effect : Effect} (first : effect.call? ≠ some call) (rest : Without call effects) :
    Without call (effect :: effects) :=
  List.forall_mem_cons.mpr ⟨first, rest⟩

theorem single {effect : Effect} (first : effect.call? ≠ some call) : Without call [effect] :=
  cons first (nil call)

end Without

/-- An operation passes a call by. -/
structure Passes (call : Nat) (client : Client) (result : Client × List Effect) : Prop where
  kept : result.1.calls[call]? = client.calls[call]?
  silent : Without call result.2

namespace Passes

theorem nothing (call : Nat) (client : Client) : Passes call client (client, []) :=
  ⟨rfl, .nil call⟩

theorem conclude (apart : other ≠ call) (outcome : Outcome Response) :
    Passes call client (client.conclude other outcome) := by
  cases there : client.calls[other]? with
  | none =>
    rw [conclude_of_none there]
    exact nothing call client
  | some d =>
    have about : some other ≠ some call := fun same => apart (Option.some.inj same)
    rcases Client.conclude_cases there outcome with ⟨-, delay, eq⟩ | eq <;> rw [eq]
    · exact ⟨List.getElem?_set_ne apart, .single about⟩
    · exact ⟨List.getElem?_set_ne apart, .single about⟩

/-- The scheduler settles tickets, and a call that is over holds none. -/
theorem absorb {state : Client × List Effect} (there : state.1.calls[call]? = some c)
    (ended : c.stage = .over) (effect : Batch.Effect) :
    ∃ more, (Client.absorb state effect).2 = state.2 ++ more ∧
      Passes call state.1 ((Client.absorb state effect).1, more) := by
  cases effect with
  | armed generation => exact ⟨_, rfl, rfl, .single nofun⟩
  | queued batch => exact ⟨_, rfl, rfl, .single nofun⟩
  | sent batch requests =>
    refine ⟨_, rfl, rfl, ?_⟩
    unfold Client.postEffects
    refine .cons nofun ?_
    split <;> exact .single nofun
  | settled ticket outcome =>
    unfold Client.absorb
    dsimp only
    split
    · exact ⟨[], (List.append_nil _).symm, nothing call _⟩
    · next found waiting =>
      refine ⟨_, rfl, conclude ?_ outcome⟩
      rintro rfl
      obtain ⟨d, same, waits⟩ := Client.gathered_of_callOf waiting
      obtain rfl := Option.some.inj (same.symm.trans there)
      cases waits.symm.trans ended

theorem absorbAll (ended : c.stage = .over) (operations : List Batch.Effect)
    {state : Client × List Effect} (there : state.1.calls[call]? = some c) :
    ∃ more, (operations.foldl Client.absorb state).2 = state.2 ++ more ∧
      Passes call state.1 ((operations.foldl Client.absorb state).1, more) := by
  induction operations generalizing state with
  | nil => exact ⟨[], (List.append_nil _).symm, nothing call _⟩
  | cons effect rest ih =>
    obtain ⟨first, eq, passes⟩ := absorb there ended effect
    have stays : (Client.absorb state effect).1.calls[call]? = some c := passes.kept.trans there
    obtain ⟨second, eq', passes'⟩ := ih stays
    refine ⟨first ++ second, ?_, passes'.kept.trans passes.kept, passes.silent.append passes'.silent⟩
    rw [List.foldl_cons, eq', eq, List.append_assoc]

theorem schedule (there : client.calls[call]? = some c) (ended : c.stage = .over)
    (operation : Scheduler → Scheduler × List Batch.Effect) :
    Passes call client (client.schedule operation) := by
  unfold Client.schedule
  split
  · exact nothing call client
  · next s _ =>
    dsimp only
    generalize operation { s with counter := client.executor.counter } = done
    let moved : Client := { client with
      scheduler := some done.1
      executor := { client.executor with counter := done.1.counter } }
    have stays : (moved, ([] : List Effect)).1.calls[call]? = some c := there
    obtain ⟨more, eq, passes⟩ := absorbAll ended done.2 stays
    exact ⟨passes.kept, eq ▸ passes.silent⟩

theorem attempt (there : client.calls[call]? = some c) (ended : c.stage = .over)
    (apart : other ≠ call) : Passes call client (client.attempt other) := by
  have about : some other ≠ some call := fun same => apart (Option.some.inj same)
  unfold Client.attempt
  split
  · exact nothing call client
  · next d _ =>
    have staged (stage : Stage) :
        (client.withCall other { d with stage }).calls[call]? = client.calls[call]? :=
      List.getElem?_set_ne apart
    dsimp only
    split
    · next s _ =>
      have passes := schedule ((staged (.gathered s.nextTicket)).trans there) ended
        (·.schedule d.request)
      exact ⟨passes.kept.trans (staged _), .cons about passes.silent⟩
    · split
      · exact ⟨staged _, .cons about (.cons nofun (.single about))⟩
      · next e _ =>
        have passes : Passes call (client.withCall other { d with stage := .posting }) _ :=
          conclude apart (.error e)
        exact ⟨passes.kept.trans (staged _), .cons about (.cons nofun passes.silent)⟩

theorem send (there : client.calls[call]? = some c) (ended : c.stage = .over) (request : Request) :
    Passes call client (client.send request) := by
  have before := (List.getElem?_eq_some_iff.mp there).1
  have joined (executor : Executor) (d : Call) :
      (client.join executor d).calls[call]? = client.calls[call]? :=
    List.getElem?_append_left before
  obtain ⟨executor, d, -, -, -, ⟨e, eq⟩ | eq⟩ := send_cases client request <;> rw [eq]
  · refine ⟨joined executor d, .single fun same => ?_⟩
    have := Option.some.inj same
    omega
  · have apart : client.calls.length ≠ call := by omega
    have passes := attempt ((joined executor d).trans there) ended apart
    exact ⟨passes.kept.trans (joined executor d), passes.silent⟩

/-- Each event that is about a call asks where the call stands first. -/
theorem step (there : client.calls[call]? = some c) (ended : c.stage = .over) (event : Event) :
    Passes call client (client.step event) := by
  -- an event that moves a call finds it at another stage
  have ne {other : Nat} {d : Call} (found : client.calls[other]? = some d)
      (live : d.stage ≠ .over) : other ≠ call := by
    rintro rfl
    exact live (Option.some.inj (found.symm.trans there) ▸ ended)
  cases event with
  | send request => exact send there ended request
  | delivered other delivery =>
    unfold Client.step
    dsimp only
    split
    · next found => exact conclude (ne found nofun) _
    · exact nothing call client
  | timeout other attempt =>
    unfold Client.step
    dsimp only
    split
    · next d found =>
      split
      · next stage =>
        split
        · exact conclude (ne found (stage ▸ nofun)) _
        · exact nothing call client
      · next stage =>
        split
        · exact conclude (ne found (stage ▸ nofun)) _
        · exact nothing call client
      · exact nothing call client
    · exact nothing call client
  | wake other =>
    unfold Client.step
    dsimp only
    split
    · next found => exact attempt there ended (ne found nofun)
    · exact nothing call client
  | leave other =>
    unfold Client.step
    dsimp only
    split
    · exact nothing call client
    · exact nothing call client
    · next d live found =>
      have apart : other ≠ call := ne found fun done => by
        obtain ⟨request, attempt, stage⟩ := d
        obtain rfl : stage = .over := done
        exact live request attempt rfl
      exact ⟨List.getElem?_set_ne apart, .single fun same => apart (Option.some.inj same)⟩
  | fire generation => exact schedule there ended (·.fire generation)
  | turn batch reply => exact schedule there ended (·.turn batch reply)
  | flush => exact schedule there ended (·.flush)
  | close =>
    have passes := schedule there ended (·.close)
    refine ⟨passes.kept, passes.silent.append fun effect member => ?_⟩
    obtain ⟨batch, -, rfl⟩ := List.mem_map.mp member
    nofun

end Passes

/-- Between two runs the record of a call has stayed, and nothing has been brought about for it. -/
structure LeftAlone (call : Nat) (c : Call) (run later : Run) : Prop where
  record : later.client.calls[call]? = some c
  silent : ∃ more, later.effects = run.effects ++ more ∧ Without call more

/-- Whatever happens after a call is over, it is left alone. -/
theorem Run.final {run : Run} (there : run.client.calls[call]? = some c) (ended : c.stage = .over)
    (events : List Event) : LeftAlone call c run (run.steps events) := by
  induction events generalizing run with
  | nil => exact ⟨there, [], (List.append_nil _).symm, .nil call⟩
  | cons event rest ih =>
    have passes := Passes.step there ended event
    have still : (run.step event).client.calls[call]? = some c := passes.kept.trans there
    obtain ⟨stays, more, eq, silent⟩ := ih still
    refine ⟨stays, (run.client.step event).2 ++ more, ?_, passes.silent.append silent⟩
    rw [← List.append_assoc]
    exact eq

end NodeCall.Http
