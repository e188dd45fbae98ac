import NodeCall.Proofs.Socket.Runs
import NodeCall.Proofs.Socket.Settled

/-!
# Callers that are over

A caller that is over is left alone by all later turns, those of other callers and those of the
connection.  No exchange is begun for it any more, and it is told nothing.
-/

namespace NodeCall.Socket

/-- None of these effects is about a caller. -/
def Without (caller : Nat) (effects : List Effect) : Prop :=
  ∀ effect ∈ effects, effect.caller? ≠ some caller

namespace Without

variable {caller : Nat} {effects : List Effect}

theorem nil (caller : Nat) : Without caller [] := fun _ member => absurd member List.not_mem_nil

theorem of_nobody (nobody : ∀ effect ∈ effects, effect.caller? = none) : Without caller effects :=
  fun effect member => by simp [nobody effect member]

theorem single {effect : Effect} (first : effect.caller? ≠ some caller) :
    Without caller [effect] :=
  List.forall_mem_singleton.mpr first

end Without

namespace Client

variable {client next : Client} {event : Event} {effects : List Effect} {caller : Nat} {c : Caller}

/-- Only a caller at rest is given something, or one that comes last. -/
theorem Move.without (move : Move event client next effects)
    (there : client.callers[caller]? = some c) (ended : c.stage = .over) :
    Without caller effects := by
  have apart {other : Nat} {d : Caller} (found : client.callers[other]? = some d)
      (resting : d.stage = .resting) : some other ≠ some caller := by
    intro same
    obtain rfl := Option.some.inj same
    obtain rfl := Option.some.inj (found.symm.trans there)
    cases resting.symm.trans ended
  cases move with
  | refuse request answer =>
    refine .single fun same => ?_
    have last : client.callers.length = caller := Option.some.inj same
    have inside := (List.getElem?_eq_some_iff.mp there).1
    omega
  | begin other d found resting connected => exact .single (apart found resting)
  | rest other attempt request delay found => exact .single (apart found rfl)
  | finish other d answer found resting => exact .single (apart found resting)
  | lose connected => exact .of_nobody fun _ => caller?_disconnect
  | loseReplay key params left next => exact .of_nobody fun _ => caller?_disconnect
  | redial dial dialling => exact .of_nobody fun _ => caller?_pause
  | reply text number response entry received means serving pending =>
    exact .of_nobody fun _ => caller?_takeReply
  | stop closing phase => exact .single nofun
  | write frame rest serving next => exact .single nofun
  | writeOwn frame writing => exact .single nofun
  | replay key params left next => exact .single nofun
  | push notification key serving routed => exact .single nofun
  | dial dial pausing => exact .single nofun
  | reconnect dial dialling => exact .single nofun
  | _ => exact .nil caller

end Client

/-- Between two runs the record of a caller has stayed, and nothing has been brought about for it. -/
structure LeftAlone (caller : Nat) (c : Caller) (run later : Run) : Prop where
  record : later.client.callers[caller]? = some c
  silent : ∃ more, later.effects = run.effects ++ more ∧ Without caller more

/-- Whatever happens after a caller is over, it is left alone. -/
theorem Run.final {run : Run} {caller : Nat} {c : Caller}
    (there : run.client.callers[caller]? = some c) (ended : c.stage = .over) (events : List Event) :
    LeftAlone caller c run (run.steps events) := by
  have settled : c.awaited? = none := by simp [Caller.awaited?, ended]
  have awake : c.stage ≠ .resting := by simp [ended]
  have start : LeftAlone caller c run run := ⟨there, [], (List.append_nil _).symm, .nil caller⟩
  refine invariant (P := fun effects client => LeftAlone caller c run ⟨client, effects⟩) ?_ start
    events
  rintro event client next effects others move ⟨there, more, eq, silent⟩
  refine ⟨move.keeps there settled awake (.inl ended), more ++ effects, ?_, ?_⟩
  · rw [← List.append_assoc]
    exact congrArg (· ++ effects) eq
  · intro effect member
    rcases List.mem_append.mp member with before | now
    · exact silent effect before
    · exact move.without there ended effect now

end NodeCall.Socket
