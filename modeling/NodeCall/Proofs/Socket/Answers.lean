import NodeCall.Proofs.Socket.Settled
import Mathlib.Data.List.Nodup

/-!
# Waits, entries and answers of a run

The main statement is `Run.waits_match_entries`: after any turns the callers that wait without a
reply and the entries that stand for callers correspond one to one, each wait can be settled by
whatever the connection comes to next, and no caller gets two answers.
-/

namespace NodeCall.Socket

/-- The answers that a caller is given. -/
def answersTo (caller : Nat) (effects : List Effect) : List Answer :=
  effects.filterMap fun
    | .answered other answer => if other = caller then some answer else none
    | _ => none

@[simp] theorem answersTo_append (caller : Nat) (effects others : List Effect) :
    answersTo caller (effects ++ others) = answersTo caller effects ++ answersTo caller others :=
  List.filterMap_append

theorem answersTo_answered (caller other : Nat) (answer : Answer) :
    answersTo caller [.answered other answer] = if other = caller then [answer] else [] := by
  unfold answersTo
  split <;> simp [*]

theorem answersTo_eq_nil {effects : List Effect} (caller : Nat)
    (nobody : ∀ effect ∈ effects, effect.caller? = none) : answersTo caller effects = [] := by
  refine List.filterMap_eq_nil_iff.mpr ?_
  intro effect member
  split
  · exact absurd (nobody _ member) (by simp [Effect.caller?])
  · rfl

namespace Client

variable {client next : Client} {event : Event} {effects others : List Effect}

theorem over_finish {caller : Nat} {c : Caller} {answer : Answer}
    (there : client.callers[caller]? = some c) :
    (client.finish caller c answer).1.callers[caller]? = some { c with stage := .over } := by
  have inside := (List.getElem?_eq_some_iff.mp there).1
  simp [finish, withCaller, inside]

theorem Move.answers (move : Move event client next effects) (caller : Nat) :
    answersTo caller effects = [] ∨
      (∃ answer, answersTo caller effects = [answer]) ∧
      (∀ c, client.callers[caller]? = some c → c.stage ≠ .over) ∧
      ∃ c, next.callers[caller]? = some c ∧ c.stage = .over := by
  cases move with
  | refuse request answer =>
    by_cases heq : client.callers.length = caller
    · subst heq
      refine .inr ⟨⟨answer, ?_⟩, ?_, ⟨.send 0, request, .over⟩, ?_, rfl⟩
      · exact (answersTo_answered _ _ answer).trans (if_pos rfl)
      · intro c hc
        simp at hc
      · simp [joinOver]
    · exact .inl ((answersTo_answered _ _ answer).trans (if_neg heq))
  | finish other c answer there resting =>
    by_cases heq : other = caller
    · subst heq
      refine .inr ⟨⟨answer, ?_⟩, ?_, _, over_finish there, rfl⟩
      · exact (answersTo_answered _ _ answer).trans (if_pos rfl)
      · intro d hd
        obtain rfl := Option.some.inj (there.symm.trans hd)
        simp [resting]
    · exact .inl ((answersTo_answered _ _ answer).trans (if_neg heq))
  | lose connected => exact .inl (answersTo_eq_nil caller fun _ => caller?_disconnect)
  | loseReplay key params left next =>
    exact .inl (answersTo_eq_nil caller fun _ => caller?_disconnect)
  | redial dial dialling => exact .inl (answersTo_eq_nil caller fun _ => caller?_pause)
  | reply text number response entry received means serving pending =>
    exact .inl (answersTo_eq_nil caller fun _ => caller?_takeReply)
  | _ => exact .inl rfl

/-- No caller has two answers, and one that has an answer is done. -/
def Answered (effects : List Effect) (client : Client) : Prop :=
  ∀ caller, answersTo caller effects = [] ∨ ∃ answer c, answersTo caller effects = [answer] ∧
    client.callers[caller]? = some c ∧ c.stage = .over

theorem Answered.move (move : Move event client next effects) (answered : Answered others client) :
    Answered (others ++ effects) next := by
  intro caller
  rw [answersTo_append]
  rcases move.answers caller with hnone | ⟨⟨answer, hanswer⟩, waiting, d, hd, hover⟩
  · rw [hnone, List.append_nil]
    rcases answered caller with hbefore | ⟨answer, c, hbefore, there, hover⟩
    · exact .inl hbefore
    · have still : next.callers[caller]? = some c := by
        refine move.keeps there ?_ ?_ (.inl hover)
        · simp [Caller.awaited?, hover]
        · simp [hover]
      exact .inr ⟨answer, c, hbefore, still, hover⟩
  · rcases answered caller with hbefore | ⟨-, c, -, there, hover'⟩
    · rw [hbefore, hanswer]
      exact .inr ⟨answer, d, rfl, hd, hover⟩
    · exact absurd hover' (waiting c there)

/-! ### One to one -/

/-- The number and the entry of every caller that is owed a reply. -/
def owed (client : Client) : List (UInt64 × Pending) :=
  (List.range client.callers.length).filterMap client.owed?

theorem mem_owed {row : UInt64 × Pending} :
    row ∈ client.owed ↔ ∃ caller, client.owed? caller = some row := by
  unfold owed
  rw [List.mem_filterMap]
  constructor
  · rintro ⟨caller, -, hrow⟩
    exact ⟨caller, hrow⟩
  · rintro ⟨caller, hrow⟩
    obtain ⟨c, there, -⟩ := owed?_eq_some.mp hrow
    exact ⟨caller, List.mem_range.mpr (List.getElem?_eq_some_iff.mp there).1, hrow⟩

theorem nodup_owed : client.owed.Nodup := by
  refine List.Nodup.filterMap ?_ List.nodup_range
  intro first second row hfirst hsecond
  have hcaller := owed?_entry (Option.mem_def.mp hfirst)
  rw [owed?_entry (Option.mem_def.mp hsecond)] at hcaller
  exact (Option.some.inj hcaller).symm

theorem Ledger.perm (ledger : Ledger client) :
    client.owed.Perm (client.pending.rows.filter fun row => row.2.caller?.isSome) := by
  have rows : client.pending.rows.Nodup := List.Nodup.of_map _ ledger.distinct
  rw [List.perm_ext_iff_of_nodup nodup_owed (rows.filter _)]
  intro row
  rw [mem_owed, List.mem_filter, Table.mem_rows_iff ledger.distinct, Option.isSome_iff_exists,
    ← exists_and_left]
  exact exists_congr fun caller => ledger.matched

end Client

/-- After any turns of callers and of the task, the callers that wait without a reply correspond
one to one to the entries that stand for callers, each under a number of its own.  Such a wait can
be settled by a reply, by the loss of the connection and by the end of the client; a reply that is
there stays until its caller takes it or goes away, and no caller is answered twice. -/
theorem Run.waits_match_entries (config : Config) (display : String) (events : List Event) :
    let run := (Run.connected config display).steps events
    run.client.owed.Perm (run.client.pending.rows.filter fun row => row.2.caller?.isSome) ∧
    run.client.pending.keys.Nodup ∧
    (∀ caller number entry, run.client.owed? caller = some (number, entry) ↔
      run.client.pending.get? number = some entry ∧ entry.caller? = some caller) ∧
    (∀ caller number entry, run.client.owed? caller = some (number, entry) →
      run.client.Resolvable caller number) ∧
    (∀ caller number reply event, run.client.Holds caller number reply →
      event ≠ .resume caller → event ≠ .leave caller →
      (run.client.step event).1.Holds caller number reply) ∧
    ∀ caller, answersTo caller run.effects = [] ∨
      ∃ answer c, answersTo caller run.effects = [answer] ∧
        run.client.callers[caller]? = some c ∧ c.stage = .over := by
  intro run
  have ledger : run.client.Ledger := ledger config display events
  have linked : run.client.Linked := linked config display events
  have answered : Client.Answered run.effects run.client := by
    refine invariant (P := Client.Answered) (fun move => Client.Answered.move move) ?_ events
    intro caller
    exact .inl rfl
  refine ⟨ledger.perm, ledger.distinct, fun _ _ _ => ledger.matched, ?_, ?_, answered⟩
  · intro caller number entry owed
    exact Client.resolvable ledger linked owed
  · rintro caller number reply event ⟨purpose, request, callerId, there⟩ resume leave
    refine ⟨purpose, request, callerId, ?_⟩
    exact (Client.moves_step run.client event).keeps there rfl (by simp) (.inr ⟨resume, leave⟩)

/-- A call and a subscriber that wait at the same time. -/
theorem Run.waits_match_entries_of_two :
    let run := (Run.connected .standard "ws://node").steps
      [.send (Request.call "eth_chainId" []), .subscribe [.string "newHeads"], .write true]
    run.client.owed.Perm [(2, .call 0), (3, .subscribe 1 1)] ∧
      run.client.Resolvable 0 2 ∧ run.client.Resolvable 1 3 := by
  intro run
  obtain ⟨perm, -, -, resolvable, -⟩ := Run.waits_match_entries .standard "ws://node"
    [.send (Request.call "eth_chainId" []), .subscribe [.string "newHeads"], .write true]
  exact ⟨perm, resolvable 0 2 (.call 0) rfl, resolvable 1 3 (.subscribe 1 1) rfl⟩

end NodeCall.Socket
