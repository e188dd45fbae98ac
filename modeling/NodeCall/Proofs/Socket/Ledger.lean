import NodeCall.Proofs.Socket.Runs

/-!
# The ledger of exchanges

The entries that stand for callers are exactly the replies that callers are still owed.  Callers
put entries in; replies, lost connections, the end of the client, the timeout and callers that go
away take them out, and each of these leaves the two sides equal.
-/

namespace NodeCall.Socket

namespace Client

/-- Each number has one entry, and an entry stands for a caller just when that caller is owed the
reply under its number. -/
structure Ledger (client : Client) : Prop where
  distinct : client.pending.keys.Nodup
  matched : ∀ {caller number entry}, client.owed? caller = some (number, entry) ↔
    client.pending.get? number = some entry ∧ entry.caller? = some caller

namespace Ledger

variable {client next : Client} {caller : Nat} {c d : Caller} {number : UInt64}

theorem of_views (ledger : Ledger client) (pending : next.pending = client.pending)
    (owed : ∀ {caller number entry}, next.owed? caller = some (number, entry) ↔
      client.owed? caller = some (number, entry)) : Ledger next where
  distinct := pending ▸ ledger.distinct
  matched := by
    intro caller number entry
    rw [owed, pending]
    exact ledger.matched

theorem without (ledger : Ledger client) (number : UInt64) {n : UInt64} {entry : Pending} :
    (client.owed? caller = some (n, entry) ∧
      ¬∃ owing, client.pending.get? number = some owing ∧ owing.caller? = some caller ∧
        n = number) ↔
      (client.pending.erase number).get? n = some entry ∧ entry.caller? = some caller := by
  rw [ledger.matched, Table.get?_erase]
  by_cases hnumber : number = n
  · subst hnumber
    simp only [if_pos, reduceCtorEq, false_and, iff_false]
    rintro ⟨⟨hget, hentry⟩, others⟩
    exact others ⟨entry, hget, hentry, trivial⟩
  · simp [hnumber, Ne.symm hnumber]

theorem get?_insert_other {t : Table UInt64 Pending} {n : UInt64} {entry owing : Pending}
    (other : entry.caller? ≠ some caller) :
    (((t.erase number).insert number entry).get? n = some owing ∧ owing.caller? = some caller) ↔
      (t.erase number).get? n = some owing ∧ owing.caller? = some caller := by
  rw [Table.get?_insert]
  split
  · next heq =>
    subst heq
    simp only [Table.get?_erase, if_pos, reduceCtorEq, false_and, Option.some.injEq, iff_false]
    rintro ⟨rfl, hcaller⟩
    exact other hcaller
  · rfl

/-! ### Callers change -/

theorem arrive (ledger : Ledger client) (settled : c.awaited? = none) :
    Ledger { client with callers := client.callers ++ [c] } := by
  refine ledger.of_views rfl ?_
  intro caller number entry
  rw [owed?_arrive settled]

theorem withCaller (ledger : Ledger client) (there : client.callers[caller]? = some c)
    (settled : c.awaited? = none) (after : d.awaited? = none) :
    Ledger (client.withCaller caller d) := by
  have inside := (List.getElem?_eq_some_iff.mp there).1
  have before : client.owed? caller = none := by simp [owed?, there, settled]
  refine ledger.of_views rfl ?_
  intro other n entry
  rw [owed?_withCaller inside]
  split
  · next heq => simp [← heq, before, after]
  · rfl

theorem release (ledger : Ledger client) (there : client.callers[caller]? = some c)
    (under : c.number? = some number) (after : d.awaited? = none) :
    Ledger ((client.withCaller caller d).forget number) where
  distinct := by
    rw [pending_forget]
    exact Table.nodup_keys_erase ledger.distinct number
  matched := by
    intro other n entry
    have inside := (List.getElem?_eq_some_iff.mp there).1
    rw [owed?_forget, owed?_withCaller inside, pending_forget, Table.get?_erase, after]
    show _ ∧ ¬(∃ entry, client.pending.get? number = some entry ∧ _) ↔
      (if number = n then none else client.pending.get? n) = some entry ∧ _
    -- the caller itself is owed nothing any more, and its only entry has gone
    by_cases hcaller : caller = other
    · subst hcaller
      simp only [if_pos, Option.map_none, reduceCtorEq, false_and, false_iff]
      rintro ⟨hget, hentry⟩
      split at hget
      · simp at hget
      · next hne =>
        obtain ⟨c', hc', hawaited, -⟩ := owed?_eq_some.mp (ledger.matched.mpr ⟨hget, hentry⟩)
        obtain rfl := Option.some.inj (there.symm.trans hc')
        exact hne (Option.some.inj (under.symm.trans (Caller.number?_of_awaited? hawaited)))
    · rw [if_neg hcaller, ← Table.get?_erase]
      exact ledger.without number

/-! ### Entries come and go -/

theorem forget (ledger : Ledger client) (number : UInt64) : Ledger (client.forget number) where
  distinct := by
    rw [pending_forget]
    exact Table.nodup_keys_erase ledger.distinct number
  matched := by
    intro caller n entry
    rw [owed?_forget, pending_forget]
    exact ledger.without number

theorem expect (ledger : Ledger client) (number : UInt64) {entry : Pending}
    (nobody : entry.caller? = none) : Ledger (client.expect number entry) where
  distinct := Table.nodup_keys_insert (ledger.forget number).distinct number entry
  matched := by
    intro caller n owing
    rw [owed?_expect, pending_expect, get?_insert_other (by simp [nobody])]
    exact ledger.without number

theorem begun (ledger : Ledger client) (there : client.callers[caller]? = some c)
    (resting : c.stage = .resting) : Ledger (client.begun caller c) := by
  have settled : c.awaited? = none := by simp [Caller.awaited?, resting]
  have before : client.owed? caller = none := by simp [owed?, there, settled]
  let number := client.executor.counter
  let expecting := client.draw.2.expect number (c.entry caller)
  have drawn : Ledger client.draw.2 := ledger.of_views rfl Iff.rfl
  have still : expecting.callers[caller]? = some c := callers_expect there settled
  have inside := (List.getElem?_eq_some_iff.mp still).1
  have pending : expecting.pending = (client.pending.erase number).insert number (c.entry caller) :=
    pending_expect _ _
  refine ⟨Table.nodup_keys_insert (drawn.forget number).distinct number _, ?_⟩
  intro other n owing
  show (expecting.withCaller caller { c with stage := _ }).owed? other = _ ↔
    expecting.pending.get? n = _ ∧ _
  rw [owed?_withCaller inside, pending]
  by_cases hcaller : caller = other
  · subst hcaller
    rw [if_pos rfl, Table.get?_insert]
    show some (number, c.entry caller) = _ ↔ _
    by_cases hnumber : number = n
    · rw [if_pos hnumber, hnumber]
      constructor
      · intro heq
        obtain ⟨-, rfl⟩ := Prod.mk.inj (Option.some.inj heq)
        exact ⟨rfl, c.entry_caller? caller⟩
      · rintro ⟨heq, -⟩
        rw [Option.some.inj heq]
    · rw [if_neg hnumber, Table.get?_erase, if_neg hnumber]
      constructor
      · intro heq
        exact absurd (Prod.mk.inj (Option.some.inj heq)).1 hnumber
      · intro hrow
        rw [← ledger.matched, before] at hrow
        simp at hrow
  · rw [if_neg hcaller, get?_insert_other (by simp [hcaller]), owed?_expect]
    exact drawn.without number

theorem failPending (ledger : Ledger client) (error : TransportError) :
    Ledger (client.failPending error) where
  distinct := by simp
  matched := by
    intro caller n entry
    simp only [owed?_failPending, pending_failPending, Table.get?_empty, reduceCtorEq, false_and,
      iff_false]
    rintro ⟨owed, others⟩
    obtain ⟨hget, hcaller⟩ := ledger.matched.mp owed
    exact others (n, entry) (Table.mem_rows_of_get? hget) ⟨hcaller, rfl⟩

theorem settle (ledger : Ledger client) {entry : Pending}
    (pending : client.pending.get? number = some entry) (reply : Outcome Response) :
    Ledger ({ client with pending := client.pending.erase number }.settle number entry reply) where
  distinct := by
    rw [pending_settle]
    exact Table.nodup_keys_erase ledger.distinct number
  matched := by
    intro caller n owing
    rw [owed?_settle, pending_settle, ← ledger.without number]
    simp [pending, owed?]

/-! ### Turns -/

theorem shutDown (ledger : Ledger client) : Ledger client.shutDown.1 :=
  (ledger.failPending .shutdown).of_views rfl Iff.rfl

theorem pause (ledger : Ledger client) (dial : Nat) : Ledger (client.pause dial).1 := by
  unfold Client.pause
  split
  · exact ledger.of_views rfl Iff.rfl
  · exact ledger.shutDown

theorem lost (ledger : Ledger client) : Ledger client.lost := by
  refine failPending ?_ .socketClosed
  exact ledger.of_views rfl Iff.rfl

theorem disconnect (ledger : Ledger client) : Ledger client.disconnect.1 := by
  obtain ⟨pending, callers, -⟩ := @disconnect_same client
  refine ledger.lost.of_views (pending.trans pending_lost.symm) ?_
  simp [owed?, callers]

theorem replaying (ledger : Ledger client) (key : Key) : Ledger (client.replaying key) := by
  have drawn : Ledger client.draw.2 := ledger.of_views rfl Iff.rfl
  exact drawn.expect client.executor.counter rfl

theorem writeOwn (ledger : Ledger client) (method : String) (params : List Json) :
    Ledger (client.writeOwn method params) := by
  have drawn : Ledger client.draw.2 := ledger.of_views rfl Iff.rfl
  have nobody : Pending.keepAlive.caller? = none := rfl
  have expecting := drawn.expect client.executor.counter nobody
  exact expecting.of_views rfl Iff.rfl

theorem bindOrEnd (ledger : Ledger client) (key : Key) (id : String) :
    Ledger (client.bindOrEnd key id) := by
  rw [bindOrEnd_eq]
  split
  · exact ledger.of_views rfl Iff.rfl
  · exact ledger.writeOwn _ _

/-- It makes no difference whether a caller gets its reply before or after the task has seen to the
subscription. -/
theorem bindOrEnd_deliver {key : Key} {id : String} {reply : Outcome Response}
    (ledger : Ledger ((client.deliver caller number reply).bindOrEnd key id)) :
    Ledger ((client.bindOrEnd key id).deliver caller number reply) := by
  have same : SameElsewhere client (client.deliver caller number reply) := deliver_same _ _ _
  rw [bindOrEnd_eq, same.registry] at ledger
  rw [bindOrEnd_eq]
  split at ledger
  · next there =>
    rw [if_pos there]
    refine ledger.of_views (by simp) ?_
    intro other n entry
    rw [owed?_deliver]
    exact (@owed?_deliver client caller other number n reply entry).symm
  · next gone =>
    rw [if_neg gone]
    refine ledger.of_views ?_ ?_
    · simp only [pending_deliver, pending_writeOwn, same.executor]
    · intro other n entry
      simp only [owed?_deliver, owed?_writeOwn, pending_deliver, same.executor, and_right_comm]

theorem takeReply (ledger : Ledger client) {entry : Pending}
    (pending : client.pending.get? number = some entry) (response : Response) :
    Ledger ({ client with pending := client.pending.erase number }.takeReply number entry
      response).1 := by
  have settled := ledger.settle pending (.ok response)
  unfold Client.takeReply
  cases entry with
  | call caller => exact settled
  | keepAlive => exact settled
  | subscribe key caller =>
    dsimp only
    split
    -- until the reply is given the entry is missing, so it is given first here
    · exact bindOrEnd_deliver (bindOrEnd settled key _)
    · exact settled
  | resubscribe key =>
    dsimp only
    split
    · exact bindOrEnd settled key _
    · exact settled.of_views rfl Iff.rfl

theorem move {event : Event} {effects : List Effect} (move : Move event client next effects)
    (ledger : Ledger client) : Ledger next := by
  cases move with
  | draw => exact ledger.of_views rfl Iff.rfl
  | arrive c resting => exact ledger.arrive (by simp [Caller.awaited?, resting])
  | refuse request answer => exact ledger.arrive rfl
  | begin caller c there resting connected => exact ledger.begun there resting
  | release caller purpose request exchange there turn => exact ledger.release there rfl rfl
  | rest caller attempt request delay there => exact ledger.withCaller there rfl rfl
  | finish caller c answer there resting =>
    exact ledger.withCaller there (by simp [Caller.awaited?, resting]) rfl
  | leave caller purpose request there leaves => exact ledger.withCaller there rfl rfl
  | abandon caller purpose request exchange there leaves => exact ledger.release there rfl rfl
  | insert params => exact ledger.of_views rfl Iff.rfl
  | remove key => exact ledger.of_views rfl Iff.rfl
  | close => exact ledger.of_views rfl Iff.rfl
  | stop closing phase => exact ledger.shutDown
  | lose connected => exact ledger.disconnect
  | write frame rest serving next => exact ledger.of_views rfl Iff.rfl
  | writeOwn frame writing => exact ledger.of_views rfl Iff.rfl
  | replay key params left next =>
    exact (ledger.replaying key).of_views rfl Iff.rfl
  | loseReplay key params left next => exact (ledger.replaying key).disconnect
  | push notification key serving routed => exact ledger
  | reply text number response entry received means serving pending =>
    exact ledger.takeReply pending response
  | probe serving => exact ledger.writeOwn _ _
  | dial dial pausing => exact ledger.of_views rfl Iff.rfl
  | reconnect dial dialling => exact ledger.of_views rfl Iff.rfl
  | redial dial dialling => exact ledger.pause (dial + 1)

end Ledger
end Client

theorem Run.ledger (config : Config) (display : String) (events : List Event) :
    ((connected config display).steps events).client.Ledger := by
  have initial : (connected config display).client.Ledger :=
    ⟨Table.nodup_keys_empty, by simp [Client.owed?, connected, start, Client.connected]⟩
  exact invariant (P := fun _ client => client.Ledger) (fun move => Client.Ledger.move move)
    initial events

end NodeCall.Socket
