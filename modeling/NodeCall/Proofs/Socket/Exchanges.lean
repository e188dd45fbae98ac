import NodeCall.Proofs.Table
import NodeCall.Socket.Client

/-!
# Who waits under which number

A caller that waits without a reply is owed one.  What the operations on exchanges do is said here
through the table of pending entries and through what each caller is owed; nothing else of a
client is touched by them.
-/

namespace NodeCall.Socket

/-- The number under which a caller waits, as long as no reply is there. -/
def Caller.awaited? (c : Caller) : Option UInt64 :=
  match c.stage with
  | .waiting ⟨number, _, none⟩ => some number
  | _ => none

theorem Caller.awaited?_eq_some {c : Caller} {number : UInt64} :
    c.awaited? = some number ↔ ∃ callerId, c.stage = .waiting ⟨number, callerId, none⟩ := by
  obtain ⟨purpose, request, stage⟩ := c
  cases stage with
  | waiting exchange =>
    obtain ⟨n, callerId, reply⟩ := exchange
    cases reply <;> simp [awaited?]
  | _ => simp [awaited?]

/-- The number of a caller's exchange, whether or not its reply is there. -/
def Caller.number? (c : Caller) : Option UInt64 :=
  match c.stage with
  | .waiting exchange => some exchange.number
  | _ => none

theorem Caller.number?_of_awaited? {c : Caller} {number : UInt64}
    (awaited : c.awaited? = some number) : c.number? = some number := by
  obtain ⟨callerId, hstage⟩ := awaited?_eq_some.mp awaited
  simp [number?, hstage]

@[simp] theorem Caller.entry_caller? (c : Caller) (caller : Nat) :
    (c.entry caller).caller? = some caller := by
  obtain ⟨purpose, request, stage⟩ := c
  cases purpose <;> rfl

namespace Client

variable {client : Client}

/-- The number under which a caller is owed a reply, and what that reply is for. -/
def owed? (client : Client) (caller : Nat) : Option (UInt64 × Pending) :=
  client.callers[caller]?.bind fun c => c.awaited?.map fun number => (number, c.entry caller)

/-- The number of the exchange of a caller. -/
def number? (client : Client) (caller : Nat) : Option UInt64 :=
  client.callers[caller]?.bind Caller.number?

theorem owed?_eq_some {caller : Nat} {number : UInt64} {entry : Pending} :
    client.owed? caller = some (number, entry) ↔
      ∃ c, client.callers[caller]? = some c ∧ c.awaited? = some number ∧
        c.entry caller = entry := by
  unfold owed?
  rw [Option.bind_eq_some_iff]
  refine exists_congr fun c => and_congr_right fun _ => ?_
  cases c.awaited? <;> simp

theorem owed?_entry {caller : Nat} {number : UInt64} {entry : Pending}
    (owed : client.owed? caller = some (number, entry)) : entry.caller? = some caller := by
  obtain ⟨c, -, -, rfl⟩ := owed?_eq_some.mp owed
  exact c.entry_caller? caller

/-! ### What is not touched -/

/-- Two clients that differ in their callers and in the entries at most. -/
def SameElsewhere (client next : Client) : Prop :=
  next = { client with pending := next.pending, callers := next.callers }

namespace SameElsewhere

variable {next last : Client}

theorem refl (client : Client) : SameElsewhere client client := by
  simp [SameElsewhere]

theorem trans (first : SameElsewhere client next) (second : SameElsewhere next last) :
    SameElsewhere client last := by
  unfold SameElsewhere at *
  rw [second, first]

theorem withPending (client : Client) (pending : Table UInt64 Pending) :
    SameElsewhere client { client with pending } := rfl

theorem executor (same : SameElsewhere client next) : next.executor = client.executor := by
  rw [same]

theorem state (same : SameElsewhere client next) : next.state = client.state := by rw [same]

theorem phase (same : SameElsewhere client next) : next.phase = client.phase := by rw [same]

theorem registry (same : SameElsewhere client next) : next.registry = client.registry := by
  rw [same]

end SameElsewhere

/-! ### Replies for callers -/

/-- A reply is left with the caller that waits for it; otherwise nothing happens. -/
theorem deliver_cases (client : Client) (caller : Nat) (number : UInt64)
    (reply : Outcome Response) :
    (∃ purpose request callerId,
      client.callers[caller]? = some ⟨purpose, request, .waiting ⟨number, callerId, none⟩⟩ ∧
      client.deliver caller number reply =
        client.withCaller caller ⟨purpose, request, .waiting ⟨number, callerId, some reply⟩⟩) ∨
    (∀ c, client.callers[caller]? = some c → c.awaited? ≠ some number) ∧
      client.deliver caller number reply = client := by
  unfold deliver
  split
  · next purpose request n callerId there =>
    split
    · next hnumber =>
      subst hnumber
      exact .inl ⟨purpose, request, callerId, there, rfl⟩
    · next hnumber =>
      refine .inr ⟨?_, rfl⟩
      intro c hc
      obtain rfl := Option.some.inj (there.symm.trans hc)
      simpa [Caller.awaited?] using hnumber
  · next idle =>
    refine .inr ⟨?_, rfl⟩
    intro c hc hawaited
    obtain ⟨callerId, hstage⟩ := Caller.awaited?_eq_some.mp hawaited
    exact idle c.purpose c.request number callerId (by rw [hc, ← hstage])

theorem deliver_same (caller : Nat) (number : UInt64) (reply : Outcome Response) :
    SameElsewhere client (client.deliver caller number reply) := by
  obtain ⟨purpose, request, callerId, -, heq⟩ | ⟨-, heq⟩ :=
    client.deliver_cases caller number reply
  · rw [heq]
    rfl
  · rw [heq]
    exact .refl client

@[simp] theorem pending_deliver (caller : Nat) (number : UInt64) (reply : Outcome Response) :
    (client.deliver caller number reply).pending = client.pending := by
  obtain ⟨purpose, request, callerId, -, heq⟩ | ⟨-, heq⟩ :=
    client.deliver_cases caller number reply
  · rw [heq]
    rfl
  · rw [heq]

theorem callers_deliver {caller other : Nat} {c : Caller} {number : UInt64}
    {reply : Outcome Response} (there : client.callers[other]? = some c)
    (settled : c.awaited? = none) :
    (client.deliver caller number reply).callers[other]? = some c := by
  obtain ⟨purpose, request, callerId, hcaller, heq⟩ | ⟨-, heq⟩ :=
    client.deliver_cases caller number reply
  · have hne : caller ≠ other := by
      rintro rfl
      obtain rfl := Option.some.inj (there.symm.trans hcaller)
      simp [Caller.awaited?] at settled
    rw [heq]
    simpa [withCaller, List.getElem?_set, hne] using there
  · rwa [heq]

theorem callers_arrive {c : Caller} {α : Type} {view : Caller → Option α} (none : view c = none)
    (other : Nat) :
    (client.callers ++ [c])[other]?.bind view = client.callers[other]?.bind view := by
  rw [List.getElem?_append]
  split
  · rfl
  · next outside =>
    rw [List.getElem?_eq_none (Nat.le_of_not_lt outside)]
    cases other - client.callers.length <;> simp [none]

theorem owed?_arrive {c : Caller} (settled : c.awaited? = none) (other : Nat) :
    ({ client with callers := client.callers ++ [c] } : Client).owed? other =
      client.owed? other :=
  callers_arrive (by simp [settled]) other

theorem number?_arrive {c : Caller} (idle : c.number? = none) (other : Nat) :
    ({ client with callers := client.callers ++ [c] } : Client).number? other =
      client.number? other :=
  callers_arrive idle other

theorem number?_withCaller {caller : Nat} {c : Caller} (inside : caller < client.callers.length)
    (other : Nat) : (client.withCaller caller c).number? other =
      if caller = other then c.number? else client.number? other := by
  unfold number? withCaller
  rw [List.getElem?_set]
  split
  · next heq =>
    subst heq
    rfl
  · rfl

@[simp] theorem number?_deliver (caller : Nat) (number : UInt64) (reply : Outcome Response)
    (other : Nat) : (client.deliver caller number reply).number? other = client.number? other := by
  obtain ⟨purpose, request, callerId, there, heq⟩ | ⟨-, heq⟩ :=
    client.deliver_cases caller number reply
  · have inside := (List.getElem?_eq_some_iff.mp there).1
    rw [heq, number?_withCaller inside]
    split
    · next hother =>
      subst hother
      simp [number?, there, Caller.number?]
    · rfl
  · rw [heq]

theorem owed?_withCaller {caller other : Nat} {c : Caller}
    (inside : caller < client.callers.length) :
    (client.withCaller caller c).owed? other =
      if caller = other then c.awaited?.map fun number => (number, c.entry caller)
      else client.owed? other := by
  unfold owed? withCaller
  rw [List.getElem?_set]
  split
  · next heq =>
    subst heq
    rfl
  · rfl

theorem owed?_deliver {caller other : Nat} {number n : UInt64} {reply : Outcome Response}
    {entry : Pending} :
    (client.deliver caller number reply).owed? other = some (n, entry) ↔
      client.owed? other = some (n, entry) ∧ ¬(caller = other ∧ n = number) := by
  obtain ⟨purpose, request, callerId, hcaller, heq⟩ | ⟨idle, heq⟩ :=
    client.deliver_cases caller number reply
  · have inside := (List.getElem?_eq_some_iff.mp hcaller).1
    rw [heq, owed?_withCaller inside]
    by_cases hother : caller = other
    · subst hother
      have howed : client.owed? caller = some (number,
          Caller.entry ⟨purpose, request, .waiting ⟨number, callerId, none⟩⟩ caller) :=
        owed?_eq_some.mpr ⟨_, hcaller, rfl, rfl⟩
      rw [if_pos rfl, howed]
      constructor
      · intro h
        simp [Caller.awaited?] at h
      · rintro ⟨heq, hne⟩
        obtain ⟨rfl, -⟩ := Prod.mk.inj (Option.some.inj heq)
        exact absurd ⟨rfl, rfl⟩ hne
    · simp [hother]
  · rw [heq]
    refine ⟨fun owed => ⟨owed, ?_⟩, And.left⟩
    rintro ⟨rfl, rfl⟩
    obtain ⟨c, hc, hawaited, -⟩ := owed?_eq_some.mp owed
    exact idle c hc hawaited

theorem settle_same (number : UInt64) (entry : Pending) (reply : Outcome Response) :
    SameElsewhere client (client.settle number entry reply) := by
  unfold settle
  split
  · exact deliver_same _ _ _
  · exact .refl client

@[simp] theorem pending_settle (number : UInt64) (entry : Pending) (reply : Outcome Response) :
    (client.settle number entry reply).pending = client.pending := by
  unfold settle
  split <;> simp

theorem callers_settle {other : Nat} {c : Caller} {number : UInt64} {entry : Pending}
    {reply : Outcome Response} (there : client.callers[other]? = some c)
    (settled : c.awaited? = none) :
    (client.settle number entry reply).callers[other]? = some c := by
  unfold settle
  split
  · exact callers_deliver there settled
  · exact there

@[simp] theorem number?_settle (number : UInt64) (entry : Pending) (reply : Outcome Response)
    (other : Nat) : (client.settle number entry reply).number? other = client.number? other := by
  unfold settle
  split <;> simp

theorem owed?_settle {other : Nat} {number n : UInt64} {reply : Outcome Response}
    {entry owing : Pending} :
    (client.settle number entry reply).owed? other = some (n, owing) ↔
      client.owed? other = some (n, owing) ∧ ¬(entry.caller? = some other ∧ n = number) := by
  unfold settle
  split
  · next caller hcaller => simp [owed?_deliver, hcaller]
  · next hcaller => simp [hcaller]

/-! ### Entries of numbers -/

theorem forget_same (number : UInt64) : SameElsewhere client (client.forget number) := by
  unfold forget
  split
  · exact (SameElsewhere.withPending client _).trans (settle_same _ _ _)
  · exact .refl client

theorem pending_forget (number : UInt64) :
    (client.forget number).pending = client.pending.erase number := by
  unfold forget
  split
  · simp
  · next absent => exact (Table.erase_of_get?_none absent).symm

theorem callers_forget {other : Nat} {c : Caller} {number : UInt64}
    (there : client.callers[other]? = some c) (settled : c.awaited? = none) :
    (client.forget number).callers[other]? = some c := by
  unfold forget
  split
  · exact callers_settle there settled
  · exact there

@[simp] theorem number?_forget (number : UInt64) (other : Nat) :
    (client.forget number).number? other = client.number? other := by
  unfold forget
  split
  · exact number?_settle _ _ _ _
  · rfl

theorem owed?_forget {other : Nat} {number n : UInt64} {owing : Pending} :
    (client.forget number).owed? other = some (n, owing) ↔
      client.owed? other = some (n, owing) ∧
        ¬∃ entry, client.pending.get? number = some entry ∧ entry.caller? = some other ∧
          n = number := by
  unfold forget
  split
  · next entry hentry =>
    rw [owed?_settle]
    simp [hentry, owed?]
  · next absent => simp [absent]

theorem expect_same (number : UInt64) (entry : Pending) :
    SameElsewhere client (client.expect number entry) :=
  (forget_same number).trans rfl

theorem drawn_same (client : Client) (entry : Pending) :
    SameElsewhere client.draw.2 (client.draw.2.expect client.executor.counter entry) :=
  expect_same _ _

theorem pending_expect (number : UInt64) (entry : Pending) :
    (client.expect number entry).pending = (client.pending.erase number).insert number entry := by
  unfold expect
  rw [← pending_forget]

/-- Of an exchange whose connection is lost while it is entered the number is drawn, and that is all:
it has neither an entry nor a frame. -/
theorem enter_of_lost {caller : Nat} {c : Caller} {entry : Pending} {later : State}
    (connected : client.state = .connected) (lost : later ≠ .connected) :
    let entered := client.enter caller c entry later
    entered.1 = .error (closedError later) ∧
      entered.2.pending.get? client.executor.counter = none ∧
      SameElsewhere client.draw.2 entered.2 := by
  have eq : client.enter caller c entry later = (.error (closedError later),
      (client.draw.2.expect client.executor.counter entry).forget client.executor.counter) := by
    rw [enter, if_pos connected]
    exact if_neg lost
  rw [eq]
  refine ⟨rfl, ?_, (drawn_same client entry).trans (forget_same _)⟩
  rw [pending_forget, Table.get?_erase, if_pos rfl]

theorem callers_expect {other : Nat} {c : Caller} {number : UInt64} {entry : Pending}
    (there : client.callers[other]? = some c) (settled : c.awaited? = none) :
    (client.expect number entry).callers[other]? = some c :=
  callers_forget there settled

theorem owed?_expect {other : Nat} {number n : UInt64} {entry owing : Pending} :
    (client.expect number entry).owed? other = some (n, owing) ↔
      client.owed? other = some (n, owing) ∧
        ¬∃ entry, client.pending.get? number = some entry ∧ entry.caller? = some other ∧
          n = number :=
  @owed?_forget client _ _ _ _

/-! ### Requests of the task -/

theorem pending_writeOwn (method : String) (params : List Json) :
    (client.writeOwn method params).pending =
      (client.pending.erase client.executor.counter).insert client.executor.counter .keepAlive :=
  @pending_expect client.draw.2 _ _

theorem callers_writeOwn {other : Nat} {c : Caller} {method : String} {params : List Json}
    (there : client.callers[other]? = some c) (settled : c.awaited? = none) :
    (client.writeOwn method params).callers[other]? = some c :=
  @callers_forget client.draw.2 _ _ _ there settled

theorem owed?_writeOwn {other : Nat} {n : UInt64} {method : String} {params : List Json}
    {owing : Pending} :
    (client.writeOwn method params).owed? other = some (n, owing) ↔
      client.owed? other = some (n, owing) ∧
        ¬∃ entry, client.pending.get? client.executor.counter = some entry ∧
          entry.caller? = some other ∧ n = client.executor.counter :=
  @owed?_forget client.draw.2 _ _ _ _

theorem bindOrEnd_eq (key : Key) (id : String) :
    client.bindOrEnd key id =
      if client.registry.entries.contains key then
        { client with registry := (client.registry.bind key id).2 }
      else client.writeOwn unsubscribeMethod [.string id] := by
  unfold bindOrEnd Registry.bind Table.contains
  cases client.registry.entries.get? key <;> rfl

/-! ### The same reply for all -/

theorem settleAll_same (reply : Outcome Response) (rows : List (UInt64 × Pending)) :
    SameElsewhere client (settleAll reply client rows) := by
  induction rows generalizing client with
  | nil => exact .refl client
  | cons row rest ih => exact (settle_same _ _ _).trans ih

theorem pending_settleAll (reply : Outcome Response) (rows : List (UInt64 × Pending)) :
    (settleAll reply client rows).pending = client.pending := by
  induction rows generalizing client with
  | nil => rfl
  | cons row rest ih => exact ih.trans (pending_settle _ _ _)

theorem callers_settleAll {other : Nat} {c : Caller} {reply : Outcome Response}
    {rows : List (UInt64 × Pending)} (there : client.callers[other]? = some c)
    (settled : c.awaited? = none) :
    (settleAll reply client rows).callers[other]? = some c := by
  induction rows generalizing client with
  | nil => exact there
  | cons row rest ih => exact ih (callers_settle there settled)

@[simp] theorem number?_settleAll (reply : Outcome Response) (rows : List (UInt64 × Pending))
    (other : Nat) : (settleAll reply client rows).number? other = client.number? other := by
  induction rows generalizing client with
  | nil => rfl
  | cons row rest ih => exact ih.trans (number?_settle _ _ _ _)

theorem owed?_settleAll {other : Nat} {n : UInt64} {reply : Outcome Response} {owing : Pending}
    {rows : List (UInt64 × Pending)} :
    (settleAll reply client rows).owed? other = some (n, owing) ↔
      client.owed? other = some (n, owing) ∧
        ∀ row ∈ rows, ¬(row.2.caller? = some other ∧ n = row.1) := by
  induction rows generalizing client with
  | nil => simp [settleAll]
  | cons row rest ih =>
    unfold settleAll
    rw [ih, owed?_settle, and_assoc, List.forall_mem_cons]

theorem failPending_same (error : TransportError) :
    SameElsewhere client (client.failPending error) :=
  (SameElsewhere.withPending client _).trans (settleAll_same _ _)

@[simp] theorem pending_failPending (error : TransportError) :
    (client.failPending error).pending = .empty :=
  pending_settleAll _ _

theorem callers_failPending {other : Nat} {c : Caller} {error : TransportError}
    (there : client.callers[other]? = some c) (settled : c.awaited? = none) :
    (client.failPending error).callers[other]? = some c :=
  callers_settleAll there settled

theorem owed?_failPending {other : Nat} {n : UInt64} {error : TransportError} {owing : Pending} :
    (client.failPending error).owed? other = some (n, owing) ↔
      client.owed? other = some (n, owing) ∧
        ∀ row ∈ client.pending.rows, ¬(row.2.caller? = some other ∧ n = row.1) := by
  unfold failPending
  rw [owed?_settleAll]
  rfl

@[simp] theorem number?_failPending (error : TransportError) (other : Nat) :
    (client.failPending error).number? other = client.number? other :=
  @number?_settleAll { client with pending := .empty } _ _ other

theorem failPending_of_empty (pending : client.pending = .empty) (error : TransportError) :
    client.failPending error = client := by
  unfold failPending
  rw [pending]
  show { client with pending := .empty } = client
  rw [← pending]

/-! ### The end of a connection -/

/-- The client whose callers have been told that the connection is lost. -/
def lost (client : Client) : Client :=
  { client with state := .disconnected, outgoing := [] }.failPending .socketClosed

theorem pending_lost : client.lost.pending = .empty :=
  pending_failPending _

theorem shutDown_same (pending : client.pending = .empty) :
    client.shutDown.1.pending = .empty ∧ client.shutDown.1.callers = client.callers ∧
      client.shutDown.1.executor = client.executor := by
  unfold shutDown
  rw [failPending_of_empty pending]
  exact ⟨pending, rfl, rfl⟩

theorem pause_same (pending : client.pending = .empty) (dial : Nat) :
    (client.pause dial).1.pending = .empty ∧ (client.pause dial).1.callers = client.callers ∧
      (client.pause dial).1.executor = client.executor := by
  unfold pause
  split
  · exact ⟨pending, rfl, rfl⟩
  · exact shutDown_same pending

/-- All that the loss of a connection does to callers is to tell them. -/
theorem disconnect_same : client.disconnect.1.pending = .empty ∧
    client.disconnect.1.callers = client.lost.callers ∧
    client.disconnect.1.executor = client.lost.executor := by
  unfold disconnect
  dsimp only
  split
  · exact @pause_same { client.lost with
      registry := client.lost.registry.park.2, state := .reconnecting } pending_lost 1
  · exact @shutDown_same { client.lost with registry := client.lost.registry.park.2 } pending_lost

end Client
end NodeCall.Socket
