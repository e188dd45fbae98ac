import NodeCall.Fallback.Transport
import NodeCall.Proofs.Fallback.Ranking
import Mathlib.Data.List.Nodup
import Mathlib.Data.List.Range

/-!
# Walks over the children

Many sends walk at the same time, and the children are ranked in between.  Each walk follows the
order that it found at its start, whatever becomes of the order later, and the stats of a child
are those of its finished calls.
-/

namespace NodeCall.Fallback

/-! ### Finished calls -/

/-- A call of a send to a child that has finished. -/
structure Call where
  send : Nat
  child : Nat
  elapsed : Duration
  outcome : Outcome Response

namespace Call

def succeeds (call : Call) : Bool :=
  match call.outcome with
  | .ok _ => true
  | .error _ => false

/-- A cancelled call has neither succeeded nor failed. -/
def fails (call : Call) : Bool :=
  match call.outcome with
  | .ok _ | .error .cancelled => false
  | .error _ => true

end Call

/-- How far a send has come: it has called children in the order of its snapshot, each call but
perhaps the last one has failed, and what it does next follows from the last one. -/
inductive Walked (snapshot : List Nat) (calls : List Call) : Progress → Prop
  | calling (child : Nat) (later : List Nat)
      (order : snapshot = calls.map (·.child) ++ child :: later)
      (failed : ∀ call ∈ calls, call.fails = true) :
      Walked snapshot calls (.calling ⟨child, later⟩)
  | stopped (earlier : List Call) (last : Call) (untried : List Nat)
      (split : calls = earlier ++ [last])
      (order : snapshot = calls.map (·.child) ++ untried)
      (failed : ∀ call ∈ earlier, call.fails = true)
      (ends : last.succeeds = true ∨ last.outcome = .error .cancelled) :
      Walked snapshot calls (.done last.outcome)
  | exhausted (earlier : List Call) (last : Call)
      (split : calls = earlier ++ [last])
      (order : snapshot = calls.map (·.child))
      (failed : ∀ call ∈ calls, call.fails = true) :
      Walked snapshot calls (.done last.outcome)

theorem walked_start {snapshot : List Nat} (someone : snapshot ≠ []) :
    Walked snapshot [] (.start snapshot) := by
  cases snapshot with
  | nil => exact absurd rfl someone
  | cons child later => exact .calling child later rfl (by simp)

theorem Walked.children_prefix {snapshot : List Nat} {calls : List Call} {progress : Progress}
    (walked : Walked snapshot calls progress) : calls.map (·.child) <+: snapshot := by
  cases walked with
  | calling child later order failed => exact ⟨_, order.symm⟩
  | stopped earlier last untried split order failed ends => exact ⟨_, order.symm⟩
  | exhausted earlier last split order failed =>
    exact order ▸ List.prefix_rfl

theorem Walked.advance {snapshot : List Nat} {calls : List Call} {walk : Walk}
    (walked : Walked snapshot calls (.calling walk)) {call : Call}
    (same : call.child = walk.child) :
    Walked snapshot (calls ++ [call]) (walk.advance call.outcome) := by
  obtain ⟨child, later⟩ := walk
  obtain ⟨send, called, elapsed, outcome⟩ := call
  obtain rfl : called = child := same
  cases walked with
  | calling _ _ order failed =>
    have horder : snapshot =
        (calls ++ [(⟨send, called, elapsed, outcome⟩ : Call)]).map (·.child) ++ later := by
      simp [order]
    have hfailed (h : Call.fails ⟨send, called, elapsed, outcome⟩ = true) :
        ∀ call ∈ calls ++ [(⟨send, called, elapsed, outcome⟩ : Call)], call.fails = true := by
      intro call member
      rcases List.mem_append.mp member with before | last
      · exact failed call before
      · rw [List.mem_singleton.mp last]
        exact h
    unfold Walk.advance
    dsimp only
    split
    · exact .stopped calls ⟨send, called, elapsed, _⟩ later rfl horder failed (.inl rfl)
    · exact .stopped calls ⟨send, called, elapsed, _⟩ later rfl horder failed (.inr rfl)
    · next e hne =>
      have hfails : Call.fails ⟨send, called, elapsed, .error e⟩ = true := by
        unfold Call.fails
        split
        · next h => cases h
        · next h => exact absurd (Except.error.inj h) hne
        · rfl
      cases later with
      | nil =>
        rw [List.append_nil] at horder
        exact .exhausted calls ⟨send, called, elapsed, .error e⟩ rfl horder (hfailed hfails)
      | cons next rest => exact .calling next rest horder (hfailed hfails)

/-! ### Stats of finished calls -/

/-- The stats after calls, from given ones on. -/
def Stats.recordAll (stats : Stats) (calls : List Call) : Stats :=
  calls.foldl (fun stats call => stats.record call.elapsed call.outcome) stats

theorem successes_record (stats : Stats) (call : Call) :
    (stats.record call.elapsed call.outcome).successes =
      stats.successes + if call.succeeds then 1 else 0 := by
  obtain ⟨send, child, elapsed, outcome⟩ := call
  unfold Stats.record Call.succeeds
  dsimp only
  split <;> simp [Stats.recordSuccess, Stats.recordFailure]

theorem failures_record (stats : Stats) (call : Call) :
    (stats.record call.elapsed call.outcome).failures =
      stats.failures + if call.fails then 1 else 0 := by
  obtain ⟨send, child, elapsed, outcome⟩ := call
  unfold Stats.record Call.fails
  dsimp only
  split <;> simp_all [Stats.recordSuccess, Stats.recordFailure]

theorem counts_recordAll (stats : Stats) (calls : List Call) :
    (stats.recordAll calls).successes =
        stats.successes + UInt64.ofNat (calls.countP (·.succeeds)) ∧
      (stats.recordAll calls).failures =
        stats.failures + UInt64.ofNat (calls.countP (·.fails)) := by
  induction calls generalizing stats with
  | nil => simp [Stats.recordAll]
  | cons call rest ih =>
    obtain ⟨hs, hf⟩ := ih (stats.record call.elapsed call.outcome)
    have hone (b : Bool) (n : Nat) : UInt64.ofNat (n + if b then 1 else 0) =
        (if b then 1 else 0) + UInt64.ofNat n := by
      cases b <;> simp [UInt64.ofNat_add, UInt64.add_comm]
    simp only [Stats.recordAll, List.foldl_cons] at hs hf ⊢
    rw [hs, hf, successes_record, failures_record, List.countP_cons, List.countP_cons, hone, hone,
      UInt64.add_assoc, UInt64.add_assoc]
    exact ⟨rfl, rfl⟩

theorem successes_recordAll (calls : List Call) :
    (Stats.fresh.recordAll calls).successes = UInt64.ofNat (calls.countP (·.succeeds)) :=
  (counts_recordAll Stats.fresh calls).1.trans (UInt64.zero_add _)

theorem failures_recordAll (calls : List Call) :
    (Stats.fresh.recordAll calls).failures = UInt64.ofNat (calls.countP (·.fails)) :=
  (counts_recordAll Stats.fresh calls).2.trans (UInt64.zero_add _)

theorem toNat_countP {calls : List Call} (few : calls.length < UInt64.size) (p : Call → Bool) :
    (UInt64.ofNat (calls.countP p)).toNat = calls.countP p :=
  UInt64.toNat_ofNat_of_lt' (Nat.lt_of_le_of_lt List.countP_le_length few)

/-! ### What an event finishes -/

namespace Run

/-- The call that an event finishes. -/
def call? (run : Run) : Event → Option Call
  | .finish send elapsed outcome =>
    match run.sends[send]? with
    | some (.calling walk) => some ⟨send, walk.child, elapsed, outcome⟩
    | _ => none
  | _ => none

/-- The calls that finish in the course of events, in the order in which they do. -/
def calls (config : Config) : Run → List Event → List Call
  | _, [] => []
  | run, event :: rest => (run.call? event).toList ++ calls config (run.step config event) rest

variable {config : Config} {run : Run} {event : Event}

theorem calls_append (config : Config) (run : Run) (before after : List Event) :
    run.calls config (before ++ after) =
      run.calls config before ++ (run.steps config before).calls config after := by
  induction before generalizing run with
  | nil => rfl
  | cons event rest ih =>
    simp only [List.cons_append, calls, ih, List.append_assoc]
    rfl

theorem steps_append (config : Config) (run : Run) (before after : List Event) :
    run.steps config (before ++ after) = (run.steps config before).steps config after :=
  List.foldl_append

/-- What an event does to sends and stats: it begins a send, finishes a call, or does neither. -/
inductive Effect (config : Config) (run : Run) (event : Event) : Prop
  | begins (method : String) (is : event = .send method)
      (sends : (run.step config event).sends = run.sends ++ [run.state.send config method])
      (stats : (run.step config event).state.stats = run.state.stats)
      (call : run.call? event = none)
  | finishes (walk : Walk) (call : Call)
      (waits : run.sends[call.send]? = some (.calling walk))
      (child : call.child = walk.child)
      (sends : (run.step config event).sends =
        run.sends.set call.send (walk.advance call.outcome))
      (stats : (run.step config event).state.stats =
        run.state.stats.modify call.child (·.record call.elapsed call.outcome))
      (finished : run.call? event = some call)
  | neither (sends : (run.step config event).sends = run.sends)
      (stats : (run.step config event).state.stats = run.state.stats)
      (call : run.call? event = none)

theorem effect (config : Config) (run : Run) (event : Event) : Effect config run event := by
  cases event with
  | send method => exact .begins method rfl rfl rfl rfl
  | finish send elapsed outcome =>
    cases hsend : run.sends[send]? with
    | none => exact .neither (by simp [step, hsend]) (by simp [step, hsend]) (by simp [call?, hsend])
    | some progress =>
      cases progress with
      | calling walk =>
        exact .finishes walk ⟨send, walk.child, elapsed, outcome⟩ hsend rfl (by simp [step, hsend])
          (by simp [step, hsend, State.record]) (by simp [call?, hsend])
      | done outcome =>
        exact .neither (by simp [step, hsend]) (by simp [step, hsend]) (by simp [call?, hsend])
  | rank => exact .neither rfl rfl rfl
  | measure => exact .neither rfl rfl rfl
  | sort ranking =>
    refine .neither ?_ ?_ rfl <;>
    · simp only [step]
      split <;> rfl
  | swap ranking =>
    refine .neither ?_ ?_ rfl <;>
    · simp only [step]
      split <;> rfl

/-! ### The order -/

/-- Every order that is in place or about to be is one of all children. -/
structure Ordered (children : Nat) (run : Run) : Prop where
  order : run.state.order.Perm (List.range children)
  next : ∀ found next, .sorted found next ∈ run.rankings → next.Perm (List.range children)

theorem ordered_initial (children : Nat) : Ordered children (initial children) :=
  ⟨List.Perm.refl _, by simp [initial]⟩

theorem Ordered.step {children : Nat} (h : Ordered children run) (config : Config)
    (event : Event) : Ordered children (run.step config event) := by
  cases event with
  | send method => exact ⟨h.order, h.next⟩
  | finish send elapsed outcome =>
    simp only [Run.step]
    split
    · exact ⟨h.order, h.next⟩
    · exact h
  | rank => exact ⟨(reorder_perm _ _ _).trans h.order, h.next⟩
  | measure =>
    refine ⟨h.order, ?_⟩
    intro found next member
    simp only [Run.step, List.mem_append, List.mem_singleton, reduceCtorEq, or_false] at member
    exact h.next found next member
  | sort ranking =>
    simp only [Run.step]
    split
    · refine ⟨h.order, ?_⟩
      intro found next member
      rcases List.mem_or_eq_of_mem_set member with old | new
      · exact h.next found next old
      · obtain ⟨-, rfl⟩ := Ranking.sorted.inj new
        exact (reorder_perm _ _ _).trans h.order
    · exact h
  | swap ranking =>
    simp only [Run.step]
    split
    · next found next there =>
      refine ⟨?_, ?_⟩
      · dsimp only
        split
        · exact h.order
        · exact h.next found next (List.mem_of_getElem? there)
      · intro found next member
        rcases List.mem_or_eq_of_mem_set member with old | new
        · exact h.next found next old
        · cases new
    · exact h

theorem Ordered.steps {children : Nat} (h : Ordered children run) (config : Config)
    (events : List Event) : Ordered children (run.steps config events) := by
  induction events generalizing run with
  | nil => exact h
  | cons event rest ih => exact ih (h.step config event)

/-! ### Walks -/

theorem walked_step {number : Nat} {progress : Progress} {snapshot : List Nat} {before : List Call}
    (there : run.sends[number]? = some progress) (walked : Walked snapshot before progress)
    (config : Config) (event : Event) :
    ∃ progress', (run.step config event).sends[number]? = some progress' ∧
      Walked snapshot (before ++ (run.call? event).toList.filter (·.send = number)) progress' := by
  have hlt : number < run.sends.length := (List.getElem?_eq_some_iff.mp there).1
  cases effect config run event with
  | begins method is sends stats call =>
    refine ⟨progress, ?_, by simpa [call] using walked⟩
    rw [sends, List.getElem?_append_left hlt]
    exact there
  | neither sends stats call =>
    exact ⟨progress, by rw [sends, there], by simpa [call] using walked⟩
  | finishes walk call waits child sends stats finished =>
    by_cases same : call.send = number
    · -- the call is one of this send
      subst same
      obtain rfl : progress = .calling walk := Option.some.inj (there.symm.trans waits)
      refine ⟨walk.advance call.outcome, ?_, ?_⟩
      · rw [sends, List.getElem?_set_self hlt]
      · simpa [finished] using walked.advance child
    · refine ⟨progress, ?_, by simpa [finished, same] using walked⟩
      rw [sends, List.getElem?_set_ne same]
      exact there

theorem walked_steps {number : Nat} {progress : Progress} {snapshot : List Nat}
    {before : List Call} (there : run.sends[number]? = some progress)
    (walked : Walked snapshot before progress) (config : Config) (events : List Event) :
    ∃ progress', (run.steps config events).sends[number]? = some progress' ∧
      Walked snapshot (before ++ (run.calls config events).filter (·.send = number))
        progress' := by
  induction events generalizing run progress before with
  | nil => exact ⟨progress, there, by simpa [calls] using walked⟩
  | cons event rest ih =>
    obtain ⟨progress', there', walked'⟩ := walked_step there walked config event
    obtain ⟨last, hlast, hwalked⟩ := ih there' walked'
    refine ⟨last, hlast, ?_⟩
    simpa only [calls, List.filter_append, List.append_assoc] using hwalked

theorem length_sends_step (config : Config) (run : Run) (event : Event) :
    run.sends.length ≤ (run.step config event).sends.length := by
  cases effect config run event with
  | begins method is sends stats call => simp [sends]
  | finishes walk call waits child sends stats finished => simp [sends]
  | neither sends stats call => simp [sends]

theorem length_sends_steps (config : Config) (run : Run) (events : List Event) :
    run.sends.length ≤ (run.steps config events).sends.length := by
  induction events generalizing run with
  | nil => exact Nat.le_refl _
  | cons event rest ih =>
    exact (length_sends_step config run event).trans (ih (run.step config event))

theorem send_lt_of_mem_calls {call : Call} {events : List Event}
    (member : call ∈ run.calls config events) :
    call.send < (run.steps config events).sends.length := by
  induction events generalizing run with
  | nil => simp [calls] at member
  | cons event rest ih =>
    rcases List.mem_append.mp member with now | later
    · cases effect config run event with
      | begins method is sends stats call => simp [call] at now
      | neither sends stats call => simp [call] at now
      | finishes walk finished waits child sends stats is =>
        obtain rfl : call = finished := by simpa [is] using now
        have hlt := (List.getElem?_eq_some_iff.mp waits).1
        exact Nat.lt_of_lt_of_le hlt
          ((length_sends_step config run event).trans (length_sends_steps config _ rest))
    · exact ih later

/-- No call of a send has finished before the send begins. -/
theorem calls_from (config : Config) (run : Run) (before after : List Event) :
    let start := run.steps config before
    (run.calls config (before ++ after)).filter (·.send = start.sends.length) =
      (start.calls config after).filter (·.send = start.sends.length) := by
  intro start
  have hbefore : (run.calls config before).filter (·.send = start.sends.length) = [] := by
    rw [List.filter_eq_nil_iff]
    intro call member same
    have hlt : call.send < start.sends.length := send_lt_of_mem_calls member
    have hsame : call.send = start.sends.length := by simpa using same
    omega
  rw [calls_append, List.filter_append, hbefore, List.nil_append]

/-- An allowed send walks over the children in the order that it finds. -/
theorem walked_of_send {method : String} (found : run.state.order ≠ [])
    (allowed : config.transport.methods.allows method = true) (after : List Event) :
    ∃ progress, (run.steps config (.send method :: after)).sends[run.sends.length]? =
        some progress ∧
      Walked run.state.order
        ((run.calls config (.send method :: after)).filter (·.send = run.sends.length))
        progress := by
  have begun : (run.step config (.send method)).sends[run.sends.length]? =
      some (.start run.state.order) := by
    simp [step, State.send, allowed]
  exact walked_steps begun (walked_start found) config after

theorem done_step {number : Nat} {outcome : Outcome Response}
    (there : run.sends[number]? = some (.done outcome)) (config : Config) (event : Event) :
    (run.step config event).sends[number]? = some (.done outcome) ∧
      ∀ call ∈ (run.call? event).toList, call.send ≠ number := by
  have inside : number < run.sends.length := (List.getElem?_eq_some_iff.mp there).1
  cases effect config run event with
  | begins method is sends stats call =>
    rw [sends, call, List.getElem?_append_left inside]
    exact ⟨there, fun _ member => absurd member List.not_mem_nil⟩
  | neither sends stats call =>
    rw [sends, call]
    exact ⟨there, fun _ member => absurd member List.not_mem_nil⟩
  | finishes walk finished waits child sends stats is =>
    -- a call finishes for a send that waits for it
    have apart : finished.send ≠ number := by
      rintro rfl
      cases waits.symm.trans there
    rw [sends, is, List.getElem?_set_ne apart]
    exact ⟨there, List.forall_mem_singleton.mpr apart⟩

/-- A send that is done stays so, and no call finishes for it any more. -/
theorem final {number : Nat} {outcome : Outcome Response}
    (there : run.sends[number]? = some (.done outcome)) (config : Config) (events : List Event) :
    (run.steps config events).sends[number]? = some (.done outcome) ∧
      ∀ call ∈ run.calls config events, call.send ≠ number := by
  induction events generalizing run with
  | nil => exact ⟨there, fun _ member => absurd member List.not_mem_nil⟩
  | cons event rest ih =>
    obtain ⟨still, now⟩ := done_step there config event
    obtain ⟨done, later⟩ := ih still
    refine ⟨done, fun call member => ?_⟩
    rcases List.mem_append.mp member with member | member
    · exact now call member
    · exact later call member

/-! ### Stats -/

theorem stats_step (config : Config) (run : Run) (event : Event) (child : Nat) :
    (run.step config event).state.stats[child]? =
      run.state.stats[child]?.map
        (·.recordAll ((run.call? event).toList.filter (·.child = child))) := by
  cases effect config run event with
  | begins method is sends stats call =>
    rw [stats, call]
    simp [Stats.recordAll]
  | neither sends stats call =>
    rw [stats, call]
    simp [Stats.recordAll]
  | finishes walk call waits there sends stats finished =>
    rw [stats, finished, List.getElem?_modify]
    by_cases same : call.child = child <;> simp [same, Stats.recordAll]

theorem stats_steps (config : Config) (run : Run) (events : List Event) (child : Nat) :
    (run.steps config events).state.stats[child]? =
      run.state.stats[child]?.map
        (·.recordAll ((run.calls config events).filter (·.child = child))) := by
  induction events generalizing run with
  | nil => simp [calls, steps, Stats.recordAll]
  | cons event rest ih =>
    show ((run.step config event).steps config rest).state.stats[child]? = _
    rw [ih, stats_step, Option.map_map]
    congr 1
    funext stats
    simp only [Function.comp, calls, List.filter_append, Stats.recordAll, List.foldl_append]

/-- In every run each allowed send walks over the children in the order it found when it began: it
calls one child after the other, none of them twice, hands on the first success or cancellation,
and the error of the last child if all have failed.  The stats of a child are at every moment made
of its finished calls and of nothing else, and count the successes and the failures among them. -/
theorem walks_and_counts (children : Nat) (config : Config) (events : List Event)
    (someone : 0 < children) :
    let run := (initial children).steps config events
    let calls := (initial children).calls config events
    (∀ before method after, events = before ++ .send method :: after →
      config.transport.methods.allows method = true →
      let start := (initial children).steps config before
      let own := calls.filter (·.send = start.sends.length)
      start.state.order.Perm (List.range children) ∧ (own.map (·.child)).Nodup ∧
      ∃ progress, run.sends[start.sends.length]? = some progress ∧
        Walked start.state.order own progress) ∧
    ∀ child < children, ∃ stats, run.state.stats[child]? = some stats ∧
      let own := calls.filter (·.child = child)
      stats = Stats.fresh.recordAll own ∧
      stats.successes = UInt64.ofNat (own.countP (·.succeeds)) ∧
      stats.failures = UInt64.ofNat (own.countP (·.fails)) ∧
      (own.length < UInt64.size →
        stats.successes.toNat = own.countP (·.succeeds) ∧
          stats.failures.toNat = own.countP (·.fails)) := by
  intro run calls
  refine ⟨?_, ?_⟩
  · intro before method after split allowed start own
    have ordered : start.state.order.Perm (List.range children) :=
      ((ordered_initial children).steps config before).order
    have found : start.state.order ≠ [] := by
      intro empty
      have hlength := ordered.length_eq
      simp [empty] at hlength
      omega
    have hown : own = (start.calls config (.send method :: after)).filter
        (·.send = start.sends.length) := by
      show ((initial children).calls config events).filter _ = _
      rw [split]
      exact calls_from config (initial children) before _
    obtain ⟨progress, there, walked⟩ := walked_of_send found allowed after
    rw [← hown] at walked
    refine ⟨ordered, ?_, progress, ?_, walked⟩
    · exact walked.children_prefix.sublist.nodup (ordered.nodup_iff.mpr List.nodup_range)
    · show ((initial children).steps config events).sends[start.sends.length]? = some progress
      rw [split, steps_append]
      exact there
  · intro child hchild
    let own := calls.filter (·.child = child)
    have stats : run.state.stats[child]? = some (Stats.fresh.recordAll own) := by
      show ((initial children).steps config events).state.stats[child]? = _
      rw [stats_steps]
      simp [initial, State.initial, hchild, own, calls]
    refine ⟨_, stats, rfl, successes_recordAll own, failures_recordAll own, fun few => ⟨?_, ?_⟩⟩
    · rw [successes_recordAll, toNat_countP few]
    · rw [failures_recordAll, toNat_countP few]

/-- Two sends find the same order.  The first child fails one of them and serves the other, and in
between the children are ranked. -/
theorem walks_and_counts_of_two :
    let served : Outcome Response := .ok (.success .null .null)
    let after : List Event := [.finish 0 .zero (.error .socketClosed), .measure, .sort 0, .rank,
      .swap 0, .finish 1 .zero served, .finish 0 .zero served]
    let events : List Event := .send "a" :: .send "b" :: after
    let run := (initial 2).steps .standard events
    let own := ((initial 2).calls .standard events).filter (·.send = 1)
    0 < 2 ∧ Config.standard.transport.methods.allows "b" = true ∧
    own.map (·.child) = [0] ∧
    (∃ progress, run.sends[1]? = some progress ∧ Walked [0, 1] own progress) ∧
    ∃ stats, run.state.stats[0]? = some stats ∧ stats.successes.toNat = 1 ∧
      stats.failures.toNat = 1 := by
  intro served after events run own
  have hallowed : Config.standard.transport.methods.allows "b" = true := by decide
  obtain ⟨walks, counts⟩ := walks_and_counts 2 .standard events (by decide)
  obtain ⟨-, -, progress, there, walked⟩ := walks [.send "a"] "b" after rfl hallowed
  obtain ⟨stats, found, -, -, -, exact⟩ := counts 0 (by decide)
  obtain ⟨successes, failures⟩ := exact (by decide +kernel)
  refine ⟨by decide, hallowed, rfl, ⟨progress, there, walked⟩, stats, found, ?_, ?_⟩
  · rw [successes]
    rfl
  · rw [failures]
    rfl

end Run
end NodeCall.Fallback
