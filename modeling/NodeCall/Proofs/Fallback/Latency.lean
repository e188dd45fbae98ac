import NodeCall.Proofs.Duration
import NodeCall.Proofs.Fallback.Walks
import Mathlib.Data.List.Induction

/-!
# Smoothed latencies

The latency that is kept of a child is the mean of what was kept before and of the call that has
just succeeded.  However often it is rounded down on the way, it stays between the fastest and the
slowest success of the child.
-/

namespace NodeCall.Fallback

/-- How long the successful calls took, in the order in which they finished. -/
def latencies (calls : List Call) : List Duration :=
  (calls.filter (·.succeeds)).map (·.elapsed)

theorem latencies_append (before after : List Call) :
    latencies (before ++ after) = latencies before ++ latencies after := by
  simp only [latencies, List.filter_append, List.map_append]

theorem length_latencies (calls : List Call) :
    (latencies calls).length = calls.countP (·.succeeds) := by
  rw [latencies, List.length_map, List.countP_eq_length_filter]

/-- Any two of the samples have a sum that is a duration. -/
def Summable (samples : List Duration) : Prop :=
  samples.Pairwise fun a b => a.nanos + b.nanos < Duration.bound

/-- One of the samples is no longer than the span, and one is no shorter. -/
def Spans (samples : List Duration) (span : Duration) : Prop :=
  (∃ fast ∈ samples, fast.nanos ≤ span.nanos) ∧ ∃ slow ∈ samples, span.nanos ≤ slow.nanos

section

variable {samples : List Duration} {span sample : Duration}

theorem spans_last (samples : List Duration) (sample : Duration) :
    Spans (samples ++ [sample]) sample :=
  have last : sample ∈ samples ++ [sample] := List.mem_append_right _ (List.mem_singleton_self _)
  ⟨⟨sample, last, Nat.le_refl _⟩, ⟨sample, last, Nat.le_refl _⟩⟩

theorem Summable.left {more : List Duration} (summable : Summable (samples ++ more)) :
    Summable samples :=
  (List.pairwise_append.mp summable).1

theorem Summable.fits (summable : Summable (samples ++ [sample])) (spans : Spans samples span) :
    span.nanos + sample.nanos < Duration.bound := by
  obtain ⟨-, slow, member, le⟩ := spans
  have := (List.pairwise_append.mp summable).2.2 slow member sample (List.mem_singleton_self _)
  omega

/-- The mean with one more sample is between the samples that were there and the new one. -/
theorem Spans.mean (spans : Spans samples span)
    (fits : span.nanos + sample.nanos < Duration.bound) :
    (span.add sample).half.nanos = (span.nanos + sample.nanos) / 2 ∧
      Spans (samples ++ [sample]) (span.add sample).half := by
  have mean : (span.add sample).half.nanos = (span.nanos + sample.nanos) / 2 := by
    rw [Duration.add, Duration.saturating_of_lt fits]
    rfl
  obtain ⟨⟨fast, hfast, below⟩, slow, hslow, above⟩ := spans
  have last : sample ∈ samples ++ [sample] := List.mem_append_right _ (List.mem_singleton_self _)
  refine ⟨mean, ?_, ?_⟩
  · by_cases le : fast.nanos ≤ sample.nanos
    · exact ⟨fast, List.mem_append_left _ hfast, by omega⟩
    · exact ⟨sample, last, by omega⟩
  · by_cases le : sample.nanos ≤ slow.nanos
    · exact ⟨slow, List.mem_append_left _ hslow, by omega⟩
    · exact ⟨sample, last, by omega⟩

end

/-! ### One more call -/

section

variable {call : Call}

theorem recordAll_snoc (stats : Stats) (before : List Call) (call : Call) :
    stats.recordAll (before ++ [call]) =
      (stats.recordAll before).record call.elapsed call.outcome := by
  rw [Stats.recordAll, List.foldl_append]
  rfl

theorem record_of_succeeds (succeeds : call.succeeds = true) (stats : Stats) :
    stats.record call.elapsed call.outcome = stats.recordSuccess call.elapsed := by
  obtain ⟨send, child, elapsed, outcome⟩ := call
  cases outcome with
  | ok response => rfl
  | error e => cases succeeds

theorem latency_record_of_not_succeeds (succeeds : call.succeeds = false) (stats : Stats) :
    (stats.record call.elapsed call.outcome).latency = stats.latency := by
  obtain ⟨send, child, elapsed, outcome⟩ := call
  cases outcome with
  | ok response => cases succeeds
  | error e =>
    unfold Stats.record
    dsimp only
    split
    · next ok => cases ok
    · rfl
    · rfl

theorem latencies_of_succeeds (succeeds : call.succeeds = true) (before : List Call) :
    latencies (before ++ [call]) = latencies before ++ [call.elapsed] := by
  rw [latencies_append]
  simp only [latencies, List.filter_singleton, succeeds, cond_true, List.map_cons, List.map_nil]

theorem latencies_of_not_succeeds (succeeds : call.succeeds = false) (before : List Call) :
    latencies (before ++ [call]) = latencies before := by
  rw [latencies_append]
  simp only [latencies, List.filter_singleton, succeeds, cond_false, List.map_nil, List.append_nil]

end

/-- The count of the successes is a word, which is zero again after all of its values. -/
theorem successes_eq_zero_iff (before : List Call) :
    (Stats.fresh.recordAll before).successes = 0 ↔
      (latencies before).length % UInt64.size = 0 := by
  rw [successes_recordAll, length_latencies, ← UInt64.toNat_inj, UInt64.toNat_ofNat']
  rfl

theorem served_of_counted {before : List Call}
    (counted : (latencies before).length % UInt64.size ≠ 0) : latencies before ≠ [] := by
  intro none
  rw [none] at counted
  exact counted rfl

/-- A kept latency is between samples wherever the count of the successes stands, as one that
starts anew is a sample itself. -/
theorem spans_latency {calls : List Call} (summable : Summable (latencies calls))
    (served : latencies calls ≠ []) :
    Spans (latencies calls) (Stats.fresh.recordAll calls).latency := by
  induction calls using List.reverseRecOn with
  | nil => exact absurd rfl served
  | append_singleton before call ih =>
    rw [recordAll_snoc]
    cases succeeds : call.succeeds with
    | false =>
      rw [latencies_of_not_succeeds succeeds] at summable served ⊢
      rw [latency_record_of_not_succeeds succeeds]
      exact ih summable served
    | true =>
      rw [latencies_of_succeeds succeeds] at summable ⊢
      rw [record_of_succeeds succeeds, Stats.recordSuccess]
      split
      · exact spans_last _ _
      · next counted =>
        have served := served_of_counted (mt (successes_eq_zero_iff before).mpr counted)
        have spans := ih summable.left served
        exact (spans.mean (summable.fits spans)).2

/-- The latency that is kept after any calls of which no two successful ones took too long to be
added is between the fastest and the slowest success.  A call that is no success leaves it as it
was.  The first success sets it, after whatever failures, and each later one puts the mean in its
place, rounded down to nanoseconds; the sum that is halved is a duration.  The successes are
counted in a word: one that finds the word at zero again counts as a first one. -/
theorem latency_is_running_mean (calls : List Call) (summable : Summable (latencies calls)) :
    (latencies calls ≠ [] → Spans (latencies calls) (Stats.fresh.recordAll calls).latency) ∧
    ∀ before call after, calls = before ++ call :: after →
      let previous := (Stats.fresh.recordAll before).latency
      let next := (Stats.fresh.recordAll (before ++ [call])).latency
      let served := (latencies before).length
      (call.succeeds = false → next = previous) ∧
      (call.succeeds = true → served % UInt64.size = 0 → next = call.elapsed) ∧
      (call.succeeds = true → served % UInt64.size ≠ 0 →
        next.nanos = (previous.nanos + call.elapsed.nanos) / 2 ∧
        (previous.words.add? call.elapsed.words).map .half = some next.words) := by
  refine ⟨spans_latency summable, fun before call after split => ?_⟩
  intro previous next served
  have now : next = ((Stats.fresh.recordAll before).record call.elapsed call.outcome).latency :=
    congrArg Stats.latency (recordAll_snoc Stats.fresh before call)
  rw [now]
  refine ⟨fun fails => latency_record_of_not_succeeds fails _, ?first, ?later⟩
  case first =>
    intro succeeds none
    rw [record_of_succeeds succeeds]
    exact if_pos ((successes_eq_zero_iff before).mpr none)
  case later =>
    intro succeeds counted
    have samples : latencies calls = latencies before ++ [call.elapsed] ++ latencies after := by
      rw [split, ← latencies_of_succeeds succeeds, ← latencies_append, List.append_cons]
    rw [samples] at summable
    have spans := spans_latency summable.left.left (served_of_counted counted)
    have fits := summable.left.fits spans
    have averaged : ((Stats.fresh.recordAll before).recordSuccess call.elapsed).latency =
        (previous.add call.elapsed).half :=
      if_neg fun zero => counted ((successes_eq_zero_iff before).mp zero)
    rw [record_of_succeeds succeeds, averaged]
    exact ⟨(spans.mean fits).1, Duration.words_mean fits⟩

/-- After a failure a child serves two calls, with another failure in between. -/
theorem latency_is_running_mean_of_two :
    let served : Outcome Response := .ok (.success .null .null)
    let lost : Outcome Response := .error .socketClosed
    let before : List Call := [⟨0, 0, .ofSecs 9, lost⟩, ⟨1, 0, ⟨1000000004, by decide⟩, served⟩,
      ⟨2, 0, .ofSecs 7, lost⟩]
    let call : Call := ⟨3, 0, ⟨3000000001, by decide⟩, served⟩
    let next := (Stats.fresh.recordAll (before ++ [call])).latency
    Summable (latencies (before ++ [call])) ∧
    (Stats.fresh.recordAll before).latency.nanos = 1000000004 ∧ next.nanos = 2000000002 ∧
    Spans (latencies (before ++ [call])) next := by
  intro served lost before call next
  have summable : Summable (latencies (before ++ [call])) := by
    refine List.pairwise_pair.mpr ?_
    decide
  obtain ⟨spans, steps⟩ := latency_is_running_mean (before ++ [call]) summable
  obtain ⟨-, -, later⟩ := steps before call [] rfl
  have mean := (later rfl (by decide)).1
  exact ⟨summable, rfl, mean.trans (by decide +kernel), spans (List.cons_ne_nil _ _)⟩

namespace Run

/-- In every run the latency of a child that has served calls is between the fastest and the
slowest of them. -/
theorem spans_latency_of_child (children : Nat) (config : Config) (events : List Event)
    {child : Nat} (inside : child < children) :
    let own := ((initial children).calls config events).filter (·.child = child)
    ∃ stats, ((initial children).steps config events).state.stats[child]? = some stats ∧
      (Summable (latencies own) → latencies own ≠ [] → Spans (latencies own) stats.latency) := by
  intro own
  refine ⟨Stats.fresh.recordAll own, ?_, spans_latency⟩
  rw [stats_steps]
  simp [initial, State.initial, inside, own]

end Run
end NodeCall.Fallback
