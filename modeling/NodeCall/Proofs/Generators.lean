import NodeCall.Proofs.IdGenerator
import Mathlib.Data.List.Induction
import Mathlib.Data.List.Nodup

/-!
# Families of generators

A generator that is made on its own founds a family, and a copy belongs to the family of the
generator it was made from.  The members of a family count on together from the number at which the
founder began, whoever of them draws, and nobody else's draws show in their numbers.
-/

namespace NodeCall.Generators

/-- What a program does with generators, which are known by their place in the order of creation. -/
inductive Step
  | startingAt (first : UInt64)
  | new
  | copy (generator : Nat)
  | next (generator : Nat)

/-- The generators of a program, and all draws so far: from which generator, and what. -/
structure Run where
  generators : Generators
  draws : List (Nat × UInt64)

namespace Run

def initial : Run := ⟨.empty, []⟩

/-- The run after a step; one that names no generator changes nothing. -/
def step (run : Run) : Step → Run
  | .startingAt first => { run with generators := (run.generators.startingAt first).2 }
  | .new => { run with generators := run.generators.new.2 }
  | .copy generator =>
    match run.generators.copy generator with
    | some (_, generators) => { run with generators }
    | none => run
  | .next generator =>
    match run.generators.next generator with
    | some (number, generators) => ⟨generators, run.draws ++ [(generator, number)]⟩
    | none => run

def of (program : List Step) : Run := program.foldl step initial

theorem of_snoc (program : List Step) (last : Step) :
    of (program ++ [last]) = (of program).step last :=
  List.foldl_append

end Run

/-! ### Families -/

/-- A family: which generator founded it, and with which number that began. -/
structure Family where
  founder : Nat
  first : UInt64
  deriving DecidableEq

/-- The families of all generators, after a step. -/
def join (families : List Family) : Step → List Family
  | .startingAt first => families ++ [⟨families.length, first⟩]
  | .new => families ++ [⟨families.length, Counter.one⟩]
  | .copy generator => families ++ families[generator]?.toList
  | .next _ => families

/-- For each generator of a program in the order of creation the family that it belongs to. -/
def families (program : List Step) : List Family := program.foldl join []

theorem families_snoc (program : List Step) (last : Step) :
    families (program ++ [last]) = join (families program) last :=
  List.foldl_append

/-- What the members of a family have drawn. -/
def drawnBy (families : List Family) (draws : List (Nat × UInt64)) (family : Family) :
    List UInt64 :=
  (draws.filter fun draw => families[draw.1]? = some family).map (·.2)

/-- The numbers that the members of a family draw in a program, in the order of the draws. -/
def numbers (program : List Step) (family : Family) : List UInt64 :=
  drawnBy (families program) (Run.of program).draws family

section

variable {all : List Family} {draws : List (Nat × UInt64)}

theorem drawnBy_snoc (all : List Family) (draws : List (Nat × UInt64)) (generator : Nat)
    (number : UInt64) (family : Family) :
    drawnBy all (draws ++ [(generator, number)]) family =
      drawnBy all draws family ++ if all[generator]? = some family then [number] else [] := by
  by_cases own : all[generator]? = some family <;> simp [drawnBy, own]

/-- Generators that are made later have not drawn. -/
theorem drawnBy_append (known : ∀ draw ∈ draws, draw.1 < all.length) (more : List Family)
    (family : Family) : drawnBy (all ++ more) draws family = drawnBy all draws family := by
  refine congrArg (List.map _) (List.filter_congr fun draw member => ?_)
  rw [List.getElem?_append_left (known draw member)]

theorem drawnBy_of_not_mem {family : Family} (stranger : family ∉ all) :
    drawnBy all draws family = [] := by
  refine congrArg (List.map _) (List.filter_eq_nil_iff.mpr fun draw _ own => stranger ?_)
  exact List.mem_of_getElem? (of_decide_eq_true own)

end

/-! ### Counters of families -/

/-- The generators of a run belong to families: of two generators that share a counter or a family
they share both, and the counter of a family stands as many numbers after the first one as members
have drawn. -/
structure Tracks (all : List Family) (run : Run) : Prop where
  length : all.length = run.generators.handles.length
  founder : ∀ family ∈ all, family.founder < all.length
  known : ∀ draw ∈ run.draws, draw.1 < all.length
  shared : ∀ p ∈ all.zip run.generators.handles, ∀ q ∈ all.zip run.generators.handles,
    p.1 = q.1 ↔ p.2 = q.2
  counter : ∀ p ∈ all.zip run.generators.handles, run.generators.counters[p.2]? =
    some (p.1.first + UInt64.ofNat (drawnBy all run.draws p.1).length)

theorem tracks_initial : Tracks [] .initial := by
  refine ⟨rfl, ?_, ?_, ?_, ?_⟩ <;> simp [Run.initial]

namespace Tracks

variable {all : List Family} {run : Run}

/-- What is known of a generator, from its family and its counter. -/
theorem linked (tracks : Tracks all run) {generator : Nat} {family : Family}
    (member : all[generator]? = some family) : ∃ counter,
      run.generators.handles[generator]? = some counter ∧
      (family, counter) ∈ all.zip run.generators.handles := by
  have inside : generator < run.generators.handles.length :=
    tracks.length ▸ (List.getElem?_eq_some_iff.mp member).1
  have there := List.getElem?_eq_getElem inside
  exact ⟨_, there, List.mem_of_getElem? (List.getElem?_zip_eq_some.mpr ⟨member, there⟩)⟩

theorem counter_lt (tracks : Tracks all run) {p : Family × Nat}
    (linked : p ∈ all.zip run.generators.handles) : p.2 < run.generators.counters.length :=
  (List.getElem?_eq_some_iff.mp (tracks.counter p linked)).1

/-- One more generator, which shares its family with those with which it shares its counter. -/
theorem grow (tracks : Tracks all run) {family : Family} {counter : Nat} {counters : List Counter}
    (founded : family.founder ≤ all.length)
    (shares : ∀ p ∈ all.zip run.generators.handles, p.1 = family ↔ p.2 = counter)
    (kept : ∀ p ∈ all.zip run.generators.handles,
      counters[p.2]? = run.generators.counters[p.2]?)
    (stands : counters[counter]? =
      some (family.first + UInt64.ofNat (drawnBy all run.draws family).length)) :
    Tracks (all ++ [family]) ⟨⟨counters, run.generators.handles ++ [counter]⟩, run.draws⟩ := by
  have links : (all ++ [family]).zip (run.generators.handles ++ [counter]) =
      all.zip run.generators.handles ++ [(family, counter)] :=
    List.zip_append tracks.length
  constructor
  case length => simp [tracks.length]
  case founder =>
    intro member hmember
    rw [List.length_append, List.length_singleton]
    rcases List.mem_append.mp hmember with old | new
    · exact Nat.lt_succ_of_lt (tracks.founder member old)
    · exact List.mem_singleton.mp new ▸ Nat.lt_succ_of_le founded
  case known =>
    intro draw drawn
    rw [List.length_append, List.length_singleton]
    exact Nat.lt_succ_of_lt (tracks.known draw drawn)
  case shared =>
    intro p hp q hq
    rw [links] at hp hq
    rcases List.mem_append.mp hp with hp | hp <;> rcases List.mem_append.mp hq with hq | hq
    · exact tracks.shared p hp q hq
    · obtain rfl := List.mem_singleton.mp hq
      exact shares p hp
    · obtain rfl := List.mem_singleton.mp hp
      rw [eq_comm, shares q hq, eq_comm]
    · rw [List.mem_singleton.mp hp, List.mem_singleton.mp hq]
      exact iff_of_true rfl rfl
  case counter =>
    intro p hp
    rw [links] at hp
    rw [drawnBy_append tracks.known]
    rcases List.mem_append.mp hp with hp | hp
    · rw [kept p hp, tracks.counter p hp]
    · rw [List.mem_singleton.mp hp]
      exact stands

theorem startingAt (tracks : Tracks all run) (first : UInt64) :
    Tracks (all ++ [.mk all.length first])
      ⟨(run.generators.startingAt first).2, run.draws⟩ := by
  have stranger : Family.mk all.length first ∉ all := fun member =>
    Nat.lt_irrefl _ (tracks.founder _ member)
  refine tracks.grow (Nat.le_refl _) (fun p hp => ?_) (fun p hp => ?_) ?_
  · refine iff_of_false ?_ (Nat.ne_of_lt (tracks.counter_lt hp))
    exact fun same => stranger (same ▸ (List.of_mem_zip hp).1)
  · exact List.getElem?_append_left (tracks.counter_lt hp)
  · rw [List.getElem?_concat_length, drawnBy_of_not_mem stranger]
    exact congrArg some (UInt64.add_zero first).symm

theorem handle_of_stranger (tracks : Tracks all run) {generator : Nat}
    (stranger : all[generator]? = none) : run.generators.handles[generator]? = none := by
  rw [List.getElem?_eq_none_iff] at stranger ⊢
  exact tracks.length ▸ stranger

theorem copy (tracks : Tracks all run) (generator : Nat) :
    Tracks (all ++ all[generator]?.toList) (run.step (.copy generator)) := by
  cases member : all[generator]? with
  | none =>
    have missing := tracks.handle_of_stranger member
    simpa [Run.step, Generators.copy, missing] using tracks
  | some family =>
    obtain ⟨counter, there, linked⟩ := tracks.linked member
    have step : run.step (.copy generator) =
        ⟨⟨run.generators.counters, run.generators.handles ++ [counter]⟩, run.draws⟩ := by
      simp only [Run.step, Generators.copy, there, Option.map_some]
    rw [step, Option.toList_some]
    exact tracks.grow (Nat.le_of_lt (tracks.founder family (List.mem_of_getElem? member)))
      (fun p hp => tracks.shared p hp _ linked) (fun _ _ => rfl) (tracks.counter _ linked)

/-- A draw of a member takes the number that comes next in the family. -/
theorem step_next (tracks : Tracks all run) {generator : Nat} {family : Family}
    (member : all[generator]? = some family) :
    ∃ counter, (family, counter) ∈ all.zip run.generators.handles ∧
      let number := family.first + UInt64.ofNat (drawnBy all run.draws family).length
      run.step (.next generator) =
        ⟨⟨run.generators.counters.set counter (number + 1), run.generators.handles⟩,
          run.draws ++ [(generator, number)]⟩ := by
  obtain ⟨counter, there, linked⟩ := tracks.linked member
  refine ⟨counter, linked, ?_⟩
  have stands := tracks.counter _ linked
  simp only [Run.step, Generators.next, there, Option.bind_eq_bind, Option.bind_some, stands,
    Counter.draw, Option.pure_def]

theorem next (tracks : Tracks all run) (generator : Nat) :
    Tracks all (run.step (.next generator)) := by
  cases member : all[generator]? with
  | none =>
    have missing := tracks.handle_of_stranger member
    simpa [Run.step, Generators.next, missing] using tracks
  | some family =>
    obtain ⟨counter, linked, step⟩ := tracks.step_next member
    have drawn (other : Family) := drawnBy_snoc all run.draws generator
      (family.first + UInt64.ofNat (drawnBy all run.draws family).length) other
    rw [step]
    constructor
    case length => exact tracks.length
    case founder => exact tracks.founder
    case known =>
      intro draw hdraw
      rcases List.mem_append.mp hdraw with old | new
      · exact tracks.known draw old
      · rw [List.mem_singleton.mp new]
        exact (List.getElem?_eq_some_iff.mp member).1
    case shared => exact tracks.shared
    case counter =>
      intro p hp
      rw [drawn, member]
      by_cases same : p.1 = family
      · have : counter = p.2 := ((tracks.shared p hp _ linked).mp same).symm
        subst this
        rw [List.getElem?_set_self (tracks.counter_lt linked), same, if_pos rfl,
          List.length_append, List.length_singleton, Counter.next_add_one]
      · have apart : counter ≠ p.2 := fun shared =>
          same ((tracks.shared p hp _ linked).mpr shared.symm)
        rw [List.getElem?_set_ne apart, if_neg (fun own => same (Option.some.inj own).symm),
          List.append_nil]
        exact tracks.counter p hp

theorem step (tracks : Tracks all run) (next : Step) : Tracks (join all next) (run.step next) := by
  cases next with
  | startingAt first => exact tracks.startingAt first
  | new => exact tracks.startingAt Counter.one
  | copy generator => exact tracks.copy generator
  | next generator => exact tracks.next generator

end Tracks

theorem tracks (program : List Step) : Tracks (families program) (Run.of program) := by
  induction program using List.reverseRecOn with
  | nil => exact tracks_initial
  | append_singleton program last ih =>
    rw [families_snoc, Run.of_snoc]
    exact ih.step last

/-! ### What a family draws -/

/-- Whether a step is a draw from a member of the family. -/
def drawsFor (all : List Family) (family : Family) : Step → Bool
  | .next generator => all[generator]? = some family
  | _ => false

theorem join_eq_append (all : List Family) (step : Step) : ∃ more, join all step = all ++ more := by
  cases step with
  | next generator => exact ⟨[], (List.append_nil all).symm⟩
  | startingAt first => exact ⟨_, rfl⟩
  | new => exact ⟨_, rfl⟩
  | copy generator => exact ⟨_, rfl⟩

theorem numbers_snoc (program : List Step) (family : Family) (last : Step) :
    numbers (program ++ [last]) family = numbers program family ++
      if drawsFor (families program) family last then
        [family.first + UInt64.ofNat (numbers program family).length]
      else [] := by
  obtain ⟨more, joined⟩ := join_eq_append (families program) last
  have known := (tracks program).known
  have still (same : ((Run.of program).step last).draws = (Run.of program).draws) :
      numbers (program ++ [last]) family = numbers program family := by
    rw [numbers, families_snoc, Run.of_snoc, same, joined, drawnBy_append known]
    rfl
  cases last with
  | startingAt first => simpa [drawsFor] using still rfl
  | new => simpa [drawsFor] using still rfl
  | copy generator =>
    have same : ((Run.of program).step (.copy generator)).draws = (Run.of program).draws := by
      simp only [Run.step]
      split <;> rfl
    simpa [drawsFor] using still same
  | next generator =>
    cases member : (families program)[generator]? with
    | none =>
      have missing := (tracks program).handle_of_stranger member
      have same : ((Run.of program).step (.next generator)).draws = (Run.of program).draws := by
        simp [Run.step, Generators.next, missing]
      simpa [drawsFor, member] using still same
    | some other =>
      obtain ⟨counter, -, step⟩ := (tracks program).step_next member
      rw [numbers, families_snoc, Run.of_snoc, step, join, drawnBy_snoc]
      by_cases own : other = family
      · subst own
        simp [drawsFor, member, numbers]
      · simp [drawsFor, member, numbers, own]

theorem numbers_eq (program : List Step) (family : Family) : numbers program family =
    (List.range (numbers program family).length).map fun index =>
      family.first + UInt64.ofNat index := by
  induction program using List.reverseRecOn with
  | nil => rfl
  | append_singleton program last ih =>
    rw [numbers_snoc]
    split
    · rw [List.length_append, List.length_singleton, List.range_succ, List.map_append, ← ih]
      rfl
    · rw [List.append_nil]
      exact ih

/-- The counter comes round after all numbers have been drawn once. -/
theorem nodup_window (program : List Step) (family : Family) (start : Nat) :
    (((numbers program family).drop start).take UInt64.size).Nodup := by
  let row := ((numbers program family).drop start).take UInt64.size
  have drawn (i : Nat) (inside : i < row.length) :
      row[i]? = some (family.first + UInt64.ofNat (start + i)) ∧ i < UInt64.size := by
    rw [List.length_take, List.length_drop] at inside
    refine ⟨?_, by omega⟩
    rw [List.getElem?_take_of_lt (by omega), List.getElem?_drop, numbers_eq, List.getElem?_map,
      List.getElem?_range (by omega), Option.map_some]
  refine List.nodup_iff_getElem?_ne_getElem?.mpr fun i j lt inside same => ?_
  obtain ⟨at_i, small_i⟩ := drawn i (Nat.lt_trans lt inside)
  obtain ⟨at_j, small_j⟩ := drawn j inside
  rw [at_i, at_j] at same
  have := Counter.number_injective_from family.first start small_i small_j (Option.some.inj same)
  omega

/-! ### Draws of others -/

/-- Whether a step is anything but a draw from a generator outside of the family. -/
def concerns (all : List Family) (family : Family) : Step → Bool
  | .next generator => all[generator]? = some family
  | _ => true

theorem families_filter (all : List Family) (family : Family) (program : List Step) :
    families (program.filter (concerns all family)) = families program := by
  induction program using List.reverseRecOn with
  | nil => rfl
  | append_singleton program last ih =>
    rw [List.filter_append, List.filter_singleton, families_snoc]
    cases concerned : concerns all family last with
    | true => rw [cond_true, families_snoc, ih]
    | false =>
      cases last with
      | next generator => rw [cond_false, List.append_nil, ih, join]
      | startingAt first => cases concerned
      | new => cases concerned
      | copy generator => cases concerned

theorem drawsFor_of_not_concerns {all known : List Family} {family : Family} {step : Step}
    (within : known <+: all) (stranger : concerns all family step = false) :
    drawsFor known family step = false := by
  cases step with
  | next generator =>
    refine decide_eq_false fun member => of_decide_eq_false stranger ?_
    obtain ⟨more, rfl⟩ := within
    rw [List.getElem?_append_left (List.getElem?_eq_some_iff.mp member).1, member]
  | startingAt first => cases stranger
  | new => cases stranger
  | copy generator => cases stranger

theorem numbers_filter {all : List Family} {program : List Step}
    (within : families program <+: all) (family : Family) :
    numbers (program.filter (concerns all family)) family = numbers program family := by
  induction program using List.reverseRecOn with
  | nil => rfl
  | append_singleton program last ih =>
    rw [families_snoc] at within
    obtain ⟨more, joined⟩ := join_eq_append (families program) last
    have before : families program <+: all := (joined ▸ List.prefix_append _ more).trans within
    rw [List.filter_append, List.filter_singleton, numbers_snoc]
    cases concerned : concerns all family last with
    | true => rw [cond_true, numbers_snoc, ih before, families_filter]
    | false =>
      have stranger := drawsFor_of_not_concerns before concerned
      rw [cond_false, List.append_nil, ih before, stranger, if_neg Bool.false_ne_true,
        List.append_nil]

/-- In every program a draw from a member of a family takes the number that is next in it, whoever
of them drew before.  So the numbers of a family are consecutive words from its first one on, and
as many in a row as there are words are all different.  Draws from other generators do not show: a
program that is the same but for such draws has the same numbers for the family. -/
theorem families_count_on (program : List Step) (family : Family) :
    let own := numbers program family
    (∀ generator, (families program)[generator]? = some family →
      numbers (program ++ [.next generator]) family =
        own ++ [family.first + UInt64.ofNat own.length]) ∧
    own = (List.range own.length).map (fun index => family.first + UInt64.ofNat index) ∧
    (∀ start, ((own.drop start).take UInt64.size).Nodup) ∧
    ∀ other : List Step, other.filter (concerns (families program) family) =
        program.filter (concerns (families program) family) →
      numbers other family = own := by
  refine ⟨fun generator member => ?_, numbers_eq program family, nodup_window program family,
    fun other same => ?_⟩
  · rw [numbers_snoc, drawsFor, if_pos (decide_eq_true member)]
  · have families_other : families other = families program := by
      rw [← families_filter (families program) family other, same, families_filter]
    calc numbers other family
        = numbers (other.filter (concerns (families program) family)) family :=
          (numbers_filter (families_other ▸ List.prefix_rfl) family).symm
      _ = numbers (program.filter (concerns (families program) family)) family := by rw [same]
      _ = numbers program family := numbers_filter List.prefix_rfl family

/-- A generator that begins at the last word, a copy of it, a copy of the copy, and a stranger. -/
theorem families_count_on_across_zero :
    let program : List Step := [.startingAt 0xFFFFFFFFFFFFFFFF, .copy 0, .new, .copy 1, .next 3,
      .next 2, .next 0, .copy 2, .next 4, .next 1]
    let other : List Step := [.startingAt 0xFFFFFFFFFFFFFFFF, .copy 0, .new, .next 2, .copy 1,
      .next 3, .next 0, .copy 2, .next 1]
    let family : Family := ⟨0, 0xFFFFFFFFFFFFFFFF⟩
    ((families program)[3]? = some family ∧
      other.filter (concerns (families program) family) =
        program.filter (concerns (families program) family)) ∧
    numbers program family = [0xFFFFFFFFFFFFFFFF, 0, 1] ∧ numbers program ⟨2, 1⟩ = [1, 2] ∧
    numbers (program ++ [.next 3]) family = [0xFFFFFFFFFFFFFFFF, 0, 1, 2] ∧
    numbers other family = [0xFFFFFFFFFFFFFFFF, 0, 1] := by
  intro program other family
  obtain ⟨next, -, -, alone⟩ := families_count_on program family
  have member : (families program)[3]? = some family := by decide
  have same : other.filter (concerns (families program) family) =
      program.filter (concerns (families program) family) := rfl
  have drawn : numbers program family = [0xFFFFFFFFFFFFFFFF, 0, 1] := by decide +kernel
  refine ⟨⟨member, same⟩, drawn, by decide +kernel, ?_, (alone other same).trans drawn⟩
  rw [next 3 member, drawn]
  decide +kernel

end NodeCall.Generators
