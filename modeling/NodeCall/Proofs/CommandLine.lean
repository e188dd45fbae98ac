import NodeCall.CommandLine.Command

/-!
# Flags

One value of a flag is looked for behind its first occurrence, all of them in every two neighbouring
words.  Both readings agree, and among words that come in pairs of a flag and a value no other two
neighbours are taken for such a pair as long as no value looks like the flag.
-/

namespace NodeCall.CommandLine

variable {name : String}

/-! ### How the words are searched -/

theorem flag?_eq (name : String) (words : List String) :
    flag? name words = (words.idxOf? name).bind fun place => words[place + 1]? := by
  induction words with
  | nil => rfl
  | cons word rest ih =>
    rw [flag?, ih, List.idxOf?_cons]
    by_cases here : word = name
    · rw [if_pos here, if_pos (beq_iff_eq.mpr here), Option.bind_some, List.head?_eq_getElem?]
      rfl
    · rw [if_neg here, if_neg (mt beq_iff_eq.mp here), Option.bind_map]
      rfl

theorem flagValues_eq (name : String) (words : List String) : flagValues name words =
    ((words.zip words.tail).filter (·.1 = name)).map (·.2) := by
  induction words with
  | nil => rfl
  | cons word rest ih =>
    cases rest with
    | nil => rfl
    | cons value rest =>
      rw [flagValues, ih]
      by_cases here : word = name <;> simp [here]

theorem head?_flagValues (name : String) (words : List String) :
    (flagValues name words).head? = flag? name words := by
  induction words with
  | nil => rfl
  | cons word rest ih =>
    cases rest with
    | nil =>
      -- a flag that nothing follows has no value
      show none = flag? name [word]
      rw [flag?]
      split <;> rfl
    | cons value rest =>
      rw [flagValues, flag?]
      split
      · rfl
      · exact ih

/-! ### Words in pairs -/

/-- Flags with their values, one after the other. -/
def wordsOf (pairs : List (String × String)) : List String := pairs.flatMap fun p => [p.1, p.2]

theorem flagValues_value {value : String} (different : value ≠ name) (words : List String) :
    flagValues name (value :: words) = flagValues name words := by
  cases words with
  | nil => rfl
  | cons word rest => rw [flagValues, if_neg different]

theorem flagValues_wordsOf {pairs : List (String × String)} (plain : ∀ p ∈ pairs, p.2 ≠ name) :
    flagValues name (wordsOf pairs) = (pairs.filter (·.1 = name)).map (·.2) := by
  induction pairs with
  | nil => rfl
  | cons p rest ih =>
    have later : flagValues name (p.2 :: wordsOf rest) = (rest.filter (·.1 = name)).map (·.2) :=
      (flagValues_value (plain p List.mem_cons_self) _).trans
        (ih fun q member => plain q (List.mem_cons_of_mem _ member))
    show flagValues name (p.1 :: p.2 :: wordsOf rest) = _
    rw [flagValues, later]
    by_cases here : p.1 = name <;> simp [here]

/-- Of any words the value of a flag is the first of all its values, or none if there are none.  Of
pairs of which no value is the flag itself, its values are those that were paired with it. -/
theorem flags_read_as_written (name : String) :
    (∀ words, flag? name words = (flagValues name words).head?) ∧
    ∀ pairs : List (String × String), (∀ p ∈ pairs, p.2 ≠ name) →
      flagValues name (wordsOf pairs) = (pairs.filter (·.1 = name)).map (·.2) :=
  ⟨fun words => (head?_flagValues name words).symm, fun _ plain => flagValues_wordsOf plain⟩

/-- A value may look like another flag; one that looks like the flag itself is read as one. -/
theorem flags_read_as_written_twice :
    let pairs := [("--fallback", "--url"), ("--url", "ws://a"), ("--fallback", "ws://b")]
    let words := ["--fallback", "--url", "--url", "ws://a", "--fallback", "ws://b", "--fallback"]
    (∀ p ∈ pairs, p.2 ≠ "--fallback") ∧
    flagValues "--fallback" (wordsOf pairs) = ["--url", "ws://b"] ∧
    flag? "--fallback" words = some "--url" ∧
    flagValues "--url" words = ["--url", "ws://a"] := by
  intro pairs words
  obtain ⟨first, paired⟩ := flags_read_as_written "--fallback"
  have plain : ∀ p ∈ pairs, p.2 ≠ "--fallback" := by decide
  exact ⟨plain, (paired pairs plain).trans (by decide), (first words).trans (by decide), by decide⟩

end NodeCall.CommandLine
