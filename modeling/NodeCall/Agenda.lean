/-!
# Agendas

Things that are due at given times, in milliseconds.  Of those due at the same time the one that
was put in first comes first.
-/

namespace NodeCall

/-- Things and when they are due, in the order in which they were put in. -/
structure Agenda (α : Type) where
  entries : List (Nat × α)

namespace Agenda

variable {α : Type}

def empty : Agenda α := ⟨[]⟩

def add (agenda : Agenda α) (time : Nat) (thing : α) : Agenda α :=
  ⟨agenda.entries ++ [(time, thing)]⟩

def size (agenda : Agenda α) : Nat := agenda.entries.length

/-- The first entry that no other one precedes in time, and the entries without it. -/
def takeFirst : List (Nat × α) → Option ((Nat × α) × List (Nat × α))
  | [] => none
  | entry :: rest =>
    match takeFirst rest with
    | none => some (entry, rest)
    | some (first, others) =>
      if entry.1 ≤ first.1 then some (entry, rest) else some (first, entry :: others)

def next? (agenda : Agenda α) : Option ((Nat × α) × Agenda α) :=
  (takeFirst agenda.entries).map fun (entry, rest) => (entry, ⟨rest⟩)

def nextUntil? (agenda : Agenda α) (time : Nat) : Option ((Nat × α) × Agenda α) :=
  agenda.next?.filter fun (entry, _) => entry.1 ≤ time

theorem length_takeFirst {entries others : List (Nat × α)} {first : Nat × α}
    (h : takeFirst entries = some (first, others)) : others.length + 1 = entries.length := by
  induction entries generalizing first others with
  | nil => simp [takeFirst] at h
  | cons entry rest ih =>
    rw [takeFirst] at h
    split at h
    · simp_all
    · next found others' heq =>
      split at h
      · simp_all
      · obtain ⟨-, rfl⟩ : found = first ∧ entry :: others' = others := by simpa using h
        simp [ih heq]

end Agenda
end NodeCall
