import NodeCall.IdGenerator

/-!
# Numbers that a counter has handed out

A counter hands out every word once before it starts over.
-/

namespace NodeCall.Counter

/-- One of the first so many numbers of a counter. -/
def Drawn (first : Counter) (drawn : Nat) (number : UInt64) : Prop :=
  ∃ index < drawn, number = first + UInt64.ofNat index

theorem number_injective (first : Counter) {index other : Nat} (small : index < UInt64.size)
    (small' : other < UInt64.size)
    (same : first + UInt64.ofNat index = first + UInt64.ofNat other) : index = other := by
  have h := congrArg UInt64.toNat ((UInt64.add_right_inj first).mp same)
  rwa [UInt64.toNat_ofNat_of_lt' small, UInt64.toNat_ofNat_of_lt' small'] at h

theorem number_injective_from (first : Counter) (start : Nat) {index other : Nat}
    (small : index < UInt64.size) (small' : other < UInt64.size)
    (same : first + UInt64.ofNat (start + index) = first + UInt64.ofNat (start + other)) :
    index = other := by
  rw [UInt64.ofNat_add, UInt64.ofNat_add, ← UInt64.add_assoc, ← UInt64.add_assoc] at same
  exact number_injective (first + UInt64.ofNat start) small small' same

variable {first : Counter} {drawn more : Nat} {number : UInt64}

theorem Drawn.mono (before : Drawn first drawn number) (le : drawn ≤ more) :
    Drawn first more number := by
  obtain ⟨index, hlt, hnumber⟩ := before
  exact ⟨index, by omega, hnumber⟩

theorem Drawn.ne_next (before : Drawn first drawn number) (few : drawn < UInt64.size) :
    number ≠ first + UInt64.ofNat drawn := by
  obtain ⟨index, hlt, rfl⟩ := before
  intro same
  have := number_injective first (by omega) few same
  omega

theorem next_add_one (first : Counter) (drawn : Nat) :
    first + UInt64.ofNat drawn + 1 = first + UInt64.ofNat (drawn + 1) := by
  rw [UInt64.ofNat_add, UInt64.add_assoc]
  rfl

theorem add_one_next (first : Counter) (drawn : Nat) :
    first + 1 + UInt64.ofNat drawn = first + UInt64.ofNat (drawn + 1) := by
  rw [← next_add_one, UInt64.add_assoc, UInt64.add_comm 1, ← UInt64.add_assoc]

end NodeCall.Counter
