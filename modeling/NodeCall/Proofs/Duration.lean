import NodeCall.Duration

/-!
# Durations in two words

A duration is kept as whole seconds in a 64-bit word and the nanoseconds beyond them in a 32-bit
word.  What is computed on the two words, with a look for overflow wherever there can be one, is
what is computed on numbers of nanoseconds.
-/

namespace NodeCall
namespace Duration

theorem nanos_saturating (nanos : Nat) : (saturating nanos).nanos = min nanos (bound - 1) := by
  unfold saturating
  split
  · next fits => exact (Nat.min_eq_left (Nat.le_sub_one_of_lt fits)).symm
  · next large =>
    exact (Nat.min_eq_right (Nat.le_trans (Nat.sub_le _ _) (Nat.le_of_not_lt large))).symm

theorem saturating_of_lt {nanos : Nat} (fits : nanos < bound) : saturating nanos = ⟨nanos, fits⟩ :=
  dif_pos fits

theorem saturating_of_le {nanos : Nat} (large : bound ≤ nanos) : saturating nanos = maximum :=
  dif_neg (Nat.not_lt.mpr large)

/-! ### Words that hold a number -/

/-- The 64-bit word of a number, if there is one. -/
def word? (n : Nat) : Option UInt64 :=
  if n < UInt64.size then some (UInt64.ofNat n) else none

theorem word?_of_lt {n : Nat} (fits : n < UInt64.size) : word? n = some (UInt64.ofNat n) :=
  if_pos fits

theorem word?_of_le {n : Nat} (large : UInt64.size ≤ n) : word? n = none :=
  if_neg (Nat.not_lt.mpr large)

/-- A sum that is checked at each addition is checked as a whole. -/
theorem word?_bind_add (m n : Nat) :
    ((word? m).bind fun word => word? (word.toNat + n)) = word? (m + n) := by
  by_cases fits : m < UInt64.size
  · rw [word?_of_lt fits, Option.bind_some, UInt64.toNat_ofNat_of_lt' fits]
  · rw [word?_of_le (by omega), word?_of_le (by omega), Option.bind_none]

/-- The seconds and the nanoseconds beyond them. -/
structure Words where
  secs : UInt64
  subsec : UInt32
  lt_second : subsec.toNat < 1000000000
  deriving DecidableEq

namespace Words

def nanos (w : Words) : Nat := w.secs.toNat * 1000000000 + w.subsec.toNat

theorem ext_nanos {v w : Words} (same : v.nanos = w.nanos) : v = w := by
  obtain ⟨secs, subsec, lt⟩ := v
  obtain ⟨secs', subsec', lt'⟩ := w
  simp only [nanos] at same
  obtain rfl : secs = secs' := UInt64.toNat_inj.mp (by omega)
  obtain rfl : subsec = subsec' := UInt32.toNat_inj.mp (by omega)
  rfl

end Words

def words (d : Duration) : Words where
  secs := UInt64.ofNat d.secs
  subsec := UInt32.ofNat d.subsecNanos
  lt_second := by
    have lt : d.subsecNanos < 1000000000 := Nat.mod_lt _ (by decide)
    rwa [UInt32.toNat_ofNat_of_lt' (Nat.lt_trans lt (by decide))]

theorem nanos_words (d : Duration) : d.words.nanos = d.nanos := by
  have lt := d.lt_bound
  have secs : (UInt64.ofNat d.secs).toNat = d.nanos / 1000000000 :=
    UInt64.toNat_ofNat_of_lt' (by simp only [bound, Duration.secs, UInt64.size] at lt ⊢; omega)
  have subsec : (UInt32.ofNat d.subsecNanos).toNat = d.nanos % 1000000000 :=
    UInt32.toNat_ofNat_of_lt' (by simp only [subsecNanos, UInt32.size]; omega)
  simp only [words, Words.nanos, secs, subsec]
  omega

namespace Words

theorem map_nanos_word? (secs : Nat) (subsec : UInt32) (lt : subsec.toNat < 1000000000) :
    ((word? secs).map fun word => nanos ⟨word, subsec, lt⟩) =
      if secs * 1000000000 + subsec.toNat < bound then some (secs * 1000000000 + subsec.toNat)
      else none := by
  by_cases fits : secs < UInt64.size
  · rw [word?_of_lt fits, if_pos (by simp only [UInt64.size, bound] at fits ⊢; omega)]
    simp only [Option.map_some, nanos, UInt64.toNat_ofNat_of_lt' fits]
  · rw [word?_of_le (by omega), if_neg (by simp only [UInt64.size, bound] at fits ⊢; omega)]
    rfl

/-! ### Arithmetic on the words -/

theorem toNat_subsec_of_mod (n : UInt64) :
    (n % 1000000000).toUInt32.toNat = n.toNat % 1000000000 := by
  simp only [UInt64.toNat_toUInt32, UInt64.toNat_mod, UInt64.reduceToNat]
  omega

theorem lt_second_of_mod (n : UInt64) : (n % 1000000000).toUInt32.toNat < 1000000000 := by
  rw [toNat_subsec_of_mod]
  exact Nat.mod_lt _ (by decide)

/-- The product, if its seconds fit into their word.  The nanoseconds are multiplied in 64 bits,
without a check. -/
def mul? (w : Words) (factor : UInt32) : Option Words :=
  let subsec := w.subsec.toUInt64 * factor.toUInt64
  ((word? (w.secs.toNat * factor.toNat)).bind fun secs =>
    word? (secs.toNat + (subsec / 1000000000).toNat)).map fun secs =>
      ⟨secs, (subsec % 1000000000).toUInt32, lt_second_of_mod subsec⟩

theorem map_nanos_mul? (w : Words) (factor : UInt32) : (w.mul? factor).map nanos =
    if w.nanos * factor.toNat < bound then some (w.nanos * factor.toNat) else none := by
  let subsec := w.subsec.toUInt64 * factor.toUInt64
  have small : w.subsec.toNat * factor.toNat < 1000000000 * 4294967296 :=
    Nat.mul_lt_mul_of_lt_of_lt w.lt_second factor.toNat_lt
  -- a number below a second times a 32-bit word fits into 64 bits
  have product : subsec.toNat = w.subsec.toNat * factor.toNat := by
    rw [UInt64.toNat_mul, UInt32.toNat_toUInt64, UInt32.toNat_toUInt64]
    exact Nat.mod_eq_of_lt (Nat.lt_trans small (by decide))
  have carry : (subsec / 1000000000).toNat = subsec.toNat / 1000000000 := UInt64.toNat_div ..
  have whole : (w.secs.toNat * factor.toNat + (subsec / 1000000000).toNat) * 1000000000 +
      (subsec % 1000000000).toUInt32.toNat = w.nanos * factor.toNat := by
    rw [toNat_subsec_of_mod, carry, product, nanos, Nat.add_mul, Nat.add_mul,
      Nat.mul_right_comm w.secs.toNat]
    omega
  rw [mul?, word?_bind_add, Option.map_map, ← whole]
  exact map_nanos_word? ..

theorem toNat_subsec_add (v w : Words) :
    (v.subsec + w.subsec).toNat = v.subsec.toNat + w.subsec.toNat := by
  have := v.lt_second
  have := w.lt_second
  rw [UInt32.toNat_add]
  omega

section

variable {v w : Words} (carries : ¬ v.subsec + w.subsec < 1000000000)
include carries

theorem toNat_subsec_carry :
    (v.subsec + w.subsec - 1000000000).toNat + 1000000000 = v.subsec.toNat + w.subsec.toNat := by
  have le : (1000000000 : UInt32) ≤ v.subsec + w.subsec := UInt32.not_lt.mp carries
  have le' : 1000000000 ≤ (v.subsec + w.subsec).toNat := UInt32.le_iff_toNat_le.mp le
  rw [UInt32.toNat_sub_of_le _ _ le, ← toNat_subsec_add]
  exact Nat.sub_add_cancel le'

theorem lt_second_of_carry : (v.subsec + w.subsec - 1000000000).toNat < 1000000000 := by
  have := toNat_subsec_carry carries
  have := v.lt_second
  have := w.lt_second
  omega

end

/-- The sum, if its seconds fit into their word. -/
def add? (v w : Words) : Option Words :=
  if below : v.subsec + w.subsec < 1000000000 then
    (word? (v.secs.toNat + w.secs.toNat)).map fun secs =>
      ⟨secs, v.subsec + w.subsec, UInt32.lt_iff_toNat_lt.mp below⟩
  else
    ((word? (v.secs.toNat + w.secs.toNat)).bind fun secs => word? (secs.toNat + 1)).map fun secs =>
      ⟨secs, v.subsec + w.subsec - 1000000000, lt_second_of_carry below⟩

theorem map_nanos_add? (v w : Words) : (v.add? w).map nanos =
    if v.nanos + w.nanos < bound then some (v.nanos + w.nanos) else none := by
  unfold add?
  split
  · next below =>
    have whole : (v.secs.toNat + w.secs.toNat) * 1000000000 + (v.subsec + w.subsec).toNat =
        v.nanos + w.nanos := by
      rw [toNat_subsec_add]
      simp only [nanos]
      omega
    rw [Option.map_map, ← whole]
    exact map_nanos_word? ..
  · next carries =>
    have whole : (v.secs.toNat + w.secs.toNat + 1) * 1000000000 +
        (v.subsec + w.subsec - 1000000000).toNat = v.nanos + w.nanos := by
      have := toNat_subsec_carry carries
      simp only [nanos]
      omega
    rw [word?_bind_add, Option.map_map, ← whole]
    exact map_nanos_word? ..

/-- What one second or none and a rest below a second make of a half. -/
def oddHalf (w : Words) : UInt32 :=
  ((w.secs % 2 * 1000000000 + (w.subsec % 2).toUInt64) / 2).toUInt32

theorem toNat_oddHalf (w : Words) :
    w.oddHalf.toNat = (w.secs.toNat % 2 * 1000000000 + w.subsec.toNat % 2) / 2 := by
  simp only [oddHalf, UInt64.toNat_toUInt32, UInt64.toNat_div, UInt64.toNat_add, UInt64.toNat_mul,
    UInt64.toNat_mod, UInt32.toNat_toUInt64, UInt32.toNat_mod, UInt64.reduceToNat,
    UInt32.reduceToNat]
  omega

theorem toNat_subsec_half (w : Words) : (w.subsec / 2 + w.oddHalf).toNat =
    w.subsec.toNat / 2 + (w.secs.toNat % 2 * 1000000000 + w.subsec.toNat % 2) / 2 := by
  have := w.lt_second
  rw [UInt32.toNat_add, UInt32.toNat_div, toNat_oddHalf]
  simp only [UInt32.reduceToNat]
  omega

def half (w : Words) : Words where
  secs := w.secs / 2
  subsec := w.subsec / 2 + w.oddHalf
  lt_second := by
    have := w.lt_second
    rw [toNat_subsec_half]
    omega

theorem nanos_half (w : Words) : w.half.nanos = w.nanos / 2 := by
  have secs : (w.secs / 2).toNat = w.secs.toNat / 2 := UInt64.toNat_div ..
  simp only [half, nanos, toNat_subsec_half, secs]
  omega

end Words

/-! ### Durations as they are kept -/

theorem words_eq_iff {d : Duration} {w : Words} : w = d.words ↔ w.nanos = d.nanos := by
  rw [← nanos_words]
  exact ⟨congrArg Words.nanos, Words.ext_nanos⟩

/-- A product that does not fit is the longest duration. -/
theorem words_mul (d : Duration) (factor : UInt32) :
    (d.mul factor.toNat).words = (d.words.mul? factor).getD maximum.words := by
  have product := d.words.map_nanos_mul? factor
  rw [nanos_words] at product
  unfold mul
  split at product
  · next fits =>
    obtain ⟨w, found, nanos⟩ := Option.map_eq_some_iff.mp product
    rw [saturating_of_lt fits, found, Option.getD_some]
    exact (words_eq_iff.mpr nanos).symm
  · next large =>
    rw [saturating_of_le (Nat.le_of_not_lt large), Option.map_eq_none_iff.mp product,
      Option.getD_none]

/-- The mean of two durations, if there is a sum of them. -/
theorem words_mean {a b : Duration} (fits : a.nanos + b.nanos < bound) :
    (a.words.add? b.words).map Words.half = some (a.add b).half.words := by
  have sum := a.words.map_nanos_add? b.words
  rw [nanos_words, nanos_words, if_pos fits] at sum
  obtain ⟨w, found, nanos⟩ := Option.map_eq_some_iff.mp sum
  rw [found, Option.map_some, add, saturating_of_lt fits]
  refine congrArg some (words_eq_iff.mpr ?_)
  rw [Words.nanos_half, nanos]
  rfl

end Duration
end NodeCall
