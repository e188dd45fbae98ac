import NodeCall.Decimal.Layout

/-!
# The digits of a number

The digits of a number that is not zero do not begin with a zero, and the shortest digits of a
double that is not zero are not zero.
-/

namespace NodeCall.Decimal

/-! ### Digits of a natural number -/

theorem toDigits_lead {n : Nat} (positive : n ≠ 0) :
    ∃ c rest, Nat.toDigits 10 n = c :: rest ∧ c ≠ '0' := by
  induction n using Nat.strongRecOn with
  | ind n ih =>
    by_cases small : n < 10
    · rw [Nat.toDigits_of_lt_base small]
      refine ⟨_, [], rfl, ?_⟩
      have each : ∀ n < 10, n ≠ 0 → Nat.digitChar n ≠ '0' := by decide
      exact each n small positive
    · rw [Nat.toDigits_of_base_le (by decide) (Nat.le_of_not_lt small)]
      obtain ⟨c, rest, heq, lead⟩ := ih (n / 10) (by omega) (by omega)
      exact ⟨c, rest ++ [Nat.digitChar (n % 10)], by rw [heq]; rfl, lead⟩

theorem length_pos (n : Nat) : 0 < length n :=
  List.length_pos_iff.mpr Nat.toDigits_ne_nil

theorem lt_pow_length (n : Nat) : n < Nat.pow 10 (length n) :=
  (Nat.length_toDigits_le_iff (by decide) (length_pos n)).mp (Nat.le_refl _)

theorem pow_length_le {n : Nat} (positive : n ≠ 0) : Nat.pow 10 (length n - 1) ≤ n := by
  by_cases one : length n - 1 = 0
  · rw [one]
    exact Nat.pos_of_ne_zero positive
  · refine Nat.le_of_not_lt fun lt => ?_
    have shorter : length n ≤ length n - 1 :=
      (Nat.length_toDigits_le_iff (by decide) (Nat.pos_of_ne_zero one)).mpr lt
    omega

/-! ### Fractions and grids -/

variable {x : Binary} {bits : UInt64} {digits : Nat}

theorem Fraction.num_scale_pos {x : Fraction} (positive : 0 < x.num) (k : Int) :
    0 < (x.scale k).num := by
  cases k with
  | ofNat k => exact Nat.mul_pos positive (Nat.pow_pos (by decide))
  | negSucc k => exact positive

/-- A fraction is one at least when it is scaled up by more than its denominator is longer. -/
theorem Fraction.den_le_num_scale {x : Fraction} (positive : x.num ≠ 0) {k : Int}
    (enough : (length x.den : Int) - length x.num + 1 ≤ k) : (x.scale k).den ≤ (x.scale k).num := by
  have below := lt_pow_length x.den
  have above := pow_length_le positive
  have long := length_pos x.num
  cases k with
  | ofNat k =>
    show x.den ≤ x.num * Nat.pow 10 k
    have exponents : length x.den ≤ length x.num - 1 + k := by
      simp only [Int.ofNat_eq_natCast] at enough
      omega
    calc x.den ≤ Nat.pow 10 (length x.den) := Nat.le_of_lt below
      _ ≤ Nat.pow 10 (length x.num - 1 + k) := Nat.pow_le_pow_right (by decide) exponents
      _ = Nat.pow 10 (length x.num - 1) * Nat.pow 10 k := Nat.pow_add ..
      _ ≤ x.num * Nat.pow 10 k := Nat.mul_le_mul_right _ above
  | negSucc k =>
    show x.den * Nat.pow 10 (k + 1) ≤ x.num
    have exponents : length x.den + (k + 1) ≤ length x.num - 1 := by omega
    calc x.den * Nat.pow 10 (k + 1) ≤ Nat.pow 10 (length x.den) * Nat.pow 10 (k + 1) :=
        Nat.mul_le_mul_right _ (Nat.le_of_lt below)
      _ = Nat.pow 10 (length x.den + (k + 1)) := (Nat.pow_add ..).symm
      _ ≤ Nat.pow 10 (length x.num - 1) := Nat.pow_le_pow_right (by decide) exponents
      _ ≤ x.num := above

theorem Fraction.den_scale_pos {x : Fraction} (positive : 0 < x.den) (k : Int) :
    0 < (x.scale k).den := by
  cases k with
  | ofNat k => exact positive
  | negSucc k => exact Nat.mul_pos positive (Nat.pow_pos (by decide))

theorem num_quarters_pos {count : Nat} (positive : 0 < count) (q : Int) :
    0 < (quarters count q).num := by
  cases q with
  | ofNat q => exact Nat.mul_pos positive (Nat.pow_pos (by decide))
  | negSucc q => exact positive

theorem den_quarters_pos (count : Nat) (q : Int) : 0 < (quarters count q).den := by
  cases q with
  | ofNat q => exact Nat.zero_lt_succ 3
  | negSucc q => exact Nat.mul_pos (by decide) (Nat.pow_pos (by decide))

theorem ne_zero_of_holds {exponent : Int} (mantissa : x.mantissa ≠ 0)
    (holds : x.holds exponent digits = true) : digits ≠ 0 := by
  have low : 0 < (x.low.scale (-exponent)).num := by
    refine Fraction.num_scale_pos (num_quarters_pos ?_ _) _
    split <;> omega
  rintro rfl
  unfold Binary.holds at holds
  dsimp only at holds
  split at holds
  · simp only [Nat.zero_mul, Bool.and_eq_true, decide_eq_true_eq] at holds
    omega
  · simp only [Nat.zero_mul, Bool.and_eq_true, decide_eq_true_eq] at holds
    omega

theorem ne_zero_of_onGrid? {exponent : Int} (mantissa : x.mantissa ≠ 0)
    (grid : x.onGrid? exponent = some digits) : digits ≠ 0 := by
  have held (first second : Nat)
      (found : (if x.holds exponent first then some first
        else if x.holds exponent second then some second else none) = some digits) :
      x.holds exponent digits = true := by
    split at found
    · next holds =>
      obtain rfl := Option.some.inj found
      exact holds
    · split at found
      · next holds =>
        obtain rfl := Option.some.inj found
        exact holds
      · cases found
  exact ne_zero_of_holds mantissa (held _ _ grid)

theorem search_ne_zero (mantissa : x.mantissa ≠ 0) {fuel n : Nat} (enough : 1 ≤ fuel + n) :
    (x.search x.value.order fuel n).digits ≠ 0 := by
  induction fuel generalizing n with
  | zero =>
    have positive : 0 < x.value.num := num_quarters_pos (by omega) _
    have order : x.value.order ≤ (length x.value.num : Int) - length x.value.den := by
      unfold Fraction.order
      dsimp only
      split <;> omega
    have whole : (x.value.scale ((n : Int) - x.value.order)).den ≤
        (x.value.scale ((n : Int) - x.value.order)).num :=
      Fraction.den_le_num_scale (Nat.ne_of_gt positive) (by omega)
    exact Nat.ne_of_gt (Nat.div_pos whole (Fraction.den_scale_pos (den_quarters_pos _ _) _))
  | succ fuel ih =>
    unfold Binary.search
    dsimp only
    split
    · next digits grid => exact ne_zero_of_onGrid? mantissa grid
    · exact ih (by omega)

theorem stripZeros_ne_zero {fuel : Nat} {d : Digits} (positive : d.digits ≠ 0) :
    (stripZeros fuel d).digits ≠ 0 := by
  induction fuel generalizing d with
  | zero => exact positive
  | succ fuel ih =>
    unfold stripZeros
    split
    · refine ih ?_
      show d.digits / 10 ≠ 0
      omega
    · exact positive

theorem mantissa_ofBits (positive : bits ≠ 0) (unsigned : bits.toNat < 0x8000000000000000) :
    (Binary.ofBits bits).mantissa ≠ 0 := by
  have nonzero : bits.toNat ≠ 0 := fun zero => positive (UInt64.toNat_inj.mp zero)
  have field : (bits >>> 52).toNat = bits.toNat / 2 ^ 52 := by
    rw [UInt64.toNat_shiftRight, Nat.shiftRight_eq_div_pow]
    rfl
  unfold Binary.ofBits
  dsimp only
  rw [field]
  split
  · show bits.toNat % 0x10000000000000 ≠ 0
    omega
  · show 0x10000000000000 + bits.toNat % 0x10000000000000 ≠ 0
    omega

theorem shortest_ne_zero (positive : bits ≠ 0) (unsigned : bits.toNat < 0x8000000000000000) :
    (shortest bits).digits ≠ 0 :=
  stripZeros_ne_zero (search_ne_zero (mantissa_ofBits positive unsigned) (by decide))

end NodeCall.Decimal
