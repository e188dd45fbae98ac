import NodeCall.Json.Meaning
import NodeCall.Json.Printer
import NodeCall.Proofs.Decimal.Digits

/-!
# Numbers as they are written

The text of a number is a literal: digits without a leading zero, perhaps a fraction, perhaps an
exponent.  It is read to its end when nothing follows that could go on with it, and the literal of
an integer stands for that integer.
-/

namespace NodeCall.Json

/-! ### Digits -/

/-- No digit comes next. -/
def DigitsEnd (rest : List Char) : Prop := ∀ c ∈ rest.head?, isDigit c = false

/-- Nothing comes next that a number could go on with. -/
def NumberEnds (rest : List Char) : Prop :=
  ∀ c ∈ rest.head?, isDigit c = false ∧ c ≠ '.' ∧ c ≠ 'e' ∧ c ≠ 'E'

theorem NumberEnds.digits {rest : List Char} (ends : NumberEnds rest) : DigitsEnd rest :=
  fun c head => (ends c head).1

/-- Digits, one at least. -/
structure AreDigits (s : List Char) : Prop where
  some : s ≠ []
  digits : ∀ c ∈ s, isDigit c = true

theorem isDigit_iff {c : Char} : isDigit c = true ↔ 48 ≤ c.toNat ∧ c.toNat ≤ 57 := by
  unfold isDigit
  rw [Bool.and_eq_true, decide_eq_true_eq, decide_eq_true_eq]
  exact Iff.rfl

theorem areDigits_toDigits (n : Nat) : AreDigits (Nat.toDigits 10 n) where
  some := Nat.toDigits_ne_nil
  digits := by
    intro c member
    have digit := Nat.isDigit_of_mem_toDigits (by decide) (by decide) member
    rw [isDigit_iff]
    simpa [Char.isDigit, UInt32.le_iff_toNat_le] using digit

theorem spanDigits_append {s rest : List Char} (digits : ∀ c ∈ s, isDigit c = true)
    (ends : DigitsEnd rest) : spanDigits (s ++ rest) = (s.map digitValue, rest) := by
  unfold spanDigits
  rw [List.takeWhile_append_of_pos digits, List.dropWhile_append_of_pos digits]
  cases rest with
  | nil => simp
  | cons c rest =>
    have other : isDigit c = false := ends c rfl
    simp [other]

theorem readDigits_append {s rest : List Char} (digits : AreDigits s) (ends : DigitsEnd rest) :
    readDigits (s ++ rest) = .ok (s.map digitValue, rest) := by
  unfold readDigits
  rw [spanDigits_append digits.digits ends]
  cases s with
  | nil => exact absurd rfl digits.some
  | cons c s => rfl

/-! ### The parts of a literal -/

/-- A zero alone, or digits that do not begin with one. -/
inductive Whole : List Char → Prop
  | zero : Whole ['0']
  | lead {c : Char} {s : List Char} (digits : AreDigits (c :: s)) (lead : c ≠ '0') : Whole (c :: s)

theorem Whole.digits {s : List Char} (whole : Whole s) : AreDigits s := by
  cases whole with
  | zero => exact ⟨List.cons_ne_nil _ _, by simp [isDigit]⟩
  | lead digits lead => exact digits

inductive FractionText : List Char → Prop
  | none : FractionText []
  | some {s : List Char} (digits : AreDigits s) : FractionText ('.' :: s)

inductive ExponentText : List Char → Prop
  | none : ExponentText []
  | up {s : List Char} (digits : AreDigits s) : ExponentText ('e' :: '+' :: s)
  | down {s : List Char} (digits : AreDigits s) : ExponentText ('e' :: '-' :: s)

theorem readWhole_append {s rest : List Char} (whole : Whole s) (ends : DigitsEnd rest) :
    readWhole (s ++ rest) = .ok (s.map digitValue, rest) := by
  unfold readWhole
  rw [readDigits_append whole.digits ends]
  cases whole with
  | zero => rfl
  | @lead c s digits lead =>
    have digit := isDigit_iff.mp (digits.digits c List.mem_cons_self)
    have value : digitValue c ≠ 0 := by
      intro zero
      refine lead (Char.toNat_inj.mp ?_)
      unfold digitValue at zero
      show c.toNat = 48
      have : '0'.toNat = 48 := rfl
      omega
    rw [List.map_cons]
    split
    · next heq =>
      obtain ⟨heq, -⟩ := Prod.mk.inj (Except.ok.inj heq)
      exact absurd (List.cons.inj heq).1 value
    · rfl

theorem readFraction_absent {rest : List Char} (unpointed : ∀ c ∈ rest.head?, c ≠ '.') :
    readFraction rest = .ok (none, rest) := by
  unfold readFraction
  split
  · next s => exact absurd rfl (unpointed '.' rfl)
  · rfl

theorem readExponent_absent {rest : List Char} (ends : NumberEnds rest) :
    readExponent rest = .ok (none, rest) := by
  unfold readExponent
  split
  · next s => exact absurd rfl (ends 'e' rfl).2.2.1
  · next s => exact absurd rfl (ends 'E' rfl).2.2.2
  · rfl

theorem readFraction_append {s : List Char} (fraction : FractionText s) :
    ∃ digits, ∀ rest, DigitsEnd rest → (∀ c ∈ rest.head?, c ≠ '.') →
      readFraction (s ++ rest) = .ok (digits, rest) := by
  cases fraction with
  | none => exact ⟨none, fun rest _ unpointed => readFraction_absent unpointed⟩
  | @some s digits =>
    refine ⟨some (s.map digitValue), fun rest ends _ => ?_⟩
    rw [List.cons_append, readFraction, readDigits_append digits ends]
    rfl

theorem readExponent_append {s : List Char} (exponent : ExponentText s) :
    ∃ digits, ∀ rest, NumberEnds rest → readExponent (s ++ rest) = .ok (digits, rest) := by
  cases exponent with
  | none => exact ⟨none, fun rest ends => readExponent_absent ends⟩
  | @up s digits =>
    refine ⟨some (false, s.map digitValue), fun rest ends => ?_⟩
    rw [List.cons_append, List.cons_append, readExponent, readExponentSign, readExponentDigits,
      readDigits_append digits ends.digits]
    rfl
  | @down s digits =>
    refine ⟨some (true, s.map digitValue), fun rest ends => ?_⟩
    rw [List.cons_append, List.cons_append, readExponent, readExponentSign, readExponentDigits,
      readDigits_append digits ends.digits]
    rfl

/-- Neither an exponent nor what follows it begins with a digit or a point. -/
theorem ExponentText.ends {s rest : List Char} (exponent : ExponentText s)
    (ends : NumberEnds rest) :
    DigitsEnd (s ++ rest) ∧ ∀ c ∈ (s ++ rest).head?, c ≠ '.' := by
  cases exponent with
  | none => exact ⟨ends.digits, fun c head => (ends c head).2.1⟩
  | up digits => exact ⟨by simp [DigitsEnd, isDigit], by simp⟩
  | down digits => exact ⟨by simp [DigitsEnd, isDigit], by simp⟩

theorem FractionText.ends {s rest : List Char} (fraction : FractionText s)
    (ends : DigitsEnd rest) : DigitsEnd (s ++ rest) := by
  cases fraction with
  | none => exact ends
  | some digits => simp [DigitsEnd, isDigit]

/-- The text of a number without its sign. -/
inductive Magnitude : List Char → Prop
  | mk {whole fraction exponent : List Char} (isWhole : Whole whole)
      (isFraction : FractionText fraction) (isExponent : ExponentText exponent) :
      Magnitude (whole ++ (fraction ++ exponent))

theorem Magnitude.reads {s : List Char} (magnitude : Magnitude s) (negative : Bool) :
    ∃ numeral, ∀ rest, NumberEnds rest →
      readNumeral negative (s ++ rest) = .ok (numeral, rest) := by
  obtain @⟨whole, fraction, exponent, isWhole, isFraction, isExponent⟩ := magnitude
  obtain ⟨digits, readsFraction⟩ := readFraction_append isFraction
  obtain ⟨power, readsExponent⟩ := readExponent_append isExponent
  refine ⟨⟨negative, whole.map digitValue, digits, power⟩, fun rest ends => ?_⟩
  obtain ⟨digitsEnd, unpointed⟩ := isExponent.ends ends
  unfold readNumeral
  rw [List.append_assoc, List.append_assoc,
    readWhole_append isWhole (isFraction.ends digitsEnd)]
  show (readFraction (fraction ++ (exponent ++ rest)) >>= fun _ => _) = _
  rw [readsFraction _ digitsEnd unpointed]
  show (readExponent (exponent ++ rest) >>= fun _ => _) = _
  rw [readsExponent _ ends]
  rfl

theorem Magnitude.head {s : List Char} (magnitude : Magnitude s) :
    ∃ c rest, s = c :: rest ∧ isDigit c = true := by
  obtain @⟨whole, fraction, exponent, isWhole, -, -⟩ := magnitude
  have digits := isWhole.digits
  cases whole with
  | nil => exact absurd rfl digits.some
  | cons c whole => exact ⟨c, _, rfl, digits.digits c List.mem_cons_self⟩

theorem Whole.magnitude {s : List Char} (whole : Whole s) : Magnitude s := by
  have magnitude := Magnitude.mk whole .none .none
  simpa using magnitude

/-! ### The texts of numbers -/

theorem whole_toDigits (n : Nat) : Whole (Nat.toDigits 10 n) := by
  by_cases zero : n = 0
  · rw [zero]
    exact .zero
  · obtain ⟨c, rest, heq, lead⟩ := Decimal.toDigits_lead zero
    rw [heq]
    exact .lead (heq ▸ areDigits_toDigits n) lead

theorem AreDigits.append {s rest : List Char} (digits : AreDigits s)
    (others : ∀ c ∈ rest, isDigit c = true) : AreDigits (s ++ rest) where
  some := by simp [digits.some]
  digits := by
    intro c member
    rcases List.mem_append.mp member with member | member
    · exact digits.digits c member
    · exact others c member

theorem digits_cons {c : Char} {s : List Char} (digits : AreDigits (c :: s)) :
    isDigit c = true ∧ ∀ d ∈ s, isDigit d = true :=
  ⟨digits.digits c List.mem_cons_self,
    fun d member => digits.digits d (List.mem_cons_of_mem c member)⟩

theorem digits_zeros (n : Nat) : ∀ c ∈ (Decimal.zeros n).toList, isDigit c = true := by
  intro c member
  rw [Decimal.zeros, String.toList_ofList] at member
  rw [List.eq_of_mem_replicate member]
  rfl

theorem exponentText (order : Int) :
    ExponentText ("e" ++ (if order < 0 then "-" else numberLayout.exponentPlus) ++
      toString order.natAbs).toList := by
  have digits : AreDigits (toString order.natAbs).toList := by
    rw [show toString order.natAbs = order.natAbs.repr from rfl, Nat.toList_repr]
    exact areDigits_toDigits _
  rw [String.toList_append, String.toList_append]
  split
  · exact .down digits
  · exact .up digits

theorem fraction_zero : FractionText ['.', '0'] :=
  .some ⟨List.cons_ne_nil _ _, by simp [isDigit]⟩

theorem magnitude_write {d : Decimal.Digits} (positive : d.digits ≠ 0) :
    Magnitude (numberLayout.write d).toList := by
  obtain ⟨c, rest, heq, lead⟩ := Decimal.toDigits_lead positive
  have digits := areDigits_toDigits d.digits
  rw [heq] at digits
  obtain ⟨digit, digits'⟩ := digits_cons digits
  unfold Decimal.Layout.write
  dsimp only
  rw [heq]
  generalize horder : d.exponent + ((c :: rest).length : Nat) - 1 = order
  split
  · -- a digit, a fraction if there are more, and the exponent
    have whole : Whole [c] := .lead ⟨List.cons_ne_nil _ _, by simpa using digit⟩ lead
    obtain ⟨fraction, isFraction, parts⟩ : ∃ fraction, FractionText fraction ∧
        (Decimal.pointed (c :: rest)).toList = [c] ++ fraction := by
      cases rest with
      | nil => exact ⟨[], .none, String.toList_ofList⟩
      | cons e rest =>
        exact ⟨'.' :: e :: rest, .some ⟨List.cons_ne_nil _ _, digits'⟩, String.toList_ofList⟩
    have magnitude := Magnitude.mk whole isFraction (exponentText order)
    rw [← List.append_assoc, ← parts, ← String.toList_append] at magnitude
    simpa only [String.append_assoc] using magnitude
  · split
    · have fraction :
          FractionText ('.' :: ((Decimal.zeros (order.natAbs - 1)).toList ++ c :: rest)) :=
        .some ⟨by simp, fun e member => (List.mem_append.mp member).elim
          (digits_zeros _ e) (digits.digits e)⟩
      have magnitude := Magnitude.mk .zero fraction .none
      simpa using magnitude
    · split
      · have whole : Whole (c :: (rest ++ (Decimal.zeros d.exponent.toNat).toList)) :=
          .lead (digits.append (digits_zeros _)) lead
        have magnitude := Magnitude.mk whole fraction_zero .none
        simpa [numberLayout] using magnitude
      · -- the point stands behind as many digits as there are before it
        next negative fractional =>
        have short : order.toNat < rest.length := by
          rw [List.length_cons] at horder
          omega
        have whole : Whole (c :: rest.take order.toNat) := by
          refine .lead ⟨List.cons_ne_nil _ _, fun e member => ?_⟩ lead
          rcases List.mem_cons.mp member with rfl | member
          · exact digit
          · exact digits' e (List.mem_of_mem_take member)
        have fraction : FractionText ('.' :: rest.drop order.toNat) := by
          refine .some ⟨?_, fun e member => digits' e (List.mem_of_mem_drop member)⟩
          rw [ne_eq, List.drop_eq_nil_iff]
          omega
        have magnitude := Magnitude.mk whole fraction .none
        simpa using magnitude

theorem text_ofNat (n : Nat) (fits) :
    (Number.integer (.ofNat n) fits).text.toList = Nat.toDigits 10 n := Nat.toList_repr

theorem text_negSucc (n : Nat) (fits) :
    (Number.integer (.negSucc n) fits).text.toList = '-' :: Nat.toDigits 10 (n + 1) := by
  show ("-" ++ (n + 1).repr).toList = _
  rw [String.toList_append, Nat.toList_repr]
  rfl

/-- Every number is written as a literal, with a sign before it if it is negative. -/
theorem text_number (n : Number) : ∃ sign magnitude, n.text.toList = sign ++ magnitude ∧
    (sign = [] ∨ sign = ['-']) ∧ Magnitude magnitude := by
  cases n with
  | integer value fits =>
    cases value with
    | ofNat n => exact ⟨[], _, text_ofNat n fits, .inl rfl, (whole_toDigits n).magnitude⟩
    | negSucc n =>
      exact ⟨['-'], _, text_negSucc n fits, .inr rfl, (whole_toDigits (n + 1)).magnitude⟩
  | double value finite =>
    have zero : Magnitude (['0'] ++ (['.', '0'] ++ [])) := .mk .zero fraction_zero .none
    have signs : (if value.toBits >>> 63 = 0 then "" else "-").toList = [] ∨
        (if value.toBits >>> 63 = 0 then "" else "-").toList = ['-'] := by
      split
      · exact .inl rfl
      · exact .inr rfl
    show ∃ sign magnitude, (numberLayout.float value).toList = sign ++ magnitude ∧ _
    unfold Decimal.Layout.float
    dsimp only
    split
    · refine ⟨_, ['0', '.', '0'], ?_, signs, zero⟩
      rw [String.toList_append, String.toList_append, List.append_assoc]
      rfl
    · next nonzero =>
      have unsigned : (value.toBits % 0x8000000000000000).toNat < 0x8000000000000000 := by
        rw [UInt64.toNat_mod]
        exact Nat.mod_lt _ (by decide)
      refine ⟨_, _, String.toList_append, signs, ?_⟩
      exact magnitude_write (Decimal.shortest_ne_zero nonzero unsigned)

/-! ### Reading them -/

/-- A character that is not a digit. -/
theorem ne_of_digit {c other : Char} (digit : isDigit c = true)
    (undigited : isDigit other = false) : c ≠ other := by
  rintro rfl
  rw [digit] at undigited
  cases undigited

theorem solid_of_digit {c : Char} (digit : isDigit c = true) : isBlank c = false := by
  have other (blank : Char) (undigited : isDigit blank = false) : (c = blank) = False :=
    eq_false (ne_of_digit digit undigited)
  simp only [isBlank, other ' ' rfl, other '\n' rfl, other '\t' rfl, other '\r' rfl,
    decide_false, Bool.or_false]

theorem readValue_digit {c : Char} (digit : isDigit c = true) (fuel : Nat) (s : List Char) :
    readValue (fuel + 1) (c :: s) = readNumber false (c :: s) := by
  have visible : skipBlank (c :: s) = c :: s := by simp [skipBlank, solid_of_digit digit]
  have other {d : Char} {t : List Char} (heq : c :: s = d :: t) (undigited : isDigit d = false) :
      False := ne_of_digit digit undigited (List.cons.inj heq).1
  rw [readValue, visible]
  split
  · next heq => cases heq
  · next heq => exact (other heq rfl).elim
  · next heq => exact (other heq rfl).elim
  · next heq => exact (other heq rfl).elim
  · next heq => exact (other heq rfl).elim
  · next heq => exact (other heq rfl).elim
  · next heq => exact (other heq rfl).elim
  · next heq => exact (other heq rfl).elim
  · next heq =>
    obtain ⟨rfl, rfl⟩ := List.cons.inj heq
    rw [if_pos digit]

/-- The text of a number is read to its end, as one literal whatever follows. -/
theorem readValue_number (n : Number) : ∃ numeral, ∀ fuel rest, NumberEnds rest →
    readValue (fuel + 1) (n.text.toList ++ rest) = (.numeral numeral, some rest) := by
  obtain ⟨sign, magnitude, text, signs, isMagnitude⟩ := text_number n
  rcases signs with rfl | rfl
  · obtain ⟨numeral, reads⟩ := isMagnitude.reads false
    refine ⟨numeral, fun fuel rest ends => ?_⟩
    obtain ⟨c, s, heq, digit⟩ := isMagnitude.head
    rw [text, List.nil_append, heq, List.cons_append, readValue_digit digit, ← List.cons_append,
      ← heq, readNumber, reads rest ends]
  · obtain ⟨numeral, reads⟩ := isMagnitude.reads true
    refine ⟨numeral, fun fuel rest ends => ?_⟩
    rw [text, List.append_assoc, List.cons_append, List.nil_append]
    show readNumber true (magnitude ++ rest) = _
    rw [readNumber, reads rest ends]

/-! ### The integers that they stand for -/

theorem le_ofDigitChars (s : List Char) (start : Nat) : start ≤ Nat.ofDigitChars 10 s start := by
  induction s generalizing start with
  | nil => exact Nat.le_refl _
  | cons c s ih =>
    rw [Nat.ofDigitChars_cons]
    have := ih (10 * start + (c.toNat - '0'.toNat))
    omega

/-- All digits are taken in as long as the number that they stand for is below the bound. -/
theorem gather_digits {bound start : Nat} {s : List Char}
    (below : Nat.ofDigitChars 10 s start < bound) :
    gather bound start (s.map digitValue) = (Nat.ofDigitChars 10 s start, 0) := by
  induction s generalizing start with
  | nil => rfl
  | cons c s ih =>
    rw [Nat.ofDigitChars_cons] at below ⊢
    have step : start * 10 + digitValue c = 10 * start + (c.toNat - '0'.toNat) := by
      rw [Nat.mul_comm]
      rfl
    have least := le_ofDigitChars s (10 * start + (c.toNat - '0'.toNat))
    rw [List.map_cons, gather, step, if_pos (Nat.lt_of_le_of_lt least below)]
    exact ih below

theorem gather_toDigits {n : Nat} (fits : n < 0x10000000000000000) :
    gather 0x10000000000000000 0 ((Nat.toDigits 10 n).map digitValue) = (n, 0) := by
  have same : Nat.ofDigitChars 10 (Nat.toDigits 10 n) 0 = n := Nat.ofDigitChars_ten_toDigits
  rw [gather_digits (by rwa [same]), same]

/-- The literal of an integer. -/
def integerNumeral (value : Int) : Numeral :=
  ⟨value < 0, (Nat.toDigits 10 value.natAbs).map digitValue, none, none⟩

theorem number?_integerNumeral {value : Int}
    (fits : -0x8000000000000000 ≤ value ∧ value < 0x10000000000000000) :
    (integerNumeral value).number? = some (.integer value fits) := by
  have signed : (if decide (value < 0) = true then -(value.natAbs : Int) else value.natAbs) =
      value := by
    simp only [decide_eq_true_eq]
    split <;> omega
  have proper : ¬(decide (value < 0) = true ∧ value.natAbs = 0) := by
    rw [decide_eq_true_eq]
    omega
  unfold integerNumeral Numeral.number?
  dsimp only
  rw [gather_toDigits (by omega)]
  dsimp only
  rw [dif_pos ⟨by rwa [signed], proper⟩]
  simp only [signed]

theorem readNumeral_whole {s rest : List Char} (whole : Whole s) (ends : NumberEnds rest)
    (negative : Bool) : readNumeral negative (s ++ rest) =
      .ok (⟨negative, s.map digitValue, none, none⟩, rest) := by
  unfold readNumeral
  rw [readWhole_append whole ends.digits]
  show (readFraction rest >>= fun _ => _) = _
  rw [readFraction_absent fun c head => (ends c head).2.1]
  show (readExponent rest >>= fun _ => _) = _
  rw [readExponent_absent ends]
  rfl

theorem readValue_integer {value : Int}
    (fits : -0x8000000000000000 ≤ value ∧ value < 0x10000000000000000) {rest : List Char}
    (ends : NumberEnds rest) (fuel : Nat) :
    readValue (fuel + 1) ((Number.integer value fits).text.toList ++ rest) =
      (.numeral (integerNumeral value), some rest) := by
  cases value with
  | ofNat n =>
    obtain ⟨c, s, heq, digit⟩ := (whole_toDigits n).magnitude.head
    rw [text_ofNat, heq, List.cons_append, readValue_digit digit, ← List.cons_append, ← heq,
      readNumber, readNumeral_whole (whole_toDigits n) ends]
    rfl
  | negSucc n =>
    rw [text_negSucc]
    show readNumber true (Nat.toDigits 10 (n + 1) ++ rest) = _
    have below : decide (Int.negSucc n < 0) = true := decide_eq_true (Int.negSucc_lt_zero n)
    rw [readNumber, readNumeral_whole (whole_toDigits (n + 1)) ends, integerNumeral, below]
    rfl

end NodeCall.Json
