import NodeCall.Text.Utf8

/-!
# UTF-8 there and back

A text that is written as bytes is read as itself: the bytes of a character are read one after
another, each within the bounds that those before it leave, and the last one finishes it.
-/

namespace NodeCall.Text.Utf8

variable {u : Unfinished} {b n : Nat} {rest : List UInt8}

/-! ### Single bytes -/

theorem decode_start (small : b < 256) (rest : List UInt8) :
    decodeFrom none (byte b :: rest) = (start b).1 ++ decodeFrom (start b).2 rest := by
  simp only [decodeFrom, read, toNat_byte small]

theorem decode_continue (small : b < 256) (rest : List UInt8) :
    decodeFrom (some u) (byte b :: rest) =
      (continue_ u b).1 ++ decodeFrom (continue_ u b).2 rest := by
  simp only [decodeFrom, read, toNat_byte small]

/-- A byte that belongs to a character, but does not finish it. -/
theorem continue_more {more : Nat} (missing : u.missing = more + 2) (low : u.low ≤ b)
    (high : b ≤ u.high) :
    continue_ u b = ([], some ⟨u.value * 64 + (b - 0x80), more + 1, 0x80, 0xBF⟩) := by
  simp [continue_, missing, low, high]

theorem continue_last (missing : u.missing = 1) (low : u.low ≤ b) (high : b ≤ u.high) :
    continue_ u b = ([Char.ofNat (u.value * 64 + (b - 0x80))], none) := by
  simp [continue_, missing, low, high]

/-! ### Characters of several bytes -/

theorem decode_lead (small : b < 256) (leads : start b = ([], some u)) (rest : List UInt8) :
    decodeFrom none (byte b :: rest) = decodeFrom (some u) rest := by
  rw [decode_start small, leads]
  rfl

theorem decode_more {more : Nat} (small : b < 256) (missing : u.missing = more + 2)
    (low : u.low ≤ b) (high : b ≤ u.high) (rest : List UInt8) :
    decodeFrom (some u) (byte b :: rest) =
      decodeFrom (some ⟨u.value * 64 + (b - 0x80), more + 1, 0x80, 0xBF⟩) rest := by
  rw [decode_continue small, continue_more missing low high]
  rfl

theorem decode_last (missing : u.missing = 1) (value : u.value = n / 64)
    (low : u.low ≤ 0x80 + n % 64) (high : 0x80 + n % 64 ≤ u.high) (rest : List UInt8) :
    decodeFrom (some u) (byte (0x80 + n % 64) :: rest) = Char.ofNat n :: decodeFrom none rest := by
  have whole : n / 64 * 64 + (0x80 + n % 64 - 0x80) = n := by omega
  rw [decode_continue (by omega), continue_last missing low high, value, whole]
  rfl

theorem start_two (low : 0xC2 ≤ b) (high : b < 0xE0) :
    start b = ([], some ⟨b - 0xC0, 1, 0x80, 0xBF⟩) := by
  unfold start
  rw [if_neg (by omega), if_neg (by omega), if_pos high]

theorem start_three (low : 0xE0 ≤ b) (high : b < 0xF0) :
    start b = ([], some ⟨b - 0xE0, 2, if b = 0xE0 then 0xA0 else 0x80,
      if b = 0xED then 0x9F else 0xBF⟩) := by
  unfold start
  rw [if_neg (by omega), if_neg (by omega), if_neg (by omega), if_pos high]

theorem start_four (low : 0xF0 ≤ b) (high : b < 0xF5) :
    start b = ([], some ⟨b - 0xF0, 3, if b = 0xF0 then 0x90 else 0x80,
      if b = 0xF4 then 0x8F else 0xBF⟩) := by
  unfold start
  rw [if_neg (by omega), if_neg (by omega), if_neg (by omega), if_neg (by omega), if_pos high]

theorem decode_two (low : 0x80 ≤ n) (high : n < 0x800) (rest : List UInt8) :
    decodeFrom none (byte (0xC0 + n / 64) :: byte (0x80 + n % 64) :: rest) =
      Char.ofNat n :: decodeFrom none rest := by
  rw [decode_lead (by omega) (start_two (by omega) (by omega))]
  apply decode_last rfl <;> dsimp only <;> omega

theorem decode_three (low : 0x800 ≤ n) (high : n < 0x10000) (whole : n < 0xD800 ∨ 0xDFFF < n)
    (rest : List UInt8) :
    decodeFrom none (byte (0xE0 + n / 4096) :: byte (0x80 + n / 64 % 64) ::
        byte (0x80 + n % 64) :: rest) = Char.ofNat n :: decodeFrom none rest := by
  -- the bounds of the second byte leave out surrogates, and so does `whole`
  rw [decode_lead (by omega) (start_three (by omega) (by omega)),
    decode_more (by omega) rfl (by dsimp only; split <;> omega) (by dsimp only; split <;> omega)]
  apply decode_last rfl <;> dsimp only <;> omega

theorem decode_four (low : 0x10000 ≤ n) (high : n < 0x110000) (rest : List UInt8) :
    decodeFrom none (byte (0xF0 + n / 262144) :: byte (0x80 + n / 4096 % 64) ::
        byte (0x80 + n / 64 % 64) :: byte (0x80 + n % 64) :: rest) =
      Char.ofNat n :: decodeFrom none rest := by
  rw [decode_lead (by omega) (start_four (by omega) (by omega)),
    decode_more (by omega) rfl (by dsimp only; split <;> omega) (by dsimp only; split <;> omega),
    decode_more (by omega) rfl (by dsimp only; omega) (by dsimp only; omega)]
  apply decode_last rfl <;> dsimp only <;> omega

/-! ### Texts -/

theorem decode_encodeChar (c : Char) (rest : List UInt8) :
    decodeFrom none (encodeChar c ++ rest) = c :: decodeFrom none rest := by
  have valid : c.toNat < 0xD800 ∨ (0xDFFF < c.toNat ∧ c.toNat < 0x110000) := c.valid
  have back : Char.ofNat c.toNat = c := Char.ofNat_toNat c
  unfold encodeChar
  dsimp only
  split
  · next one =>
    rw [List.cons_append, List.nil_append, decode_start (by omega), start, if_pos one, back]
    rfl
  split
  · exact (decode_two (by omega) (by omega) rest).trans (by rw [back])
  split
  · exact (decode_three (by omega) (by omega) (by omega) rest).trans (by rw [back])
  · exact (decode_four (by omega) (by omega) rest).trans (by rw [back])

theorem decode_encode (s : List Char) : decode (encode s) = s := by
  induction s with
  | nil => rfl
  | cons c rest ih =>
    rw [encode, List.flatMap_cons, decode, decode_encodeChar]
    exact congrArg (c :: ·) ih

/-! ### Marked bytes -/

theorem encodeChar_ne_nil (c : Char) : encodeChar c ≠ [] := by
  unfold encodeChar
  dsimp only
  split
  · exact List.cons_ne_nil _ _
  split
  · exact List.cons_ne_nil _ _
  split <;> exact List.cons_ne_nil _ _

theorem length_encodeChar_le (c : Char) : (encodeChar c).length ≤ 4 := by
  unfold encodeChar
  dsimp only
  split
  · simp
  split
  · simp
  split <;> simp

theorem first?_encodeChar (c : Char) (rest : List UInt8) :
    first? (encodeChar c ++ rest) = some c := by
  have head : (decode ((encodeChar c ++ rest).take 4)).head? = some c := by
    rw [List.take_append, List.take_of_length_le (length_encodeChar_le c), decode,
      decode_encodeChar]
    rfl
  have whole : (encodeChar c).isPrefixOf (encodeChar c ++ rest) = true :=
    List.isPrefixOf_iff_prefix.mpr (List.prefix_append _ _)
  rw [first?, head]
  exact if_pos whole

theorem decodeMarked_skip (mark : Char) (passed rest : List UInt8) :
    decodeMarked mark passed.length (passed ++ rest) = decodeMarked mark 0 rest := by
  induction passed with
  | nil => rfl
  | cons b passed ih => exact ih

theorem decodeMarked_encodeChar (mark c : Char) (rest : List UInt8) :
    decodeMarked mark 0 (encodeChar c ++ rest) = c :: decodeMarked mark 0 rest := by
  have first := first?_encodeChar c rest
  obtain ⟨b, others, hbytes⟩ := List.exists_cons_of_ne_nil (encodeChar_ne_nil c)
  rw [hbytes] at first ⊢
  rw [List.cons_append] at first ⊢
  rw [decodeMarked, first]
  dsimp only
  rw [hbytes, List.length_cons, Nat.add_sub_cancel, decodeMarked_skip]

theorem decodeMarked_append (mark : Char) (s : List Char) (rest : List UInt8) :
    decodeMarked mark 0 (encode s ++ rest) = s ++ decodeMarked mark 0 rest := by
  induction s with
  | nil => rfl
  | cons c s ih =>
    rw [encode, List.flatMap_cons, List.append_assoc, decodeMarked_encodeChar]
    exact congrArg (c :: ·) ih

/-- A text has no byte to mark. -/
theorem decodeMarked_encode (mark : Char) (s : List Char) :
    decodeMarked mark 0 (encode s) = s := by
  have := decodeMarked_append mark s []
  rwa [List.append_nil, decodeMarked, List.append_nil] at this

/-- A byte that begins no character. -/
def Foreign (b : UInt8) : Prop := 0x80 ≤ b.toNat ∧ b.toNat < 0xC2 ∨ 0xF5 ≤ b.toNat

instance (b : UInt8) : Decidable (Foreign b) := inferInstanceAs (Decidable (_ ∨ _))

theorem first?_foreign {b : UInt8} (foreign : Foreign b) (rest : List UInt8) :
    first? (b :: rest) = none := by
  have begins : start b.toNat = ([replacement], none) := by
    unfold start
    rcases foreign with ⟨low, high⟩ | high
    · rw [if_neg (by omega), if_pos high]
    · rw [if_neg (by omega), if_neg (by omega), if_neg (by omega), if_neg (by omega),
        if_neg (by omega)]
  have head : (decode ((b :: rest).take 4)).head? = some replacement := by
    rw [List.take_succ_cons, decode, decodeFrom, read, begins]
    rfl
  have other : (encodeChar replacement).isPrefixOf (b :: rest) = false := by
    have lead : (byte 0xEF == b) = false := by
      refine beq_false_of_ne ?_
      rintro rfl
      revert foreign
      decide
    exact (congrArg (· && _) lead).trans (Bool.false_and _)
  rw [first?, head]
  exact if_neg (by simp [other])

theorem decodeMarked_foreign (mark : Char) {b : UInt8} (foreign : Foreign b) (s t : List Char) :
    decodeMarked mark 0 (encode s ++ b :: encode t) = s ++ mark :: t := by
  rw [decodeMarked_append, decodeMarked, first?_foreign foreign]
  dsimp only
  rw [decodeMarked_encode]

end NodeCall.Text.Utf8
