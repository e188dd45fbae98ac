import NodeCall.Text.Percent
import NodeCall.Proofs.Text.Utf8

/-!
# Percent encoding there and back

Escapes are made of percent signs and upper-case hexadecimal digits.  So a character that is neither
stands in an encoded text just where it stands in the text itself, unless it is escaped; and an
encoded text is decoded to the bytes of the text itself if percent signs are escaped as well.
-/

namespace NodeCall.Text.Percent

variable {escaped base : Class} {c x separator : Char} {s t : List Char}

/-! ### Escapes -/

/-- The characters that escapes are made of. -/
def isEscape (c : Char) : Bool := "%0123456789ABCDEF".toList.contains c

theorem isEscape_digit : ∀ n < 16, isEscape (digit n) = true := by decide

theorem digit?_digit : ∀ n < 16, digit? (digit n) = some n := by decide

theorem isEscape_of_mem_escape {b : UInt8} (there : x ∈ escape b) : isEscape x = true := by
  have := b.toNat_lt
  simp only [escape, List.mem_cons, List.not_mem_nil, or_false] at there
  rcases there with rfl | rfl | rfl
  · rfl
  · exact isEscape_digit _ (by omega)
  · exact isEscape_digit _ (by omega)

/-- A character of an encoded text is part of an escape, or stands for itself. -/
theorem mem_encode (there : x ∈ encode escaped s) :
    isEscape x = true ∨ (x ∈ s ∧ escaped x = false) := by
  obtain ⟨c, inside, among⟩ := List.mem_flatMap.mp there
  unfold encodeChar at among
  split at among
  · obtain ⟨b, -, here⟩ := List.mem_flatMap.mp among
    exact .inl (isEscape_of_mem_escape here)
  · next literal =>
    obtain rfl := List.mem_singleton.mp among
    exact .inr ⟨inside, Bool.eq_false_iff.mpr literal⟩

theorem encodeChar_of_literal (literal : escaped c = false) : encodeChar escaped c = [c] := by
  rw [encodeChar, literal, if_neg Bool.false_ne_true]

theorem encode_cons (escaped : Class) (c : Char) (s : List Char) :
    encode escaped (c :: s) = encodeChar escaped c ++ encode escaped s := List.flatMap_cons

theorem encodeChar_ne_nil (escaped : Class) (c : Char) : encodeChar escaped c ≠ [] := by
  unfold encodeChar Utf8.encodeChar
  dsimp only
  split
  · split
    · exact nofun
    split
    · exact nofun
    split <;> exact nofun
  · exact nofun

theorem encode_eq_nil : encode escaped s = [] ↔ s = [] := by
  cases s with
  | nil => exact iff_of_true rfl rfl
  | cons c rest => simp [encode_cons, encodeChar_ne_nil]

/-! ### Encoded texts -/

theorem encode_of_literal (literal : ∀ x ∈ t, escaped x = false) : encode escaped t = t := by
  induction t with
  | nil => rfl
  | cons c rest ih =>
    rw [encode_cons, encodeChar_of_literal (literal c List.mem_cons_self),
      ih fun x there => literal x (List.mem_cons_of_mem _ there)]
    rfl

/-- What has been encoded is not encoded again where less is escaped, and no percent sign. -/
theorem encode_encode (less : ∀ x, escaped x = false → base x = false)
    (escapes : ∀ x, isEscape x = true → base x = false) (s : List Char) :
    encode base (encode escaped s) = encode escaped s := by
  refine encode_of_literal fun x there => ?_
  rcases mem_encode there with part | ⟨-, literal⟩
  · exact escapes x part
  · exact less x literal

theorem not_mem_encode (hidden : escaped separator = true) (apart : isEscape separator = false)
    (s : List Char) : separator ∉ encode escaped s := by
  intro there
  rcases mem_encode there with part | ⟨-, literal⟩
  · exact Bool.false_ne_true (apart.symm.trans part)
  · exact Bool.false_ne_true (literal.symm.trans hidden)

theorem takeWhile_encode (shown : escaped separator = false) (apart : isEscape separator = false)
    (s : List Char) : (encode escaped s).takeWhile (· ≠ separator) =
      encode escaped (s.takeWhile (· ≠ separator)) := by
  induction s with
  | nil => rfl
  | cons c rest ih =>
    by_cases same : c = separator
    · rw [same, encode_cons, encodeChar_of_literal shown]
      simp [encode]
    · have others : ∀ x ∈ encodeChar escaped c, decide (x ≠ separator) = true := by
        intro x there
        rw [decide_eq_true_eq]
        rintro rfl
        have whole : x ∈ encode escaped [c] := by rwa [encode, List.flatMap_singleton]
        rcases mem_encode whole with part | ⟨inside, -⟩
        · exact Bool.false_ne_true (apart.symm.trans part)
        · exact same (List.mem_singleton.mp inside).symm
      rw [encode_cons, List.takeWhile_append_of_pos others, ih,
        List.takeWhile_cons_of_pos (by simpa using same), encode_cons]

/-! ### Decoding -/

theorem decode_escape (b : UInt8) (rest : List Char) :
    decode (escape b ++ rest) = b :: decode rest := by
  have := b.toNat_lt
  have whole : Utf8.byte (b.toNat / 16 * 16 + b.toNat % 16) = b := by
    rw [show b.toNat / 16 * 16 + b.toNat % 16 = b.toNat by omega]
    exact UInt8.ofNat_toNat
  show decode ('%' :: digit (b.toNat / 16) :: digit (b.toNat % 16) :: rest) = _
  rw [decode, digit?_digit _ (by omega), digit?_digit _ (by omega)]
  exact congrArg (· :: decode rest) whole

theorem decode_escapes (bytes : List UInt8) (rest : List Char) :
    decode (bytes.flatMap escape ++ rest) = bytes ++ decode rest := by
  induction bytes with
  | nil => rfl
  | cons b more ih =>
    rw [List.flatMap_cons, List.append_assoc, decode_escape, ih]
    rfl

theorem decode_literal (plain : c ≠ '%') (rest : List Char) :
    decode (c :: rest) = Utf8.encodeChar c ++ decode rest := by
  rw [decode]
  exact fun _ _ _ percent => absurd percent plain

/-- An encoded text in which no escape has been touched is decoded to the bytes of the text. -/
theorem decode_map_encode {f : Char → Char} (percent : escaped '%' = true)
    (parts : ∀ x, isEscape x = true → f x = x) (hidden : ∀ x, escaped x = true → f x = x)
    (plain : ∀ x, x ≠ '%' → f x ≠ '%') (s : List Char) :
    decode ((encode escaped s).map f) = Utf8.encode (s.map f) := by
  induction s with
  | nil => rfl
  | cons c rest ih =>
    rw [encode_cons, List.map_append, List.map_cons]
    cases literal : escaped c with
    | true =>
      have escapes : (encodeChar escaped c).map f = (Utf8.encodeChar c).flatMap escape := by
        rw [encodeChar, literal, if_pos rfl]
        refine (List.map_congr_left fun x there => ?_).trans (List.map_id _)
        obtain ⟨b, -, here⟩ := List.mem_flatMap.mp there
        exact parts x (isEscape_of_mem_escape here)
      rw [escapes, decode_escapes, ih, hidden c literal]
      rfl
    | false =>
      have ordinary : c ≠ '%' := by
        rintro rfl
        exact Bool.false_ne_true (literal.symm.trans percent)
      rw [encodeChar_of_literal literal, List.map_singleton, List.singleton_append,
        decode_literal (plain c ordinary), ih]
      rfl

end NodeCall.Text.Percent
