import NodeCall.Proofs.Text.Percent
import NodeCall.Text.Form

/-!
# Forms there and back

An encoded text holds letters, digits, a few marks, plus signs and percent signs, so none of the
characters that join names and values.  What has been joined is therefore taken apart as it was,
and each part is decoded to the text that was encoded.
-/

namespace NodeCall.Text.Form

variable {c separator : Char} {part rest s : List Char} {pair : Pair} {pairs : List Pair}

/-! ### Single texts -/

/-- The characters of an encoded text. -/
def isEncoded (c : Char) : Bool := isPlain c || c = '+' || c = '%'

theorem isEncoded_of_isEscape (part : Percent.isEscape c = true) : isEncoded c = true := by
  have all : "%0123456789ABCDEF".toList.all isEncoded = true := by decide
  exact List.all_eq_true.mp all c (List.contains_iff_mem.mp part)

theorem isEncoded_of_mem_encode (there : c ∈ encode s) : isEncoded c = true := by
  obtain ⟨x, -, among⟩ := List.mem_flatMap.mp there
  unfold encodeChar at among
  split at among
  · rw [List.mem_singleton.mp among]
    rfl
  · have whole : c ∈ Percent.encode (fun c => !isPlain c) [x] := by
      rwa [Percent.encode, List.flatMap_singleton]
    rcases Percent.mem_encode whole with part | ⟨-, literal⟩
    · exact isEncoded_of_isEscape part
    · rw [isEncoded, show isPlain c = true by simpa using literal]
      rfl

theorem not_mem_encode (apart : isEncoded separator = false) (s : List Char) :
    separator ∉ encode s := fun there =>
  Bool.false_ne_true (apart.symm.trans (isEncoded_of_mem_encode there))

/-- With spaces for its plus signs, an encoded text is one in which spaces are written as they are
and all else is escaped that is not plain. -/
theorem map_encode (s : List Char) : ((encode s).map fun c => if c = '+' then ' ' else c) =
    Percent.encode (fun c => !isPlain c && c ≠ ' ') s := by
  induction s with
  | nil => rfl
  | cons c rest ih =>
    rw [encode, List.flatMap_cons, List.map_append, ← encode, ih, Percent.encode_cons]
    congr 1
    unfold encodeChar
    split
    · next space => rw [space]; rfl
    · next other =>
      have same : Percent.encodeChar (fun c => !isPlain c && c ≠ ' ') c =
          Percent.encodeChar (fun c => !isPlain c) c := by
        simp [Percent.encodeChar, other]
      rw [same]
      refine (List.map_congr_left fun x there => if_neg ?_).trans (List.map_id _)
      rintro rfl
      have whole : '+' ∈ Percent.encode (fun c => !isPlain c) [c] := by
        rwa [Percent.encode, List.flatMap_singleton]
      exact Percent.not_mem_encode (by decide) (by decide) [c] whole

theorem decode_encode (s : List Char) : decode (encode s) = s := by
  have bytes := @Percent.decode_map_encode (fun c => !isPlain c && c ≠ ' ') id (by decide)
    (fun _ _ => rfl) (fun _ _ => rfl) (fun _ other => other) s
  rw [List.map_id, List.map_id] at bytes
  rw [decode, map_encode, bytes, Utf8.decode_encode]

/-! ### Names and values -/

theorem pairOf_pairText (pair : Pair) : pairOf (pairText pair) = pair := by
  have before : ∀ x ∈ encode pair.1, decide (x ≠ '=') = true := by
    intro x there
    rw [decide_eq_true_eq]
    rintro rfl
    exact not_mem_encode (by decide) pair.1 there
  rw [pairOf, pairText, List.takeWhile_append_of_pos before, List.dropWhile_append_of_pos before,
    List.takeWhile_cons_of_neg (by simp), List.dropWhile_cons_of_neg (by simp), List.append_nil,
    List.drop_one, List.tail_cons, decode_encode, decode_encode]

theorem mem_pairText (there : c ∈ pairText pair) : isEncoded c = true ∨ c = '=' := by
  rcases List.mem_append.mp there with name | value
  · exact .inl (isEncoded_of_mem_encode name)
  · rcases List.mem_cons.mp value with sign | value
    · exact .inr sign
    · exact .inl (isEncoded_of_mem_encode value)

theorem isEmpty_pairText (pair : Pair) : (pairText pair).isEmpty = false := by
  simp [pairText]

/-! ### Lists of pairs -/

theorem splitOn_of_not_mem (apart : separator ∉ part) : splitOn separator part = [part] := by
  induction part with
  | nil => rfl
  | cons c rest ih =>
    rw [List.mem_cons, not_or] at apart
    rw [splitOn, if_neg (Ne.symm apart.1), ih apart.2]

theorem splitOn_append (apart : separator ∉ part) (rest : List Char) :
    splitOn separator (part ++ separator :: rest) = part :: splitOn separator rest := by
  induction part with
  | nil => rw [List.nil_append, splitOn, if_pos rfl]
  | cons c more ih =>
    rw [List.mem_cons, not_or] at apart
    rw [List.cons_append, splitOn, if_neg (Ne.symm apart.1), ih apart.2]

theorem ampersand_not_mem_pairText (pair : Pair) : '&' ∉ pairText pair := by
  intro there
  rcases mem_pairText there with encoded | sign
  · exact absurd encoded (by decide)
  · exact absurd sign (by decide)

theorem parse_serialize (pairs : List Pair) : parse (serialize pairs) = pairs := by
  induction pairs using serialize.induct with
  | case1 => rfl
  | case2 pair =>
    rw [serialize, parse, splitOn_of_not_mem (ampersand_not_mem_pairText pair)]
    simp [isEmpty_pairText, pairOf_pairText]
  | case3 pair rest more ih =>
    rw [parse] at ih
    rw [serialize, parse, splitOn_append (ampersand_not_mem_pairText pair),
      List.filter_cons_of_pos (by simp [isEmpty_pairText]), List.map_cons, ih, pairOf_pairText]
    exact more

theorem mem_serialize (there : c ∈ serialize pairs) : isEncoded c = true ∨ c = '=' ∨ c = '&' := by
  induction pairs using serialize.induct with
  | case1 => cases there
  | case2 pair => exact (mem_pairText there).imp_right .inl
  | case3 pair rest more ih =>
    rw [serialize] at there
    · rcases List.mem_append.mp there with first | others
      · exact (mem_pairText first).imp_right .inl
      · rcases List.mem_cons.mp others with sign | others
        · exact .inr (.inr sign)
        · exact ih others
    · exact more

end NodeCall.Text.Form
