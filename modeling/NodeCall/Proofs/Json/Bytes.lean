import NodeCall.Proofs.Json.Printing
import NodeCall.Proofs.Text.Utf8

/-!
# JSON as bytes

A text that comes as bytes is read as if it had come as a text: it has no byte that belongs to no
character, so the two readings of its bytes are one.  A string with such a byte is told apart by
them, and so it is no text; whoever does not take it may skip it.
-/

namespace NodeCall.Json

theorem Word.common_self (word : Word) : word.common word = word := by
  cases word with
  | text value => exact if_pos rfl
  | unpaired => rfl

mutual

theorem Tree.common_self : ∀ tree : Tree, tree.common tree = tree
  | .null => rfl
  | .bool _ => rfl
  | .numeral _ => rfl
  | .word literal => by rw [Tree.common, literal.common_self]
  | .array items _ => by rw [Tree.common, Tree.commonItems_self items]
  | .object members _ => by rw [Tree.common, Tree.commonMembers_self members]
  | .cut _ => rfl

theorem Tree.commonItems_self : ∀ items : List Tree, Tree.commonItems items items = items
  | [] => rfl
  | tree :: rest => by rw [Tree.commonItems, tree.common_self, Tree.commonItems_self rest]

theorem Tree.commonMembers_self :
    ∀ members : List (Word × Tree), Tree.commonMembers members members = members
  | [] => rfl
  | (key, tree) :: rest => by
    rw [Tree.commonMembers, key.common_self, tree.common_self, Tree.commonMembers_self rest]

end

theorem Document.ofBytes_encode (s : List Char) :
    Document.ofBytes (Text.Utf8.encode s) = Document.ofText s := by
  unfold Document.ofBytes
  rw [Text.Utf8.decodeMarked_encode, Text.Utf8.decodeMarked_encode]
  dsimp only
  rw [Tree.common_self]

theorem ofBytes_encode (s : String) : ofBytes (Text.Utf8.encode s.toList) = ofText s := by
  rw [ofBytes, Document.ofBytes_encode, ofText]

theorem decodeBytes_encode {α : Type} (decode : Place → Decoded α) (s : String) :
    decodeBytes decode (Text.Utf8.encode s.toList) = decodeText decode s := by
  rw [decodeBytes, Document.ofBytes_encode, decodeText]

/-! ### Bytes that are no text -/

/-- A reading of a string with a byte that belongs to no character has the mark in its place. -/
theorem Document.ofText_marked {mark : Char} (plain : escapeChar mark = [mark]) {b : UInt8}
    (foreign : Text.Utf8.Foreign b) (s t : List Char) :
    Document.ofText (Text.Utf8.decodeMarked mark 0
        (Text.Utf8.encode ('"' :: escape s) ++ b :: Text.Utf8.encode (escape t ++ ['"']))) =
      ⟨.word (.text (String.ofList (s ++ mark :: t))), false⟩ := by
  have text : '"' :: escape s ++ mark :: (escape t ++ ['"']) =
      (Json.string (String.ofList (s ++ mark :: t))).chars := by
    simp [chars, quote, escape, plain]
  rw [Text.Utf8.decodeMarked_foreign mark foreign, text, document_chars]
  rfl

/-- A string with a byte that belongs to no character is no text. -/
theorem Document.ofBytes_foreign {b : UInt8} (foreign : Text.Utf8.Foreign b) (s t : List Char) :
    Document.ofBytes
        (Text.Utf8.encode ('"' :: escape s) ++ b :: Text.Utf8.encode (escape t ++ ['"'])) =
      ⟨.word .unpaired, false⟩ := by
  have apart : String.ofList (s ++ 'x' :: t) ≠ String.ofList (s ++ 'z' :: t) := by
    intro same
    have := List.append_cancel_left (String.ofList_injective same)
    simp at this
  unfold Document.ofBytes
  rw [ofText_marked (by decide) foreign, ofText_marked (by decide) foreign]
  dsimp only
  rw [Tree.common, Word.common, if_neg apart]

/-- It has no value, but it can be skipped. -/
example : ofBytes [0x22, 0xFF, 0x22] = .error .malformed ∧
    (Document.ofBytes [0x22, 0xFF, 0x22]).tree.skip = .ok () := ⟨rfl, rfl⟩

end NodeCall.Json
