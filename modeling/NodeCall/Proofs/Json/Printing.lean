import NodeCall.Proofs.Json.Agreement
import NodeCall.Proofs.Json.Numerals

/-!
# Reading what has been written

The text of a value is read as one tree, the same wherever the text stands, and as nothing but that
tree when it stands alone.  So a value that is read back from its own text is read back from the
text of whatever holds it, as long as that does not nest too deep.
-/

namespace NodeCall.Json

/-! ### Strings -/

theorem readHex_hexDigit {a b : Nat} (ha : a < 16) (hb : b < 16) (rest : List Char) :
    readHex ('0' :: '0' :: hexDigit a :: hexDigit b :: rest) = .ok (a * 16 + b, rest) := by
  have sizes : ∀ n < 16, (hexDigit n).utf8Size = 1 := by decide
  have values : ∀ n < 16, hexValue? (hexDigit n) = some n := by decide
  unfold readHex
  rw [if_neg]
  · simp [values a ha, values b hb, show hexValue? '0' = some 0 from rfl]
  · simp [sizes a ha, sizes b hb, show '0'.utf8Size = 1 from rfl]

/-- A character of a string is read as itself, however it is written. -/
theorem readWord_escapeChar (c : Char) (fuel : Nat) (done rest : List Char) :
    readWord (fuel + 1) false done (escapeChar c ++ rest) =
      readWord fuel false (c :: done) rest := by
  unfold escapeChar
  split
  · next same => rw [same]; rfl
  split
  · next same => rw [same]; rfl
  split
  · next same => rw [same]; rfl
  split
  · next same => rw [same]; rfl
  split
  · next same => rw [same]; rfl
  split
  · next same => rw [same]; rfl
  split
  · next same => rw [same]; rfl
  split
  · next control =>
    have hex : readHex ('0' :: '0' :: hexDigit (c.toNat / 16) :: hexDigit (c.toNat % 16) :: rest) =
        .ok (c.toNat, rest) := by
      rw [readHex_hexDigit (by omega) (by omega)]
      congr 2
      omega
    show readWord (fuel + 1) false done ('\\' :: 'u' :: '0' :: '0' :: hexDigit (c.toNat / 16) ::
      hexDigit (c.toNat % 16) :: rest) = _
    rw [readWord.eq_def]
    dsimp only
    rw [if_neg (by decide), if_pos rfl]
    simp only [hex]
    rw [if_neg (by omega), if_neg (by omega), Char.ofNat_toNat]
  · next quotation backslash _ _ _ _ _ printable =>
    show readWord (fuel + 1) false done (c :: rest) = _
    rw [readWord.eq_def]
    dsimp only
    rw [if_neg quotation, if_neg backslash, if_neg printable]

theorem readWord_escape (s done rest : List Char) {fuel : Nat} (enough : s.length < fuel) :
    readWord fuel false done (escape s ++ '"' :: rest) =
      .closed (.text (String.ofList (done.reverse ++ s))) rest := by
  induction s generalizing done fuel with
  | nil =>
    cases fuel with
    | zero => cases enough
    | succ fuel =>
      rw [List.append_nil]
      rfl
  | cons c s ih =>
    cases fuel with
    | zero => cases enough
    | succ fuel =>
      have parts : escape (c :: s) ++ '"' :: rest = escapeChar c ++ (escape s ++ '"' :: rest) := by
        simp [escape]
      rw [parts, readWord_escapeChar, ih (c :: done) (by simpa using enough)]
      simp

theorem length_le_escape (s : List Char) : s.length ≤ (escape s).length := by
  have each (c : Char) : 1 ≤ (escapeChar c).length := by
    unfold escapeChar
    repeat' split
    all_goals simp
  induction s with
  | nil => exact Nat.le_refl _
  | cons c s ih =>
    have := each c
    rw [escape, List.flatMap_cons, List.length_append, ← escape, List.length_cons]
    omega

theorem readString_quote (s : String) (rest : List Char) :
    ∃ opened, quote s ++ rest = '"' :: opened ∧ readString opened = .closed (.text s) rest := by
  refine ⟨escape s.toList ++ '"' :: rest, by simp [quote], ?_⟩
  have enough : s.toList.length < (escape s.toList ++ '"' :: rest).length + 1 := by
    have := length_le_escape s.toList
    rw [List.length_append]
    omega
  rw [readString, readWord_escape _ _ _ enough]
  simp

/-! ### Values -/

mutual

/-- The tree as which the text of a value is read. -/
def tree : Json → Tree
  | .null => .null
  | .bool b => .bool b
  | .number n => (readValue 1 n.text.toList).1
  | .string s => .word (.text s)
  | .array items => .array (treeItems items) none
  | .object members => .object (treeMembers members) none

def treeItems : List Json → List Tree
  | [] => []
  | v :: rest => tree v :: treeItems rest

def treeMembers : List (String × Json) → List (Word × Tree)
  | [] => []
  | (k, v) :: rest => (.text k, tree v) :: treeMembers rest

end

theorem readValue_tree_number (n : Number) {rest : List Char} (ends : NumberEnds rest)
    (fuel : Nat) :
    readValue (fuel + 1) (n.text.toList ++ rest) = (tree (.number n), some rest) := by
  obtain ⟨numeral, reads⟩ := readValue_number n
  have alone : readValue 1 n.text.toList = (.numeral numeral, some []) := by
    simpa using reads 0 [] (by simp [NumberEnds])
  rw [reads fuel rest ends, tree, alone]

/-- A character with which the text of a value may begin. -/
def Opens (c : Char) : Prop := isBlank c = false ∧ c ≠ ']'

theorem opens_of_digit {c : Char} (digit : isDigit c = true) : Opens c :=
  ⟨solid_of_digit digit, ne_of_digit digit rfl⟩

theorem chars_front (v : Json) : ∃ c s, v.chars = c :: s ∧ Opens c := by
  cases v with
  | null => exact ⟨_, _, rfl, rfl, by decide⟩
  | bool b => cases b <;> exact ⟨_, _, rfl, rfl, by decide⟩
  | number n =>
    obtain ⟨sign, magnitude, text, signs, isMagnitude⟩ := text_number n
    show ∃ c s, n.text.toList = c :: s ∧ _
    rw [text]
    rcases signs with rfl | rfl
    · obtain ⟨c, s, rfl, digit⟩ := isMagnitude.head
      exact ⟨c, s, rfl, opens_of_digit digit⟩
    · exact ⟨'-', magnitude, rfl, rfl, by decide⟩
  | string s => exact ⟨_, _, rfl, rfl, by decide⟩
  | array items => cases items <;> exact ⟨_, _, rfl, rfl, by decide⟩
  | object members => cases members <;> exact ⟨_, _, rfl, rfl, by decide⟩

theorem skipBlank_chars (v : Json) (rest : List Char) :
    skipBlank (v.chars ++ rest) = v.chars ++ rest := by
  obtain ⟨c, s, heq, solid, -⟩ := v.chars_front
  simp [heq, skipBlank, solid]

theorem ends_charsItems (items : List Json) (rest : List Char) :
    NumberEnds (charsItems items ++ rest) := by
  cases items <;> simp [NumberEnds, charsItems, isDigit]

theorem ends_charsMembers (members : List (String × Json)) (rest : List Char) :
    NumberEnds (charsMembers members ++ rest) := by
  rcases members with - | ⟨⟨k, v⟩, members⟩ <;> simp [NumberEnds, charsMembers, isDigit]

theorem readValue_array (v : Json) (rest : List Char) (fuel : Nat) :
    readValue (fuel + 1) ('[' :: (v.chars ++ rest)) =
      (.array (readItems fuel (v.chars ++ rest)).1 (readItems fuel (v.chars ++ rest)).2.1,
        (readItems fuel (v.chars ++ rest)).2.2) := by
  obtain ⟨c, s, heq, solid, open'⟩ := v.chars_front
  have skipped := skipBlank_chars v rest
  rw [heq] at skipped ⊢
  rw [readValue, show skipBlank ('[' :: (c :: s ++ rest)) = '[' :: (c :: s ++ rest) from rfl]
  simp only
  rw [skipped]
  split
  · next closes => exact absurd (List.cons.inj closes).1 open'
  · next none => cases none
  · rfl

theorem readMembers_quote (k : String) (s : List Char) (fuel : Nat) :
    readMembers (fuel + 1) (quote k ++ ':' :: s) =
      match readValue fuel s with
      | (value, none) => ([(.text k, value)], none, none)
      | (value, some s) =>
        match skipBlank s with
        | '\x7d' :: s => ([(.text k, value)], none, some s)
        | ',' :: s =>
          match skipBlank s with
          | [] => ([(.text k, value)], some .incomplete, none)
          | s =>
            match readMembers fuel s with
            | (members, broken, rest) => ((.text k, value) :: members, broken, rest)
        | [] => ([(.text k, value)], some .incomplete, none)
        | _ => ([(.text k, value)], some .malformed, none) := by
  obtain ⟨opened, heq, closes⟩ := readString_quote k (':' :: s)
  rw [heq, readMembers]
  simp only [closes]
  rfl

theorem readValue_object (k : String) (s : List Char) (fuel : Nat) :
    readValue (fuel + 1) ('\x7b' :: (quote k ++ s)) =
      (.object (readMembers fuel (quote k ++ s)).1 (readMembers fuel (quote k ++ s)).2.1,
        (readMembers fuel (quote k ++ s)).2.2) := by
  rw [readValue]
  rfl

theorem exists_fuel (v : Json) {fuel : Nat} (enough : 2 * v.chars.length ≤ fuel) :
    ∃ less, fuel = less + 1 := by
  obtain ⟨c, s, heq, -⟩ := v.chars_front
  rw [heq, List.length_cons] at enough
  exact ⟨fuel - 1, by omega⟩

mutual

/-- The text of a value is read as its tree, whatever follows as long as it is not part of a
number. -/
theorem readValue_chars : ∀ (v : Json) {fuel : Nat} {rest : List Char},
    2 * v.chars.length ≤ fuel → NumberEnds rest →
      readValue fuel (v.chars ++ rest) = (v.tree, some rest)
  | .null, fuel, rest, enough, _ => by
    obtain ⟨fuel, rfl⟩ := exists_fuel .null enough
    rfl
  | .bool b, fuel, rest, enough, _ => by
    obtain ⟨fuel, rfl⟩ := exists_fuel (.bool b) enough
    cases b <;> rfl
  | .number n, fuel, rest, enough, ends => by
    obtain ⟨fuel, rfl⟩ := exists_fuel (.number n) enough
    exact readValue_tree_number n ends fuel
  | .string s, fuel, rest, enough, _ => by
    obtain ⟨fuel, rfl⟩ := exists_fuel (.string s) enough
    obtain ⟨opened, heq, closes⟩ := readString_quote s rest
    show readValue (fuel + 1) (quote s ++ rest) = _
    rw [heq]
    show (match readString opened with
      | .closed word rest => (Tree.word word, some rest)
      | .cut stop => (.cut stop, none)) = _
    rw [closes]
    rfl
  | .array [], fuel, rest, enough, _ => by
    obtain ⟨fuel, rfl⟩ := exists_fuel (.array []) enough
    rfl
  | .object [], fuel, rest, enough, _ => by
    obtain ⟨fuel, rfl⟩ := exists_fuel (.object []) enough
    rfl
  | .array (v :: items), fuel, rest, enough, _ => by
    simp only [chars, List.length_cons, List.length_append] at enough
    obtain ⟨fuel, rfl⟩ : ∃ less, fuel = less + 2 := ⟨fuel - 2, by omega⟩
    have first := @readValue_chars v fuel _ (by omega) (ends_charsItems items rest)
    have whole := readItems_chars items first (by omega)
    rw [chars, List.cons_append, List.append_assoc, readValue_array, whole]
    rfl
  | .object ((k, v) :: members), fuel, rest, enough, _ => by
    simp only [chars, List.length_cons, List.length_append] at enough
    obtain ⟨fuel, rfl⟩ : ∃ less, fuel = less + 2 := ⟨fuel - 2, by omega⟩
    have first := @readValue_chars v fuel _ (by omega) (ends_charsMembers members rest)
    have whole := @readMembers_chars members fuel k _ _ _ first (by omega)
    rw [chars, List.cons_append, List.append_assoc, List.cons_append, List.append_assoc,
      readValue_object, whole]
    rfl

/-- The items behind one that has been read are read to the end of their array. -/
theorem readItems_chars : ∀ (items : List Json) {fuel : Nat} {s rest : List Char} {first : Tree},
    readValue fuel s = (first, some (charsItems items ++ rest)) →
    2 * (charsItems items).length ≤ fuel →
      readItems (fuel + 1) s = (first :: treeItems items, none, some rest)
  | [], fuel, s, rest, first, reads, _ => by
    rw [readItems, reads]
    rfl
  | v :: items, fuel, s, rest, first, reads, enough => by
    simp only [charsItems, List.length_cons, List.length_append] at enough
    obtain ⟨fuel, rfl⟩ : ∃ less, fuel = less + 1 := ⟨fuel - 1, by omega⟩
    have next := @readValue_chars v fuel _ (by omega) (ends_charsItems items rest)
    have others := readItems_chars items next (by omega)
    obtain ⟨c, t, heq, -, open'⟩ := v.chars_front
    have skipped := skipBlank_chars v (charsItems items ++ rest)
    rw [charsItems, List.cons_append, List.append_assoc] at reads
    rw [heq] at reads skipped others
    rw [readItems, reads]
    show (match skipBlank (c :: t ++ (charsItems items ++ rest)) with
      | ']' :: _ => ([first], some Stop.malformed, none)
      | s =>
        match readItems (fuel + 1) s with
        | (items, broken, rest) => (first :: items, broken, rest)) = _
    rw [skipped]
    split
    · next closes => exact absurd (List.cons.inj closes).1 open'
    · rw [others]
      rfl

theorem readMembers_chars : ∀ (members : List (String × Json)) {fuel : Nat} {k : String}
    {s rest : List Char} {first : Tree},
    readValue fuel s = (first, some (charsMembers members ++ rest)) →
    2 * (charsMembers members).length ≤ fuel →
      readMembers (fuel + 1) (quote k ++ ':' :: s) =
        ((.text k, first) :: treeMembers members, none, some rest)
  | [], fuel, k, s, rest, first, reads, _ => by
    rw [readMembers_quote, reads]
    rfl
  | (k', v) :: members, fuel, k, s, rest, first, reads, enough => by
    simp only [charsMembers, List.length_cons, List.length_append] at enough
    obtain ⟨fuel, rfl⟩ : ∃ less, fuel = less + 1 := ⟨fuel - 1, by omega⟩
    have next := @readValue_chars v fuel _ (by omega) (ends_charsMembers members rest)
    have others := @readMembers_chars members fuel k' _ _ _ next (by omega)
    rw [charsMembers, List.cons_append, List.append_assoc, List.cons_append, List.append_assoc]
      at reads
    rw [readMembers_quote, reads]
    show (match readMembers (fuel + 1)
        (quote k' ++ ':' :: (v.chars ++ (charsMembers members ++ rest))) with
      | (members, broken, rest) => ((Word.text k, first) :: members, broken, rest)) = _
    rw [others]
    rfl

end

theorem document_chars (v : Json) : Document.ofText v.chars = ⟨v.tree, false⟩ := by
  have reads := @readValue_chars v (2 * v.chars.length + 1) [] (by omega) (by simp [NumberEnds])
  rw [List.append_nil] at reads
  rw [Document.ofText, reads]
  rfl

/-- What is decoded from the text of a value is decoded from its tree. -/
theorem decodeText_text {α : Type} (decode : Place → Decoded α) (v : Json) :
    decodeText decode v.text = decode ⟨maxDepth, v.tree⟩ := by
  rw [decodeText, text, String.toList_ofList, document_chars]
  show (decode ⟨maxDepth, v.tree⟩ >>= fun result => .ok result) = _
  cases decode ⟨maxDepth, v.tree⟩ <;> rfl

theorem ofText_text (v : Json) : ofText v.text = v.tree.value maxDepth := by
  rw [ofText, text, String.toList_ofList, document_chars]
  show (v.tree.value maxDepth >>= fun value => .ok value) = _
  cases v.tree.value maxDepth <;> rfl

/-! ### The meaning of what is read -/

theorem tree_number (n : Number) : ∃ numeral, tree (.number n) = .numeral numeral := by
  obtain ⟨numeral, reads⟩ := readValue_number n
  have alone := reads 0 [] (by simp [NumberEnds])
  rw [List.append_nil, Nat.zero_add] at alone
  exact ⟨numeral, by rw [tree, alone]⟩

theorem tree_integer {value : Int}
    (fits : -0x8000000000000000 ≤ value ∧ value < 0x10000000000000000) :
    tree (.number (.integer value fits)) = .numeral (integerNumeral value) := by
  have alone := @readValue_integer value fits [] (by simp [NumberEnds]) 0
  rw [List.append_nil, Nat.zero_add] at alone
  rw [tree, alone]

mutual

/-- A value that is read back where it may nest deep is read back where it may nest as deep as it
does. -/
theorem value_of_depth_le : ∀ (v : Json) {limit depth : Nat} {w : Json},
    v.tree.value limit = .ok w → v.depth ≤ depth → v.tree.value depth = .ok w
  | .null, _, _, _, h, _ => h
  | .bool _, _, _, _, h, _ => h
  | .string _, _, _, _, h, _ => h
  | .number n, _, _, _, h, _ => by
    obtain ⟨numeral, heq⟩ := tree_number n
    rw [heq, Tree.value] at h ⊢
    exact h
  | .array _, 0, _, _, h, _ => by
    rw [tree, Tree.value] at h
    cases h
  | .object _, 0, _, _, h, _ => by
    rw [tree, Tree.value] at h
    cases h
  | .array items, limit + 1, depth, w, h, shallow => by
    rw [Json.depth] at shallow
    obtain ⟨depth, rfl⟩ : ∃ less, depth = less + 1 := ⟨depth - 1, by omega⟩
    obtain ⟨whole, vs, hvs, eq⟩ := value_array_eq_ok.mp h
    exact value_array_eq_ok.mpr ⟨whole, vs, values_of_depth_le items hvs (by omega), eq⟩
  | .object members, limit + 1, depth, w, h, shallow => by
    rw [Json.depth] at shallow
    obtain ⟨depth, rfl⟩ : ∃ less, depth = less + 1 := ⟨depth - 1, by omega⟩
    obtain ⟨whole, vs, hvs, eq⟩ := value_object_eq_ok.mp h
    exact value_object_eq_ok.mpr ⟨whole, vs, memberValues_of_depth_le members hvs (by omega), eq⟩

theorem values_of_depth_le : ∀ (items : List Json) {limit depth : Nat} {ws : List Json},
    Tree.values limit (treeItems items) = .ok ws → depthItems items ≤ depth →
      Tree.values depth (treeItems items) = .ok ws
  | [], _, _, _, h, _ => h
  | v :: rest, limit, depth, ws, h, shallow => by
    rw [depthItems] at shallow
    obtain ⟨w, hw, others, hothers, eq⟩ := values_cons_eq_ok.mp h
    exact values_cons_eq_ok.mpr
      ⟨w, value_of_depth_le v hw (by omega), others,
        values_of_depth_le rest hothers (by omega), eq⟩

theorem memberValues_of_depth_le : ∀ (members : List (String × Json)) {limit depth : Nat}
    {ws : List (String × Json)},
    Tree.memberValues limit (treeMembers members) = .ok ws → depthMembers members ≤ depth →
      Tree.memberValues depth (treeMembers members) = .ok ws
  | [], _, _, _, h, _ => h
  | (k, v) :: rest, limit, depth, ws, h, shallow => by
    rw [depthMembers] at shallow
    obtain ⟨key, hkey, w, hw, others, hothers, eq⟩ := memberValues_cons_eq_ok.mp h
    exact memberValues_cons_eq_ok.mpr
      ⟨key, hkey, w, value_of_depth_le v hw (by omega), others,
        memberValues_of_depth_le rest hothers (by omega), eq⟩

end

mutual

/-- What is read back does not nest deeper than it may. -/
theorem depth_le_of_value : ∀ (v : Json) {depth : Nat} {w : Json},
    v.tree.value depth = .ok w → v.depth ≤ depth
  | .null, _, _, _ => Nat.zero_le _
  | .bool _, _, _, _ => Nat.zero_le _
  | .string _, _, _, _ => Nat.zero_le _
  | .number _, _, _, _ => Nat.zero_le _
  | .array _, 0, _, h => by
    rw [tree, Tree.value] at h
    cases h
  | .object _, 0, _, h => by
    rw [tree, Tree.value] at h
    cases h
  | .array items, depth + 1, _, h => by
    obtain ⟨-, vs, hvs, -⟩ := value_array_eq_ok.mp h
    rw [Json.depth]
    exact Nat.succ_le_succ (depthItems_le_of_values items hvs)
  | .object members, depth + 1, _, h => by
    obtain ⟨-, vs, hvs, -⟩ := value_object_eq_ok.mp h
    rw [Json.depth]
    exact Nat.succ_le_succ (depthMembers_le_of_memberValues members hvs)

theorem depthItems_le_of_values : ∀ (items : List Json) {depth : Nat} {ws : List Json},
    Tree.values depth (treeItems items) = .ok ws → depthItems items ≤ depth
  | [], _, _, _ => Nat.zero_le _
  | v :: rest, _, _, h => by
    obtain ⟨_, hw, _, hothers, -⟩ := values_cons_eq_ok.mp h
    rw [depthItems]
    exact Nat.max_le.mpr ⟨depth_le_of_value v hw, depthItems_le_of_values rest hothers⟩

theorem depthMembers_le_of_memberValues : ∀ (members : List (String × Json)) {depth : Nat}
    {ws : List (String × Json)},
    Tree.memberValues depth (treeMembers members) = .ok ws → depthMembers members ≤ depth
  | [], _, _, _ => Nat.zero_le _
  | (_, v) :: rest, _, _, h => by
    obtain ⟨_, _, _, hw, _, hothers, -⟩ := memberValues_cons_eq_ok.mp h
    rw [depthMembers]
    exact Nat.max_le.mpr
      ⟨depth_le_of_value v hw, depthMembers_le_of_memberValues rest hothers⟩

end

/-- A value is read back from a place within a text if it is read back from a text of its own and
does not nest too deep for the place. -/
theorem value_eq_ok_iff {depth : Nat} {v w : Json} (within : depth ≤ maxDepth) :
    v.tree.value depth = .ok w ↔ v.depth ≤ depth ∧ ofText v.text = .ok w := by
  rw [ofText_text]
  constructor
  · intro reads
    have shallow := depth_le_of_value v reads
    exact ⟨shallow, value_of_depth_le v reads (Nat.le_trans shallow within)⟩
  · exact fun ⟨shallow, reads⟩ => value_of_depth_le v reads shallow

/-! ### Values that are read back -/

mutual

/-- No number is a double, and the keys of every object increase. -/
def Plain : Json → Prop
  | .number (.double _ _) => False
  | .array items => PlainItems items
  | .object members => (members.map (·.1)).Pairwise (· < ·) ∧ PlainMembers members
  | _ => True

def PlainItems : List Json → Prop
  | [] => True
  | v :: rest => Plain v ∧ PlainItems rest

def PlainMembers : List (String × Json) → Prop
  | [] => True
  | (_, v) :: rest => Plain v ∧ PlainMembers rest

end

theorem insertMember_last {key : String} {value : Json} {members : List (String × Json)}
    (last : ∀ m ∈ members, m.1 < key) :
    insertMember key value members = members ++ [(key, value)] := by
  induction members with
  | nil => rfl
  | cons member rest ih =>
    obtain ⟨k, v⟩ := member
    have before : k < key := last _ List.mem_cons_self
    rw [insertMember, if_neg (String.lt_asymm before), if_neg (String.ne_of_lt before).symm,
      ih fun m member => last m (List.mem_cons_of_mem _ member)]
    rfl

theorem sortMembers_of_increasing {members : List (String × Json)}
    (increasing : (members.map (·.1)).Pairwise (· < ·)) : sortMembers members = members := by
  induction members using List.reverseRecOn with
  | nil => rfl
  | append_singleton members member ih =>
    rw [List.map_append, List.pairwise_append] at increasing
    have last : ∀ m ∈ members, m.1 < member.1 := fun m there =>
      increasing.2.2 m.1 (List.mem_map_of_mem there) member.1 (by simp)
    rw [sortMembers_snoc, ih increasing.1, insertMember_last last]

mutual

/-- Every number is read back from its own text, and the keys of every object increase. -/
def Faithful : Json → Prop
  | .number n => ofText (Json.number n).text = .ok (.number n)
  | .array items => FaithfulItems items
  | .object members => (members.map (·.1)).Pairwise (· < ·) ∧ FaithfulMembers members
  | _ => True

def FaithfulItems : List Json → Prop
  | [] => True
  | v :: rest => Faithful v ∧ FaithfulItems rest

def FaithfulMembers : List (String × Json) → Prop
  | [] => True
  | (_, v) :: rest => Faithful v ∧ FaithfulMembers rest

end

mutual

theorem faithful_of_plain : ∀ {v : Json}, v.Plain → v.Faithful
  | .null, _ => trivial
  | .bool _, _ => trivial
  | .string _, _ => trivial
  | .number (.double _ _), plain => by
    rw [Plain] at plain
    exact plain.elim
  | .number (.integer value fits), _ => by
    rw [Faithful, ofText_text, tree_integer, Tree.value, Numeral.value,
      number?_integerNumeral fits]
  | .array items, plain => by
    rw [Plain] at plain
    rw [Faithful]
    exact faithfulItems_of_plain plain
  | .object members, plain => by
    rw [Plain] at plain
    rw [Faithful]
    exact ⟨plain.1, faithfulMembers_of_plain plain.2⟩

theorem faithfulItems_of_plain : ∀ {items : List Json}, PlainItems items → FaithfulItems items
  | [], _ => trivial
  | v :: rest, plain => by
    rw [PlainItems] at plain
    exact ⟨faithful_of_plain plain.1, faithfulItems_of_plain plain.2⟩

theorem faithfulMembers_of_plain : ∀ {members : List (String × Json)},
    PlainMembers members → FaithfulMembers members
  | [], _ => trivial
  | (k, v) :: rest, plain => by
    rw [PlainMembers] at plain
    exact ⟨faithful_of_plain plain.1, faithfulMembers_of_plain plain.2⟩

end

mutual

/-- A value is read back from its text if its numbers are, as far as it may nest. -/
theorem value_of_faithful : ∀ (v : Json) {depth : Nat},
    v.Faithful → v.depth ≤ depth → v.tree.value depth = .ok v
  | .null, _, _, _ => rfl
  | .bool _, _, _, _ => rfl
  | .string _, _, _, _ => rfl
  | .number n, _, faithful, shallow => by
    rw [Faithful, ofText_text] at faithful
    exact value_of_depth_le (.number n) faithful shallow
  | .array items, depth, faithful, shallow => by
    rw [Faithful] at faithful
    rw [Json.depth] at shallow
    obtain ⟨depth, rfl⟩ : ∃ less, depth = less + 1 := ⟨depth - 1, by omega⟩
    exact value_array_eq_ok.mpr ⟨rfl, items, values_of_faithful items faithful (by omega), rfl⟩
  | .object members, depth, faithful, shallow => by
    rw [Faithful] at faithful
    rw [Json.depth] at shallow
    obtain ⟨depth, rfl⟩ : ∃ less, depth = less + 1 := ⟨depth - 1, by omega⟩
    refine value_object_eq_ok.mpr
      ⟨rfl, members, memberValues_of_faithful members faithful.2 (by omega), ?_⟩
    rw [ofMembers, sortMembers_of_increasing faithful.1]

theorem values_of_faithful : ∀ (items : List Json) {depth : Nat},
    FaithfulItems items → depthItems items ≤ depth → Tree.values depth (treeItems items) = .ok items
  | [], _, _, _ => rfl
  | v :: rest, depth, faithful, shallow => by
    rw [FaithfulItems] at faithful
    rw [depthItems] at shallow
    exact values_cons_eq_ok.mpr
      ⟨v, value_of_faithful v faithful.1 (by omega), rest,
        values_of_faithful rest faithful.2 (by omega), rfl⟩

theorem memberValues_of_faithful : ∀ (members : List (String × Json)) {depth : Nat},
    FaithfulMembers members → depthMembers members ≤ depth →
      Tree.memberValues depth (treeMembers members) = .ok members
  | [], _, _, _ => rfl
  | (k, v) :: rest, depth, faithful, shallow => by
    rw [FaithfulMembers] at faithful
    rw [depthMembers] at shallow
    exact memberValues_cons_eq_ok.mpr
      ⟨k, rfl, v, value_of_faithful v faithful.1 (by omega), rest,
        memberValues_of_faithful rest faithful.2 (by omega), rfl⟩

end

theorem value_of_plain (v : Json) {depth : Nat} (plain : v.Plain) (shallow : v.depth ≤ depth) :
    v.tree.value depth = .ok v :=
  value_of_faithful v (faithful_of_plain plain) shallow

/-- A value without doubles is read back from its text, unless it nests too deep. -/
theorem ofText_text_of_plain {v : Json} (plain : v.Plain) (shallow : v.depth ≤ maxDepth) :
    ofText v.text = .ok v := by
  rw [ofText_text]
  exact value_of_plain v plain shallow

end NodeCall.Json
