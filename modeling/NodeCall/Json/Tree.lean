import NodeCall.Json.Value
import NodeCall.Text.Utf8

/-!
# JSON text as a tree

Reading goes in two steps.  The grammar alone turns a text into a tree, which is cut at the place
where the text stops being JSON.  What the places of the tree mean (how deep they nest, whether a
number is in range, whether a string is made of whole characters) is decided by whoever takes
them, in the order of the text, so a part that nobody takes is held to the grammar only.
-/

namespace NodeCall.Json

/-- Why a text is not JSON: it ends too early, or it goes on with something else.  Nothing more is
kept of a fault, neither the rule of the grammar that is broken nor the line and the column. -/
inductive Fault
  | incomplete
  | malformed
  deriving DecidableEq, Repr

/-- A text for each kind of fault.  It stands for all the texts that a reader of JSON has for that
kind, so it is not what the reader would print. -/
def Fault.message : Fault → String
  | .incomplete => "the JSON text ends too early"
  | .malformed => "the text is not JSON"

/-- The fault at a place, for a reader that takes the value there and for one that skips it. -/
structure Stop where
  taken : Fault
  skipped : Fault
  deriving DecidableEq, Repr

def Stop.incomplete : Stop := ⟨.incomplete, .incomplete⟩

def Stop.malformed : Stop := ⟨.malformed, .malformed⟩

/-- A string literal; one with half of a surrogate pair, or with bytes that belong to no character,
is no text. -/
inductive Word
  | text (value : String)
  | unpaired

/-- A number literal: sign, digits before and after the point, and signed exponent digits. -/
structure Numeral where
  negative : Bool
  whole : List Nat
  fraction : Option (List Nat)
  exponent : Option (Bool × List Nat)

inductive Tree
  | null
  | bool (value : Bool)
  | numeral (value : Numeral)
  | word (value : Word)
  | array (items : List Tree) (broken : Option Stop)
  | object (members : List (Word × Tree)) (broken : Option Stop)
  | cut (stop : Stop)

instance : Inhabited Tree := ⟨.null⟩

/-- A tree and the text after it; there is none behind a cut. -/
abbrev Reading := Tree × Option (List Char)

def isBlank (c : Char) : Bool := c = ' ' || c = '\n' || c = '\t' || c = '\r'

def skipBlank (s : List Char) : List Char := s.dropWhile isBlank

def isDigit (c : Char) : Bool := '0' ≤ c && c ≤ '9'

def digitValue (c : Char) : Nat := c.toNat - '0'.toNat

def hexValue? (c : Char) : Option Nat :=
  if '0' ≤ c && c ≤ '9' then some (c.toNat - '0'.toNat)
  else if 'a' ≤ c && c ≤ 'f' then some (c.toNat - 'a'.toNat + 10)
  else if 'A' ≤ c && c ≤ 'F' then some (c.toNat - 'A'.toNat + 10)
  else none

/-- The rest of a literal such as `true`, whose first letter has been read. -/
def readLetters (tree : Tree) : List Char → List Char → Reading
  | [], s => (tree, some s)
  | _ :: _, [] => (.cut .incomplete, none)
  | a :: as, c :: s => if a = c then readLetters tree as s else (.cut .malformed, none)

/-! ### Numbers -/

def spanDigits (s : List Char) : List Nat × List Char :=
  ((s.takeWhile isDigit).map digitValue, s.dropWhile isDigit)

/-- At least one digit; a text that ends here is malformed to a reader that skips. -/
def readDigits (s : List Char) : Except Stop (List Nat × List Char) :=
  match spanDigits s with
  | ([], []) => .error ⟨.incomplete, .malformed⟩
  | ([], _ :: _) => .error .malformed
  | (digits, rest) => .ok (digits, rest)

/-- The digits before the point: a zero alone, or digits that do not begin with one. -/
def readWhole (s : List Char) : Except Stop (List Nat × List Char) :=
  match readDigits s with
  | .ok (0 :: _ :: _, _) => .error .malformed
  | result => result

def readFraction : List Char → Except Stop (Option (List Nat) × List Char)
  | '.' :: s => (readDigits s).map fun (digits, rest) => (some digits, rest)
  | s => .ok (none, s)

def readExponentDigits (negative : Bool) (s : List Char) :
    Except Stop (Option (Bool × List Nat) × List Char) :=
  (readDigits s).map fun (digits, rest) => (some (negative, digits), rest)

def readExponentSign : List Char → Except Stop (Option (Bool × List Nat) × List Char)
  | '+' :: s => readExponentDigits false s
  | '-' :: s => readExponentDigits true s
  | s => readExponentDigits false s

def readExponent : List Char → Except Stop (Option (Bool × List Nat) × List Char)
  | 'e' :: s => readExponentSign s
  | 'E' :: s => readExponentSign s
  | s => .ok (none, s)

def readNumeral (negative : Bool) (s : List Char) : Except Stop (Numeral × List Char) := do
  let (whole, s) ← readWhole s
  let (fraction, s) ← readFraction s
  let (exponent, s) ← readExponent s
  return (⟨negative, whole, fraction, exponent⟩, s)

def readNumber (negative : Bool) (s : List Char) : Reading :=
  match readNumeral negative s with
  | .ok (numeral, rest) => (.numeral numeral, some rest)
  | .error stop => (.cut stop, none)

/-! ### Strings -/

/-- How a string literal goes on behind some of its characters. -/
inductive WordReading
  | closed (word : Word) (rest : List Char)
  | cut (stop : Stop)

def stopAt (unpaired : Bool) (fault : Fault) : Stop :=
  ⟨if unpaired then .malformed else fault, fault⟩

/-- What four hexadecimal digits stand for; a text with fewer than four bytes left is incomplete. -/
def readHex (s : List Char) : Except Fault (Nat × List Char) :=
  if (s.take 4).foldl (fun n c => n + c.utf8Size) 0 < 4 then .error .incomplete
  else
    match s with
    | a :: b :: c :: d :: rest =>
      match hexValue? a, hexValue? b, hexValue? c, hexValue? d with
      | some a, some b, some c, some d => .ok (((a * 16 + b) * 16 + c) * 16 + d, rest)
      | _, _, _, _ => .error .malformed
    | _ => .error .malformed

def shortEscape? (c : Char) : Option Char :=
  match c with
  | '"' => some '"'
  | '\\' => some '\\'
  | '/' => some '/'
  | 'b' => some '\x08'
  | 'f' => some '\x0c'
  | 'n' => some '\n'
  | 'r' => some '\r'
  | 't' => some '\t'
  | _ => none

/-- The second half of a surrogate pair whose first half is `high`. -/
inductive PairReading
  | paired (c : Char) (rest : List Char)
  | alone
  | cut (fault : Fault)

def readLowHalf (high : Nat) : List Char → PairReading
  | [] => .cut .incomplete
  | ['\\'] => .cut .incomplete
  | '\\' :: 'u' :: s =>
    match readHex s with
    | .error fault => .cut fault
    | .ok (low, rest) =>
      if 0xDC00 ≤ low ∧ low ≤ 0xDFFF then
        .paired (Char.ofNat (0x10000 + (high - 0xD800) * 1024 + (low - 0xDC00))) rest
      else .alone
  | _ => .alone

/-- The rest of a string literal.  `unpaired` tells that a half surrogate pair has been met and
`done` holds the characters so far, last one first. -/
def readWord : Nat → Bool → List Char → List Char → WordReading
  | 0, unpaired, _, _ => .cut (stopAt unpaired .incomplete)
  | _ + 1, unpaired, _, [] => .cut (stopAt unpaired .incomplete)
  | fuel + 1, unpaired, done, c :: s =>
    if c = '"' then
      .closed (if unpaired then .unpaired else .text (String.ofList done.reverse)) s
    else if c = '\\' then
      match s with
      | [] => .cut (stopAt unpaired .incomplete)
      | 'u' :: s =>
        match readHex s with
        | .error fault => .cut (stopAt unpaired fault)
        | .ok (n, s) =>
          if 0xD800 ≤ n ∧ n ≤ 0xDBFF then
            match readLowHalf n s with
            | .cut fault => .cut (stopAt unpaired fault)
            | .alone => readWord fuel true done s
            | .paired c s => readWord fuel unpaired (c :: done) s
          else if 0xDC00 ≤ n ∧ n ≤ 0xDFFF then readWord fuel true done s
          else readWord fuel unpaired (Char.ofNat n :: done) s
      | e :: s =>
        match shortEscape? e with
        | some c => readWord fuel unpaired (c :: done) s
        | none => .cut (stopAt unpaired .malformed)
    else if c.toNat < 32 then .cut (stopAt unpaired .malformed)
    else readWord fuel unpaired (c :: done) s

def readString (s : List Char) : WordReading := readWord (s.length + 1) false [] s

/-! ### Values -/

mutual

/-- The value at the front of a text.  A level of nesting costs two units of fuel and one character
at least, an item one unit and one character, so a unit more than twice the length is enough. -/
def readValue : Nat → List Char → Reading
  | 0, _ => (.cut .incomplete, none)
  | fuel + 1, s =>
    match skipBlank s with
    | [] => (.cut .incomplete, none)
    | 'n' :: s => readLetters .null ['u', 'l', 'l'] s
    | 't' :: s => readLetters (.bool true) ['r', 'u', 'e'] s
    | 'f' :: s => readLetters (.bool false) ['a', 'l', 's', 'e'] s
    | '-' :: s => readNumber true s
    | '"' :: s =>
      match readString s with
      | .closed word rest => (.word word, some rest)
      | .cut stop => (.cut stop, none)
    | '[' :: s =>
      match skipBlank s with
      | ']' :: s => (.array [] none, some s)
      | [] => (.array [] (some .incomplete), none)
      | s => match readItems fuel s with | (items, broken, rest) => (.array items broken, rest)
    | '\x7b' :: s =>
      match skipBlank s with
      | '\x7d' :: s => (.object [] none, some s)
      | [] => (.object [] (some .incomplete), none)
      | s => match readMembers fuel s with | (members, broken, rest) => (.object members broken, rest)
    | c :: s => if isDigit c then readNumber false (c :: s) else (.cut .malformed, none)

def readItems : Nat → List Char → List Tree × Option Stop × Option (List Char)
  | 0, _ => ([], some .incomplete, none)
  | fuel + 1, s =>
    match readValue fuel s with
    | (item, none) => ([item], none, none)
    | (item, some s) =>
      match skipBlank s with
      | ']' :: s => ([item], none, some s)
      | ',' :: s =>
        match skipBlank s with
        | ']' :: _ => ([item], some .malformed, none)
        | s => match readItems fuel s with | (items, broken, rest) => (item :: items, broken, rest)
      | [] => ([item], some .incomplete, none)
      | _ => ([item], some .malformed, none)

def readMembers : Nat → List Char → List (Word × Tree) × Option Stop × Option (List Char)
  | 0, _ => ([], some .incomplete, none)
  | fuel + 1, s =>
    match s with
    | '"' :: s =>
      match readString s with
      | .cut stop => ([], some stop, none)
      | .closed key s =>
        match skipBlank s with
        | [] => ([(key, .cut .incomplete)], none, none)
        | ':' :: s =>
          match readValue fuel s with
          | (value, none) => ([(key, value)], none, none)
          | (value, some s) =>
            match skipBlank s with
            | '\x7d' :: s => ([(key, value)], none, some s)
            | ',' :: s =>
              match skipBlank s with
              | [] => ([(key, value)], some .incomplete, none)
              | s =>
                match readMembers fuel s with
                | (members, broken, rest) => ((key, value) :: members, broken, rest)
            | [] => ([(key, value)], some .incomplete, none)
            | _ => ([(key, value)], some .malformed, none)
        | _ => ([(key, .cut .malformed)], none, none)
    | _ => ([], some .malformed, none)

end

/-- The tree of a text, and whether anything but blanks follows it. -/
structure Document where
  tree : Tree
  trailing : Bool

def Document.ofText (s : List Char) : Document :=
  match readValue (2 * s.length + 1) s with
  | (tree, none) => ⟨tree, false⟩
  | (tree, some rest) => ⟨tree, !(skipBlank rest).isEmpty⟩

/-! ### Bytes -/

/-- What two readings of a literal agree on. -/
def Word.common : Word → Word → Word
  | .text a, .text b => if a = b then .text a else .unpaired
  | _, _ => .unpaired

mutual

/-- What two readings agree on that differ in characters of strings only. -/
def Tree.common : Tree → Tree → Tree
  | .word a, .word b => .word (a.common b)
  | .array items broken, .array others _ => .array (Tree.commonItems items others) broken
  | .object members broken, .object others _ => .object (Tree.commonMembers members others) broken
  | tree, _ => tree

def Tree.commonItems : List Tree → List Tree → List Tree
  | a :: as, b :: bs => a.common b :: Tree.commonItems as bs
  | _, _ => []

def Tree.commonMembers : List (Word × Tree) → List (Word × Tree) → List (Word × Tree)
  | (key, a) :: as, (key', b) :: bs => (key.common key', a.common b) :: Tree.commonMembers as bs
  | _, _ => []

end

/-- The tree of bytes.  They are read twice, with different letters in the place of the bytes that
belong to no character.  The grammar asks for neither letter anywhere, so the readings differ in
the strings with such bytes and in nothing else. -/
def Document.ofBytes (bytes : List UInt8) : Document :=
  let first := Document.ofText (Text.Utf8.decodeMarked 'x' 0 bytes)
  let second := Document.ofText (Text.Utf8.decodeMarked 'z' 0 bytes)
  ⟨first.tree.common second.tree, first.trailing⟩

end NodeCall.Json
