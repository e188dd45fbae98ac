/-!
# UTF-8

Text as bytes and back.  Reading never fails: each longest run of bytes that begins a character
but does not finish one, and each byte that begins none, stands for one replacement character.  A
reader that has to tell such bytes from a replacement character marks them one by one.
-/

namespace NodeCall.Text.Utf8

def byte (n : Nat) : UInt8 := UInt8.ofNat n

def encodeChar (c : Char) : List UInt8 :=
  let n := c.toNat
  if n < 0x80 then [byte n]
  else if n < 0x800 then [byte (0xC0 + n / 64), byte (0x80 + n % 64)]
  else if n < 0x10000 then
    [byte (0xE0 + n / 4096), byte (0x80 + n / 64 % 64), byte (0x80 + n % 64)]
  else
    [byte (0xF0 + n / 262144), byte (0x80 + n / 4096 % 64), byte (0x80 + n / 64 % 64),
      byte (0x80 + n % 64)]

def encode (s : List Char) : List UInt8 := s.flatMap encodeChar

def replacement : Char := '\uFFFD'

/-- A character of which some bytes are still missing, and the bounds of the next one. -/
structure Unfinished where
  value : Nat
  missing : Nat
  low : Nat
  high : Nat
  deriving DecidableEq, Repr

/-- Where a reader stands after a byte: at the end of a character, or inside one. -/
abbrev Reading := List Char × Option Unfinished

def start (b : Nat) : Reading :=
  if b < 0x80 then ([Char.ofNat b], none)
  else if b < 0xC2 then ([replacement], none)
  else if b < 0xE0 then ([], some ⟨b - 0xC0, 1, 0x80, 0xBF⟩)
  else if b < 0xF0 then
    ([], some ⟨b - 0xE0, 2, if b = 0xE0 then 0xA0 else 0x80, if b = 0xED then 0x9F else 0xBF⟩)
  else if b < 0xF5 then
    ([], some ⟨b - 0xF0, 3, if b = 0xF0 then 0x90 else 0x80, if b = 0xF4 then 0x8F else 0xBF⟩)
  else ([replacement], none)

/-- What a byte inside a character does; one that does not belong there begins a character. -/
def continue_ (u : Unfinished) (b : Nat) : Reading :=
  if u.low ≤ b && b ≤ u.high then
    let value := u.value * 64 + (b - 0x80)
    match u.missing with
    | 0 | 1 => ([Char.ofNat value], none)
    | more + 2 => ([], some ⟨value, more + 1, 0x80, 0xBF⟩)
  else
    let (chars, state) := start b
    (replacement :: chars, state)

def read (state : Option Unfinished) (b : UInt8) : Reading :=
  match state with
  | none => start b.toNat
  | some u => continue_ u b.toNat

def decodeFrom : Option Unfinished → List UInt8 → List Char
  | none, [] => []
  | some _, [] => [replacement]
  | state, b :: rest =>
    let (chars, next) := read state b
    chars ++ decodeFrom next rest

def decode (bytes : List UInt8) : List Char := decodeFrom none bytes

/-- The character that bytes begin with, if they begin with a whole one. -/
def first? (bytes : List UInt8) : Option Char :=
  (decode (bytes.take 4)).head?.filter fun c => (encodeChar c).isPrefixOf bytes

/-- The characters of bytes, of which the first few are passed over, with a mark for each byte that
belongs to none. -/
def decodeMarked (mark : Char) : Nat → List UInt8 → List Char
  | _, [] => []
  | skip + 1, _ :: rest => decodeMarked mark skip rest
  | 0, b :: rest =>
    match first? (b :: rest) with
    | some c => c :: decodeMarked mark ((encodeChar c).length - 1) rest
    | none => mark :: decodeMarked mark 0 rest

theorem toNat_byte {n : Nat} (h : n < 256) : (byte n).toNat = n := by
  simp [byte, Nat.mod_eq_of_lt h]

@[simp] theorem encode_append (s t : List Char) : encode (s ++ t) = encode s ++ encode t := by
  simp [encode]

end NodeCall.Text.Utf8
