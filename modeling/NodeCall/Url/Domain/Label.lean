import NodeCall.Text.Composed
import NodeCall.Url.Domain.Mapping
import NodeCall.Url.Domain.Punycode

/-!
# Labels of host names

The parts of a host name between its points.  A label in letters of any script is looked up in an
ASCII form that begins with `xn--`.  It may not begin with a mark, joiners have to stand where they
join something, and a name with text from right to left has to keep directions apart.
-/

namespace NodeCall.Url.Domain

open Text (Direction Joining direction joining order isMark bindingOrder)

def isAscii (s : List Char) : Bool := s.all fun c => c.toNat < 0x80

def asciiMark : List Char := ['x', 'n', '-', '-']

/-! ### Joiners -/

/-- Whether letters on both sides, the nearer ones first, join over a non-joiner. -/
def joinsOver (before after : List Char) : Bool :=
  let nearest (s : List Char) : Option Joining :=
    (s.map joining).find? (· ≠ .transparent)
  (match nearest before with
    | some .dual | some .after => true
    | _ => false) &&
  (match nearest after with
    | some .dual | some .before => true
    | _ => false)

/-- Whether every joiner after the given characters, the nearer ones first, stands where it may. -/
def joinersFit : List Char → List Char → Bool
  | _, [] => true
  | before, c :: rest =>
    let bound := match before with
      | mark :: _ => order mark = bindingOrder
      | [] => false
    (if c = '\u200D' then bound
      else if c = '\u200C' then bound || joinsOver before rest
      else true) &&
    joinersFit (c :: before) rest

/-! ### Directions -/

def isTurned (label : List Char) : Bool :=
  label.any fun c => direction c = .right || direction c = .rightNumber

def lastDirection? (label : List Char) : Option Direction :=
  (label.reverse.map direction).find? (· ≠ .mark)

def directionsFit (label : List Char) : Bool :=
  let directions := label.map direction
  match directions with
  | [] => true
  | .left :: _ =>
    directions.all (fun d => d ≠ .right && d ≠ .rightNumber) &&
      match lastDirection? label with
      | some .left | some .number => true
      | _ => false
  | .right :: _ =>
    directions.all (· ≠ .left) &&
      !(directions.contains .number && directions.contains .rightNumber) &&
      match lastDirection? label with
      | some .right | some .number | some .rightNumber => true
      | _ => false
  | _ => false

/-! ### Labels -/

structure Label where
  letters : List Char
  ascii : List Char

/-- How many characters a label that is not all ASCII may have. -/
def longestLabel : Nat := 1000

/-- How many characters may stand for the letters of a label. -/
def longestCode : Nat := 2000

def isLabel (letters : List Char) : Bool :=
  letters.length ≤ longestLabel && letters.all (fun c => fate c = .kept) && Text.Composed.composed letters = letters &&
    !(letters.head?.any isMark) && joinersFit [] letters

def Label.ofLetters? (letters : List Char) : Option Label :=
  if asciiMark.isPrefixOf letters then do
    let code := letters.drop asciiMark.length
    guard (isAscii letters && code.length ≤ longestCode)
    let decoded ← Punycode.decode? code
    if isAscii decoded || !isLabel decoded then none else some ⟨decoded, letters⟩
  else if isAscii letters then some ⟨letters, letters⟩
  else if isLabel letters then some ⟨letters, asciiMark ++ Punycode.encode letters⟩
  else none

end NodeCall.Url.Domain
