import NodeCall.Text.Composed.Table
import NodeCall.Text.Traits

/-!
# Composed text

Text in which letters and their marks are single characters wherever there are such characters.
Characters are taken apart, marks are put in order, and what can be put together is put together.
Syllables of Hangul are computed; all other pairs stand in a table of the characters that names
of hosts may have.
-/

namespace NodeCall.Text.Composed

structure Pair where
  whole : Nat
  first : Nat
  second : Nat
  deriving DecidableEq, Repr

def pairsOf : Nat → List Nat → List Pair
  | place, gap :: first :: second :: rest =>
    ⟨place + gap, first, second⟩ :: pairsOf (place + gap) rest
  | _, _ => []

def pairs : List Pair := pairsOf 0 (hexNumbers pairLines)

/-! ### Hangul -/

/-- The letters of a syllable; those of its middle and its end are counted. -/
def syllable? (n : Nat) : Option (List Nat) :=
  if 0xAC00 ≤ n && n < 0xD7A4 then
    let index := n - 0xAC00
    let finalLetter := if index % 28 = 0 then [] else [0x11A7 + index % 28]
    some ((0x1100 + index / 588) :: (0x1161 + index / 28 % 21) :: finalLetter)
  else none

/-- The syllable of a first letter and a middle, or of a syllable without an end and an end. -/
def joinHangul? (a b : Nat) : Option Nat :=
  if 0x1100 ≤ a && a < 0x1113 && 0x1161 ≤ b && b < 0x1176 then
    some (0xAC00 + ((a - 0x1100) * 21 + (b - 0x1161)) * 28)
  else if 0xAC00 ≤ a && a < 0xD7A4 && (a - 0xAC00) % 28 = 0 && 0x11A7 < b && b < 0x11C3 then
    some (a + (b - 0x11A7))
  else none

/-! ### Taking apart -/

def split : Nat → Nat → List Nat
  | 0, n => [n]
  | fuel + 1, n =>
    match pairs.find? (·.whole = n) with
    | some pair => split fuel pair.first ++ [pair.second]
    | none => [n]

def splitChar (c : Char) : List Char :=
  if c.toNat < 0x80 then [c]
  else ((syllable? c.toNat).getD (split 4 c.toNat)).map Char.ofNat

/-! ### Order -/

/-- Puts a mark before the marks at the start of a text that come after it. -/
def insertMark (c : Char) : List Char → List Char
  | [] => [c]
  | d :: rest => if 0 < order d && order d < order c then d :: insertMark c rest else c :: d :: rest

/-- The text with its marks in order; marks of the same order keep theirs. -/
def ordered : List Char → List Char
  | [] => []
  | c :: rest => if order c = 0 then c :: ordered rest else insertMark c (ordered rest)

/-! ### Putting together -/

def join? (a b : Char) : Option Char :=
  match joinHangul? a.toNat b.toNat with
  | some n => some (Char.ofNat n)
  | none =>
    (pairs.find? fun pair => pair.first = a.toNat && pair.second = b.toNat).map fun pair =>
      Char.ofNat pair.whole

/-- Goes on after a character and the marks that could not be put together with it. -/
def joinFrom : Char → List Char → List Char → List Char
  | base, marks, [] => base :: marks
  | base, marks, c :: rest =>
    let free := match marks.getLast? with
      | none => true
      | some mark => order mark < order c
    match if free then join? base c else none with
    | some whole => joinFrom whole marks rest
    | none =>
      if order c = 0 then base :: (marks ++ joinFrom c [] rest)
      else joinFrom base (marks ++ [c]) rest

def joined (s : List Char) : List Char :=
  match s.dropWhile fun c => 0 < order c with
  | [] => s
  | base :: rest => s.takeWhile (fun c => 0 < order c) ++ joinFrom base [] rest

def composed (s : List Char) : List Char :=
  if s.all fun c => c.toNat < 0x80 then s else joined (ordered (s.flatMap splitChar))

end NodeCall.Text.Composed
