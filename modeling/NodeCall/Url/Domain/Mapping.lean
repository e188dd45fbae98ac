import NodeCall.Text.Ranges
import NodeCall.Url.Domain.Mapping.Table

/-!
# Characters of host names

What becomes of each character of a host name before the name is looked up: it stays, goes away,
is replaced, or makes the name invalid.
-/

namespace NodeCall.Url.Domain

/-- Characters at equal distances that are all moved by the same distance. -/
structure Shift where
  first : Nat
  count : Nat
  step : Nat
  target : Nat
  deriving DecidableEq, Repr

def shiftsOf : Nat → List Nat → List Shift
  | place, gap :: count :: step :: target :: rest =>
    ⟨place + gap, count, step, target⟩ :: shiftsOf (place + gap) rest
  | _, _ => []

def shifts : List Shift := shiftsOf 0 (Text.hexNumbers shiftLines)

def Shift.moved? (shift : Shift) (n : Nat) : Option Nat :=
  let way := n - shift.first
  if shift.first ≤ n && way % shift.step = 0 && way / shift.step < shift.count then
    some (shift.target + way)
  else none

abbrev Replacement := Nat × List Nat

/-- The replacements that numbers stand for, after a given place; each tells how many characters
it has.  As long as there is fuel. -/
def replacementsOf : Nat → Nat → List Nat → List Replacement
  | fuel + 1, place, gap :: count :: rest =>
    (place + gap, rest.take count) :: replacementsOf fuel (place + gap) (rest.drop count)
  | _, _, _ => []

def replacements : List Replacement :=
  let numbers := Text.hexNumbers replacementLines
  replacementsOf numbers.length 0 numbers

def excluded : List Text.Range := Text.Range.ofLines excludedLines

inductive Fate
  | kept
  | replaced (by_ : List Char)
  | refused
  deriving DecidableEq, Repr

def fate (c : Char) : Fate :=
  if c.toNat < 0x80 then if c.isUpper then .replaced [c.toLower] else .kept
  else
    match Text.Range.label? excluded c with
    | some 1 => .refused
    | some _ => .replaced []
    | none =>
      match shifts.findSome? (·.moved? c.toNat) with
      | some n => .replaced [Char.ofNat n]
      | none =>
        match replacements.lookup c.toNat with
        | some by_ => .replaced (by_.map Char.ofNat)
        | none => .kept

def mapped? : List Char → Option (List Char)
  | [] => some []
  | c :: rest =>
    match fate c with
    | .refused => none
    | .kept => (mapped? rest).map (c :: ·)
    | .replaced by_ => (mapped? rest).map (by_ ++ ·)

end NodeCall.Url.Domain
