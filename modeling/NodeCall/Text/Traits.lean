import NodeCall.Text.Traits.Table

/-!
# Traits of characters

What the Unicode character database says of a character: whether it is a mark, how marks after a
letter are ordered, in which direction it is written, and how it joins with its neighbours.
-/

namespace NodeCall.Text

inductive Direction
  | left
  | right
  | rightNumber
  | number
  | neutral
  | mark
  deriving DecidableEq, Repr

inductive Joining
  | none
  | dual
  | before
  | after
  | transparent
  deriving DecidableEq, Repr

/-- The label of a character in the table; characters that are not there have the label zero. -/
def traits (c : Char) : Nat := (Range.label? traitRanges c).getD 0

/-- The place of a mark among the marks after a letter; zero for all that stay where they are. -/
def order (c : Char) : Nat := traits c % 256

def isMark (c : Char) : Bool := traits c / 256 % 2 = 1

def direction (c : Char) : Direction :=
  if c.isDigit then .number
  else if c.toNat < 0x80 && !c.isAlpha then .neutral
  else
    match traits c / 512 % 8 with
    | 1 => .right
    | 2 => .rightNumber
    | 3 => .number
    | 4 => .neutral
    | 5 => .mark
    | _ => .left

def joining (c : Char) : Joining :=
  match traits c / 4096 with
  | 1 => .dual
  | 2 => .before
  | 3 => .after
  | 4 => .transparent
  | _ => .none

def bindingOrder : Nat := 9

end NodeCall.Text
