import NodeCall.Text.Percent

/-!
# Numbers in words

Unsigned 64-bit numbers as they are typed: digits to a base, perhaps after a plus sign.  Of two
faults the one further to the left counts.
-/

namespace NodeCall.Decimal

inductive WordError
  | empty
  | invalidDigit
  | tooLarge
  deriving DecidableEq, Repr

def WordError.message : WordError → String
  | .empty => "cannot parse integer from empty string"
  | .invalidDigit => "invalid digit found in string"
  | .tooLarge => "number too large to fit in target type"

/-- The value of digits with `value` standing before them. -/
def wordDigits (base : Nat) : Nat → List Char → Except WordError UInt64
  | value, [] => .ok value.toUInt64
  | value, c :: rest =>
    match Text.Percent.digit? c with
    | none => .error .invalidDigit
    | some d =>
      if base ≤ d then .error .invalidDigit
      else if value * base + d < 0x10000000000000000 then wordDigits base (value * base + d) rest
      else .error .tooLarge

def word (base : Nat) : List Char → Except WordError UInt64
  | [] => .error .empty
  | ['+'] => .error .invalidDigit
  | '+' :: rest => wordDigits base 0 rest
  | s => wordDigits base 0 s

end NodeCall.Decimal
