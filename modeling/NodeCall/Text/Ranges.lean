/-!
# Tables of characters

Large tables stand as text: hexadecimal numbers with blanks between them.  In a table of ranges
each range takes three numbers: the gap after the range before it, how many characters follow its
first one, and its label.
-/

namespace NodeCall.Text

def pushDigit (n : Nat) (c : Char) : Nat :=
  n * 16 + if c.isDigit then c.toNat - 48 else c.toNat - 87

def hexNumbersFrom : Option Nat → List Char → List Nat
  | none, [] => []
  | some n, [] => [n]
  | some n, ' ' :: rest => n :: hexNumbersFrom none rest
  | none, ' ' :: rest => hexNumbersFrom none rest
  | n, c :: rest => hexNumbersFrom (some (pushDigit (n.getD 0) c)) rest

def hexNumbers (lines : List String) : List Nat :=
  lines.flatMap fun line => hexNumbersFrom none line.toList

structure Range where
  first : Nat
  last : Nat
  label : Nat
  deriving DecidableEq, Repr

namespace Range

def ofNumbers : Nat → List Nat → List Range
  | place, gap :: more :: label :: rest =>
    let first := place + gap
    ⟨first, first + more, label⟩ :: ofNumbers (first + more) rest
  | _, _ => []

def ofLines (lines : List String) : List Range := ofNumbers 0 (hexNumbers lines)

def label? (ranges : List Range) (c : Char) : Option Nat :=
  (ranges.find? fun r => r.first ≤ c.toNat && c.toNat ≤ r.last).map (·.label)

end Range
end NodeCall.Text
