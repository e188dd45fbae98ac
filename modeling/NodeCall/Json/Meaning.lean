import NodeCall.Json.Tree

/-!
# What the places of a JSON tree mean

A number literal without point and exponent is an integer when it fits a 64-bit word.  Any other
number is a double: as many digits as fit a 64-bit word are taken as they stand, and the result is
multiplied or divided by the power of ten that is left, so the last place may differ from the
nearest double.  A literal too large for a double, a string that is no text, and a value nested too
deeply have no meaning.
-/

namespace NodeCall.Json

/-- Arrays and objects may nest this deep. -/
def maxDepth : Nat := 127

/-- The number that digits stand for behind `start`, as long as it is below `bound`, and how many
digits are left over. -/
def gather (bound : Nat) : Nat → List Nat → Nat × Nat
  | start, [] => (start, 0)
  | start, d :: rest =>
    if start * 10 + d < bound then gather bound (start * 10 + d) rest
    else (start, rest.length + 1)

def tenTo (k : Nat) : Float := Float.ofScientific 1 false k

def scaleTen : Nat → Float → Int → Option Float
  | 0, _, _ => some 0.0
  | fuel + 1, x, exponent =>
    if exponent.natAbs ≤ 308 then
      if 0 ≤ exponent then some (x * tenTo exponent.natAbs) else some (x / tenTo exponent.natAbs)
    else if x == 0.0 then some x
    else if 0 ≤ exponent then none
    else scaleTen fuel (x / tenTo 308) (exponent + 308)

def Number.ofFloat? (x : Float) : Option Number :=
  if h : x.isFinite = true then some (.double x h) else none

/-- The double `significand * 10 ^ exponent`. -/
def doubleOf? (negative : Bool) (significand : Nat) (exponent : Int) : Option Number :=
  (scaleTen 4 significand.toUInt64.toFloat exponent).bind fun x =>
    Number.ofFloat? (if negative then -x else x)

/-- The exponent of a literal; one too large for a 32-bit word is none. -/
def exponentOf? (negative : Bool) (digits : List Nat) : Option Int :=
  match gather 0x80000000 0 digits with
  | (n, 0) => some (if negative then -(n : Int) else n)
  | _ => none

/-- The number a literal stands for; none when it is too large for a double. -/
def Numeral.number? (n : Numeral) : Option Number :=
  let (whole, tens) := gather 0x10000000000000000 0 n.whole
  match n.fraction, n.exponent, tens with
  | none, none, 0 =>
    let value : Int := if n.negative then -(whole : Int) else whole
    if h : (-0x8000000000000000 ≤ value ∧ value < 0x10000000000000000) ∧ ¬(n.negative ∧ whole = 0) then
      some (.integer value h.1)
    else doubleOf? n.negative whole 0
  | fraction, exponent, tens =>
    let digits := fraction.getD []
    let (significand, unused) := gather 0x10000000000000000 whole digits
    let point : Int := (tens : Int) - (digits.length - unused)
    match exponent with
    | none => doubleOf? n.negative significand point
    | some (down, exponentDigits) =>
      match exponentOf? down exponentDigits with
      | some e => doubleOf? n.negative significand (point + e)
      | none =>
        if significand ≠ 0 ∧ ¬down then none
        else Number.ofFloat? (if n.negative then -0.0 else 0.0)

def Numeral.value (n : Numeral) : Except Fault Json :=
  match n.number? with
  | some value => .ok (.number value)
  | none => .error .malformed

def Word.value : Word → Except Fault String
  | .text s => .ok s
  | .unpaired => .error .malformed

def ended : Option Stop → Except Fault Unit
  | none => .ok ()
  | some stop => .error stop.taken

mutual

/-- The value of a tree whose arrays and objects may nest `depth` deep. -/
def Tree.value (depth : Nat) : Tree → Except Fault Json
  | .null => .ok .null
  | .bool b => .ok (.bool b)
  | .numeral n => n.value
  | .word w => w.value.map .string
  | .cut stop => .error stop.taken
  | .array items broken =>
    match depth with
    | 0 => .error .malformed
    | depth + 1 => do
      let items ← Tree.values depth items
      ended broken
      return .array items
  | .object members broken =>
    match depth with
    | 0 => .error .malformed
    | depth + 1 => do
      let members ← Tree.memberValues depth members
      ended broken
      return .ofMembers members

def Tree.values (depth : Nat) : List Tree → Except Fault (List Json)
  | [] => .ok []
  | t :: rest => do
    let v ← Tree.value depth t
    let vs ← Tree.values depth rest
    return v :: vs

def Tree.memberValues (depth : Nat) : List (Word × Tree) → Except Fault (List (String × Json))
  | [] => .ok []
  | (key, t) :: rest => do
    let key ← key.value
    let v ← Tree.value depth t
    let vs ← Tree.memberValues depth rest
    return (key, v) :: vs

end

def skippedEnd : Option Stop → Except Fault Unit
  | none => .ok ()
  | some stop => .error stop.skipped

mutual

/-- A part that nobody takes is held to the grammar only. -/
def Tree.skip : Tree → Except Fault Unit
  | .cut stop => .error stop.skipped
  | .array items broken => do
    Tree.skipItems items
    skippedEnd broken
  | .object members broken => do
    Tree.skipMembers members
    skippedEnd broken
  | _ => .ok ()

def Tree.skipItems : List Tree → Except Fault Unit
  | [] => .ok ()
  | t :: rest => do
    Tree.skip t
    Tree.skipItems rest

def Tree.skipMembers : List (Word × Tree) → Except Fault Unit
  | [] => .ok ()
  | (_, t) :: rest => do
    Tree.skip t
    Tree.skipMembers rest

end

def Document.value (document : Document) : Except Fault Json := do
  let value ← document.tree.value maxDepth
  if document.trailing then .error .malformed else return value

def ofText (s : String) : Except Fault Json := (Document.ofText s.toList).value

def ofBytes (bytes : List UInt8) : Except Fault Json := (Document.ofBytes bytes).value

end NodeCall.Json
