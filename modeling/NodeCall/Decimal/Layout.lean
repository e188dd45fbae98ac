import NodeCall.Decimal.Shortest

/-!
# Decimal text of a double

How the shortest digits of a finite double are laid out: plain notation for moderate exponents,
scientific notation otherwise, and a point in every plain number.
-/

namespace NodeCall.Decimal

structure Layout where
  /-- The smallest decimal exponent written in plain notation. -/
  plainFrom : Int
  /-- The first decimal exponent too large for plain notation. -/
  plainBelow : Int
  exponentPlus : String
  wholeSuffix : String

def zeros (n : Nat) : String := String.ofList (List.replicate n '0')

def pointed (digits : List Char) : String :=
  match digits with
  | [] => ""
  | [d] => String.ofList [d]
  | d :: rest => String.ofList (d :: '.' :: rest)

def Layout.write (layout : Layout) (d : Digits) : String :=
  let digits := Nat.toDigits 10 d.digits
  let order : Int := d.exponent + digits.length - 1
  if order < layout.plainFrom ∨ layout.plainBelow ≤ order then
    let sign := if order < 0 then "-" else layout.exponentPlus
    pointed digits ++ "e" ++ sign ++ toString order.natAbs
  else if order < 0 then
    "0." ++ zeros (order.natAbs - 1) ++ String.ofList digits
  else if 0 ≤ d.exponent then
    String.ofList digits ++ zeros d.exponent.toNat ++ layout.wholeSuffix
  else
    let whole := order.toNat + 1
    String.ofList (digits.take whole) ++ "." ++ String.ofList (digits.drop whole)

/-- A finite double in the given layout; both zeros keep their sign. -/
def Layout.float (layout : Layout) (x : Float) : String :=
  let bits := x.toBits
  let sign := if bits >>> 63 = 0 then "" else "-"
  let magnitude := bits % 0x8000000000000000
  if magnitude = 0 then sign ++ "0" ++ layout.wholeSuffix
  else sign ++ layout.write (shortest magnitude)

end NodeCall.Decimal
