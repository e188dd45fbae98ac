/-!
# Shortest decimal digits of a double

A finite positive double `m * 2 ^ q` stands for every real that rounds to it: an interval around
it whose ends belong to it exactly when `m` is even.  The shortest decimal is the one with the
fewest significant digits inside that interval, and of several such the one nearest to the
double.  Everything is computed on exact fractions of natural numbers.
-/

namespace NodeCall.Decimal

/-- A positive decimal: `digits * 10 ^ exponent`. -/
structure Digits where
  digits : Nat
  exponent : Int
  deriving DecidableEq, Repr

structure Fraction where
  num : Nat
  den : Nat

def Fraction.scale (x : Fraction) : Int → Fraction
  | .ofNat k => ⟨x.num * Nat.pow 10 k, x.den⟩
  | .negSucc k => ⟨x.num, x.den * Nat.pow 10 (k + 1)⟩

/-- The double `mantissa * 2 ^ exponent`, in quarters of its last place. -/
structure Binary where
  mantissa : Nat
  exponent : Int
  /-- Set when the gap to the next smaller double is half the gap to the next larger one. -/
  narrowBelow : Bool

/-- The mantissa, exponent and lower gap that the bits of a finite double stand for. -/
def Binary.ofBits (bits : UInt64) : Binary :=
  let field := (bits >>> 52).toNat % 2048
  let fraction := bits.toNat % 0x10000000000000
  if field = 0 then ⟨fraction, -1074, false⟩
  else ⟨0x10000000000000 + fraction, (field : Int) - 1075, fraction = 0 && field != 1⟩

/-- `quarters` quarters of the last place of a double with the given binary exponent. -/
def quarters (count : Nat) : Int → Fraction
  | .ofNat q => ⟨count * Nat.pow 2 q, 4⟩
  | .negSucc q => ⟨count, 4 * Nat.pow 2 (q + 1)⟩

def Binary.value (x : Binary) : Fraction := quarters (4 * x.mantissa) x.exponent

/-- The lower end of the interval of reals that round to the double. -/
def Binary.low (x : Binary) : Fraction :=
  quarters (4 * x.mantissa - if x.narrowBelow then 1 else 2) x.exponent

/-- The upper end of the interval of reals that round to the double. -/
def Binary.high (x : Binary) : Fraction := quarters (4 * x.mantissa + 2) x.exponent

/-- How many decimal digits a number has; zero has one. -/
def length (n : Nat) : Nat := (Nat.toDigits 10 n).length

/-- The decimal exponent `e` with `10 ^ e ≤ x < 10 ^ (e + 1)`. -/
def Fraction.order (x : Fraction) : Int :=
  let guess : Int := (length x.num : Int) - length x.den
  let scaled := x.scale (-guess)
  if scaled.den ≤ scaled.num then guess else guess - 1

/-- Whether the natural number `n` lies in the interval of `x` on the grid of `10 ^ exponent`. -/
def Binary.holds (x : Binary) (exponent : Int) (n : Nat) : Bool :=
  let low := x.low.scale (-exponent)
  let high := x.high.scale (-exponent)
  if x.mantissa % 2 = 0 then low.num ≤ n * low.den && n * high.den ≤ high.num
  else low.num < n * low.den && n * high.den < high.num

/-- Of the two grid neighbours of `x`, the nearest one that stands for it; a tie goes to even. -/
def Binary.onGrid? (x : Binary) (exponent : Int) : Option Nat :=
  let scaled := x.value.scale (-exponent)
  let below := scaled.num / scaled.den
  let rest := scaled.num % scaled.den
  let first :=
    if 2 * rest < scaled.den then below
    else if 2 * rest = scaled.den then below + below % 2
    else below + 1
  let second := if first = below then below + 1 else below
  if x.holds exponent first then some first
  else if x.holds exponent second then some second
  else none

/-- The digits without trailing zeros; `fuel` bounds their number. -/
def stripZeros : Nat → Digits → Digits
  | 0, d => d
  | fuel + 1, d =>
    if d.digits ≠ 0 ∧ d.digits % 10 = 0 then stripZeros fuel ⟨d.digits / 10, d.exponent + 1⟩
    else d

/-- The shortest decimal on the grids with `n`, `n + 1`, ... digits, `fuel` grids in all. -/
def Binary.search (x : Binary) (order : Int) : Nat → Nat → Digits
  | 0, n => ⟨(x.value.scale ((n : Int) - order)).num / (x.value.scale ((n : Int) - order)).den,
      order - n⟩
  | fuel + 1, n =>
    let exponent := order - (n : Int)
    match x.onGrid? exponent with
    | some digits => ⟨digits, exponent⟩
    | none => x.search order fuel (n + 1)

/-- The shortest decimal that reads back as the finite positive double with these bits. -/
def shortest (bits : UInt64) : Digits :=
  let x := Binary.ofBits bits
  stripZeros 20 (x.search x.value.order 17 0)

end NodeCall.Decimal
