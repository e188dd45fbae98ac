import NodeCall.Text.Form
import NodeCall.Text.Quoted

/-!
# Internet addresses

Addresses as they stand in URLs: four numbers with points, or eight pieces with colons in
brackets.  A number may be decimal, octal after a zero, or hexadecimal after `0x`; missing numbers
are taken up by the last one.
-/

namespace NodeCall.Url.Address

open Text (hex)

/-- The value of digits to a base, with `value` standing before them. -/
def digitsValue? (base : Nat) : Nat → List Char → Option Nat
  | value, [] => some value
  | value, c :: rest => do
    let d ← Text.Percent.digit? c
    if d < base then digitsValue? base (value * base + d) rest else none

/-- A number in an address; a sign of its base alone counts as zero. -/
def number? : List Char → Option Nat
  | [] => none
  | '0' :: 'x' :: rest => digitsValue? 16 0 rest
  | '0' :: 'X' :: rest => digitsValue? 16 0 rest
  | '0' :: c :: rest => digitsValue? 8 0 (c :: rest)
  | s => digitsValue? 10 0 s

def parts (name : List Char) : List (List Char) :=
  let all := Text.Form.splitOn '.' name
  if all.getLast? = some [] then all.dropLast else all

/-- Whether the last part of a name is a number, so that it can only be an address. -/
def endsInNumber (name : List Char) : Bool :=
  match (parts name).getLast? with
  | some part => (!part.isEmpty && part.all (·.isDigit)) || (number? part).isSome
  | none => false

/-- The address whose numbers are given; all but the last one are bytes. -/
def combine : Nat → List Nat → Option Nat
  | _, [] => none
  | room, [last] => if last < Nat.pow 256 room then some last else none
  | room, n :: rest => do
    if n < 256 then return n * Nat.pow 256 (room - 1) + (← combine (room - 1) rest) else none

def ipv4? (name : List Char) : Option Nat := do
  let numbers ← (parts name).mapM number?
  if numbers.length ≤ 4 then combine 4 numbers else none

def ipv4Text (address : Nat) : List Char :=
  Nat.toDigits 10 (address / 0x1000000) ++ '.' :: Nat.toDigits 10 (address / 0x10000 % 256) ++
    '.' :: Nat.toDigits 10 (address / 256 % 256) ++ '.' :: Nat.toDigits 10 (address % 256)

/-! ### Addresses of eight pieces -/

def byte? (s : List Char) : Option Nat := do
  let n ← digitsValue? 10 0 s
  if !s.isEmpty && (s.length = 1 || s.head? ≠ some '0') && n < 256 then some n else none

def dotted? (s : List Char) : Option (List Nat) := do
  match ← (Text.Form.splitOn '.' s).mapM byte? with
  | [a, b, c, d] => some [a * 256 + b, c * 256 + d]
  | _ => none

/-- The value of up to `room` hexadecimal digits, and what follows them. -/
def takeHex : Nat → Nat → List Char → Nat × List Char
  | room + 1, value, c :: rest =>
    match Text.Percent.digit? c with
    | some d => takeHex room (value * 16 + d) rest
    | none => (value, c :: rest)
  | _, value, s => (value, s)

/-- The pieces read from a text after those in `done`, and how many of them come before the
pieces that were left out.  There is room for so many more. -/
def readPieces : Nat → List Char → List Nat → Option Nat → Option (List Nat × Option Nat)
  | _, [], done, gap => some (done, gap)
  | 0, _ :: _, _, _ => none
  | room + 1, ':' :: rest, done, gap =>
    if gap.isSome then none else readPieces room rest (done ++ [0]) (some (done.length + 1))
  | room + 1, c :: s, done, gap =>
    let (value, rest) := takeHex 4 0 (c :: s)
    match rest with
    | [] => some (done ++ [value], gap)
    | [':'] => none
    | ':' :: next => readPieces room next (done ++ [value]) gap
    | '.' :: _ =>
      if rest.length = s.length + 1 || room = 0 then none
      else (dotted? (c :: s)).map fun pair => (done ++ pair, gap)
    | _ => none

/-- The eight pieces of an address; two colons stand for one or more pieces that are zero. -/
def ipv6? (s : List Char) : Option (List Nat) := do
  let (pieces, gap) ← match s with
    | [] | [_] => none
    | ':' :: ':' :: rest => readPieces 7 rest [0] (some 1)
    | ':' :: _ => none
    | s => readPieces 8 s [] none
  match gap with
  | some n => some (pieces.take n ++ List.replicate (8 - pieces.length) 0 ++ pieces.drop n)
  | none => if pieces.length = 8 then some pieces else none

/-- The index and the length of the first longest run of two or more zeros. -/
def longestZeros : Nat → List Nat → Option (Nat × Nat)
  | _, [] => none
  | index, piece :: rest =>
    let here := ((piece :: rest).takeWhile (· = 0)).length
    match longestZeros (index + 1) rest with
    | some (i, n) => if n ≤ here then some (index, here) else some (i, n)
    | none => if 2 ≤ here then some (index, here) else none

def joinPieces (pieces : List Nat) : List Char := List.intercalate [':'] (pieces.map hex)

/-- The pieces with colons; two colons stand for the first longest run of zeros. -/
def ipv6Text (pieces : List Nat) : List Char :=
  match longestZeros 0 pieces with
  | some (i, n) => joinPieces (pieces.take i) ++ ':' :: ':' :: joinPieces (pieces.drop (i + n))
  | none => joinPieces pieces

end NodeCall.Url.Address
