/-!
# Punycode

Text of any script in letters, digits and hyphens.  The ASCII characters come first; the others
are inserted one after the other, by their code points and then from left to right, and the
distance from one insertion to the next is a number whose digits weigh according to how large
the distances before it were.
-/

namespace NodeCall.Url.Domain.Punycode

def digitChar (d : Nat) : Char := if d < 26 then Char.ofNat (97 + d) else Char.ofNat (22 + d)

def digit? (c : Char) : Option Nat :=
  if c.isDigit then some (c.toNat - 22)
  else if c.isAlpha then some (c.toLower.toNat - 97)
  else none

/-- The least value of the digit at a place that is not the last one of its number. -/
def threshold (bias place : Nat) : Nat := min (max (place - bias) 1) 26

/-- The bias after a distance that is cut down place by place. -/
def settle (delta places : Nat) : Nat :=
  if 455 < delta then settle (delta / 35) (places + 36)
  else places + 36 * delta / (delta + 38)
termination_by delta
decreasing_by omega

/-- The bias after a distance; the text has `length` characters now. -/
def adapt (delta length : Nat) (first : Bool) : Nat :=
  let reduced := if first then delta / 700 else delta / 2
  settle (reduced + reduced / length) 0

def startBias : Nat := 72

def startPoint : Nat := 0x80

/-! ### Writing -/

theorem one_le_threshold (bias place : Nat) : 1 ≤ threshold bias place := by
  simp only [threshold]
  omega

def digits (bias place n : Nat) : List Char :=
  let t := threshold bias place
  if n < t then [digitChar n]
  else digitChar (t + (n - t) % (36 - t)) :: digits bias (place + 36) ((n - t) / (36 - t))
termination_by n
decreasing_by
  have ht := one_le_threshold bias place
  have hd := Nat.div_le_self (n - threshold bias place) (36 - threshold bias place)
  omega

/-- Where the writer stands: the distance since the last insertion, the bias, and how many
characters are there. -/
structure Writer where
  delta : Nat
  bias : Nat
  length : Nat

/-- Passes over a character while the characters of a code point are inserted. -/
def Writer.pass (basic point : Nat) (w : Writer) (c : Char) : List Char × Writer :=
  if c.toNat < point then ([], { w with delta := w.delta + 1 })
  else if c.toNat = point then
    (digits w.bias 36 w.delta,
      ⟨0, adapt w.delta (w.length + 1) (w.length = basic), w.length + 1⟩)
  else ([], w)

def Writer.passAll (basic point : Nat) : Writer → List Char → List Char × Writer
  | w, [] => ([], w)
  | w, c :: rest =>
    let (written, w) := w.pass basic point c
    let (later, w) := passAll basic point w rest
    (written ++ later, w)

/-- Inserts the characters of the given code points, which increase. -/
def insertAll (basic : Nat) (s : List Char) : Nat → Writer → List Nat → List Char
  | _, _, [] => []
  | next, w, point :: rest =>
    let (written, w) :=
      { w with delta := w.delta + (point - next) * (w.length + 1) }.passAll basic point s
    written ++ insertAll basic s (point + 1) { w with delta := w.delta + 1 } rest

def encode (s : List Char) : List Char :=
  let basic := s.filter fun c => c.toNat < 0x80
  let points := ((s.map Char.toNat).filter (0x80 ≤ ·)).mergeSort.eraseDups
  let head := if basic.isEmpty then [] else basic ++ ['-']
  head ++ insertAll basic.length s startPoint ⟨0, startBias, basic.length⟩ points

/-! ### Reading -/

/-- Distances are words of 32 bits. -/
def limit : Nat := 0x100000000

/-- A number whose digits from a place on, with the given weight, are added to `n`. -/
def number? (bias : Nat) : Nat → Nat → Nat → List Char → Option (Nat × List Char)
  | _, _, _, [] => none
  | place, weight, n, c :: rest => do
    let d ← digit? c
    let n := n + d * weight
    let t := threshold bias place
    if limit ≤ n then none
    else if d < t then return (n, rest)
    else if limit ≤ weight * (36 - t) then none
    else number? bias (place + 36) (weight * (36 - t)) n rest

/-- The text after all insertions that characters tell of, as long as there is fuel. -/
def insertions : Nat → Nat → Nat → Nat → Bool → List Char → List Char → Option (List Char)
  | 0, _, _, _, _, _, _ => none
  | _, _, _, _, _, s, [] => some s
  | fuel + 1, bias, place, point, first, s, code => do
    let (n, rest) ← number? bias 36 1 place code
    let length := s.length + 1
    let point := point + n / length
    let index := n % length
    if point.isValidChar then
      insertions fuel (adapt (n - place) length first) (index + 1) point false
        (s.take index ++ Char.ofNat point :: s.drop index) rest
    else none

def decode? (code : List Char) : Option (List Char) :=
  let tail := (code.reverse.takeWhile (· ≠ '-')).reverse
  let basic := code.take (code.length - tail.length - 1)
  let rest := if basic.isEmpty then code else tail
  if basic.all fun c => c.toNat < 0x80 then
    insertions (code.length + 1) startBias 0 startPoint true basic rest
  else none

end NodeCall.Url.Domain.Punycode
