import NodeCall.Text.BigEndian

/-!
# SHA-1

The digest of bytes: they are filled up to blocks of sixteen words, and eighty rounds stir each
block into five words.
-/

namespace NodeCall.Text.Sha1

def turn (n : UInt32) (x : UInt32) : UInt32 := (x <<< n) ||| (x >>> (32 - n))

/-- The bytes with a one bit, zeros and their length after them, so that they fill blocks. -/
def filled (bytes : List UInt8) : List UInt8 :=
  let zeros := (55 + 64 - bytes.length % 64) % 64
  bytes ++ 0x80 :: (List.replicate zeros 0 ++ BigEndian.encode 8 (8 * bytes.length))

def words : List UInt8 → List UInt32
  | a :: b :: c :: d :: rest =>
    (a.toUInt32 <<< 24 ||| b.toUInt32 <<< 16 ||| c.toUInt32 <<< 8 ||| d.toUInt32) :: words rest
  | _ => []

/-- The words of a block, the latest first, with so many more that follow from them. -/
def extend : Nat → List UInt32 → List UInt32
  | 0, ws => ws
  | more + 1, ws =>
    let next := (ws[2]?).getD 0 ^^^ (ws[7]?).getD 0 ^^^ (ws[13]?).getD 0 ^^^ (ws[15]?).getD 0
    extend more (turn 1 next :: ws)

structure State where
  a : UInt32
  b : UInt32
  c : UInt32
  d : UInt32
  e : UInt32

def initial : State := ⟨0x67452301, 0xEFCDAB89, 0x98BADCFE, 0x10325476, 0xC3D2E1F0⟩

def mix (round : Nat) (b c d : UInt32) : UInt32 × UInt32 :=
  if round < 20 then ((b &&& c) ||| (~~~b &&& d), 0x5A827999)
  else if round < 40 then (b ^^^ c ^^^ d, 0x6ED9EBA1)
  else if round < 60 then ((b &&& c) ||| (b &&& d) ||| (c &&& d), 0x8F1BBCDC)
  else (b ^^^ c ^^^ d, 0xCA62C1D6)

def round (s : State) (word : UInt32 × Nat) : State :=
  let (f, k) := mix word.2 s.b s.c s.d
  ⟨turn 5 s.a + f + s.e + k + word.1, s.a, turn 30 s.b, s.c, s.d⟩

def stir (s : State) (block : List UInt32) : State :=
  let t := ((extend 64 block.reverse).reverse.zipIdx).foldl round s
  ⟨s.a + t.a, s.b + t.b, s.c + t.c, s.d + t.d, s.e + t.e⟩

def stirAll : Nat → State → List UInt32 → State
  | 0, s, _ => s
  | fuel + 1, s, ws => if ws.isEmpty then s else stirAll fuel (stir s (ws.take 16)) (ws.drop 16)

def digest (bytes : List UInt8) : List UInt8 :=
  let ws := words (filled bytes)
  let s := stirAll ws.length initial ws
  [s.a, s.b, s.c, s.d, s.e].flatMap fun w => BigEndian.encode 4 w.toNat

theorem length_digest (bytes : List UInt8) : (digest bytes).length = 20 := by
  simp [digest]

end NodeCall.Text.Sha1
