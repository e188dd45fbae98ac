import NodeCall.Text.Utf8

/-!
# Percent encoding

A character that may not stand at a place is written as its bytes, each as a percent sign and two
upper-case hexadecimal digits.  Which characters these are is a matter of the place.
-/

namespace NodeCall.Text.Percent

def digit? (c : Char) : Option Nat :=
  let n := c.toNat
  if 48 ≤ n && n ≤ 57 then some (n - 48)
  else if 65 ≤ n && n ≤ 70 then some (n - 55)
  else if 97 ≤ n && n ≤ 102 then some (n - 87)
  else none

def digit (n : Nat) : Char := Char.ofNat (if n < 10 then 48 + n else 55 + n)

def escape (b : UInt8) : List Char := ['%', digit (b.toNat / 16), digit (b.toNat % 16)]

abbrev Class := Char → Bool

def encodeChar (escaped : Class) (c : Char) : List Char :=
  if escaped c then (Utf8.encodeChar c).flatMap escape else [c]

def encode (escaped : Class) (s : List Char) : List Char := s.flatMap (encodeChar escaped)

/-- The bytes of a text in which escapes stand for bytes; a percent sign that begins no escape
stands for itself. -/
def decode : List Char → List UInt8
  | [] => []
  | '%' :: a :: b :: rest =>
    match digit? a, digit? b with
    | some high, some low => Utf8.byte (high * 16 + low) :: decode rest
    | _, _ => Utf8.encodeChar '%' ++ decode (a :: b :: rest)
  | c :: rest => Utf8.encodeChar c ++ decode rest

/-! ### Classes -/

def controls : Class := fun c => c.toNat < 0x20 || 0x7E < c.toNat

def Class.with (base : Class) (more : List Char) : Class := fun c => base c || more.contains c

def fragment : Class := Class.with controls [' ', '"', '<', '>', '\x60']

def path : Class := Class.with fragment ['#', '?', '\x7b', '\x7d']

def userinfo : Class := Class.with path ['/', ':', ';', '=', '@', '[', '\\', ']', '^', '|']

def query : Class := Class.with controls [' ', '"', '#', '<', '>']

def specialQuery : Class := Class.with query ['\'']

end NodeCall.Text.Percent
