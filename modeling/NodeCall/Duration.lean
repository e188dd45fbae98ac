/-!
# Durations

Spans of time with nanosecond precision.  The longest one has as many seconds as a 64-bit word
holds, and multiplication stops there.  Clocks count milliseconds: a wait lasts until the first
whole millisecond at which it is over.  Both ends of a clock's range are taken from the start of
the wait, as if the clock had been started then; the time it has run before is nothing beside them.
-/

namespace NodeCall

def Duration.bound : Nat := 0x10000000000000000 * 1000000000

structure Duration where
  nanos : Nat
  lt_bound : nanos < Duration.bound := by decide
  deriving DecidableEq, Repr

namespace Duration

theorem ext_nanos {a b : Duration} (h : a.nanos = b.nanos) : a = b := by
  cases a; cases b; simp_all

def maximum : Duration := ⟨bound - 1, by decide⟩

/-- The duration of so many nanoseconds, or the longest one if there are too many. -/
def saturating (nanos : Nat) : Duration :=
  if h : nanos < bound then ⟨nanos, h⟩ else maximum

def zero : Duration := ⟨0, by decide⟩

instance : Inhabited Duration := ⟨zero⟩

def ofSecs (secs : UInt64) : Duration :=
  ⟨secs.toNat * 1000000000, by have := secs.toNat_lt; simp only [bound]; omega⟩

def ofMillis (millis : UInt64) : Duration :=
  ⟨millis.toNat * 1000000, by have := millis.toNat_lt; simp only [bound]; omega⟩

def ofParts (secs : UInt64) (nanos : UInt32) : Duration :=
  saturating (secs.toNat * 1000000000 + nanos.toNat)

def secs (d : Duration) : Nat := d.nanos / 1000000000

def subsecNanos (d : Duration) : Nat := d.nanos % 1000000000

/-- The whole milliseconds, as far as a 64-bit word holds them. -/
def millisWord (d : Duration) : UInt64 := (d.nanos / 1000000).toUInt64

def mul (d : Duration) (factor : Nat) : Duration := saturating (d.nanos * factor)

def add (a b : Duration) : Duration := saturating (a.nanos + b.nanos)

def half (d : Duration) : Duration :=
  ⟨d.nanos / 2, Nat.lt_of_le_of_lt (Nat.div_le_self _ _) d.lt_bound⟩

def clamp (d low high : Duration) : Duration :=
  if d.nanos < low.nanos then low else if high.nanos < d.nanos then high else d

/-- The longest wait of a clock whose range ends before the wait does: thirty years. -/
def farFuture : Nat := 946080000000

/-- The last millisecond at which a timer can end; the words above it mark the timer's states. -/
def lastTick : Nat := 0xFFFFFFFFFFFFFFFD

/-- How many milliseconds a wait lasts on a clock; the clock holds 63 bits of seconds. -/
def wait (d : Duration) : Nat :=
  if d.secs < 0x8000000000000000 then min ((d.nanos + 999999) / 1000000) lastTick else farFuture

/-! ### Text -/

/-- The digits behind a point, of which `places` are there, without zeros at the end. -/
def fractionText (value places : Nat) : String :=
  let digits := Nat.toDigits 10 value
  let padded := List.replicate (places - digits.length) '0' ++ digits
  let stripped := (padded.reverse.dropWhile (· = '0')).reverse
  if value = 0 then "" else "." ++ String.ofList stripped

/-- The duration in the largest unit of which it has one. -/
def text (d : Duration) : String :=
  if 1000000000 ≤ d.nanos then
    toString d.secs ++ fractionText d.subsecNanos 9 ++ "s"
  else if 1000000 ≤ d.nanos then
    toString (d.nanos / 1000000) ++ fractionText (d.nanos % 1000000) 6 ++ "ms"
  else if 1000 ≤ d.nanos then
    toString (d.nanos / 1000) ++ fractionText (d.nanos % 1000) 3 ++ "µs"
  else toString d.nanos ++ "ns"

end Duration
end NodeCall
