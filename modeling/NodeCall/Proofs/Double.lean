import Mathlib

/-!
# The order of doubles

Doubles that are numbers compare by sign, then by exponent, then by mantissa, and the two zeros are
equal.  So they compare like keys in a linear order.  What is no number compares with nothing.
-/

namespace NodeCall.Double

open Float.Model (UnpackedFloat)

/-- Sign and kind, exponent, mantissa. -/
abbrev Key := ℤ ×ₗ ℤ ×ₗ ℤ

def keyOf : UnpackedFloat → Key
  | .infinity .negative => toLex (-2, toLex (0, 0))
  | .finite .negative mantissa exponent _ => toLex (-1, toLex (-exponent, -mantissa))
  | .notANumber | .zero _ => toLex (0, toLex (0, 0))
  | .finite .positive mantissa exponent _ => toLex (1, toLex (exponent, mantissa))
  | .infinity .positive => toLex (2, toLex (0, 0))

theorem compare_signs : compare UnpackedFloat.Sign.negative .positive = .lt := rfl

theorem compare_self (sign : UnpackedFloat.Sign) : compare sign sign = .eq := by
  cases sign <;> rfl

section

variable {a b : UnpackedFloat} (ha : a.isNaN = false) (hb : b.isNaN = false)
include ha hb

theorem compare_eq_lt : a.compare b = some .lt ↔ keyOf a < keyOf b := by
  rcases a with (_ | _) | _ | _ | ⟨_ | _, m, e, pos⟩ <;>
    rcases b with (_ | _) | _ | _ | ⟨_ | _, m', e', pos'⟩ <;>
    simp_all [UnpackedFloat.isNaN, UnpackedFloat.compare, keyOf, Prod.Lex.toLex_lt_toLex,
      Ordering.then_eq_lt, Ordering.then_eq_gt, Int.compare_eq_lt, Int.compare_eq_gt,
      Nat.compare_eq_lt, Nat.compare_eq_gt, compare_signs]

theorem compare_eq_eq : a.compare b = some .eq ↔ keyOf a = keyOf b := by
  rcases a with (_ | _) | _ | _ | ⟨_ | _, m, e, pos⟩ <;>
    rcases b with (_ | _) | _ | _ | ⟨_ | _, m', e', pos'⟩ <;>
    simp_all [UnpackedFloat.isNaN, UnpackedFloat.compare, keyOf, Ordering.then_eq_eq, compare_self]

end

theorem compare_notANumber (a : UnpackedFloat) : a.compare .notANumber = none := by
  cases a <;> rfl

/-- The key of a double; one that is no number has that of zero. -/
def key (x : Float) : Key := keyOf x.toModel.unpack

theorem isNaN_of_beq {x y : Float} (same : (x == y) = true) : y.isNaN = false := by
  have equal : (x.toModel.unpack.compare y.toModel.unpack == some .eq) = true := same
  show y.toModel.unpack.isNaN = false
  cases hy : y.toModel.unpack with
  | notANumber =>
    rw [hy, compare_notANumber] at equal
    cases equal
  | infinity | zero | finite => rfl

section

variable {x y : Float} (hx : x.isNaN = false) (hy : y.isNaN = false)
include hx hy

theorem lt_iff : x < y ↔ key x < key y := by
  rw [key, key, ← compare_eq_lt hx hy]
  show decide ((x.toModel.unpack.compare y.toModel.unpack == some .lt) = true) = true ↔ _
  simp

theorem beq_iff : (x == y) = true ↔ key x = key y := by
  rw [key, key, ← compare_eq_eq hx hy]
  show (x.toModel.unpack.compare y.toModel.unpack == some .eq) = true ↔ _
  simp

theorem le_iff : x ≤ y ↔ key x ≤ key y := by
  rw [le_iff_lt_or_eq, key, key, ← compare_eq_lt hx hy, ← compare_eq_eq hx hy]
  show decide ((x.toModel.unpack.compare y.toModel.unpack).any (·.isLE) = true) = true ↔ _
  rcases x.toModel.unpack.compare y.toModel.unpack with _ | (_ | _ | _) <;> simp

end

end NodeCall.Double
