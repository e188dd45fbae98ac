/-!
# Numbers as bytes

Numbers in a fixed number of bytes, the highest byte first.  What does not fit is dropped.
-/

namespace NodeCall.Text.BigEndian

def encode : Nat → Nat → List UInt8
  | 0, _ => []
  | count + 1, n => encode count (n / 256) ++ [UInt8.ofNat (n % 256)]

def decode (bytes : List UInt8) : Nat := bytes.foldl (fun n b => n * 256 + b.toNat) 0

@[simp] theorem length_encode (count n : Nat) : (encode count n).length = count := by
  induction count generalizing n with
  | zero => rfl
  | succ count ih => simp [encode, ih]

theorem decode_encode {count n : Nat} (h : n < Nat.pow 256 count) : decode (encode count n) = n := by
  induction count generalizing n with
  | zero => simp_all [encode, decode]
  | succ count ih =>
    have hn : n / 256 < Nat.pow 256 count :=
      Nat.div_lt_of_lt_mul (Nat.mul_comm _ _ ▸ h)
    have hd := ih hn
    simp only [decode] at hd
    simp only [decode, encode, List.foldl_append, hd, List.foldl_cons, List.foldl_nil]
    have : n % 256 % 256 = n % 256 := Nat.mod_mod n 256
    simp only [UInt8.toNat_ofNat']
    omega

end NodeCall.Text.BigEndian
