/-!
Numbers as bytes, most significant byte first, as the wire format writes them. Reading takes any
number of bytes; writing takes the width and drops what does not fit.
-/
namespace EventLoop

/-- The last `width` base-256 digits of `n`, most significant first. -/
def bigEndian : Nat → Nat → List UInt8
  | 0, _ => []
  | width + 1, n => bigEndian width (n / 256) ++ [UInt8.ofNat (n % 256)]

/-- The number whose base-256 digits these are, most significant first. -/
def ofBigEndian (bytes : List UInt8) : Nat :=
  bytes.foldl (fun sum byte => 256 * sum + byte.toNat) 0

/-- A short number that tells most texts of bytes apart: each byte is mixed in and the result spread
by a prime. -/
def fingerprint (bytes : List UInt8) : UInt32 :=
  bytes.foldl (fun hash byte => (hash ^^^ byte.toUInt32) * 0x01000193) 0x811c9dc5

@[simp] theorem length_bigEndian (width n : Nat) : (bigEndian width n).length = width := by
  induction width generalizing n with
  | zero => rfl
  | succ width ih => simp [bigEndian, ih]

theorem ofBigEndian_append (front : List UInt8) (last : UInt8) :
    ofBigEndian (front ++ [last]) = 256 * ofBigEndian front + last.toNat := by
  simp [ofBigEndian]

theorem ofBigEndian_bigEndian (width n : Nat) (fits : n < Nat.pow 256 width) :
    ofBigEndian (bigEndian width n) = n := by
  induction width generalizing n with
  | zero =>
    have zero : n < 1 := fits
    obtain rfl : n = 0 := by omega
    rfl
  | succ width ih =>
    have bound : n < Nat.pow 256 width * 256 := fits
    have small : n / 256 < Nat.pow 256 width := (Nat.div_lt_iff_lt_mul (by decide)).2 bound
    have digit : (UInt8.ofNat (n % 256)).toNat = n % 256 := by
      have : n % 256 < 256 := Nat.mod_lt _ (by decide)
      simp [UInt8.toNat_ofNat', Nat.mod_eq_of_lt this]
    rw [bigEndian, ofBigEndian_append, ih _ small, digit]
    omega

end EventLoop
