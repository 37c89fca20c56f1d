/-!
Sixty-four bit words whose sums and products stop at the largest word and whose differences stop
at zero. Every result is the exact result clamped into range, so a bound on the exact result is
all that is needed to know that nothing was cut off.
-/
namespace EventLoop.Word

/-- The largest word. -/
def top : UInt64 := 18446744073709551615

/-- The word nearest to `n`: itself where it fits, else the largest one. -/
def clamp (n : Nat) : UInt64 := UInt64.ofNat (min n 18446744073709551615)

/-- `saturating_add`: the sum, or the largest word if the sum does not fit. -/
def add (a b : UInt64) : UInt64 := clamp (a.toNat + b.toNat)

/-- `saturating_mul`: the product, or the largest word if the product does not fit. -/
def mul (a b : UInt64) : UInt64 := clamp (a.toNat * b.toNat)

/-- `saturating_sub`: the difference, or zero if `b` is the larger one. -/
def sub (a b : UInt64) : UInt64 := clamp (a.toNat - b.toNat)

theorem toNat_clamp (n : Nat) : (clamp n).toNat = min n 18446744073709551615 := by
  simp only [clamp, UInt64.toNat_ofNat']
  omega

theorem toNat_add (a b : UInt64) :
    (add a b).toNat = min (a.toNat + b.toNat) 18446744073709551615 := toNat_clamp _

theorem toNat_mul (a b : UInt64) :
    (mul a b).toNat = min (a.toNat * b.toNat) 18446744073709551615 := toNat_clamp _

theorem toNat_sub (a b : UInt64) : (sub a b).toNat = a.toNat - b.toNat := by
  rw [sub, toNat_clamp]
  have := a.toNat_lt
  omega

end EventLoop.Word
