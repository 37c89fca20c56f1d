import EventLoop.Word

/-!
A token bucket that limits bytes per second. Its level is kept in thousandths of a byte, so that
`elapsed milliseconds × rate` is added without rounding. A bucket holds one second's worth, starts
full and is refilled whenever it is looked at. The words stop at their bounds instead of wrapping.
-/
namespace EventLoop

/-- `TrafficShaper` and the `Bucket` in it: `level` thousandths of a byte, its `milli_tokens`, were
there when the clock read `since`. -/
structure Bucket where
  rate : UInt64
  level : UInt64
  since : UInt64
deriving DecidableEq, Repr, Inhabited

namespace Bucket

/-- The `capacity_milli` of a `TrafficShaper`: one second's worth, in thousandths of a byte. -/
def capacity (rate : UInt64) : UInt64 := Word.mul rate 1000

/-- `TrafficShaper::with_clock`: a full bucket, made when the clock reads `now`. -/
def full (rate now : UInt64) : Bucket := ⟨rate, capacity rate, now⟩

/-- `TrafficShaper::refill`: adds what has come in since the last look, as far as the bucket holds
it. A clock that went back adds nothing, and the next refill counts from where it went back to. -/
def refill (now : UInt64) (bucket : Bucket) : Bucket :=
  let gained := Word.mul (Word.sub now bucket.since) bucket.rate
  { bucket with
    level := min (Word.add bucket.level gained) (capacity bucket.rate)
    since := now }

/-- `TrafficShaper::acquire`: takes `bytes` if the bucket holds that many, else nothing; says
which. -/
def acquire (bytes now : UInt64) (bucket : Bucket) : Bool × Bucket :=
  let wanted := Word.mul bytes 1000
  let bucket := bucket.refill now
  if wanted ≤ bucket.level then (true, { bucket with level := bucket.level - wanted })
  else (false, bucket)

/-- `TrafficShaper::available`: how many whole bytes the bucket holds. -/
def available (now : UInt64) (bucket : Bucket) : UInt64 × Bucket :=
  let bucket := bucket.refill now
  (bucket.level / 1000, bucket)

/-- Asks `times` times for `bytes` at one reading of the clock and counts the grants. -/
def acquireMany (bytes now : UInt64) : Nat → Bucket → Nat × Bucket
  | 0, bucket => (0, bucket)
  | times + 1, bucket =>
    let (granted, bucket) := bucket.acquire bytes now
    let (count, bucket) := acquireMany bytes now times bucket
    ((if granted then count + 1 else count), bucket)

end Bucket

end EventLoop
