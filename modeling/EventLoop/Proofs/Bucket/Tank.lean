import EventLoop.Bucket

/-! A bucket in numbers of any size. A tank takes the calls that a bucket takes, and its sums,
products and differences are exact: nothing in it stops at a bound. As long as one second's worth
is a word, nobody can tell the two apart, for the three places at which words are cut off are
harmless: what came in is cut off only above what the bucket holds, so is the level with it, and
a request that is cut off asks for more than there can ever be. -/
namespace EventLoop

/-! ## Calls -/

namespace Bucket

/-- What can be asked of a bucket: `TrafficShaper::acquire` or `TrafficShaper::available`. -/
inductive Call where
  | acquire (bytes : UInt64)
  | available
deriving DecidableEq, Repr

/-- What a bucket answers: whether the bytes were taken, or how many whole ones there are. -/
inductive Answer where
  | decided (granted : Bool)
  | holds (bytes : Nat)
deriving DecidableEq, Repr

/-- Takes a call that comes when the clock reads `now`. -/
def serve (now : UInt64) (bucket : Bucket) : Call → Answer × Bucket
  | .acquire bytes => (.decided (bucket.acquire bytes now).1, (bucket.acquire bytes now).2)
  | .available => (.holds (bucket.available now).1.toNat, (bucket.available now).2)

/-- A call, what the clock read then, what the answer was and what the call left behind. -/
structure Entry (B : Type) where
  reading : UInt64
  call : Call
  answer : Answer
  after : B
deriving DecidableEq, Repr

/-- Calls one after the other, whoever makes them. -/
def journal {B : Type} (serve : UInt64 → B → Call → Answer × B) :
    List (UInt64 × Call) → B → List (Entry B)
  | [], _ => []
  | (now, call) :: rest, bucket =>
    ⟨now, call, (serve now bucket call).1, (serve now bucket call).2⟩ ::
      journal serve rest (serve now bucket call).2

/-- An entry with something else said of what the call left behind. -/
def Entry.as {A B : Type} (view : A → B) (entry : Entry A) : Entry B :=
  { entry with after := view entry.after }

end Bucket

/-! ## Tanks -/

/-- A bucket of exact numbers: `level` thousandths of a byte were in it when the clock read
`since`. -/
structure Tank where
  rate : Nat
  level : Nat
  since : Nat
deriving DecidableEq, Repr

namespace Tank

/-- A full tank, made when the clock reads `now`. -/
def full (rate now : Nat) : Tank := ⟨rate, 1000 * rate, now⟩

/-- Adds the rate for each millisecond since the last look, up to one second's worth. -/
def refill (now : Nat) (tank : Tank) : Tank :=
  { tank with
    level := min (tank.level + (now - tank.since) * tank.rate) (1000 * tank.rate)
    since := now }

/-- Takes a call: a thousand for each byte that is asked for, all of them or none. -/
def serve (now : UInt64) (tank : Tank) : Bucket.Call → Bucket.Answer × Tank
  | .acquire bytes =>
    let tank := tank.refill now.toNat
    if 1000 * bytes.toNat ≤ tank.level then
      (.decided true, { tank with level := tank.level - 1000 * bytes.toNat })
    else (.decided false, tank)
  | .available =>
    let tank := tank.refill now.toNat
    (.holds (tank.level / 1000), tank)

end Tank

/-! ## Words and numbers agree -/

namespace Bucket

/-- A bucket in numbers of any size. -/
def exact (bucket : Bucket) : Tank := ⟨bucket.rate.toNat, bucket.level.toNat, bucket.since.toNat⟩

/-- One second's worth is a word. -/
def Fits (rate : UInt64) : Prop := 1000 * rate.toNat < UInt64.size

instance (rate : UInt64) : Decidable (Fits rate) := Nat.decLt _ _

theorem Fits.below {rate : UInt64} (fits : Fits rate) :
    1000 * rate.toNat < 18446744073709551616 := fits

variable {rate now : UInt64} {bucket : Bucket}

private theorem toNat_min (a b : UInt64) : (min a b).toNat = min a.toNat b.toNat := by
  show (if a ≤ b then a else b).toNat = _
  split
  · next below =>
    rw [UInt64.le_iff_toNat_le] at below
    omega
  · next above =>
    rw [UInt64.le_iff_toNat_le] at above
    omega

/-- Bytes in thousandths, as far as a word goes. -/
theorem toNat_thousandths (bytes : UInt64) :
    (Word.mul bytes 1000).toNat = min (1000 * bytes.toNat) 18446744073709551615 := by
  rw [Word.toNat_mul, show (1000 : UInt64).toNat = 1000 from rfl, Nat.mul_comm]

private theorem toNat_capacity (fits : Fits rate) : (capacity rate).toNat = 1000 * rate.toNat := by
  rw [capacity, toNat_thousandths]
  have below := fits.below
  omega

theorem exact_full (fits : Fits rate) : (full rate now).exact = Tank.full rate.toNat now.toNat := by
  simp only [exact, full, Tank.full, toNat_capacity fits]

@[simp] theorem rate_refill (now : UInt64) (bucket : Bucket) :
    (bucket.refill now).rate = bucket.rate := rfl

@[simp] theorem since_refill (now : UInt64) (bucket : Bucket) :
    (bucket.refill now).since = now := rfl

/-- At every rate, what is cut off in a refill would not have stayed in the bucket. -/
theorem toNat_level_refill (now : UInt64) (bucket : Bucket) :
    (bucket.refill now).level.toNat =
      min (bucket.level.toNat + (now.toNat - bucket.since.toNat) * bucket.rate.toNat)
        (capacity bucket.rate).toNat := by
  have bound := (capacity bucket.rate).toNat_lt
  simp only [refill, toNat_min, Word.toNat_add, Word.toNat_mul, Word.toNat_sub]
  generalize (now.toNat - bucket.since.toNat) * bucket.rate.toNat = earned
  omega

private theorem exact_refill (fits : Fits bucket.rate) (now : UInt64) :
    (bucket.refill now).exact = bucket.exact.refill now.toNat := by
  have level := toNat_level_refill now bucket
  rw [toNat_capacity fits] at level
  exact congrArg (Tank.mk bucket.rate.toNat · now.toNat) level

/-- A bucket never holds more than one second's worth, nor more than a word. -/
theorem level_refill_le (now : UInt64) (bucket : Bucket) :
    (bucket.refill now).level.toNat ≤ 1000 * bucket.rate.toNat ∧
      (bucket.refill now).level.toNat ≤ 18446744073709551615 := by
  have held := toNat_level_refill now bucket
  rw [capacity, toNat_thousandths] at held
  omega

/-- A request that is cut off asks for more than a second's worth. -/
theorem wanted_le_level (fits : Fits bucket.rate) (now bytes : UInt64) :
    Word.mul bytes 1000 ≤ (bucket.refill now).level ↔
      1000 * bytes.toNat ≤ (bucket.refill now).level.toNat := by
  have bound := (level_refill_le now bucket).1
  have below := fits.below
  rw [UInt64.le_iff_toNat_le, toNat_thousandths]
  omega

/-- Every call is answered as a tank answers it, and leaves what it leaves there. -/
theorem exact_serve (fits : Fits bucket.rate) (now : UInt64) (call : Call) :
    (bucket.serve now call).1 = (bucket.exact.serve now call).1 ∧
      (bucket.serve now call).2.exact = (bucket.exact.serve now call).2 := by
  have refilled := exact_refill fits now
  have level : (bucket.refill now).level.toNat = (bucket.exact.refill now.toNat).level :=
    congrArg Tank.level refilled
  cases call with
  | available =>
    refine ⟨?_, refilled⟩
    simp only [serve, available, Tank.serve, UInt64.toNat_div, level]
    rfl
  | acquire bytes =>
    have wanted := wanted_le_level fits now bytes
    rw [level] at wanted
    simp only [serve, acquire, Tank.serve]
    by_cases enough : 1000 * bytes.toNat ≤ (bucket.exact.refill now.toNat).level
    · have word := wanted.2 enough
      have asked : (Word.mul bytes 1000).toNat = 1000 * bytes.toNat := by
        rw [toNat_thousandths]
        have bound := (level_refill_le now bucket).2
        omega
      simp only [word, enough, ↓reduceIte, true_and]
      rw [← refilled]
      simp only [exact, UInt64.toNat_sub_of_le _ _ word, asked]
    · have word : ¬ Word.mul bytes 1000 ≤ (bucket.refill now).level :=
        fun below => enough (wanted.1 below)
      simp only [word, enough, ↓reduceIte, true_and]
      exact refilled

theorem rate_serve (now : UInt64) (call : Call) : (bucket.serve now call).2.rate = bucket.rate := by
  cases call with
  | available => rfl
  | acquire bytes =>
    simp only [serve, acquire]
    split <;> rfl

/-- **A bucket is a tank**, call by call, whatever the clock reads and whoever calls. -/
theorem exact_journal (fits : Fits bucket.rate) (calls : List (UInt64 × Call)) :
    (journal serve calls bucket).map (.as exact) = journal Tank.serve calls bucket.exact := by
  induction calls generalizing bucket with
  | nil => rfl
  | cons entry rest ih =>
    obtain ⟨now, call⟩ := entry
    obtain ⟨answer, after⟩ := exact_serve fits now call
    have fitsStill : Fits (bucket.serve now call).2.rate := by
      rw [rate_serve]
      exact fits
    simp only [journal, List.map_cons, ih fitsStill, Entry.as, answer, after]

end Bucket

end EventLoop
