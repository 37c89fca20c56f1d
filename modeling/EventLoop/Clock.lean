/-!
A clock that never goes back. How much time passes before each of its next readings is part of it,
so that a run which reads the clock often can be followed reading by reading.
-/
namespace EventLoop

/-- A clock as `Instant::now` and `MonotonicClock` are read, in milliseconds. `ticks` are what
passes before each of the next readings; when they are used up it stands still. -/
structure Clock where
  now : Nat := 0
  ticks : List Nat := []
deriving DecidableEq, Repr, Inhabited

namespace Clock

/-- `Clock::now_millis`: reads the clock. -/
def read (clock : Clock) : Nat × Clock :=
  match clock.ticks with
  | [] => (clock.now, clock)
  | tick :: rest => (clock.now + tick, ⟨clock.now + tick, rest⟩)

/-- Lets time pass. -/
def advance (time : Nat) (clock : Clock) : Clock := { clock with now := clock.now + time }

/-- No reading lies before the last one. -/
theorem now_le_read (clock : Clock) : clock.now ≤ clock.read.1 := by
  unfold read
  split
  · exact Nat.le_refl _
  · exact Nat.le_add_right _ _

/-- A reading is where the clock stands after it. -/
theorem now_read (clock : Clock) : clock.read.2.now = clock.read.1 := by
  unfold read
  split <;> rfl

end Clock

end EventLoop
