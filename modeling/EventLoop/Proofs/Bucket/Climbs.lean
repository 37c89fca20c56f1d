import EventLoop.Proofs.Bucket.Stock

/-! A clock that goes back. A bucket counts from whatever the clock read last, so a step back brings
nothing in, and what the clock then goes through a second time comes in a second time. What a bucket
can have given is therefore bound by how far the clock has climbed, its steps forward added up, and
not by the highest reading. The two are the same as long as the clock has not gone back. -/
namespace EventLoop

/-! ## Ups and downs -/

namespace Clock

/-- How far a clock climbs over its readings after `last`: its steps forward, added up. -/
def climb : Nat → List Nat → Nat
  | _, [] => 0
  | last, now :: rest => (now - last) + climb now rest

/-- How far a clock slides over its readings after `last`: its steps back, added up. -/
def slide : Nat → List Nat → Nat
  | _, [] => 0
  | last, now :: rest => (last - now) + slide now rest

/-- The highest reading of all that began with `start`. -/
def highest (start : Nat) (readings : List Nat) : Nat := readings.foldl max start

/-- A clock has climbed to where it stands, and what it slid down on the way. -/
theorem add_climb (start : Nat) (readings : List Nat) :
    start + climb start readings = readings.getLastD start + slide start readings := by
  induction readings generalizing start with
  | nil => rfl
  | cons now rest ih =>
    have onwards := ih now
    rw [List.getLastD_cons, climb, slide]
    omega

private theorem getLastD_le_highest {start top : Nat} (below : start ≤ top) (readings : List Nat) :
    readings.getLastD start ≤ highest top readings := by
  induction readings generalizing start top with
  | nil => exact below
  | cons now rest ih =>
    rw [List.getLastD_cons]
    exact ih (Nat.le_max_right top now)

/-- **A clock climbs no further than to its highest reading** and what it slides down. -/
theorem climb_le (start : Nat) (readings : List Nat) :
    climb start readings ≤ (highest start readings - start) + slide start readings := by
  have stands := add_climb start readings
  have below := getLastD_le_highest (Nat.le_refl start) readings
  omega

/-- A clock that never goes back does not slide. -/
theorem slide_of_onwards {start : Nat} {readings : List Nat}
    (onwards : (start :: readings).Pairwise (· ≤ ·)) : slide start readings = 0 := by
  induction readings generalizing start with
  | nil => rfl
  | cons now rest ih =>
    obtain ⟨first, later⟩ := List.pairwise_cons.1 onwards
    rw [slide, ih later, Nat.sub_eq_zero_of_le (first now List.mem_cons_self)]

end Clock

/-! ## What comes in -/

namespace Bucket

variable {B : Type}

/-- How many bytes were taken in all, whenever it was. -/
def grantedInAll (entries : List (Entry B)) : Nat := granted 0 Word.top.toNat entries

private theorem grantedInAll_cons (entry : Entry B) (rest : List (Entry B)) :
    grantedInAll (entry :: rest) = entry.bytes + grantedInAll rest := by
  have inside : entry.isWithin 0 Word.top.toNat = true := by
    have bound := entry.reading.toNat_lt
    simp only [Entry.isWithin, Bool.and_eq_true, decide_eq_true_eq]
    exact ⟨Nat.zero_le _, Nat.le_of_lt_succ bound⟩
  rw [grantedInAll, granted_cons, if_pos inside]
  rfl

/-- When the clock goes back nothing comes in. -/
theorem refill_back {now : UInt64} {bucket : Bucket} (back : now ≤ bucket.since) :
    (bucket.refill now).level ≤ bucket.level := by
  rw [UInt64.le_iff_toNat_le] at back ⊢
  rw [toNat_level_refill, Nat.sub_eq_zero_of_le back, Nat.zero_mul, Nat.add_zero]
  exact Nat.min_le_left _ _

end Bucket

namespace Tank

/-- **What was taken came in while the clock climbed**, or was there from the beginning. -/
theorem granted_le_climb (tank : Tank) (calls : List (UInt64 × Bucket.Call)) :
    1000 * Bucket.grantedInAll (Bucket.journal serve calls tank) ≤
      tank.level + tank.rate * Clock.climb tank.since (calls.map fun entry => entry.1.toNat) := by
  induction calls generalizing tank with
  | nil => exact Nat.zero_le _
  | cons entry rest ih =>
    obtain ⟨now, call⟩ := entry
    obtain ⟨rate, since, spends⟩ := tank.serve_spends now call
    have later := ih (tank.serve now call).2
    have refilled : (tank.refill now.toNat).level ≤
        tank.level + tank.rate * (now.toNat - tank.since) := by
      rw [Nat.mul_comm]
      exact Nat.min_le_left _ _
    have climbs : Clock.climb tank.since (((now, call) :: rest).map fun entry => entry.1.toNat) =
        (now.toNat - tank.since) +
          Clock.climb now.toNat (rest.map fun entry => entry.1.toNat) := rfl
    rw [rate, since] at later
    rw [climbs, Bucket.journal, Bucket.grantedInAll_cons, Nat.mul_add, Nat.mul_add]
    omega

end Tank

namespace Bucket

/-- **What a bucket gives keeps to the climb of its clock.** Whatever the clock reads from call to
call, what was taken so far is no more than one second's worth and what came in while the clock
climbed. It climbs no further than to its highest reading and what it slides down on the way, which
is nothing if it never goes back; and a look at a reading no higher than the last one finds no more
than was left. -/
theorem grants_keep_to_the_climb (rate start : UInt64) (fits : Fits rate)
    (calls : List (UInt64 × Call)) :
    let readings := calls.map fun entry => entry.1.toNat
    1000 * grantedInAll (journal serve calls (full rate start)) ≤
        1000 * rate.toNat + rate.toNat * Clock.climb start.toNat readings ∧
      Clock.climb start.toNat readings ≤
        (Clock.highest start.toNat readings - start.toNat) +
          Clock.slide start.toNat readings ∧
      ((start.toNat :: readings).Pairwise (· ≤ ·) → Clock.slide start.toNat readings = 0) ∧
      ∀ now, now ≤ (left calls (full rate start)).since →
        ((left calls (full rate start)).refill now).level ≤
          (left calls (full rate start)).level := by
  intro readings
  refine ⟨?_, Clock.climb_le _ _, Clock.slide_of_onwards, fun now => refill_back⟩
  have agree : (journal serve calls (full rate start)).map (.as exact) =
      journal Tank.serve calls (Tank.full rate.toNat start.toNat) :=
    exact_full fits ▸ exact_journal fits calls
  calc 1000 * grantedInAll (journal serve calls (full rate start))
      _ = 1000 * grantedInAll (journal Tank.serve calls (Tank.full rate.toNat start.toNat)) := by
        rw [← agree, grantedInAll, grantedInAll, granted_as]
      _ ≤ 1000 * rate.toNat + rate.toNat * Clock.climb start.toNat readings :=
        Tank.granted_le_climb (Tank.full rate.toNat start.toNat) calls

/-- A second that the clock goes through again is worth a second byte. It is all that came in, so
the bound is reached. -/
theorem second_gone_through_again_brings_a_byte :
    let calls : List (UInt64 × Call) := [(1000, .acquire 1), (0, .available), (1000, .acquire 1)]
    Fits 1 ∧ grantedInAll (journal serve calls (full 1 1000)) = 2 ∧
      1000 * grantedInAll (journal serve calls (full 1 1000)) ≤
        1000 * (1 : UInt64).toNat +
          (1 : UInt64).toNat * Clock.climb 1000 (calls.map fun entry => entry.1.toNat) := by
  intro calls
  have fits : Fits 1 := by decide
  exact ⟨fits, by decide, (grants_keep_to_the_climb 1 1000 fits calls).1⟩

/-- The highest reading of the clock does not bound what was taken: at one byte a second, a clock
that steps back a second and then reads again what it read at the start has brought in a second
byte. -/
theorem highest_reading_is_no_bound :
    let calls : List (UInt64 × Call) := [(1000, .acquire 1), (0, .available), (1000, .acquire 1)]
    Fits 1 ∧
      (journal serve calls (full 1 1000)).map Entry.answer =
        [.decided true, .holds 0, .decided true] ∧
      1000 * (1 : UInt64).toNat + (1 : UInt64).toNat *
          (Clock.highest 1000 (calls.map fun entry => entry.1.toNat) - 1000) <
        1000 * grantedInAll (journal serve calls (full 1 1000)) := by
  decide

end Bucket

end EventLoop
