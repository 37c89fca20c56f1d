import EventLoop.Proofs.Bucket.Tank

/-! How much a bucket gives away in a stretch of time: no more than one second's worth and what
comes in during the stretch, wherever it begins. Before the stretch has begun a bucket may fill up
to the top; once it has begun, what it holds and what is still to come in bound what it can still
give away. That is `Tank.room`, and each call takes at least as much off it as it gives away. -/
namespace EventLoop

namespace Bucket

variable {A B : Type}

/-- How many bytes a call took. -/
def Entry.bytes (entry : Entry B) : Nat :=
  match entry.call, entry.answer with
  | .acquire bytes, .decided true => bytes.toNat
  | _, _ => 0

/-- Whether a call came in the stretch between two readings of the clock, these included. -/
def Entry.isWithin (early late : Nat) (entry : Entry B) : Bool :=
  early ≤ entry.reading.toNat && entry.reading.toNat ≤ late

/-- How many bytes were taken in the stretch between two readings of the clock. -/
def granted (early late : Nat) (entries : List (Entry B)) : Nat :=
  ((entries.filter (Entry.isWithin early late)).map Entry.bytes).foldr (· + ·) 0

theorem granted_cons (early late : Nat) (entry : Entry B) (rest : List (Entry B)) :
    granted early late (entry :: rest) =
      (if entry.isWithin early late then entry.bytes else 0) + granted early late rest := by
  unfold granted
  rw [List.filter_cons]
  split
  · rw [List.map_cons, List.foldr_cons]
  · rw [Nat.zero_add]

/-- What is said of what calls left behind does not matter to what they took. -/
theorem granted_as (view : A → B) (early late : Nat) (entries : List (Entry A)) :
    granted early late (entries.map (.as view)) = granted early late entries := by
  induction entries with
  | nil => rfl
  | cons entry rest ih =>
    rw [List.map_cons, granted_cons, granted_cons, ih]
    rfl

end Bucket

namespace Tank

variable {tank : Tank} {now : UInt64}

/-- What a call takes was in the tank after the refill and is not in it any more. -/
theorem serve_spends (tank : Tank) (now : UInt64) (call : Bucket.Call) :
    (tank.serve now call).2.rate = tank.rate ∧ (tank.serve now call).2.since = now.toNat ∧
      1000 * (Bucket.Entry.mk now call (tank.serve now call).1 (tank.serve now call).2).bytes +
        (tank.serve now call).2.level = (tank.refill now.toNat).level := by
  cases call with
  | available => exact ⟨rfl, rfl, Nat.zero_add _⟩
  | acquire bytes =>
    simp only [serve]
    split
    · next enough => exact ⟨rfl, rfl, Nat.add_sub_of_le enough⟩
    · exact ⟨rfl, rfl, Nat.zero_add _⟩

/-- What a tank can still give away in a stretch of time, in thousandths of a byte. -/
def room (early late : Nat) (tank : Tank) : Nat :=
  if tank.since < early then 1000 * tank.rate + tank.rate * (late - early)
  else if tank.since ≤ late then tank.level + tank.rate * (late - tank.since)
  else 0

/-- What comes in up to a reading and what comes in from then on come in over the whole time. -/
theorem rate_split (rate : Nat) {first middle last : Nat} (begins : first ≤ middle)
    (ends : middle ≤ last) :
    (middle - first) * rate + rate * (last - middle) = rate * (last - first) := by
  rw [Nat.mul_comm, ← Nat.mul_add]
  congr 1
  omega

/-- **Whatever a call takes in a stretch of time comes off the room for it.** -/
theorem serve_room (early late : Nat) (onwards : tank.since ≤ now.toNat) (call : Bucket.Call) :
    let entry := Bucket.Entry.mk now call (tank.serve now call).1 (tank.serve now call).2
    1000 * (if entry.isWithin early late then entry.bytes else 0) + entry.after.room early late ≤
      tank.room early late := by
  intro entry
  obtain ⟨rate, since, spends⟩ := tank.serve_spends now call
  have refilled : (tank.refill now.toNat).level =
      min (tank.level + (now.toNat - tank.since) * tank.rate) (1000 * tank.rate) := rfl
  have inside : entry.isWithin early late = true ↔ early ≤ now.toNat ∧ now.toNat ≤ late := by
    simp [Bucket.Entry.isWithin, entry]
  rw [refilled] at spends
  simp only [room, inside, entry, rate, since] at spends ⊢
  generalize (Bucket.Entry.mk now call (tank.serve now call).1 (tank.serve now call).2).bytes =
    taken at spends ⊢
  generalize (tank.serve now call).2.level = left at spends ⊢
  -- Whether the stretch has begun, and whether it is over, for the last look and for this one.
  by_cases before : now.toNat < early
  · have earlier : tank.since < early := Nat.lt_of_le_of_lt onwards before
    simp only [before, earlier, ↓reduceIte, show ¬ early ≤ now.toNat by omega, false_and]
    omega
  · by_cases after : now.toNat ≤ late
    · simp only [before, after, show early ≤ now.toNat by omega, and_self, ↓reduceIte]
      by_cases earlier : tank.since < early
      · have came := rate_split tank.rate (Nat.le_of_not_lt before) after
        simp only [earlier, ↓reduceIte]
        omega
      · have came := rate_split tank.rate onwards after
        simp only [earlier, ↓reduceIte, show tank.since ≤ late by omega]
        omega
    · simp only [before, after, and_false, ↓reduceIte]
      omega

/-- So it is for calls one after the other, if the clock does not go back. -/
theorem granted_le_room (early late : Nat) (calls : List (UInt64 × Bucket.Call))
    (onwards : ∀ entry ∈ calls, tank.since ≤ entry.1.toNat)
    (sorted : (calls.map Prod.fst).Pairwise (· ≤ ·)) :
    1000 * Bucket.granted early late (Bucket.journal serve calls tank) ≤ tank.room early late := by
  induction calls generalizing tank with
  | nil => exact Nat.zero_le _
  | cons entry rest ih =>
    obtain ⟨now, call⟩ := entry
    obtain ⟨first, later⟩ := List.pairwise_cons.1 sorted
    have taken := serve_room early late (onwards _ List.mem_cons_self) call
    have onwardsStill : ∀ entry ∈ rest, (tank.serve now call).2.since ≤ entry.1.toNat := by
      intro entry inside
      rw [(tank.serve_spends now call).2.1, ← UInt64.le_iff_toNat_le]
      exact first _ (List.mem_map_of_mem inside)
    have others := ih onwardsStill later
    rw [Bucket.journal, Bucket.granted_cons, Nat.mul_add]
    simp only at taken
    omega

end Tank

namespace Bucket

/-- **A bucket is exact and bounds every stretch of time.** Call by call, a full bucket of words
answers and holds what a full tank of exact numbers answers and holds, whatever is asked for and
however long nobody looks; and in the stretch between any two readings of the clock no more bytes
are taken than one second's worth and what comes in between the two. -/
theorem bucket_is_exact_and_bounds_windows (rate start : UInt64) (fits : Fits rate)
    (calls : List (UInt64 × Call)) (onwards : (start :: calls.map Prod.fst).Pairwise (· ≤ ·)) :
    (full rate start).exact = Tank.full rate.toNat start.toNat ∧
      (journal serve calls (full rate start)).map (.as exact) =
        journal Tank.serve calls (Tank.full rate.toNat start.toNat) ∧
      ∀ early late,
        1000 * granted early late (journal serve calls (full rate start)) ≤
          1000 * rate.toNat + rate.toNat * (late - early) := by
  have filled : (full rate start).exact = Tank.full rate.toNat start.toNat := exact_full fits
  have agree : (journal serve calls (full rate start)).map (.as exact) =
      journal Tank.serve calls (Tank.full rate.toNat start.toNat) :=
    filled ▸ exact_journal fits calls
  refine ⟨filled, agree, fun early late => ?_⟩
  obtain ⟨first, sorted⟩ := List.pairwise_cons.1 onwards
  have begun : ∀ entry ∈ calls, (Tank.full rate.toNat start.toNat).since ≤ entry.1.toNat :=
    fun entry inside => UInt64.le_iff_toNat_le.1 (first _ (List.mem_map_of_mem inside))
  have atMost : (Tank.full rate.toNat start.toNat).room early late ≤
      1000 * rate.toNat + rate.toNat * (late - early) := by
    unfold Tank.room Tank.full
    split
    · exact Nat.le_refl _
    · split
      · refine Nat.add_le_add_left (Nat.mul_le_mul_left _ ?_) _
        omega
      · exact Nat.zero_le _
  calc 1000 * granted early late (journal serve calls (full rate start))
      _ = 1000 * granted early late
            (journal Tank.serve calls (Tank.full rate.toNat start.toNat)) := by
        rw [← agree, granted_as]
      _ ≤ (Tank.full rate.toNat start.toNat).room early late :=
        Tank.granted_le_room early late calls begun sorted
      _ ≤ 1000 * rate.toNat + rate.toNat * (late - early) := atMost

/-- At the highest rate that fits, requests and gaps that no word can hold in thousandths are
answered right: after everything was taken, the longest possible gap fills the bucket to the top
and no further, and a request for all that a word can name is denied. -/
theorem longest_gap_fills_to_the_top :
    let rate : UInt64 := 18446744073709551
    let calls : List (UInt64 × Call) :=
      [(5, .acquire rate), (5, .acquire 18446744073709551615),
        (18446744073709551615, .available), (18446744073709551615, .acquire rate)]
    Fits rate ∧ ((5 :: calls.map Prod.fst).Pairwise (· ≤ ·)) ∧
      (journal serve calls (full rate 5)).map Entry.answer =
        [.decided true, .decided false, .holds 18446744073709551, .decided true] ∧
      1000 * granted 5 18446744073709551614 (journal serve calls (full rate 5)) ≤
        1000 * rate.toNat + rate.toNat * (18446744073709551614 - 5) := by
  intro rate calls
  have fits : Fits rate := by decide
  have onwards : (5 :: calls.map Prod.fst).Pairwise (· ≤ ·) := by decide
  refine ⟨fits, onwards, by decide, ?_⟩
  exact (bucket_is_exact_and_bounds_windows rate 5 fits calls onwards).2.2 _ _

end Bucket

end EventLoop
