import EventLoop.Proofs.Bucket.Windows

/-! What a bucket says it holds, and what it gives. It answers both questions from one level, one by
dividing the level, the other by multiplying the request; the two agree as long as the request in
thousandths is a word. A request that is no such word is cut off at the largest one, and a bucket
that holds just as much takes it for granted: it gives more than it said it holds, and more than
one second's worth. Only a bucket whose second's worth is cut off as well can hold so much. -/
namespace EventLoop.Bucket

variable {rate now bytes : UInt64} {bucket : Bucket}

/-- A request that is no word in thousandths. -/
def Overlong (bytes : UInt64) : Prop := UInt64.size ≤ 1000 * bytes.toNat

instance (bytes : UInt64) : Decidable (Overlong bytes) := Nat.decLe _ _

/-! ## One level, two answers -/

theorem toNat_available (now : UInt64) (bucket : Bucket) :
    (bucket.available now).1.toNat = (bucket.refill now).level.toNat / 1000 :=
  UInt64.toNat_div _ _

private theorem acquire_granted : (bucket.acquire bytes now).1 = true ↔
    Word.mul bytes 1000 ≤ (bucket.refill now).level := by
  simp only [acquire]
  split <;> simp_all

/-- What is taken comes off the level. -/
theorem acquire_of_granted (granted : (bucket.acquire bytes now).1 = true) :
    (bucket.acquire bytes now).2 =
      { bucket.refill now with level := (bucket.refill now).level - Word.mul bytes 1000 } := by
  simp only [acquire, acquire_granted.1 granted, ↓reduceIte]

/-- **What is granted is held**, unless it is more than a word can say. -/
theorem granted_iff_held : (bucket.acquire bytes now).1 = true ↔
    bytes.toNat ≤ (bucket.available now).1.toNat ∨
      (Overlong bytes ∧ (bucket.refill now).level = Word.top) := by
  have bound := (level_refill_le now bucket).2
  have overlong : Overlong bytes ↔ 18446744073709551616 ≤ 1000 * bytes.toNat := .rfl
  have brimful : (bucket.refill now).level = Word.top ↔
      (bucket.refill now).level.toNat = 18446744073709551615 := UInt64.toNat_inj.symm
  rw [acquire_granted, UInt64.le_iff_toNat_le, toNat_thousandths, toNat_available, overlong,
    brimful]
  omega

/-- A bucket that is looked at again at the same reading holds what is left in it. -/
theorem available_again (since : bucket.since = now)
    (below : bucket.level.toNat ≤ (capacity bucket.rate).toNat) :
    (bucket.available now).1.toNat = bucket.level.toNat / 1000 := by
  rw [toNat_available, toNat_level_refill, since, Nat.sub_self, Nat.zero_mul, Nat.add_zero,
    Nat.min_eq_left below]

/-- **What is granted is gone**: it is missing from what the bucket says it holds. -/
theorem available_after_grant (granted : (bucket.acquire bytes now).1 = true) :
    ((bucket.acquire bytes now).2.available now).1.toNat =
      (bucket.available now).1.toNat - bytes.toNat := by
  have wanted := acquire_granted.1 granted
  have taken : (bucket.acquire bytes now).2.level.toNat =
      (bucket.refill now).level.toNat - (Word.mul bytes 1000).toNat := by
    rw [acquire_of_granted granted]
    exact UInt64.toNat_sub_of_le _ _ wanted
  have below : (bucket.acquire bytes now).2.level.toNat ≤
      (capacity (bucket.acquire bytes now).2.rate).toNat := by
    have held := toNat_level_refill now bucket
    have rate : (bucket.acquire bytes now).2.rate = bucket.rate := by
      rw [acquire_of_granted granted]
      rfl
    rw [taken, rate]
    omega
  have since : (bucket.acquire bytes now).2.since = now := by
    rw [acquire_of_granted granted]
    rfl
  have bound := (level_refill_le now bucket).2
  rw [UInt64.le_iff_toNat_le] at wanted
  rw [available_again since below, taken, toNat_available]
  rw [toNat_thousandths] at wanted ⊢
  omega

/-- Where one second's worth is a word, no level reaches the largest one. -/
theorem not_brimful (fits : Fits bucket.rate) (now : UInt64) :
    (bucket.refill now).level ≠ Word.top := by
  intro brimful
  have bound := (level_refill_le now bucket).1
  rw [brimful, show Word.top.toNat = 18446744073709551615 from rfl] at bound
  have below := fits.below
  omega

/-- What is granted is one second's worth at the most, unless both are more than a word can
say. -/
theorem granted_le_rate (granted : (bucket.acquire bytes now).1 = true) :
    bytes.toNat ≤ bucket.rate.toNat ∨ (¬ Fits bucket.rate ∧ Overlong bytes) := by
  rcases granted_iff_held.1 granted with held | ⟨overlong, brimful⟩
  · left
    have bound := (level_refill_le now bucket).1
    rw [toNat_available] at held
    omega
  · exact .inr ⟨fun fits => not_brimful fits now brimful, overlong⟩

/-! ## Whole histories -/

/-- The bucket that calls leave behind, made one after the other. -/
def left (calls : List (UInt64 × Call)) (bucket : Bucket) : Bucket :=
  calls.foldl (fun bucket entry => (bucket.serve entry.1 entry.2).2) bucket

private theorem rate_left (calls : List (UInt64 × Call)) (bucket : Bucket) :
    (left calls bucket).rate = bucket.rate := by
  induction calls generalizing bucket with
  | nil => rfl
  | cons entry rest ih => exact (ih _).trans (rate_serve entry.1 entry.2)

/-- A call takes what one second brings at the most, unless both are more than a word can say. -/
theorem bytes_le_rate (calls : List (UInt64 × Call)) (bucket : Bucket) :
    ∀ entry ∈ journal serve calls bucket,
      entry.bytes ≤ bucket.rate.toNat ∨
        (¬ Fits bucket.rate ∧ UInt64.size ≤ 1000 * entry.bytes) := by
  induction calls generalizing bucket with
  | nil => exact List.forall_mem_nil _
  | cons entry rest ih =>
    obtain ⟨now, call⟩ := entry
    refine List.forall_mem_cons.2 ⟨?_, ?_⟩
    · cases call with
      | available => exact .inl (Nat.zero_le _)
      | acquire bytes =>
        cases granted : (bucket.acquire bytes now).1 with
        | false => exact .inl (by simp [Entry.bytes, serve, granted])
        | true => simpa [Entry.bytes, serve, granted, Overlong] using granted_le_rate granted
    · have later := ih (bucket.serve now call).2
      rwa [rate_serve] at later

/-- **A bucket gives what it says it holds**, at every rate, after every history and whatever the
clock reads. Bytes are granted if there are as many, and are missing afterwards; a request that is
no word in thousandths is granted besides if the level is the largest word, and empties the bucket.
That cannot be where one second's worth is a word: there a grant is always of what is held, and no
call has ever taken more than one second's worth. -/
theorem bucket_gives_what_it_holds (rate start : UInt64) (calls : List (UInt64 × Call)) :
    (∀ now bytes,
      let bucket := left calls (full rate start)
      let held := (bucket.available now).1.toNat
      let (granted, after) := bucket.acquire bytes now
      (granted = true ↔
        bytes.toNat ≤ held ∨ (Overlong bytes ∧ (bucket.refill now).level = Word.top)) ∧
      (granted = true → (after.available now).1.toNat = held - bytes.toNat) ∧
      (Fits rate ∨ ¬ Overlong bytes → (granted = true ↔ bytes.toNat ≤ held))) ∧
    (∀ entry ∈ journal serve calls (full rate start),
      entry.bytes ≤ rate.toNat ∨ (¬ Fits rate ∧ UInt64.size ≤ 1000 * entry.bytes)) := by
  refine ⟨fun now bytes => ?_, bytes_le_rate calls (full rate start)⟩
  intro bucket held
  refine ⟨granted_iff_held, available_after_grant, fun agree => granted_iff_held.trans ?_⟩
  refine or_iff_left ?_
  rintro ⟨overlong, brimful⟩
  have same : bucket.rate = rate := rate_left calls (full rate start)
  rcases agree with fits | short
  · exact not_brimful (same ▸ fits) now brimful
  · exact short overlong

/-- At the lowest rate whose second's worth is no word, a bucket says that it holds less than it
was made for, and grants one byte more than that at once. -/
theorem brimful_bucket_gives_too_much :
    let rate : UInt64 := 18446744073709552
    let bucket := full rate 0
    (bucket.acquire (rate + 1) 0).1 = true ∧
      (bucket.available 0).1 = rate - 1 ∧ ¬ rate + 1 ≤ (bucket.available 0).1 ∧
      ((bucket.acquire (rate + 1) 0).2.available 0).1 = 0 := by
  decide

end EventLoop.Bucket
