import EventLoop.Proofs.Bucket.Stock
import EventLoop.Proofs.Server.Holdings

/-! Whether what is read has been paid for. A round of reading asks the buckets first, reads no more
than they say they hold, and takes that many bytes from them afterwards; clocks go on in between.
Nobody else takes from the buckets meanwhile, and time only adds to them, so what was found is
still there. Reading is throttled by the buckets alone, as a borrowed buffer always has room. The
two buckets may have clocks of their own, which then read what they like. -/
namespace EventLoop

variable {M D : Type}

/-! ## Asking first and paying afterwards -/

namespace Bucket

variable {early now : UInt64} {bucket start : Bucket} {bytes more : Nat}

/-- What fits under a word is a word. -/
theorem toNat_clamp_of_le {word : UInt64} (fits : bytes ≤ word.toNat) :
    (Word.clamp bytes).toNat = bytes := by
  have bound := word.toNat_lt
  rw [Word.toNat_clamp]
  omega

/-- A bucket that was asked how much it holds gives as much, whatever the clock reads by then. -/
theorem gives_what_was_found (found : bytes ≤ (bucket.available early).1.toNat) :
    ((bucket.available early).2.acquire (Word.clamp bytes) now).1 = true := by
  have stands := toNat_level_refill early bucket
  have later := toNat_level_refill now (bucket.refill early)
  have more : (bucket.refill early).level.toNat ≤
      ((bucket.refill early).refill now).level.toNat := by
    rw [rate_refill] at later
    omega
  refine granted_iff_held.2 (.inl ?_)
  rw [toNat_clamp_of_le found]
  rw [toNat_available] at found ⊢
  exact Nat.le_trans found (Nat.div_le_div_right more)

/-- A bucket that was asked for `bytes` bytes in all since `start` and has given all of them. It may
have been looked into besides. -/
inductive Billed (start : Bucket) : Nat → Bucket → Prop where
  | start : Billed start 0 start
  | look {bytes : Nat} {bucket : Bucket} (billed : Billed start bytes bucket) (now : UInt64) :
      Billed start bytes (bucket.available now).2
  | pay {bytes : Nat} {bucket : Bucket} (billed : Billed start bytes bucket) {more now : UInt64}
      (granted : (bucket.acquire more now).1 = true) :
      Billed start (bytes + more.toNat) (bucket.acquire more now).2

/-- Looking and then paying for no more than was found. -/
theorem Billed.settle (billed : Billed start bytes bucket) (early now : UInt64)
    (found : more ≤ (bucket.available early).1.toNat) :
    Billed start (bytes + more)
      ((bucket.available early).2.acquire (Word.clamp more) now).2 := by
  have granted : ((bucket.available early).2.acquire (Word.clamp more) now).1 = true :=
    gives_what_was_found found
  have paid := (billed.look early).pay granted
  rwa [toNat_clamp_of_le found] at paid

/-! ## Buckets that need not be there -/

/-- The same of a bucket that need not be there. -/
def Settled (start : Option Bucket) (bytes : Nat) (bucket : Option Bucket) : Prop :=
  Option.Rel (Billed · bytes ·) start bucket

section Optional

variable {first bucket : Option Bucket}

/-- A clock that stands is read to look into a bucket. -/
theorem allowance_standing (wanted hour : Nat) (bucket : Option Bucket) :
    (allowance wanted { now := hour } bucket).2.1 =
      bucket.map fun bucket => (bucket.available (Word.clamp hour)).2 := by
  cases bucket <;> rfl

private theorem charge_standing (bytes hour : Nat) (bucket : Option Bucket) :
    (charge bytes { now := hour } bucket).1 =
      bucket.map fun bucket => (bucket.acquire (Word.clamp bytes) (Word.clamp hour)).2 := by
  cases bucket <;> rfl

/-- No more is allowed than the bucket holds. -/
theorem allowance_le (wanted hour : Nat) (bucket : Option Bucket) :
    ∀ there ∈ bucket, (allowance wanted { now := hour } bucket).1 ≤
      (there.available (Word.clamp hour)).1.toNat := by
  rintro there ⟨⟩
  exact Nat.min_le_left _ _

/-- Nothing of something is allowed only by a bucket that has nothing. -/
theorem allowance_eq_zero {wanted : Nat} (some : 0 < wanted) (hour : Nat)
    (bucket : Option Bucket) :
    (allowance wanted { now := hour } bucket).1 = 0 ↔
      ∃ there ∈ bucket, (there.available (Word.clamp hour)).1 = 0 := by
  cases bucket with
  | none =>
    refine iff_of_false (Nat.ne_of_gt some) ?_
    rintro ⟨there, inside, _⟩
    cases inside
  | some bucket =>
    have held : (allowance wanted { now := hour } (.some bucket)).1 =
        min (bucket.available (Word.clamp hour)).1.toNat wanted := rfl
    have zero : (bucket.available (Word.clamp hour)).1 = 0 ↔
        (bucket.available (Word.clamp hour)).1.toNat = 0 := UInt64.toNat_inj.symm
    simp only [Option.mem_def, Option.some.injEq, exists_eq_left', held, zero]
    omega

private theorem Settled.refl (bucket : Option Bucket) : Settled bucket 0 bucket := by
  cases bucket with
  | none => exact .none
  | some bucket => exact .some .start

private theorem Settled.looked (settled : Settled first bytes bucket) (now : UInt64) :
    Settled first bytes (bucket.map fun bucket => (bucket.available now).2) := by
  cases settled with
  | none => exact .none
  | some billed => exact .some (billed.look now)

private theorem Settled.settle (settled : Settled first bytes bucket) (early now : UInt64)
    (found : ∀ there ∈ bucket, more ≤ (there.available early).1.toNat) :
    Settled first (bytes + more)
      ((bucket.map fun bucket => (bucket.available early).2).map fun bucket =>
        (bucket.acquire (Word.clamp more) now).2) := by
  cases settled with
  | none => exact .none
  | some billed => exact .some (billed.settle early now (found _ rfl))

end Optional

end Bucket

/-! ## Rounds by two clocks -/

/-- What the clocks of the two buckets read in one round, at the look into each and at the
payment. -/
structure Hours where
  lookOwn : Nat
  lookShared : Nat
  payOwn : Nat
  payShared : Nat

namespace Reading

/-- `Connection::read_budget`, by the clocks of the buckets: how much may be read at once. -/
def lookAt (hours : Hours) (reading : Reading M D) : Nat × Reading M D :=
  let wanted := reading.scratch.length
  let (own, bucket, _) := Bucket.allowance wanted { now := hours.lookOwn } reading.connection.bucket
  let (common, shared, _) := Bucket.allowance wanted { now := hours.lookShared } reading.shared
  (min (min wanted own) common,
    { reading with connection := { reading.connection with bucket }, shared })

/-- `Connection::charge`, by the clocks of the buckets: pays for bytes that have been read. -/
def payAt (hours : Hours) (bytes : Nat) (reading : Reading M D) : Reading M D :=
  let (bucket, _) := Bucket.charge bytes { now := hours.payOwn } reading.connection.bucket
  let (shared, _) := Bucket.charge bytes { now := hours.payShared } reading.shared
  { reading with connection := { reading.connection with bucket }, shared }

/-- One round that looks and pays as it is told. -/
def roundBy [Message M] (look : Reading M D → Nat × Reading M D)
    (pay : Nat → Reading M D → Reading M D) (sink : Sink M (Sessions × D))
    (incoming : List Arrival) (reading : Reading M D) : Option Pause × List Arrival × Reading M D :=
  let (budget, reading) := look reading
  if budget = 0 then (some .throttled, incoming, reading)
  else
    match incoming with
    | [] => (some .drained, [], reading)
    | .interrupted :: rest => (none, rest, reading)
    | .failed :: rest => (some .ended, rest, reading)
    | .bytes [] :: rest => (some .ended, .bytes [] :: rest, reading)
    | .bytes (byte :: bytes) :: rest =>
      let taken := (byte :: bytes).take budget
      let left := leave (byte :: bytes) budget rest
      match ((pay taken.length reading).receive taken).decode sink with
      | (false, reading) => (some .ended, left, reading)
      | (true, reading) => (none, left, reading)

/-- One round by the clocks of the buckets. -/
def roundAt [Message M] (hours : Hours) (sink : Sink M (Sessions × D)) (incoming : List Arrival)
    (reading : Reading M D) : Option Pause × List Arrival × Reading M D :=
  reading.roundBy (lookAt hours) (payAt hours) sink incoming

/-- What the one clock of a reading will read for each of the buckets. -/
def hours (reading : Reading M D) : Hours :=
  let wanted := reading.scratch.length
  let (_, bucket, second) := Bucket.allowance wanted reading.clock reading.connection.bucket
  let (_, _, third) := Bucket.allowance wanted second reading.shared
  let (_, fourth) := Bucket.charge 0 third bucket
  { lookOwn := reading.clock.read.1, lookShared := second.read.1
    payOwn := third.read.1, payShared := fourth.read.1 }

/-- A bucket is configured in which there is no whole byte at the look. -/
def IsDry (hours : Hours) (reading : Reading M D) : Prop :=
  (∃ bucket ∈ reading.connection.bucket, (bucket.available (Word.clamp hours.lookOwn)).1 = 0) ∨
    ∃ bucket ∈ reading.shared, (bucket.available (Word.clamp hours.lookShared)).1 = 0

variable {hours : Hours} {reading : Reading M D}

/-- What may be read by one clock is what may be read by its readings for each bucket. -/
theorem budget_eq_lookAt (reading : Reading M D) :
    reading.budget.1 = (reading.lookAt reading.hours).1 := by
  unfold budget lookAt hours
  cases reading.connection.bucket <;> cases reading.shared <;> rfl

private theorem budget_leaves_lookAt (reading : Reading M D) :
    reading.budget.2 =
      { (reading.lookAt reading.hours).2 with clock := reading.budget.2.clock } := by
  unfold budget lookAt hours
  cases reading.connection.bucket <;> cases reading.shared <;> rfl

private theorem pay_eq_payAt (reading : Reading M D) (bytes : Nat) :
    ∃ clock, reading.budget.2.pay bytes =
      { (reading.lookAt reading.hours).2.payAt reading.hours bytes with clock } := by
  refine ⟨(reading.budget.2.pay bytes).clock, ?_⟩
  unfold budget pay lookAt payAt hours
  cases reading.connection.bucket <;> cases reading.shared <;> rfl

section Rounds

variable [Message M] (sink : Sink M (Sessions × D)) (incoming : List Arrival)

/-- Where both buckets go by the one clock of the reading, it is the same round. -/
theorem round_eq_roundAt (reading : Reading M D) : ∃ clock,
    reading.round sink incoming =
      ((reading.roundAt reading.hours sink incoming).1,
        (reading.roundAt reading.hours sink incoming).2.1,
        { (reading.roundAt reading.hours sink incoming).2.2 with clock }) := by
  have looked := budget_leaves_lookAt reading
  unfold roundAt roundBy round
  simp only [budget_eq_lookAt reading]
  by_cases nothing : (reading.lookAt reading.hours).1 = 0
  · simp only [nothing, ↓reduceIte]
    exact ⟨_, by rw [looked]⟩
  · simp only [nothing, ↓reduceIte]
    rcases incoming with _ | ⟨chunk | _ | _, rest⟩
    · exact ⟨_, by rw [looked]⟩
    · rcases chunk with _ | ⟨byte, bytes⟩
      · exact ⟨_, by rw [looked]⟩
      · simp only
        generalize (byte :: bytes).take (reading.lookAt reading.hours).1 = taken
        obtain ⟨clock, paid⟩ := pay_eq_payAt reading taken.length
        refine ⟨clock, ?_⟩
        generalize (reading.lookAt reading.hours).2.payAt reading.hours taken.length = payment
          at paid ⊢
        have same : ((reading.budget.2.pay taken.length).receive taken).decode sink =
            (((payment.receive taken).decode sink).1,
              { ((payment.receive taken).decode sink).2 with clock }) := by
          rw [paid]
          rfl
        rw [same]
        generalize decode sink _ = decoded
        obtain ⟨goesOn, next⟩ := decoded
        cases goesOn <;> rfl
    · exact ⟨_, by rw [looked]⟩
    · exact ⟨_, by rw [looked]⟩

/-- What a round comes to: nothing is found in the buckets, nothing is read, or bytes are read, no
more than were found, and paid for. -/
inductive Outcome (hours : Hours) (incoming : List Arrival) (reading : Reading M D) :
    Option Pause → List Arrival → Reading M D → List UInt8 → Prop where
  | nothing (empty : (reading.lookAt hours).1 = 0) :
      Outcome hours incoming reading (some .throttled) incoming (reading.lookAt hours).2 []
  | idle {pause : Option Pause} {left : List Arrival} (found : (reading.lookAt hours).1 ≠ 0)
      (other : pause ≠ some .throttled)
      (stream : Arrival.stream incoming = Arrival.stream left) :
      Outcome hours incoming reading pause left (reading.lookAt hours).2 []
  | read {pause : Option Pause} {left : List Arrival} {next : Reading M D} {taken : List UInt8}
      (found : (reading.lookAt hours).1 ≠ 0) (other : pause ≠ some .throttled)
      (stream : Arrival.stream incoming = taken ++ Arrival.stream left)
      (fits : taken.length ≤ (reading.lookAt hours).1)
      (own : next.connection.bucket =
        ((reading.lookAt hours).2.payAt hours taken.length).connection.bucket)
      (shared : next.shared = ((reading.lookAt hours).2.payAt hours taken.length).shared)
      (scratch : next.scratch.length = reading.scratch.length) :
      Outcome hours incoming reading pause left next taken

omit [Message M] in
private theorem lookAt_le (hours : Hours) (reading : Reading M D) :
    (reading.lookAt hours).1 ≤ reading.scratch.length :=
  Nat.le_trans (Nat.min_le_left _ _) (Nat.min_le_left _ _)

private theorem roundAt_outcome (hours : Hours) (reading : Reading M D) :
    let done := reading.roundAt hours sink incoming
    ∃ taken, Outcome hours incoming reading done.1 done.2.1 done.2.2 taken := by
  have drained : some Pause.drained ≠ some .throttled := by decide
  have ended : some Pause.ended ≠ some .throttled := by decide
  have goesOn : (none : Option Pause) ≠ some .throttled := by decide
  unfold roundAt roundBy
  by_cases nothing : (reading.lookAt hours).1 = 0
  · simp only [nothing, ↓reduceIte]
    exact ⟨[], .nothing nothing⟩
  · simp only [nothing, ↓reduceIte]
    rcases incoming with _ | ⟨chunk | _ | _, rest⟩
    · exact ⟨[], .idle nothing drained rfl⟩
    · rcases chunk with _ | ⟨byte, bytes⟩
      · exact ⟨[], .idle nothing ended rfl⟩
      · have stream := stream_leave (byte :: bytes) (reading.lookAt hours).1 rest
        have fits := List.length_take_le (reading.lookAt hours).1 (byte :: bytes)
        simp only
        generalize (byte :: bytes).take (reading.lookAt hours).1 = taken at stream fits ⊢
        have scratch : (((reading.lookAt hours).2.payAt hours taken.length).receive
            taken).scratch.length = reading.scratch.length :=
          length_receive (Nat.le_trans fits (lookAt_le hours reading))
        have own : (((reading.lookAt hours).2.payAt hours taken.length).receive
            taken).connection.bucket =
              ((reading.lookAt hours).2.payAt hours taken.length).connection.bucket := rfl
        have shared : (((reading.lookAt hours).2.payAt hours taken.length).receive taken).shared =
            ((reading.lookAt hours).2.payAt hours taken.length).shared := rfl
        generalize ((reading.lookAt hours).2.payAt hours taken.length).receive taken = paid
          at scratch own shared ⊢
        refine ⟨taken, ?_⟩
        rw [decode]
        cases (paid.connection.intake.decode sink paid.connection.session
            paid.connection.inbound paid.office).outcome.isOk with
        | false => exact .read nothing ended stream fits own shared scratch
        | true => exact .read nothing goesOn stream fits own shared scratch
    · exact ⟨[], .idle nothing goesOn rfl⟩
    · exact ⟨[], .idle nothing ended rfl⟩

end Rounds

/-- Nothing may be read exactly if a bucket is dry, as there is always room. -/
theorem lookAt_eq_zero (room : 0 < reading.scratch.length) :
    (reading.lookAt hours).1 = 0 ↔ reading.IsDry hours := by
  have own := Bucket.allowance_eq_zero room hours.lookOwn reading.connection.bucket
  have shared := Bucket.allowance_eq_zero room hours.lookShared reading.shared
  rw [IsDry, ← own, ← shared]
  simp only [lookAt]
  omega

/-- What the next round does with the buckets. It reads no more than it found may be read, which is
no more than the buffer and each bucket hold; each bucket gives as many bytes as are to be paid for;
and the round is throttled exactly if a bucket is dry. -/
structure Covered [Message M] (hours : Hours) (sink : Sink M (Sessions × D))
    (incoming : List Arrival) (reading : Reading M D) : Prop where
  room : (reading.lookAt hours).1 ≤ reading.scratch.length
  own : ∀ bucket ∈ reading.connection.bucket,
    (reading.lookAt hours).1 ≤ (bucket.available (Word.clamp hours.lookOwn)).1.toNat
  shared : ∀ bucket ∈ reading.shared,
    (reading.lookAt hours).1 ≤ (bucket.available (Word.clamp hours.lookShared)).1.toNat
  reads : (Arrival.consumed incoming (reading.roundAt hours sink incoming).2.1).length ≤
    (reading.lookAt hours).1
  ownPays : ∀ bytes, bytes ≤ (reading.lookAt hours).1 →
    ∀ bucket ∈ (reading.lookAt hours).2.connection.bucket,
      (bucket.acquire (Word.clamp bytes) (Word.clamp hours.payOwn)).1 = true
  sharedPays : ∀ bytes, bytes ≤ (reading.lookAt hours).1 →
    ∀ bucket ∈ (reading.lookAt hours).2.shared,
      (bucket.acquire (Word.clamp bytes) (Word.clamp hours.payShared)).1 = true
  throttled : (reading.roundAt hours sink incoming).1 = some .throttled ↔ reading.IsDry hours

/-- No more may be read than the own bucket holds. -/
theorem lookAt_le_own (hours : Hours) (reading : Reading M D) :
    ∀ bucket ∈ reading.connection.bucket,
      (reading.lookAt hours).1 ≤ (bucket.available (Word.clamp hours.lookOwn)).1.toNat :=
  fun bucket there => Nat.le_trans (Nat.le_trans (Nat.min_le_left _ _) (Nat.min_le_right _ _))
    (Bucket.allowance_le reading.scratch.length hours.lookOwn _ bucket there)

/-- Nor than the shared bucket holds. -/
theorem lookAt_le_shared (hours : Hours) (reading : Reading M D) :
    ∀ bucket ∈ reading.shared,
      (reading.lookAt hours).1 ≤ (bucket.available (Word.clamp hours.lookShared)).1.toNat :=
  fun bucket there => Nat.le_trans (Nat.min_le_right _ _)
    (Bucket.allowance_le reading.scratch.length hours.lookShared _ bucket there)

private theorem bucket_lookAt (hours : Hours) (reading : Reading M D) :
    (reading.lookAt hours).2.connection.bucket = reading.connection.bucket.map fun bucket =>
      (bucket.available (Word.clamp hours.lookOwn)).2 :=
  Bucket.allowance_standing _ _ _

private theorem shared_lookAt (hours : Hours) (reading : Reading M D) :
    (reading.lookAt hours).2.shared = reading.shared.map fun bucket =>
      (bucket.available (Word.clamp hours.lookShared)).2 :=
  Bucket.allowance_standing _ _ _

section Outcomes

variable {incoming left : List Arrival} {pause : Option Pause} {next : Reading M D}
  {taken : List UInt8}

/-- What a round takes off the stream is what it reads. -/
theorem Outcome.stream (outcome : Outcome hours incoming reading pause left next taken) :
    Arrival.stream incoming = taken ++ Arrival.stream left := by
  cases outcome with
  | nothing empty => rfl
  | idle found other stream => exact stream
  | read found other stream fits own shared scratch => exact stream

private theorem Outcome.fits (outcome : Outcome hours incoming reading pause left next taken) :
    taken.length ≤ (reading.lookAt hours).1 := by
  cases outcome with
  | nothing empty => exact Nat.zero_le _
  | idle found other stream => exact Nat.zero_le _
  | read found other stream fits own shared scratch => exact fits

private theorem Outcome.scratch (outcome : Outcome hours incoming reading pause left next taken) :
    next.scratch.length = reading.scratch.length := by
  cases outcome with
  | nothing empty => rfl
  | idle found other stream => rfl
  | read found other stream fits own shared scratch => exact scratch

private theorem Outcome.throttled (outcome : Outcome hours incoming reading pause left next taken) :
    pause = some .throttled ↔ (reading.lookAt hours).1 = 0 := by
  cases outcome with
  | nothing empty => exact iff_of_true rfl empty
  | idle found other stream => exact iff_of_false other found
  | read found other stream fits own shared scratch => exact iff_of_false other found

/-- **A round pays for what it reads**, out of both buckets. -/
theorem Outcome.settled (outcome : Outcome hours incoming reading pause left next taken)
    {own common : Option Bucket} {bytes : Nat}
    (ownSettled : Bucket.Settled own bytes reading.connection.bucket)
    (commonSettled : Bucket.Settled common bytes reading.shared) :
    Bucket.Settled own (bytes + taken.length) next.connection.bucket ∧
      Bucket.Settled common (bytes + taken.length) next.shared := by
  have looked := ownSettled.looked (Word.clamp hours.lookOwn)
  have lookedToo := commonSettled.looked (Word.clamp hours.lookShared)
  rw [← bucket_lookAt] at looked
  rw [← shared_lookAt] at lookedToo
  cases outcome with
  | nothing empty => exact ⟨looked, lookedToo⟩
  | idle found other stream => exact ⟨looked, lookedToo⟩
  | read found other stream fits ownPaid sharedPaid scratch =>
    have ownHolds : ∀ bucket ∈ reading.connection.bucket,
        taken.length ≤ (bucket.available (Word.clamp hours.lookOwn)).1.toNat :=
      fun bucket there => Nat.le_trans fits (lookAt_le_own hours reading bucket there)
    have sharedHolds : ∀ bucket ∈ reading.shared,
        taken.length ≤ (bucket.available (Word.clamp hours.lookShared)).1.toNat :=
      fun bucket there => Nat.le_trans fits (lookAt_le_shared hours reading bucket there)
    rw [ownPaid, sharedPaid]
    simp only [payAt, Bucket.charge_standing, bucket_lookAt, shared_lookAt]
    exact ⟨ownSettled.settle _ _ ownHolds, commonSettled.settle _ _ sharedHolds⟩

end Outcomes

/-- Where there is room, every round keeps to this. -/
theorem covered [Message M] (room : 0 < reading.scratch.length) (hours : Hours)
    (sink : Sink M (Sessions × D)) (incoming : List Arrival) :
    reading.Covered hours sink incoming := by
  obtain ⟨taken, outcome⟩ := roundAt_outcome sink incoming hours reading
  refine ⟨lookAt_le hours reading, lookAt_le_own hours reading, lookAt_le_shared hours reading, ?_,
    ?_, ?_, outcome.throttled.trans (lookAt_eq_zero room)⟩
  · rw [Arrival.consumed_of_stream outcome.stream]
    exact outcome.fits
  · intro bytes fits bucket there
    rw [bucket_lookAt] at there
    obtain ⟨before, found, rfl⟩ := Option.map_eq_some_iff.1 there
    exact Bucket.gives_what_was_found
      (Nat.le_trans fits (lookAt_le_own hours reading before found))
  · intro bytes fits bucket there
    rw [shared_lookAt] at there
    obtain ⟨before, found, rfl⟩ := Option.map_eq_some_iff.1 there
    exact Bucket.gives_what_was_found
      (Nat.le_trans fits (lookAt_le_shared hours reading before found))

end Reading

/-! ## Whole readings -/

section Readings

variable [Message M] {service : Service M D} {event : Event (Endpoint M)} {start : Moment M D}
  {own common : Option Bucket} {reading : Reading M D} {incoming : List Arrival} {got : List UInt8}

/-- The moments between two rounds of the reading that a notification starts, where each bucket goes
by a clock of its own: whatever the buckets hold at the beginning, and whatever their clocks read
from round to round. The clock of the reading itself, by which neither goes, may stand anywhere. -/
inductive Paced (service : Service M D) (event : Event (Endpoint M)) (start : Moment M D)
    (own common : Option Bucket) : Reading M D → List Arrival → List UInt8 → Prop where
  | begun : Paced service event start own common
      (service.beginReading { start.connection with bucket := own }
        { start.premises with shared := common })
      (start.premises.incoming event.source) []
  | round {reading : Reading M D} {incoming : List Arrival} {got : List UInt8}
      (paced : Paced service event start own common reading incoming got) (hours : Hours)
      (clock : Clock) (again : (reading.roundAt hours service.sink incoming).1 = none) :
      Paced service event start own common
        { (reading.roundAt hours service.sink incoming).2.2 with clock }
        (reading.roundAt hours service.sink incoming).2.1
        (got ++ Arrival.consumed incoming (reading.roundAt hours service.sink incoming).2.1)

/-- Readings with one clock for both buckets are among these. -/
theorem Amid.paced (amid : Amid service event start reading incoming got) :
    Paced service event start start.connection.bucket start.premises.shared reading incoming
      got := by
  induction amid with
  | begun => exact .begun
  | @round reading incoming got amid again ih =>
    obtain ⟨clock, same⟩ := Reading.round_eq_roundAt service.sink incoming reading
    rw [same] at again ⊢
    exact ih.round reading.hours clock again

/-- **All along the buffer is a whole one**, and the buckets have given what was read. -/
theorem Paced.kept (stocked : service.Stocked start.premises)
    (paced : Paced service event start own common reading incoming got) :
    reading.scratch.length = service.bufferSize ∧
      Bucket.Settled own got.length reading.connection.bucket ∧
      Bucket.Settled common got.length reading.shared := by
  induction paced with
  | begun => exact ⟨stocked.acquire, .refl own, .refl common⟩
  | @round reading incoming got paced hours clock again ih =>
    obtain ⟨scratch, ownSettled, commonSettled⟩ := ih
    obtain ⟨taken, outcome⟩ := Reading.roundAt_outcome service.sink incoming hours reading
    rw [Arrival.consumed_of_stream outcome.stream, List.length_append]
    exact ⟨outcome.scratch.trans scratch, outcome.settled ownSettled commonSettled⟩

/-- A reading has a last round, which says why it stopped. -/
theorem Amid.exists_last (amid : Amid service event start reading incoming got) :
    ∃ last arrivals all, Amid service event start last arrivals all ∧
      (last.round service.sink arrivals).1 = some (reading.drain service.sink incoming).1 := by
  induction incoming, reading using Reading.drain_induction service.sink generalizing got with
  | stop incoming reading pause stop =>
    refine ⟨reading, incoming, got, amid, ?_⟩
    rw [Reading.drain_of_stop stop, stop]
  | again incoming reading again ih =>
    rw [Reading.drain_of_again again]
    exact ih (amid.round again)

end Readings

/-- **Every byte that is read is paid for.** At every moment of a run of a server, whatever its
surroundings do, a connection may begin to read. Whatever its own bucket and the shared one hold
then, if there are such, and whatever their clocks read from then on: the borrowed buffer is a whole
one all along, both buckets have been asked for as many bytes as were read and have given all of
them, and so it goes on in the next round; that one is throttled exactly if a bucket has no whole
byte. Where one clock serves both buckets this is what reading does, and all of it stops as
throttled exactly if one of its rounds finds a dry bucket. -/
theorem every_byte_read_is_paid_for [Message M] (service : Service M D) {loop : ServerLoop M D}
    (pristine : Scene.Pristine loop) (stocked : service.Stocked loop.world) {listening : Handle}
    {scene : Scene M D}
    (tended : Scene.Tended service (Scene.opening service listening loop) scene)
    (event : Event (Endpoint M)) (connection : Connection M) :
    let start : Moment M D := ⟨connection, scene.site.loop.world, []⟩
    (∀ own common reading incoming got, Paced service event start own common reading incoming got →
      0 < service.bufferSize ∧ reading.scratch.length = service.bufferSize ∧
      Bucket.Settled own got.length reading.connection.bucket ∧
      Bucket.Settled common got.length reading.shared ∧
      ∀ hours, reading.Covered hours service.sink incoming) ∧
    (∀ reading incoming got, Amid service event start reading incoming got →
      Paced service event start connection.bucket scene.site.loop.world.shared reading incoming
        got ∧
      reading.budget.1 = (reading.lookAt reading.hours).1 ∧
      ∃ clock, reading.round service.sink incoming =
        ((reading.roundAt reading.hours service.sink incoming).1,
          (reading.roundAt reading.hours service.sink incoming).2.1,
          { (reading.roundAt reading.hours service.sink incoming).2.2 with clock })) ∧
    (((service.beginReading connection scene.site.loop.world).drain service.sink
        (scene.site.loop.world.incoming event.source)).1 = .throttled ↔
      ∃ reading incoming got, Amid service event start reading incoming got ∧
        reading.IsDry reading.hours) := by
  intro start
  have whole : service.Stocked start.premises := (tended.upheld pristine stocked).loop.world
  have room : 0 < service.bufferSize := Nat.le_max_right _ _
  have dry (reading : Reading M D) (incoming : List Arrival) (got : List UInt8)
      (amid : Amid service event start reading incoming got) :
      (reading.round service.sink incoming).1 = some .throttled ↔
        reading.IsDry reading.hours := by
    obtain ⟨clock, same⟩ := Reading.round_eq_roundAt service.sink incoming reading
    obtain ⟨scratch, _⟩ := amid.paced.kept whole
    rw [same]
    exact (Reading.covered (scratch ▸ room) reading.hours service.sink incoming).throttled
  refine ⟨fun own common reading incoming got paced => ?_,
    fun reading incoming got amid => ⟨amid.paced, reading.budget_eq_lookAt,
      Reading.round_eq_roundAt _ _ _⟩, ?_, ?_⟩
  · obtain ⟨scratch, ownSettled, commonSettled⟩ := paced.kept whole
    exact ⟨room, scratch, ownSettled, commonSettled,
      fun hours => Reading.covered (scratch ▸ room) hours service.sink incoming⟩
  · intro stopped
    have beginning : Amid service event start _ _ _ := .begun
    obtain ⟨last, arrivals, all, amid, ended⟩ := beginning.exists_last
    rw [stopped] at ended
    exact ⟨last, arrivals, all, amid, (dry last arrivals all amid).1 ended⟩
  · rintro ⟨reading, incoming, got, amid, isDry⟩
    have stops := (dry reading incoming got amid).2 isDry
    have onwards := amid.drain
    rw [Reading.drain_of_stop stops] at onwards
    rw [onwards]

/-- A connection of three bytes a second, on a server with a bucket of a hundred for all of them. It
reads three of fifteen bytes, and a round of its reading finds a dry bucket. -/
theorem slow_bucket_runs_dry :
    let service : Service Trial.Telegram Unit :=
      { settings := { bufferSize := 5, readRate := some 3 }
        sink := ⟨fun _ _ office => (.ok (), office)⟩
        catalogue := { listings := Keyed.ofFirst Trial.Telegram.listings } }
    let loop : ServerLoop Trial.Telegram Unit :=
      { world :=
          { desk := (), pool := Pool.full 1 service.makeBuffer, shared := some (Bucket.full 100 0)
            network :=
              { sockets := Keyed.ofFirst
                  [(1, { incoming := [.bytes [0, 0, 0, 20, 0, 0, 0, 0, 0, 0, 0, 4, 1, 2, 3]] })]
                door := [.visitor ⟨1, 11, .v4 127 0 0 1 40001⟩] } } }
    ∃ scene, Scene.Tended service (Scene.opening service 10 loop) scene ∧
      ∃ event ∈ scene.site.loop.table.values, ∃ connection,
        event.body = .connection connection ∧
        (Arrival.consumed (scene.site.loop.world.incoming event.source)
          ((service.beginReading connection scene.site.loop.world).drain service.sink
            (scene.site.loop.world.incoming event.source)).2.1).length = 3 ∧
        ∃ reading incoming got,
          Amid service event ⟨connection, scene.site.loop.world, []⟩ reading incoming got ∧
          reading.IsDry reading.hours := by
  intro service loop
  let admitting := (service.start 10 loop).2
  let admitted := (admitting.turn service.conduct).2
  have lives : admitting.alive = true := by decide +kernel
  have begins : Scene.Tended service (Scene.opening service 10 loop)
      ⟨⟨admitting, .resting⟩, none, []⟩ := .start
  have tended : Scene.Tended service (Scene.opening service 10 loop)
      ⟨⟨admitted, .resting⟩, none, []⟩ := begins.turn lives
  have pristine : Scene.Pristine loop :=
    ⟨⟨rfl, rfl, rfl, rfl, rfl, rfl, rfl⟩, rfl, rfl, rfl, rfl⟩
  have stocked : service.Stocked loop.world := by
    unfold Service.Stocked
    decide
  have reads : admitted.table.values.any (fun event => match event.body with
      | .listener => false
      | .connection connection =>
        let drained := (service.beginReading connection admitted.world).drain service.sink
          (admitted.world.incoming event.source)
        drained.1 = .throttled &&
          (Arrival.consumed (admitted.world.incoming event.source) drained.2.1).length = 3) =
      true := by
    decide +kernel
  clear_value admitted
  refine ⟨_, tended, ?_⟩
  obtain ⟨event, owned, looks⟩ := List.any_eq_true.1 reads
  cases body : event.body with
  | listener =>
    rw [body] at looks
    cases looks
  | connection connection =>
    rw [body] at looks
    obtain ⟨throttled, three⟩ := Bool.and_eq_true_iff.1 looks
    obtain ⟨_, _, dry⟩ :=
      every_byte_read_is_paid_for service pristine stocked tended event connection
    exact ⟨event, owned, connection, body, of_decide_eq_true three,
      dry.1 (of_decide_eq_true throttled)⟩

end EventLoop
