import EventLoop.Proofs.Bucket.Tank

/-! Calls that cost nothing. Whoever looks into a bucket, asks for nothing, or is refused leaves it
refilled and otherwise as it was. That a refill can be split anywhere is then the whole reason why
nobody else can tell whether such calls came in between: what comes in over a stretch of time is
added without rounding, and what does not fit at a stop on the way would not fit at the end. This
holds at every rate, also where one second's worth is cut off at the largest word. -/
namespace EventLoop.Bucket

variable {bucket other : Bucket} {now middle last : UInt64} {B : Type}

/-! ## Refilling in steps -/

/-- **A refill can be split** at any moment between the last look and now. -/
theorem refill_refill (began : bucket.since ≤ middle) (ends : middle ≤ last) :
    (bucket.refill middle).refill last = bucket.refill last := by
  rw [UInt64.le_iff_toNat_le] at began ends
  have whole : (middle.toNat - bucket.since.toNat) * bucket.rate.toNat +
      (last.toNat - middle.toNat) * bucket.rate.toNat =
        (last.toNat - bucket.since.toNat) * bucket.rate.toNat := by
    rw [← Nat.add_mul]
    congr 1
    omega
  have levels : ((bucket.refill middle).refill last).level = (bucket.refill last).level := by
    rw [← UInt64.toNat_inj, toNat_level_refill, toNat_level_refill, toNat_level_refill]
    simp only [rate_refill, since_refill]
    omega
  show Bucket.mk _ _ _ = Bucket.mk _ _ _
  exact congrArg (Bucket.mk bucket.rate · last) levels

/-- A bucket is refilled before anything else, so only what the refill leaves counts. -/
theorem serve_of_refill (same : bucket.refill now = other.refill now) (call : Call) :
    bucket.serve now call = other.serve now call := by
  cases call with
  | available => simp only [serve, available, same]
  | acquire bytes => simp only [serve, acquire, same]

private theorem since_serve (now : UInt64) (bucket : Bucket) (call : Call) :
    (bucket.serve now call).2.since = now := by
  cases call with
  | available => rfl
  | acquire bytes =>
    simp only [serve, acquire]
    split <;> rfl

/-! ## Calls that take nothing -/

/-- A call that looks, asks for nothing, or is refused. -/
def Entry.IsFree (entry : Entry B) : Prop :=
  entry.call = .available ∨ entry.call = .acquire 0 ∨ entry.answer = .decided false

/-- A free call refills the bucket and does nothing else. -/
theorem serve_free {call : Call}
    (free : (Entry.mk now call (bucket.serve now call).1 (bucket.serve now call).2).IsFree) :
    (bucket.serve now call).2 = bucket.refill now := by
  cases call with
  | available => rfl
  | acquire bytes =>
    simp only [serve, acquire] at free ⊢
    split
    · next granted =>
      simp only [granted, ↓reduceIte] at free
      rcases free with looked | nothing | refused
      · cases looked
      · cases nothing
        have asked : Word.mul 0 1000 = 0 := rfl
        rw [asked, UInt64.sub_zero]
      · cases refused
    · rfl

/-! ## Calls on the side -/

/-- A call that comes when the clock reads `reading`, on the side or not. -/
structure Visit where
  reading : UInt64
  call : Call
  aside : Bool
deriving DecidableEq, Repr

namespace Visit

/-- What a bucket sees of a visit. -/
def plain (visit : Visit) : UInt64 × Call := (visit.reading, visit.call)

/-- The visits that are not on the side. -/
def main (visits : List Visit) : List Visit := visits.filter fun visit => !visit.aside

/-- Each visit with what became of it. -/
def attended (visits : List Visit) (bucket : Bucket) : List (Visit × Entry Bucket) :=
  visits.zip (journal serve (visits.map plain) bucket)

/-- What the visits that are not on the side are told. -/
def answers (visits : List Visit) (bucket : Bucket) : List Answer :=
  ((attended visits bucket).filter fun met => !met.1.aside).map fun met => met.2.answer

/-- What comes on the side takes nothing. -/
def AsidesFree (visits : List Visit) (bucket : Bucket) : Prop :=
  ∀ met ∈ attended visits bucket, met.1.aside = true → met.2.IsFree

private theorem attended_cons (visit : Visit) (rest : List Visit) (bucket : Bucket) :
    attended (visit :: rest) bucket =
      (visit, ⟨visit.reading, visit.call, (bucket.serve visit.reading visit.call).1,
        (bucket.serve visit.reading visit.call).2⟩) ::
      attended rest (bucket.serve visit.reading visit.call).2 := rfl

private theorem answers_cons (visit : Visit) (rest : List Visit) (bucket : Bucket) :
    answers (visit :: rest) bucket =
      if visit.aside then answers rest (bucket.serve visit.reading visit.call).2
      else (bucket.serve visit.reading visit.call).1 ::
        answers rest (bucket.serve visit.reading visit.call).2 := by
  rw [answers, attended_cons, List.filter_cons]
  cases visit.aside <;> rfl

/-- **Two buckets that are filled alike from some reading on** answer alike from then on, whether
calls on the side come to the one and not to the other. -/
theorem answers_of_refills (visits : List Visit) (alike : ∀ later, now ≤ later →
      bucket.refill later = other.refill later)
    (began : bucket.since ≤ now) (onwards : (now :: visits.map Visit.reading).Pairwise (· ≤ ·))
    (free : AsidesFree visits bucket) :
    answers visits bucket =
      (journal serve ((main visits).map plain) other).map Entry.answer := by
  induction visits generalizing bucket other now with
  | nil => rfl
  | cons visit rest ih =>
    obtain ⟨later, sorted⟩ := List.pairwise_cons.1 onwards
    have comes : now ≤ visit.reading := later _ List.mem_cons_self
    have since := since_serve visit.reading bucket visit.call
    have freeRest : AsidesFree rest (bucket.serve visit.reading visit.call).2 :=
      fun met inside => free met (List.mem_cons_of_mem _ inside)
    have begunRest : (bucket.serve visit.reading visit.call).2.since ≤ visit.reading := by
      rw [since]
      exact UInt64.le_refl _
    rw [answers_cons, main, List.filter_cons]
    cases side : visit.aside with
    | true =>
      have refilled : (bucket.serve visit.reading visit.call).2 = bucket.refill visit.reading :=
        serve_free (free _ List.mem_cons_self side)
      refine ih ?_ begunRest sorted freeRest
      intro later passes
      rw [refilled, refill_refill (UInt64.le_trans began comes) passes]
      exact alike later (UInt64.le_trans comes passes)
    | false =>
      have same : bucket.serve visit.reading visit.call = other.serve visit.reading visit.call :=
        serve_of_refill (alike _ comes) visit.call
      have told := ih (fun _ _ => rfl) begunRest sorted freeRest
      rw [same] at told ⊢
      exact congrArg (List.cons _) told

end Visit

/-- **Looking and being refused are free.** To a full bucket of any rate come calls at readings
that never go back, some of them on the side: those look, ask for nothing, or are refused. Then
the others are told what they are told when nothing comes on the side. -/
theorem asides_change_no_answer (rate start : UInt64) (visits : List Visit)
    (onwards : (start :: visits.map Visit.reading).Pairwise (· ≤ ·))
    (free : Visit.AsidesFree visits (full rate start)) :
    Visit.answers visits (full rate start) =
      (journal serve ((Visit.main visits).map Visit.plain) (full rate start)).map Entry.answer :=
  Visit.answers_of_refills visits (fun _ _ => rfl) (UInt64.le_refl start) onwards free

/-- At three bytes a second a byte takes 333 milliseconds and a third to come in. Who is refused,
asks for nothing or looks on the way, the last time one millisecond too early, takes none of it
from the one who comes then, and the next one is refused as before. -/
theorem impatient_neighbours_cost_nothing :
    let visits : List Visit :=
      [⟨7, .acquire 3, false⟩, ⟨107, .acquire 1, true⟩, ⟨207, .acquire 0, true⟩,
        ⟨307, .available, true⟩, ⟨340, .acquire 1, true⟩, ⟨341, .acquire 1, false⟩,
        ⟨341, .acquire 1, false⟩]
    ((7 :: visits.map Visit.reading).Pairwise (· ≤ ·)) ∧ Visit.AsidesFree visits (full 3 7) ∧
      Visit.answers visits (full 3 7) = [.decided true, .decided true, .decided false] ∧
      (journal serve ((Visit.main visits).map Visit.plain) (full 3 7)).map Entry.answer =
        [.decided true, .decided true, .decided false] := by
  intro visits
  have onwards : (7 :: visits.map Visit.reading).Pairwise (· ≤ ·) := by decide
  have free : Visit.AsidesFree visits (full 3 7) := by
    unfold Visit.AsidesFree Entry.IsFree
    decide
  have told : Visit.answers visits (full 3 7) =
      [.decided true, .decided true, .decided false] := by decide
  exact ⟨onwards, free, told, (asides_change_no_answer 3 7 visits onwards free).symm.trans told⟩

end EventLoop.Bucket
