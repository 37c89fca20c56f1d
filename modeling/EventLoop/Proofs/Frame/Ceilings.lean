import EventLoop.Proofs.Frame.Cuts

/-! How much an intake can be made to keep back. The policy on a header comes before waiting for
its payload, so what is waited for is never longer than the largest payload that policy allows,
whatever a header promises; a promise that no buffer could hold is measured by a length that no
buffer reaches. A call that ends without a fault leaves less than a header and such a payload,
and no call, however it ends, leaves more than there was. -/
namespace EventLoop

variable {M S : Type}

/-- The largest of some numbers, zero if there is none. -/
def largest (numbers : List Nat) : Nat := numbers.foldr max 0

private theorem le_largest {numbers : List Nat} {number : Nat} (inside : number ∈ numbers) :
    number ≤ largest numbers := by
  induction numbers with
  | nil => cases inside
  | cons first rest ih =>
    rcases List.mem_cons.1 inside with rfl | later
    · exact Nat.le_max_left _ _
    · exact Nat.le_trans (ih later) (Nat.le_max_right _ _)

namespace Intake

/-! ## The ceiling -/

/-- The largest payload that a header may promise: that of a listed type that is not forbidden,
or zero if there is no such type. -/
def ceiling (intake : Intake M) : Nat :=
  largest ((intake.catalogue.listings.entries.filter
    fun entry => !intake.forbidden.contains entry.1).map fun entry => entry.2.limit.toNat)

variable {intake : Intake M} {type : UInt32} {limit : UInt64} {header : Frame.Header}
  {buffer : List UInt8}

/-- No limit of a type that is accepted is above the ceiling. -/
theorem limit_le_ceiling (listed : intake.catalogue.limit? type = some limit)
    (allowed : intake.forbidden.contains type = false) : limit.toNat ≤ intake.ceiling := by
  obtain ⟨listing, found, rfl⟩ := Option.map_eq_some_iff.1 listed
  refine le_largest (List.mem_map.2 ⟨(type, listing), List.mem_filter.2 ⟨?_, ?_⟩, rfl⟩)
  · exact (Keyed.get?_eq_some_iff _ _ _).1 found
  · rw [allowed]
    rfl

/-- What a header promises that passes the policy is within the ceiling. -/
theorem promise_le_ceiling (passed : intake.check header = .ok ()) :
    header.size.toNat ≤ intake.ceiling := by
  unfold check at passed
  split at passed
  · cases passed
  · next limit listed =>
    split at passed
    · cases passed
    · next allowed =>
      split at passed
      · cases passed
      · next within =>
        have below : header.size ≤ limit := UInt64.not_lt.1 within
        exact Nat.le_trans (UInt64.le_iff_toNat_le.1 below)
          (limit_le_ceiling listed (by simpa using allowed))

/-! ## What is kept back -/

/-- A buffer with no whole frame in front, and none that is rejected, is short. -/
theorem short_of_partial (seen : intake.look buffer = .partialFrame) :
    buffer.length < Frame.headerLength + intake.ceiling := by
  unfold look at seen
  split at seen
  · next noHeader =>
    unfold Frame.Header.read? at noHeader
    simp only at noHeader
    split at noHeader
    · next short =>
      rw [List.length_take] at short
      omega
    · cases noHeader
  · next header found =>
    split at seen
    · cases seen
    · next passed =>
      have promised := promise_le_ceiling passed
      simp only at seen
      split at seen
      · next waiting =>
        rw [List.length_take] at waiting
        have bounded : Frame.length header.size ≤ Frame.headerLength + header.size.toNat :=
          Nat.min_le_left _ _
        omega
      · cases seen

/-- What stands behind a whole frame is the end of the buffer. -/
theorem rest_suffix {payload rest : List UInt8}
    (seen : intake.look buffer = .whole header payload rest) : rest <:+ buffer := by
  unfold look at seen
  split at seen
  · cases seen
  · split at seen
    · cases seen
    · simp only at seen
      split at seen
      · cases seen
      · cases seen
        exact List.drop_suffix _ _

variable [Message M] {sink : Sink M S} {session : Nat} {state : S}

/-- **What a call leaves is short**: less than a header and the largest payload that may be
promised, whatever stood in the buffer and whatever its headers promise. -/
theorem decode_leaves_little {taken : Nat}
    (done : (intake.decode sink session buffer state).outcome = .ok taken) :
    (intake.decode sink session buffer state).buffer.length <
      Frame.headerLength + intake.ceiling := by
  unfold decode at done ⊢
  split
  · next poisoned =>
    rw [if_pos poisoned] at done
    cases done
  · next open_ =>
    rw [if_neg open_] at done
    exact short_of_partial (takeFrames_settled done).1

/-- What a call leaves is the end of what there was, and the intake that leaves it listens to the
same policy. -/
theorem takeFrames_leaves (intake : Intake M) (sink : Sink M S) (session : Nat)
    (buffer : List UInt8) (count : Nat) (state : S) :
    let decoded := intake.takeFrames sink session buffer count state
    decoded.buffer <:+ buffer ∧
      decoded.intake = { intake with poisoned := decoded.intake.poisoned } := by
  induction buffer using intake.buffer_induction generalizing count state with
  | partialFrame buffer seen =>
    rw [takeFrames_partial seen]
    exact ⟨List.suffix_rfl, rfl⟩
  | rejected buffer breach seen =>
    rw [takeFrames_rejected seen]
    exact ⟨List.suffix_rfl, rfl⟩
  | whole buffer header payload rest seen ih =>
    have behind := rest_suffix seen
    rw [takeFrames_whole seen]
    split
    · exact ⟨behind, rfl⟩
    · exact ⟨behind, rfl⟩
    · simp only
      split
      · exact ⟨(ih _ _).1.trans behind, (ih _ _).2⟩
      · exact ⟨behind, rfl⟩

theorem decode_leaves (intake : Intake M) (sink : Sink M S) (session : Nat)
    (buffer : List UInt8) (state : S) :
    let decoded := intake.decode sink session buffer state
    decoded.buffer <:+ buffer ∧
      decoded.intake = { intake with poisoned := decoded.intake.poisoned } := by
  unfold decode
  split
  · exact ⟨List.suffix_rfl, rfl⟩
  · exact takeFrames_leaves intake sink session buffer 0 state

end Intake

end EventLoop
