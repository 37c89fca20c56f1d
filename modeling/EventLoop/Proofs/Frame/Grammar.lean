import EventLoop.Proofs.Frame.Streams

/-! What the bytes of a stream say, as a grammar. `Intake.Reads` lays a buffer out as frames, one
rule for each way in which reading goes on or stops; sizes are added without bound, and nothing in
it looks into a buffer that is not there. A call reads its buffer by this grammar and by no other,
for there is only one reading. `decode?` is the same call with every access to the buffer guarded,
and has an answer wherever the call itself has one, so no guard ever speaks. -/
namespace EventLoop

open EventLoop.Frame

variable {M S : Type}

namespace Intake

/-! ## The grammar -/

/-- A header that policy lets pass, and the listing of its type. -/
structure Admits (intake : Intake M) (header : Header) (listing : Listing M) : Prop where
  listed : intake.catalogue.listings.get? header.type = some listing
  allowed : header.type ∉ intake.forbidden
  within : header.size.toNat ≤ listing.limit.toNat

/-- How a header breaks policy. Of several ways, the first of these counts. -/
inductive Breaks (intake : Intake M) (header : Header) : Violation → Prop where
  | unlisted (missing : intake.catalogue.listings.get? header.type = none) :
      Breaks intake header (.unknownType header.type header.size)
  | forbidden {listing : Listing M}
      (listed : intake.catalogue.listings.get? header.type = some listing)
      (forbidden : header.type ∈ intake.forbidden) :
      Breaks intake header (.forbidden header.type)
  | oversized {listing : Listing M}
      (listed : intake.catalogue.listings.get? header.type = some listing)
      (allowed : header.type ∉ intake.forbidden)
      (beyond : listing.limit.toNat < header.size.toNat) :
      Breaks intake header (.oversized header.type header.size listing.limit)

/-- A buffer is read as these messages, up to the violation if there is one; the bytes that are
left begin with the frame at which reading stopped, or lie behind it if it was malformed. -/
inductive Reads (intake : Intake M) :
    List UInt8 → List M → Option Violation → List UInt8 → Prop where
  | noHeader {buffer : List UInt8} (short : buffer.length < headerLength) :
      Reads intake buffer [] none buffer
  | breaks {header : Header} {breach : Violation} (breaks : intake.Breaks header breach)
      (rest : List UInt8) :
      Reads intake (header.bytes ++ rest) [] (some breach) (header.bytes ++ rest)
  | noPayload {header : Header} {listing : Listing M} (admits : intake.Admits header listing)
      {rest : List UInt8} (short : rest.length < header.size.toNat) :
      Reads intake (header.bytes ++ rest) [] none (header.bytes ++ rest)
  | malformed {header : Header} {listing : Listing M} (admits : intake.Admits header listing)
      {payload : List UInt8} (whole : payload.length = header.size.toNat) {fault : Fault}
      (refused : listing.unpack payload = .error fault) (rest : List UInt8) :
      Reads intake (header.bytes ++ (payload ++ rest)) []
        (some (.malformed header.type fault.message)) rest
  | message {header : Header} {listing : Listing M} (admits : intake.Admits header listing)
      {payload : List UInt8} (whole : payload.length = header.size.toNat) {message : M}
      {unread : List UInt8} (unpacked : listing.unpack payload = .ok (message, unread))
      {rest left : List UInt8} {messages : List M} {breach : Option Violation}
      (later : Reads intake rest messages breach left) :
      Reads intake (header.bytes ++ (payload ++ rest)) (message :: messages) breach left

/-! ## Policy -/

variable {intake : Intake M} {header : Header} {listing : Listing M} {breach : Violation}
  {buffer rest : List UInt8}

theorem Admits.check (admits : intake.Admits header listing) : intake.check header = .ok () := by
  have allowed : intake.forbidden.contains header.type = false := by simpa using admits.allowed
  have within : ¬ listing.limit < header.size := by
    rw [UInt64.lt_iff_toNat_lt]
    exact Nat.not_lt.2 admits.within
  simp only [Intake.check, Catalogue.limit?, admits.listed, Option.map_some, allowed,
    Bool.false_eq_true, ↓reduceIte, within]

theorem Breaks.check (breaks : intake.Breaks header breach) :
    intake.check header = .error breach := by
  cases breaks with
  | unlisted missing => simp only [Intake.check, Catalogue.limit?, missing, Option.map_none]
  | forbidden listed forbidden =>
    have contained : intake.forbidden.contains header.type = true := by simpa using forbidden
    simp only [Intake.check, Catalogue.limit?, listed, Option.map_some, contained, ↓reduceIte]
  | @oversized listing listed allowed beyond =>
    have kept : intake.forbidden.contains header.type = false := by simpa using allowed
    have exceeds : listing.limit < header.size := UInt64.lt_iff_toNat_lt.2 beyond
    simp only [Intake.check, Catalogue.limit?, listed, Option.map_some, kept, Bool.false_eq_true,
      ↓reduceIte, exceeds]

/-- Policy lets a header pass or says how it breaks it. -/
theorem admits_or_breaks (intake : Intake M) (header : Header) :
    (∃ listing, intake.Admits header listing) ∨ ∃ breach, intake.Breaks header breach := by
  cases listed : intake.catalogue.listings.get? header.type with
  | none => exact .inr ⟨_, .unlisted listed⟩
  | some listing =>
    by_cases forbidden : header.type ∈ intake.forbidden
    · exact .inr ⟨_, .forbidden listed forbidden⟩
    · rcases Nat.lt_or_ge listing.limit.toNat header.size.toNat with beyond | within
      · exact .inr ⟨_, .oversized listed forbidden beyond⟩
      · exact .inl ⟨listing, listed, forbidden, within⟩

theorem Admits.unpack? (admits : intake.Admits header listing) (payload : List UInt8) :
    intake.catalogue.unpack? header.type payload = some (listing.unpack payload) := by
  rw [Catalogue.unpack?, admits.listed, Option.map_some]

/-! ## The front of a buffer, rule by rule -/

/-- A buffer that holds a header is that header and the bytes behind it. -/
theorem header_in_front (enough : headerLength ≤ buffer.length) :
    ∃ header : Header, buffer = header.bytes ++ buffer.drop headerLength := by
  have whole : ¬ (buffer.take headerLength).length < headerLength := by
    rw [List.length_take]
    omega
  obtain ⟨header, found⟩ : ∃ header, Header.read? buffer = some header :=
    ⟨_, by rw [Header.read?]; exact if_neg whole⟩
  exact ⟨header, by rw [(Header.bytes_of_read? found).2, List.take_append_drop]⟩

private theorem look_short (short : buffer.length < headerLength) :
    intake.look buffer = .partialFrame := by
  have front : (buffer.take headerLength).length < headerLength := by
    rw [List.length_take]
    omega
  simp only [look, Header.read?, front, ↓reduceIte]

private theorem look_breaks (breaks : intake.Breaks header breach) (rest : List UInt8) :
    intake.look (header.bytes ++ rest) = .rejected breach := by
  simp only [look, Header.read?_bytes, breaks.check]

/-- Behind a header that policy lets pass, only the number of bytes matters. The length of a frame
may have been cut short, but then no buffer holds that many. -/
theorem length_le_iff (holdable : Holdable (header.bytes ++ rest)) :
    Frame.length header.size ≤ (header.bytes ++ rest).length ↔ header.size.toNat ≤ rest.length := by
  unfold Holdable at holdable
  rw [List.length_append, Header.length_bytes] at holdable ⊢
  unfold Frame.length
  omega

private theorem look_noPayload (holdable : Holdable (header.bytes ++ rest))
    (admits : intake.Admits header listing) (short : rest.length < header.size.toNat) :
    intake.look (header.bytes ++ rest) = .partialFrame := by
  have lacking : ((header.bytes ++ rest).take (Frame.length header.size)).length <
      Frame.length header.size := by
    have missing := (length_le_iff holdable).not.2 (Nat.not_le.2 short)
    rw [List.length_take]
    omega
  simp only [look, Header.read?_bytes, admits.check, lacking, ↓reduceIte]

private theorem look_whole {payload : List UInt8}
    (holdable : Holdable (header.bytes ++ (payload ++ rest)))
    (admits : intake.Admits header listing) (whole : payload.length = header.size.toNat) :
    intake.look (header.bytes ++ (payload ++ rest)) = .whole header payload rest := by
  have size : UInt64.ofNat payload.length = header.size := by rw [whole, UInt64.ofNat_toNat]
  have frame : bytes header.type payload = header.bytes ++ payload := by rw [bytes, size]
  have fits : Holdable (bytes header.type payload) := by
    unfold Holdable at holdable ⊢
    rw [frame, List.length_append]
    rw [List.length_append, List.length_append] at holdable
    omega
  have passes : intake.check ⟨header.type, UInt64.ofNat payload.length⟩ = .ok () := by
    rw [size]
    exact admits.check
  have seen := look_bytes rest passes fits
  rwa [frame, List.append_assoc, size] at seen

/-! ## Calls read by the grammar -/

/-- What a call gives that has read these messages up to this violation, or to none. -/
def verdict (messages : List M) : Option Violation → Except Fault Nat
  | none => .ok messages.length
  | some breach => .error (.violation breach)

/-- The grammar has a reading for every buffer. -/
theorem exists_reads (intake : Intake M) (buffer : List UInt8) :
    ∃ messages breach left, intake.Reads buffer messages breach left := by
  induction size : buffer.length using Nat.strongRecOn generalizing buffer with
  | _ length ih =>
    rcases Nat.lt_or_ge buffer.length headerLength with short | enough
    · exact ⟨[], none, buffer, .noHeader short⟩
    · obtain ⟨header, front⟩ := header_in_front enough
      have shorter : (buffer.drop headerLength).length < length := by
        rw [List.length_drop, ← size]
        unfold headerLength at enough ⊢
        omega
      generalize buffer.drop headerLength = rest at front shorter
      subst front
      rcases intake.admits_or_breaks header with ⟨listing, admits⟩ | ⟨breach, breaks⟩
      · rcases Nat.lt_or_ge rest.length header.size.toNat with lacking | covered
        · exact ⟨[], none, _, .noPayload admits lacking⟩
        · have whole : (rest.take header.size.toNat).length = header.size.toNat :=
            List.length_take_of_le covered
          have cut := List.take_append_drop header.size.toNat rest
          have later : (rest.drop header.size.toNat).length < length :=
            Nat.lt_of_le_of_lt (List.drop_sublist _ _).length_le shorter
          generalize rest.take header.size.toNat = payload at whole cut
          generalize rest.drop header.size.toNat = behind at later cut
          subst cut
          cases unpacked : listing.unpack payload with
          | error fault => exact ⟨[], _, _, .malformed admits whole unpacked behind⟩
          | ok read =>
            obtain ⟨messages, breach, left, reads⟩ := ih _ later behind rfl
            exact ⟨_, _, _, .message admits whole unpacked reads⟩
      · exact ⟨[], some breach, _, .breaks breaks rest⟩

variable [Message M] {sink : Sink M S} {session : Nat} {messages : List M}
  {stop : Option Violation} {left : List UInt8}

/-- **A call reads by the grammar.** The induction is on the reading; each of its rules is one
round of the call. -/
theorem Reads.takeFrames (reads : intake.Reads buffer messages stop left)
    (takes : ∀ group task state, (sink.submit group task state).1 = .ok ())
    (usable : intake.poisoned = false) (holdable : Holdable buffer) (session count : Nat)
    (state : S × List (Handed M)) :
    ∃ late, intake.takeFrames sink.recorded session buffer count state =
      ⟨(verdict messages stop).map (count + ·), left, { intake with poisoned := stop.isSome },
        (late, state.2 ++ handedOver session messages)⟩ := by
  have unchanged : { intake with poisoned := (none : Option Violation).isSome } = intake := by
    rw [Option.isSome_none, ← usable]
  have nothing : (state.1, state.2 ++ handedOver session ([] : List M)) = state := by
    rw [handedOver, List.map_nil, List.append_nil]
  induction reads generalizing count state with
  | noHeader short =>
    refine ⟨state.1, ?_⟩
    rw [takeFrames_partial (look_short short), unchanged, nothing]
    rfl
  | breaks breaks rest =>
    refine ⟨state.1, ?_⟩
    rw [takeFrames_rejected (look_breaks breaks rest), nothing]
    rfl
  | noPayload admits short =>
    refine ⟨state.1, ?_⟩
    rw [takeFrames_partial (look_noPayload holdable admits short), unchanged, nothing]
    rfl
  | @malformed header listing admits payload whole fault refused rest =>
    refine ⟨state.1, ?_⟩
    rw [takeFrames_whole (look_whole holdable admits whole), admits.unpack?, refused, nothing]
    rfl
  | @message header listing admits payload whole message unread unpacked rest left messages stop
      later ih =>
    have shorter : Holdable rest := by
      unfold Holdable at holdable ⊢
      rw [List.length_append, List.length_append] at holdable
      omega
    obtain ⟨late, read⟩ := ih shorter (count + 1)
      (sink.recorded.submit (Message.group message) ⟨message, session⟩ state).2
      (by rw [handedOver, List.map_nil, List.append_nil])
    refine ⟨late, ?_⟩
    have taken : (sink.recorded.submit (Message.group message) ⟨message, session⟩ state).1 =
        .ok () := takes _ _ _
    have counted : (verdict messages stop).map (count + 1 + ·) =
        (verdict (message :: messages) stop).map (count + ·) := by
      cases stop with
      | some breach => rfl
      | none =>
        simp only [verdict, Except.map, List.length_cons, Except.ok.injEq]
        omega
    have logged : (sink.recorded.submit (Message.group message) ⟨message, session⟩ state).2.2 ++
        handedOver session messages = state.2 ++ handedOver session (message :: messages) := by
      simp only [Sink.recorded, takes, handedOver, List.map_cons, List.append_assoc,
        List.singleton_append]
    rw [takeFrames_whole (look_whole holdable admits whole), admits.unpack?, unpacked]
    simp only [taken, read, counted, logged]

/-- There is one reading of a buffer. What a call hands to a sink that takes everything, what it
gives and what it leaves are all there is to a reading. -/
theorem Reads.unique (usable : intake.poisoned = false) (holdable : Holdable buffer)
    {others : List M} {otherStop : Option Violation} {otherLeft : List UInt8}
    (one : intake.Reads buffer messages stop left)
    (other : intake.Reads buffer others otherStop otherLeft) :
    others = messages ∧ otherStop = stop ∧ otherLeft = left := by
  let taker : Sink M Unit := ⟨fun _ _ state => (.ok (), state)⟩
  have takes : ∀ group task state, (taker.submit group task state).1 = .ok () := fun _ _ _ => rfl
  obtain ⟨_, first⟩ := one.takeFrames takes usable holdable 0 0 ((), [])
  obtain ⟨_, second⟩ := other.takeFrames takes usable holdable 0 0 ((), [])
  obtain ⟨verdicts, lefts, -, states⟩ := Decoded.mk.inj (second.symm.trans first)
  have tasks := congrArg (List.map fun handed => handed.task.message) (Prod.mk.inj states).2
  have same : others = messages := by
    simpa only [handedOver, List.nil_append, List.map_map, Function.comp_def, List.map_id']
      using tasks
  refine ⟨same, ?_, lefts⟩
  cases stop with
  | none =>
    cases otherStop with
    | none => rfl
    | some breach => cases verdicts
  | some breach =>
    cases otherStop with
    | none => cases verdicts
    | some otherBreach =>
      cases verdicts
      rfl

/-! ## Guarded accesses -/

/-- The first `n` of some bytes and the bytes behind them, if there are so many. -/
def cut? (n : Nat) (bytes : List UInt8) : Option (List UInt8 × List UInt8) :=
  if n ≤ bytes.length then some (bytes.take n, bytes.drop n) else none

/-- The header in front of a buffer, taken out of it field by field. -/
def header? (buffer : List UInt8) : Option Header := do
  let (front, _) ← cut? headerLength buffer
  let (type, front) ← cut? 4 front
  let (size, _) ← cut? 8 front
  return ⟨UInt32.ofNat (ofBigEndian type), UInt64.ofNat (ofBigEndian size)⟩

private theorem rest_lt_of_cut? {n : Nat} {front : List UInt8} (positive : 0 < n)
    (cut : cut? n buffer = some (front, rest)) : rest.length < buffer.length := by
  unfold cut? at cut
  split at cut
  · cases cut
    rw [List.length_drop]
    omega
  · cases cut

/-- Takes frames as `takeFrames` does, but gives nothing at all if it would touch a byte that is
not there, or if policy had let a type pass that is not listed. -/
def takeFrames? (intake : Intake M) (sink : Sink M S) (session : Nat) (buffer : List UInt8)
    (count : Nat) (state : S) : Option (Decoded M S) :=
  if buffer.length < headerLength then some ⟨.ok count, buffer, intake, state⟩
  else
    match header? buffer with
    | none => none
    | some header =>
      match intake.check header with
      | .error breach => some (intake.poison breach buffer state)
      | .ok () =>
        if buffer.length < Frame.length header.size then
          some ⟨.ok count, buffer, intake, state⟩
        else
          match _frame : cut? (Frame.length header.size) buffer with
          | none => none
          | some (frame, rest) =>
            match cut? headerLength frame with
            | none => none
            | some (_, payload) =>
              match intake.catalogue.unpack? header.type payload with
              | none => none
              | some (.error fault) =>
                some (intake.poison (.malformed header.type fault.message) rest state)
              | some (.ok (message, _)) =>
                let submitted := sink.submit (Message.group message) ⟨message, session⟩ state
                match submitted.1 with
                | .ok () => takeFrames? intake sink session rest (count + 1) submitted.2
                | .error fault => some ⟨.error fault, rest, intake, submitted.2⟩
termination_by buffer.length
decreasing_by
  have positive := headerLength_le_length header.size
  exact rest_lt_of_cut? (Nat.lt_of_lt_of_le (by decide) positive) _frame

/-- A call with every access to the buffer guarded. -/
def decode? (intake : Intake M) (sink : Sink M S) (session : Nat) (buffer : List UInt8)
    (state : S) : Option (Decoded M S) :=
  if intake.poisoned then some ⟨.error (.violation .closed), buffer, intake, state⟩
  else intake.takeFrames? sink session buffer 0 state

private theorem cut?_append (front rest : List UInt8) :
    cut? front.length (front ++ rest) = some (front, rest) := by
  have enough : front.length ≤ (front ++ rest).length := by
    rw [List.length_append]
    omega
  rw [cut?, if_pos enough, List.take_left, List.drop_left]

private theorem header?_bytes (header : Header) (rest : List UInt8) :
    header? (header.bytes ++ rest) = some header := by
  have whole : cut? headerLength (header.bytes ++ rest) = some (header.bytes, rest) := by
    rw [← header.length_bytes, cut?_append]
  have type : cut? 4 header.bytes =
      some (bigEndian 4 header.type.toNat, bigEndian 8 header.size.toNat) := by
    have first := cut?_append (bigEndian 4 header.type.toNat) (bigEndian 8 header.size.toNat)
    rwa [length_bigEndian] at first
  have size :
      cut? 8 (bigEndian 8 header.size.toNat) = some (bigEndian 8 header.size.toNat, []) := by
    have second := cut?_append (bigEndian 8 header.size.toNat) []
    rwa [length_bigEndian, List.append_nil] at second
  simp only [header?, whole, type, size, Option.bind_eq_bind, Option.bind_some, pure,
    Option.some.injEq]
  rw [ofBigEndian_bigEndian 4 _ header.type.toNat_lt,
    ofBigEndian_bigEndian 8 _ header.size.toNat_lt, UInt32.ofNat_toNat, UInt64.ofNat_toNat]

/-- Where a whole frame stands that policy lets pass, all accesses are to its bytes. -/
theorem takeFrames?_whole {payload : List UInt8} {count : Nat} {state : S}
    (holdable : Holdable (header.bytes ++ (payload ++ rest)))
    (admits : intake.Admits header listing) (whole : payload.length = header.size.toNat) :
    intake.takeFrames? sink session (header.bytes ++ (payload ++ rest)) count state =
      match listing.unpack payload with
      | .error fault => some (intake.poison (.malformed header.type fault.message) rest state)
      | .ok (message, _) =>
        let submitted := sink.submit (Message.group message) ⟨message, session⟩ state
        match submitted.1 with
        | .ok () => intake.takeFrames? sink session rest (count + 1) submitted.2
        | .error fault => some ⟨.error fault, rest, intake, submitted.2⟩ := by
  have there : ¬ (header.bytes ++ (payload ++ rest)).length < headerLength := by
    rw [List.length_append, Header.length_bytes]
    omega
  have covered : Frame.length header.size ≤ (header.bytes ++ (payload ++ rest)).length := by
    refine (length_le_iff holdable).2 ?_
    rw [List.length_append]
    omega
  have exact : Frame.length header.size = (header.bytes ++ payload).length := by
    unfold Holdable at holdable
    unfold Frame.length
    rw [List.length_append, List.length_append, Header.length_bytes] at *
    omega
  have frame : cut? (Frame.length header.size) (header.bytes ++ (payload ++ rest)) =
      some (header.bytes ++ payload, rest) := by
    rw [exact, ← List.append_assoc, cut?_append]
  have body : cut? headerLength (header.bytes ++ payload) = some (header.bytes, payload) := by
    rw [← header.length_bytes, cut?_append]
  rw [takeFrames?, if_neg there, header?_bytes]
  simp only [admits.check, Nat.not_lt.2 covered, ↓reduceIte]
  split
  · next missing => cases frame.symm.trans missing
  · next front behind cut =>
    cases frame.symm.trans cut
    simp only [body, admits.unpack?]
    rcases listing.unpack payload with fault | ⟨message, unread⟩
    · rfl
    · rfl

/-- **No guard ever speaks**: every access of a call is to bytes that are there, and a type that
policy lets pass is listed. The induction is on the reading of the buffer. -/
theorem Reads.takeFrames? (reads : intake.Reads buffer messages stop left)
    (holdable : Holdable buffer) (sink : Sink M S) (session count : Nat) (state : S) :
    intake.takeFrames? sink session buffer count state =
      some (intake.takeFrames sink session buffer count state) := by
  have header_there (header : Header) (rest : List UInt8) :
      ¬ (header.bytes ++ rest).length < headerLength := by
    rw [List.length_append, Header.length_bytes]
    omega
  induction reads generalizing count state with
  | noHeader short =>
    rw [Intake.takeFrames?, if_pos short, takeFrames_partial (look_short short)]
  | breaks breaks rest =>
    rw [Intake.takeFrames?, if_neg (header_there _ _), header?_bytes,
      takeFrames_rejected (look_breaks breaks rest)]
    simp only [breaks.check]
  | noPayload admits short =>
    have lacking := Nat.not_le.1 ((length_le_iff holdable).not.2 (Nat.not_le.2 short))
    rw [Intake.takeFrames?, if_neg (header_there _ _), header?_bytes,
      takeFrames_partial (look_noPayload holdable admits short)]
    simp only [admits.check, lacking, ↓reduceIte]
  | @malformed header listing admits payload whole fault refused rest =>
    rw [takeFrames?_whole holdable admits whole,
      takeFrames_whole (look_whole holdable admits whole), admits.unpack?, refused]
  | @message header listing admits payload whole message unread unpacked rest left messages stop
      later ih =>
    have shorter : Holdable rest := by
      unfold Holdable at holdable ⊢
      rw [List.length_append, List.length_append] at holdable
      omega
    rw [takeFrames?_whole holdable admits whole,
      takeFrames_whole (look_whole holdable admits whole), admits.unpack?, unpacked]
    simp only
    cases (sink.submit (Message.group message) ⟨message, session⟩ state).1 with
    | error fault => rfl
    | ok _ => exact ih shorter _ _

/-- **One call does what the grammar says.** The buffer has one reading; the call hands its messages
to the sink, each on its lane, gives their number or the violation at which reading stopped, leaves
what the reading leaves, and is poisoned by a violation and by nothing else. With every access
guarded it comes to the same. -/
theorem call_reads_by_the_grammar (usable : intake.poisoned = false)
    (takes : ∀ group task state, (sink.submit group task state).1 = .ok ())
    (holdable : Holdable buffer) (session : Nat) (start : S) :
    ∃ messages stop left late,
      intake.Reads buffer messages stop left ∧
      (∀ others otherStop otherLeft, intake.Reads buffer others otherStop otherLeft →
        others = messages ∧ otherStop = stop ∧ otherLeft = left) ∧
      intake.decode sink.recorded session buffer (start, []) =
        ⟨verdict messages stop, left, { intake with poisoned := stop.isSome },
          (late, handedOver session messages)⟩ ∧
      intake.decode? sink.recorded session buffer (start, []) =
        some (intake.decode sink.recorded session buffer (start, [])) := by
  obtain ⟨messages, stop, left, reads⟩ := intake.exists_reads buffer
  obtain ⟨late, called⟩ := reads.takeFrames takes usable holdable session 0 (start, [])
  have open_ : ¬ intake.poisoned = true := by rw [usable]; exact Bool.false_ne_true
  have counted : (verdict messages stop).map (0 + ·) = verdict messages stop := by
    cases stop <;> simp [verdict, Except.map]
  refine ⟨messages, stop, left, late, reads,
    fun _ _ _ other => reads.unique usable holdable other, ?_, ?_⟩
  · rw [decode, if_neg open_, called, counted, List.nil_append]
  · rw [decode?, decode, if_neg open_, if_neg open_]
    exact reads.takeFrames? holdable sink.recorded session 0 (start, [])

/-- A ping is read, a tally of two bytes is malformed, and what stands behind it stays. -/
theorem malformed_tally_ends_the_call :
    let sink : Sink Trial.Telegram Unit := ⟨fun _ _ state => (.ok (), state)⟩
    let intake : Intake Trial.Telegram :=
      { catalogue := { listings := Keyed.ofFirst Trial.Telegram.listings }, forbidden := [8] }
    let buffer := bytes 7 [0, 0, 0, 1, 0, 0, 0, 3] ++ bytes 20 [0, 1] ++ [0, 0, 0, 8]
    let breach : Violation := .malformed 20 "malformed payload: tally: need 4 bytes, 2 left"
    intake.Reads buffer [.ping 1 3] (some breach) [0, 0, 0, 8] ∧
      intake.decode sink.recorded 0 buffer ((), []) =
        ⟨.error (.violation breach), [0, 0, 0, 8], { intake with poisoned := true },
          ((), [⟨3, ⟨.ping 1 3, 0⟩, .ok ()⟩])⟩ := by
  intro sink intake buffer breach
  obtain ⟨tally, talliesPass, refused⟩ : ∃ listing, intake.Admits ⟨20, 2⟩ listing ∧
      listing.unpack [0, 1] = .error (.malformed "tally: need 4 bytes, 2 left") :=
    ⟨_, ⟨rfl, by decide, by decide⟩, rfl⟩
  obtain ⟨ping, pingsPass, unpacked⟩ : ∃ listing, intake.Admits ⟨7, 8⟩ listing ∧
      listing.unpack [0, 0, 0, 1, 0, 0, 0, 3] = .ok (.ping 1 3, []) :=
    ⟨_, ⟨rfl, by decide, by decide⟩, rfl⟩
  have reading : intake.Reads buffer [.ping 1 3] (some breach) [0, 0, 0, 8] :=
    .message pingsPass rfl unpacked (.malformed talliesPass rfl refused _)
  have usable : intake.poisoned = false := rfl
  have takes : ∀ group task state, (sink.submit group task state).1 = .ok () := fun _ _ _ => rfl
  have holdable : Holdable buffer := by decide
  obtain ⟨messages, stop, left, late, _, only, called, _⟩ :=
    call_reads_by_the_grammar usable takes holdable 0 ()
  obtain ⟨rfl, rfl, rfl⟩ := only _ _ _ reading
  exact ⟨reading, called⟩

end Intake

end EventLoop
