import Mathlib.Data.List.Induction
import EventLoop.Proofs.Frame.Cuts

/-! Writing messages into a stream and reading them off it are inverse to each other.
Numbers are written and read by functions that know nothing of each other, so each
way back is a fact of its own: `ofBigEndian_bigEndian` for what was written,
`bigEndian_ofBigEndian` for whatever bytes stand there. From the two follows what a
buffer looks like that has a whole frame in front, and both directions are that fact
once for every frame. -/
namespace EventLoop

/-! ## Numbers and their bytes -/

private theorem ofBigEndian_lt (bytes : List UInt8) :
    ofBigEndian bytes < Nat.pow 256 bytes.length := by
  induction bytes using List.reverseRecOn with
  | nil => exact Nat.one_pos
  | append_singleton front last ih =>
    have digit : last.toNat < 256 := last.toNat_lt
    rw [ofBigEndian_append, List.length_append, List.length_singleton]
    show _ < Nat.pow 256 front.length * 256
    omega

/-- Any bytes are the digits of the number they spell. -/
theorem bigEndian_ofBigEndian (bytes : List UInt8) :
    bigEndian bytes.length (ofBigEndian bytes) = bytes := by
  induction bytes using List.reverseRecOn with
  | nil => rfl
  | append_singleton front last ih =>
    have digit : last.toNat < 256 := last.toNat_lt
    have above : (256 * ofBigEndian front + last.toNat) / 256 = ofBigEndian front := by omega
    have lowest : (256 * ofBigEndian front + last.toNat) % 256 = last.toNat := by omega
    rw [ofBigEndian_append, List.length_append, List.length_singleton, bigEndian, above, lowest,
      ih, UInt8.ofNat_toNat]

namespace Frame

/-! ## Headers -/

theorem Header.read?_bytes (header : Header) (more : List UInt8) :
    Header.read? (header.bytes ++ more) = some header := by
  have front : (header.bytes ++ more).take headerLength = header.bytes :=
    List.take_left' header.length_bytes
  have type : header.bytes.take 4 = bigEndian 4 header.type.toNat :=
    List.take_left' (length_bigEndian 4 _)
  have size : header.bytes.drop 4 = bigEndian 8 header.size.toNat :=
    List.drop_left' (length_bigEndian 4 _)
  unfold Header.read?
  simp only [front, Header.length_bytes, Nat.lt_irrefl, ↓reduceIte, type, size]
  rw [ofBigEndian_bigEndian 4 _ header.type.toNat_lt,
    ofBigEndian_bigEndian 8 _ header.size.toNat_lt, UInt32.ofNat_toNat, UInt64.ofNat_toNat]

/-- A header that is found is spelled by the bytes in front. -/
theorem Header.bytes_of_read? {buffer : List UInt8} {header : Header}
    (found : Header.read? buffer = some header) :
    headerLength ≤ buffer.length ∧ header.bytes = buffer.take headerLength := by
  unfold Header.read? at found
  simp only at found
  split at found
  · cases found
  · rename_i enough
    have whole : headerLength ≤ buffer.length := by
      rw [List.length_take] at enough
      omega
    refine ⟨whole, ?_⟩
    have length : (buffer.take headerLength).length = 12 := List.length_take_of_le whole
    generalize buffer.take headerLength = front at found length ⊢
    have typeLength : (front.take 4).length = 4 := by rw [List.length_take]; omega
    have sizeLength : (front.drop 4).length = 8 := by rw [List.length_drop]; omega
    have typeBound := ofBigEndian_lt (front.take 4)
    have sizeBound := ofBigEndian_lt (front.drop 4)
    rw [typeLength] at typeBound
    rw [sizeLength] at sizeBound
    have type := bigEndian_ofBigEndian (front.take 4)
    have size := bigEndian_ofBigEndian (front.drop 4)
    rw [typeLength] at type
    rw [sizeLength] at size
    cases found
    rw [Header.bytes, UInt32.toNat_ofNat_of_lt' typeBound, UInt64.toNat_ofNat_of_lt' sizeBound,
      type, size, List.take_append_drop]

/-! ## Writing a frame in place -/

/-- Writes a frame before the size of its payload is known: a header that says zero, what
`pack` makes of the buffer then, and the size in its place. -/
def writeInPlace (type : UInt32) (pack : List UInt8 → List UInt8) (out : List UInt8) :
    List UInt8 :=
  let packed := pack (out ++ (Header.mk type 0).bytes)
  let size := UInt64.ofNat (packed.length - out.length - headerLength)
  packed.take (out.length + 4) ++ bigEndian 8 size.toNat ++ packed.drop (out.length + headerLength)

/-- The size comes out right wherever the frame starts, and nothing else is touched. -/
theorem writeInPlace_eq {type : UInt32} {pack : List UInt8 → List UInt8} {payload : List UInt8}
    (appends : ∀ out, pack out = out ++ payload) (out : List UInt8) :
    writeInPlace type pack out = out ++ bytes type payload := by
  have four := length_bigEndian 4 type.toNat
  have eight := length_bigEndian 8 (0 : UInt64).toNat
  have size : (out ++ (Header.mk type 0).bytes ++ payload).length - out.length - headerLength =
      payload.length := by
    simp only [List.length_append, Header.length_bytes]
    omega
  have kept : (out ++ (Header.mk type 0).bytes ++ payload).take (out.length + 4) =
      out ++ bigEndian 4 type.toNat := by
    rw [List.append_assoc, Header.bytes, List.append_assoc, ← List.append_assoc]
    exact List.take_left' (by rw [List.length_append, four])
  have behind : (out ++ (Header.mk type 0).bytes ++ payload).drop (out.length + headerLength) =
      payload :=
    List.drop_left' (by rw [List.length_append, Header.length_bytes])
  unfold writeInPlace
  simp only [appends]
  rw [size, kept, behind, bytes, Header.bytes]
  simp only [List.append_assoc]

/-! ## Streams -/

/-- A buffer that memory can hold: its length is a word, and not the largest one. -/
def Holdable (buffer : List UInt8) : Prop := buffer.length < 18446744073709551615

instance (buffer : List UInt8) : Decidable (Holdable buffer) := Nat.decLt _ _

variable {M : Type} [Message M]

/-- The frames of messages, one behind the other. -/
def stream (messages : List M) : List UInt8 := messages.foldl encode []

private theorem foldl_encode (messages : List M) (before : List UInt8) :
    messages.foldl encode before = before ++ stream messages := by
  induction messages generalizing before with
  | nil => exact (List.append_nil before).symm
  | cons message messages ih =>
    rw [stream, List.foldl_cons, List.foldl_cons, ih, ih (encode [] message), encode, encode,
      List.nil_append, List.append_assoc]

theorem stream_cons (message : M) (messages : List M) :
    stream (message :: messages) =
      bytes (Message.type message) (Message.payload message) ++ stream messages := by
  rw [stream, List.foldl_cons, foldl_encode, encode, List.nil_append]

theorem stream_append (messages more : List M) :
    stream (messages ++ more) = stream messages ++ stream more := by
  rw [stream, List.foldl_append, foldl_encode]
  rfl

end Frame

namespace Intake

open EventLoop.Frame

variable {M S : Type} {intake : Intake M}

/-! ## A whole frame in front -/

/-- A frame is seen whole, whatever comes behind it, if policy lets its header pass. -/
theorem look_bytes {type : UInt32} {payload : List UInt8} (rest : List UInt8)
    (passes : intake.check ⟨type, UInt64.ofNat payload.length⟩ = .ok ())
    (holdable : Holdable (bytes type payload)) :
    intake.look (bytes type payload ++ rest) =
      .whole ⟨type, UInt64.ofNat payload.length⟩ payload rest := by
  have total : (bytes type payload).length = headerLength + payload.length := by
    rw [bytes, List.length_append, Header.length_bytes]
  have short : headerLength + payload.length < 18446744073709551615 := total ▸ holdable
  have size : (UInt64.ofNat payload.length).toNat = payload.length :=
    UInt64.toNat_ofNat_of_lt' (show _ < 18446744073709551616 by omega)
  have length : Frame.length (UInt64.ofNat payload.length) = (bytes type payload).length := by
    rw [Frame.length, size, total]
    omega
  have found : Header.read? (bytes type payload ++ rest) =
      some ⟨type, UInt64.ofNat payload.length⟩ := by
    rw [bytes, List.append_assoc]
    exact Header.read?_bytes _ _
  unfold look
  simp only [found, passes, length, List.take_left, List.drop_left, Nat.lt_irrefl, ↓reduceIte]
  rw [bytes, List.drop_left' (Header.length_bytes _)]

/-- What is seen whole in front of a buffer are the bytes of its frame. -/
theorem bytes_of_look {buffer payload rest : List UInt8} {header : Header}
    (holdable : Holdable buffer) (seen : intake.look buffer = .whole header payload rest) :
    buffer = bytes header.type payload ++ rest := by
  unfold look at seen
  split at seen
  · cases seen
  · rename_i front found
    split at seen
    · cases seen
    · simp only at seen
      split at seen
      · cases seen
      · rename_i enough
        obtain ⟨_, spelled⟩ := Header.bytes_of_read? found
        have within : Frame.length front.size ≤ buffer.length := by
          rw [List.length_take] at enough
          omega
        -- The buffer is shorter than the longest length, so this length has not been cut short.
        have exact : Frame.length front.size = headerLength + front.size.toNat := by
          unfold Holdable at holdable
          unfold Frame.length at within ⊢
          omega
        cases seen
        have size : ((buffer.take (Frame.length header.size)).drop headerLength).length =
            header.size.toNat := by
          rw [List.length_drop, List.length_take_of_le within, exact]
          omega
        have head : (buffer.take (Frame.length header.size)).take headerLength = header.bytes := by
          rw [spelled, List.take_take, exact]
          congr 1
          omega
        have whole : bytes header.type
            ((buffer.take (Frame.length header.size)).drop headerLength) =
              buffer.take (Frame.length header.size) := by
          rw [bytes, size, UInt64.ofNat_toNat, ← head, List.take_append_drop]
        rw [whole, List.take_append_drop]

/-! ## From messages to bytes and back -/

variable [Message M]

/-- A message that a peer accepts: its type is listed and not forbidden, its payload is within
the limit, and reading the payload gives the message. -/
structure Accepts (intake : Intake M) (message : M) : Prop where
  listed : ∃ listing unread,
    intake.catalogue.listings.get? (Message.type message) = some listing ∧
    (Message.payload message).length ≤ listing.limit.toNat ∧
    listing.unpack (Message.payload message) = .ok (message, unread)
  allowed : Message.type message ∉ intake.forbidden

private theorem Accepts.passes {message : M} (accepts : intake.Accepts message)
    (holdable : Holdable (bytes (Message.type message) (Message.payload message))) :
    intake.check ⟨Message.type message, UInt64.ofNat (Message.payload message).length⟩ =
      .ok () := by
  obtain ⟨listing, unread, listed, within, _⟩ := accepts.listed
  have size : (UInt64.ofNat (Message.payload message).length).toNat =
      (Message.payload message).length := by
    refine UInt64.toNat_ofNat_of_lt' (show _ < 18446744073709551616 from ?_)
    rw [Holdable, bytes, List.length_append] at holdable
    omega
  have small : ¬ listing.limit < UInt64.ofNat (Message.payload message).length := by
    rw [UInt64.lt_iff_toNat_lt, size]
    omega
  have allowed : intake.forbidden.contains (Message.type message) = false := by
    simpa using accepts.allowed
  unfold check Catalogue.limit?
  simp only [listed, Option.map_some, allowed, Bool.false_eq_true, ↓reduceIte, small]

/-- What a sink is handed when it takes messages in order. -/
def handedOver (session : Nat) (messages : List M) : List (Handed M) :=
  messages.map fun message => ⟨Message.group message, ⟨message, session⟩, .ok ()⟩

/-- **What was written is read.** The induction is on the messages; the frame of the first stands
in front of the frames of the others. -/
theorem takeFrames_stream {sink : Sink M S} {session : Nat}
    (takes : ∀ group task state, (sink.submit group task state).1 = .ok ()) (messages : List M)
    (accepts : ∀ message ∈ messages, intake.Accepts message)
    (holdable : Holdable (stream messages)) (count : Nat) (state : S × List (Handed M)) :
    ∃ late, intake.takeFrames sink.recorded session (stream messages) count state =
      ⟨.ok (count + messages.length), [], intake,
        (late, state.2 ++ handedOver session messages)⟩ := by
  induction messages generalizing count state with
  | nil =>
    refine ⟨state.1, ?_⟩
    rw [takeFrames_partial rfl, handedOver, List.map_nil, List.append_nil]
    rfl
  | cons message messages ih =>
    have first := accepts message List.mem_cons_self
    have lengths := congrArg List.length (stream_cons message messages)
    rw [List.length_append] at lengths
    have frameHoldable : Holdable (bytes (Message.type message) (Message.payload message)) := by
      unfold Holdable at holdable ⊢
      omega
    have restHoldable : Holdable (stream messages) := by
      unfold Holdable at holdable ⊢
      omega
    have seen := look_bytes (stream messages) (first.passes frameHoldable) frameHoldable
    obtain ⟨listing, unread, listed, _, unpacked⟩ := first.listed
    have read : intake.catalogue.unpack? (Message.type message) (Message.payload message) =
        some (.ok (message, unread)) := by
      rw [Catalogue.unpack?, listed, Option.map_some, unpacked]
    have othersAccepted : ∀ other ∈ messages, intake.Accepts other :=
      fun other inside => accepts other (List.mem_cons_of_mem message inside)
    obtain ⟨late, rest⟩ := ih othersAccepted restHoldable (count + 1)
      (sink.recorded.submit (Message.group message) ⟨message, session⟩ state).2
    refine ⟨late, ?_⟩
    have taken : (sink.recorded.submit (Message.group message) ⟨message, session⟩ state).1 =
        .ok () := takes _ _ _
    rw [stream_cons, takeFrames_whole seen]
    simp only [read, taken, rest]
    have counted : count + 1 + messages.length = count + (message :: messages).length := by
      rw [List.length_cons]
      omega
    have logged : (sink.recorded.submit (Message.group message) ⟨message, session⟩ state).2.2 ++
        handedOver session messages = state.2 ++ handedOver session (message :: messages) := by
      simp only [Sink.recorded, takes, handedOver, List.map_cons, List.append_assoc,
        List.singleton_append]
    rw [counted, logged]

/-! ## From bytes to messages and back -/

/-- A frame that was taken off a buffer, and the message read from it. -/
structure Receipt (M : Type) where
  type : UInt32
  payload : List UInt8
  message : M

/-- The bytes of the frame. -/
def Receipt.bytes (receipt : Receipt M) : List UInt8 := Frame.bytes receipt.type receipt.payload

/-- The message would be written as it was received. -/
def Receipt.Faithful (receipt : Receipt M) : Prop :=
  Message.type receipt.message = receipt.type ∧ Message.payload receipt.message = receipt.payload

/-- What a call took off a buffer: the frames in order, laid end to end in front of what it
left, each read as the message that was handed over for it. -/
structure Took (intake : Intake M) (session : Nat) (buffer : List UInt8)
    (before : List (Handed M)) (receipts : List (Receipt M)) (left : List UInt8)
    (after : List (Handed M)) : Prop where
  consumed : buffer = receipts.flatMap Receipt.bytes ++ left
  read : ∀ receipt ∈ receipts, ∃ unread,
    intake.catalogue.unpack? receipt.type receipt.payload = some (.ok (receipt.message, unread))
  handed : after = before ++ handedOver session (receipts.map Receipt.message)

/-- **What was read stood there.** -/
theorem takeFrames_took {sink : Sink M S} {session count taken : Nat} {buffer : List UInt8}
    {state : S × List (Handed M)} (holdable : Holdable buffer)
    (done : (intake.takeFrames sink.recorded session buffer count state).outcome = .ok taken) :
    ∃ receipts, count + receipts.length = taken ∧
      intake.Took session buffer state.2 receipts
        (intake.takeFrames sink.recorded session buffer count state).buffer
        (intake.takeFrames sink.recorded session buffer count state).state.2 := by
  induction buffer using intake.buffer_induction generalizing count state with
  | partialFrame buffer seen =>
    rw [takeFrames_partial seen] at done ⊢
    cases done
    exact ⟨[], rfl, rfl, fun receipt inside => absurd inside List.not_mem_nil,
      (List.append_nil _).symm⟩
  | rejected buffer breach seen =>
    rw [takeFrames_rejected seen] at done
    cases done
  | whole buffer header payload rest seen ih =>
    have shorter := rest_shorter intake seen
    have front := bytes_of_look holdable seen
    rw [takeFrames_whole seen] at done ⊢
    split at done
    · cases done
    · cases done
    · rename_i message unread unpacked
      simp only at done ⊢
      split at done
      · rename_i accepted
        obtain ⟨receipts, counted, took⟩ := ih (Nat.lt_trans shorter holdable) done
        refine ⟨⟨header.type, payload, message⟩ :: receipts, ?_, ?_, ?_, ?_⟩
        · rw [List.length_cons]
          omega
        · rw [List.flatMap_cons, List.append_assoc, ← took.consumed]
          exact front
        · intro receipt inside
          rcases List.mem_cons.1 inside with rfl | later
          · exact ⟨unread, unpacked⟩
          · exact took.read receipt later
        · rw [took.handed]
          have answered : (sink.submit (Message.group message) ⟨message, session⟩ state.1).1 =
              .ok () := accepted
          simp only [Sink.recorded, answered, handedOver, List.map_cons, List.append_assoc,
            List.singleton_append]
      · cases done

/-- Faithful messages are written again as the bytes they were read from. -/
theorem stream_of_faithful (receipts : List (Receipt M))
    (faithful : ∀ receipt ∈ receipts, receipt.Faithful) :
    stream (receipts.map Receipt.message) = receipts.flatMap Receipt.bytes := by
  induction receipts with
  | nil => rfl
  | cons receipt receipts ih =>
    obtain ⟨type, payload⟩ := faithful receipt List.mem_cons_self
    have rest := ih fun other inside => faithful other (List.mem_cons_of_mem receipt inside)
    rw [List.map_cons, stream_cons, List.flatMap_cons, type, payload, rest]
    rfl

/-- **Writing and reading are inverse on whole streams.** Messages written behind any earlier
content leave it as it was, also when each frame is written before its size is known; and if
the peer accepts them and its sink takes them, one call on the bytes that were added hands
over exactly these messages, each on its lane, and leaves nothing. The other way round, a call
without a fault took frames that stood end to end in front of what it left, and if the
messages would be written as they were received, writing them gives these very bytes. -/
theorem writing_and_reading_are_inverse (sink : Sink M S) (session : Nat) :
    (∀ (catalogue : Catalogue M) (forbidden : List UInt32) (start : S) (messages : List M)
        (before : List UInt8) (pack : M → List UInt8 → List UInt8),
      (∀ group task state, (sink.submit group task state).1 = .ok ()) →
      (∀ message ∈ messages, (⟨catalogue, forbidden, false⟩ : Intake M).Accepts message) →
      (∀ message out, pack message out = out ++ Message.payload message) →
      Holdable (messages.foldl Frame.encode before) →
        messages.foldl Frame.encode before = before ++ stream messages ∧
        messages.foldl (fun out message => writeInPlace (Message.type message) (pack message) out)
          before = before ++ stream messages ∧
        ∃ late, (⟨catalogue, forbidden, false⟩ : Intake M).decode sink.recorded session
            (stream messages) (start, []) =
          ⟨.ok messages.length, [], ⟨catalogue, forbidden, false⟩,
            (late, handedOver session messages)⟩) ∧
    (∀ (intake : Intake M) (start : S) (buffer : List UInt8) (taken : Nat),
      Holdable buffer →
      (intake.decode sink.recorded session buffer (start, [])).outcome = .ok taken →
        ∃ receipts, receipts.length = taken ∧
          intake.Took session buffer [] receipts
            (intake.decode sink.recorded session buffer (start, [])).buffer
            (intake.decode sink.recorded session buffer (start, [])).state.2 ∧
          ((∀ receipt ∈ receipts, receipt.Faithful) →
            stream (receipts.map Receipt.message) ++
              (intake.decode sink.recorded session buffer (start, [])).buffer = buffer)) := by
  constructor
  · intro catalogue forbidden start messages before pack takes accepts appends holdable
    have written := foldl_encode messages before
    have inPlace : (fun out message => writeInPlace (Message.type message) (pack message) out) =
        (Frame.encode : List UInt8 → M → List UInt8) :=
      funext fun out => funext fun message => writeInPlace_eq (appends message) out
    have fits : Holdable (stream messages) := by
      rw [written, Holdable, List.length_append] at holdable
      unfold Holdable
      omega
    obtain ⟨late, read⟩ := takeFrames_stream takes messages accepts fits 0 (start, [])
    refine ⟨written, inPlace ▸ written, late, ?_⟩
    rw [Nat.zero_add, List.nil_append] at read
    rw [decode, if_neg Bool.false_ne_true]
    exact read
  · intro intake start buffer taken holdable done
    unfold decode at done ⊢
    split at done
    · cases done
    · rename_i usable
      simp only [usable, Bool.false_eq_true, ↓reduceIte]
      obtain ⟨receipts, counted, took⟩ := takeFrames_took holdable done
      refine ⟨receipts, by omega, took, fun faithful => ?_⟩
      rw [stream_of_faithful receipts faithful]
      exact took.consumed.symm

/-- A message that carries a whole frame of another is written and read as one. So it is when
a third frame has only started behind the stream. -/
theorem carried_frame_stays_inside :
    let sink : Sink Trial.Telegram Unit := ⟨fun _ _ state => (.ok (), state)⟩
    let intake : Intake Trial.Telegram :=
      { catalogue := { listings := Keyed.ofFirst Trial.Telegram.listings }, forbidden := [8] }
    let messages : List Trial.Telegram :=
      [.blob 2 (Frame.encode [] (Trial.Telegram.ping 1 3)), .ping 4 5]
    let decoded := intake.decode sink.recorded 0 (stream messages ++ [0, 0, 0, 7]) ((), [])
    messages.foldl Frame.encode [9, 9] = [9, 9] ++ stream messages ∧
      (∃ late, intake.decode sink.recorded 0 (stream messages) ((), []) =
        ⟨.ok 2, [], intake, (late, handedOver 0 messages)⟩) ∧
      decoded.outcome = .ok 2 ∧ decoded.buffer = [0, 0, 0, 7] ∧
      ∃ receipts, intake.Took 0 (stream messages ++ [0, 0, 0, 7]) [] receipts decoded.buffer
          decoded.state.2 ∧
        ((∀ receipt ∈ receipts, receipt.Faithful) →
          stream (receipts.map Receipt.message) ++ decoded.buffer =
            stream messages ++ [0, 0, 0, 7]) := by
  intro sink intake messages decoded
  obtain ⟨forth, back⟩ := writing_and_reading_are_inverse sink 0
  have accepts : ∀ message ∈ messages, intake.Accepts message := by
    intro message inside
    simp only [messages, List.mem_cons, List.not_mem_nil, or_false] at inside
    rcases inside with rfl | rfl
    · exact ⟨⟨_, _, rfl, by decide, rfl⟩, by decide⟩
    · exact ⟨⟨_, _, rfl, by decide, rfl⟩, by decide⟩
  obtain ⟨written, _, read⟩ := forth intake.catalogue [8] () messages [9, 9]
    (fun message out => out ++ Message.payload message) (fun _ _ _ => rfl) accepts
    (fun _ _ => rfl) (by decide)
  have done : decoded.outcome = .ok 2 := by decide +kernel
  obtain ⟨receipts, _, took, again⟩ := back intake () _ 2 (by decide) done
  exact ⟨written, read, done, by decide +kernel, receipts, took, again⟩

end Intake

end EventLoop
