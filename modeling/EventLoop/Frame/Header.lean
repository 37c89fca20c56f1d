import EventLoop.Bytes

/-!
The wire format. A frame is a header of twelve bytes, the type of its message and the size of its
payload, followed by the payload. Nothing marks where a frame starts: the reader finds the next
one only by having understood the last.
-/
namespace EventLoop.Frame

/-- `HEADER_LEN`: four bytes of type and eight bytes of size. -/
def headerLength : Nat := 12

/-- The type and the size that a frame begins with. -/
structure Header where
  type : UInt32
  size : UInt64
deriving DecidableEq, Repr, Inhabited

/-- The twelve bytes that `encode` writes for a header. -/
def Header.bytes (header : Header) : List UInt8 :=
  bigEndian 4 header.type.toNat ++ bigEndian 8 header.size.toNat

/-- `Decoder::decode`, the first step of its loop: the header at the front of a buffer, if the
buffer holds a whole one. -/
def Header.read? (buffer : List UInt8) : Option Header :=
  let front := buffer.take headerLength
  if front.length < headerLength then none
  else some ⟨UInt32.ofNat (ofBigEndian (front.take 4)), UInt64.ofNat (ofBigEndian (front.drop 4))⟩

/-- `Decoder::decode`, the length it waits for: how many bytes a frame with a payload of `size`
takes. A size that no buffer could hold makes a length that no buffer can reach. -/
def length (size : UInt64) : Nat := min (headerLength + size.toNat) 18446744073709551615

/-- What `encode` writes: a whole frame, the header for `payload`, and `payload`. -/
def bytes (type : UInt32) (payload : List UInt8) : List UInt8 :=
  (Header.mk type (UInt64.ofNat payload.length)).bytes ++ payload

@[simp] theorem Header.length_bytes (header : Header) : header.bytes.length = headerLength := by
  simp [Header.bytes, headerLength]

theorem headerLength_le_length (size : UInt64) : headerLength ≤ length size := by
  simp only [length, headerLength]
  omega

end EventLoop.Frame
