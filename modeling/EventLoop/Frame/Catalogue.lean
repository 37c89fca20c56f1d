import EventLoop.Fault
import EventLoop.Keyed
import EventLoop.Frame.Header

/-!
What can be sent, and what is accepted. A message knows its type, its lane and its payload. A
catalogue lists the types that are accepted, each with the largest payload a peer may declare and
with the way back from payload to message. The first listing of a type stands; later ones fail.
-/
namespace EventLoop

/-- `Message`: values that travel in frames. -/
class Message (M : Type) where
  type : M → UInt32
  name : M → String
  /-- Messages of one group are handled one after the other, in order of arrival. -/
  group : M → UInt64
  payload : M → List UInt8

/-- `encode`: the frame of a message, written behind what `out` holds. -/
def Frame.encode {M : Type} [Message M] (out : List UInt8) (message : M) : List UInt8 :=
  out ++ Frame.bytes (Message.type message) (Message.payload message)

/-- `ensure_remaining`: refuses a payload of which fewer than `needed` bytes are left. -/
def ensureRemaining (payload : List UInt8) (needed : Nat) (what : String) : Except Fault Unit :=
  if payload.length < needed then
    .error (.malformed (s!"{what}: need {needed} bytes, " ++ toString payload.length ++ " left"))
  else .ok ()

/-- The `Entry` of a `ProtocolRegistry`: how one type is accepted. Reading a payload by its
`DecodeFn` gives the message and the bytes it left unread. -/
structure Listing (M : Type) where
  name : String
  limit : UInt64
  unpack : List UInt8 → Except Fault (M × List UInt8)

/-- `Protocol`: a kind of message that can be received, with the type that its frames carry, its
name, the largest payload, and how a payload is read as a value of the kind. Every such value is a
message. -/
structure Kind (K M : Type) where
  type : UInt32
  name : String
  limit : UInt64
  unpack : List UInt8 → Except Fault (K × List UInt8)
  asMessage : K → M

/-- `decode_as`: how a kind is listed, which hands on what it reads as a message. -/
def Kind.listing {K M : Type} (kind : Kind K M) : Listing M where
  name := kind.name
  limit := kind.limit
  unpack payload :=
    (kind.unpack payload).map fun (value, unread) => (kind.asMessage value, unread)

/-- `ProtocolRegistry`, and the `RegistryBuilder` that makes it: the accepted types. -/
structure Catalogue (M : Type) where
  listings : Keyed UInt32 (Listing M) := {}

namespace Catalogue

variable {M : Type}

/-- `RegistryBuilder::register_type`: lists a type, unless it is listed already. -/
def register (catalogue : Catalogue M) (type : UInt32) (listing : Listing M) :
    Except Fault (Catalogue M) :=
  if catalogue.listings.contains type then .error (.duplicateType type)
  else .ok ⟨catalogue.listings.insert type listing⟩

/-- `RegistryBuilder::register`: lists a kind under its own type. -/
def registerKind {K : Type} (catalogue : Catalogue M) (kind : Kind K M) :
    Except Fault (Catalogue M) :=
  catalogue.register kind.type kind.listing

/-- `ProtocolRegistry::policy_max_size`: the largest payload that may be declared for a type; none
if the type is not listed. -/
def limit? (catalogue : Catalogue M) (type : UInt32) : Option UInt64 :=
  (catalogue.listings.get? type).map Listing.limit

/-- `ProtocolRegistry::check_policy`: whether a type is listed and a payload of `size` is within its
limit. -/
def allows (catalogue : Catalogue M) (type : UInt32) (size : UInt64) : Bool :=
  match catalogue.limit? type with
  | none => false
  | some limit => size ≤ limit

/-- `ProtocolRegistry::name`: the name of a listed type. -/
def name? (catalogue : Catalogue M) (type : UInt32) : Option String :=
  (catalogue.listings.get? type).map Listing.name

/-- `ProtocolRegistry::contains`: whether a type is listed. -/
def contains (catalogue : Catalogue M) (type : UInt32) : Bool := catalogue.listings.contains type

/-- `ProtocolRegistry::len`: how many types are listed. -/
def size (catalogue : Catalogue M) : Nat := catalogue.listings.size

/-- `ProtocolRegistry::unpack`: reads a payload as a message of the given type; none if the type is
not listed. -/
def unpack? (catalogue : Catalogue M) (type : UInt32) (payload : List UInt8) :
    Option (Except Fault (M × List UInt8)) :=
  (catalogue.listings.get? type).map fun listing => listing.unpack payload

end Catalogue

end EventLoop
