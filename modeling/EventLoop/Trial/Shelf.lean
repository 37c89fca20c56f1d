import EventLoop.Keyed
import EventLoop.Pool

/-!
Buffers from a pool, held in named slots. A slot's buffer goes back when the slot is emptied or
filled anew; one that is taken out does not.
-/
namespace EventLoop.Trial

structure Shelf where
  pool : Pool (List UInt8)
  slots : Keyed String (List UInt8) := {}
  hasTwin : Bool := true

namespace Shelf

/-- The buffers of a shelf: `size` bytes that tell how many were made before. -/
def make (size : Nat) (made : Nat) : List UInt8 := List.replicate size (UInt8.ofNat made)

/-- A shelf with a full pool and no slots. -/
def setUp (capacity size : Nat) : Shelf := { pool := Pool.full capacity (make size) }

def contents (slot : String) (shelf : Shelf) : List UInt8 := (shelf.slots.get? slot).getD []

/-- Lets go of what a slot holds. -/
def release (slot : String) (shelf : Shelf) : Shelf :=
  match shelf.slots.get? slot with
  | none => shelf
  | some bytes =>
    { shelf with pool := (shelf.pool.release bytes).2, slots := shelf.slots.erase slot }

/-- Writes the contents of a slot. -/
def write (slot : String) (bytes : List UInt8) (shelf : Shelf) : Shelf :=
  { shelf with slots := shelf.slots.insert slot bytes }

/-- Acquires a buffer, and only then lets go of what the slot held. -/
def acquire (size : Nat) (slot : String) (shelf : Shelf) : Shelf :=
  let (bytes, pool) := shelf.pool.acquire (make size)
  ({ shelf with pool }.release slot).write slot bytes

/-- Takes a buffer out for good. -/
def takeOut (slot : String) (shelf : Shelf) : Shelf :=
  { shelf with slots := shelf.slots.erase slot }

end Shelf

end EventLoop.Trial
