import EventLoop.Loop.Basic
import EventLoop.Session.Basic

/-!
How a loop heeds its sessions. A plea is sent like any order from elsewhere, and names the
generation it means.
-/
namespace EventLoop

variable {B C W : Type}

/-- `ReactorHandle::rearm` and `ReactorHandle::remove`: the change that a plea asks for, for the
generation it names. -/
def Plea.change : Plea → Change B C
  | .rearm handle generation interest =>
    .rearm { handle, generation := some generation } interest
  | .remove handle generation => .remove { handle, generation := some generation }

/-- The order that a plea is sent as. -/
def Plea.order (plea : Plea) : Order B C := .change plea.change

/-- Sends pleas to a loop, in order. -/
def Loop.heed (conduct : Conduct B C W) (pleas : List Plea) (loop : Loop B C W) : Loop B C W :=
  (pleas.map Plea.order).foldl (Loop.carryOut conduct) loop

end EventLoop
