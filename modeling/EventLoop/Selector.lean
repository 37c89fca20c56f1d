import EventLoop.Event

/-!
The selector brings objects to the poller and takes them off it. It follows each object's standing,
keeps the set of handles whose input means a connection to accept, and owns no object.
-/
namespace EventLoop

/-- `Multiplexer`: the poller, the handles that listen, and the room for entries of one poll. -/
structure Selector where
  poller : Poller := {}
  listeners : List Handle := []
  capacity : Nat := 1024

/-- The outcome of one `Multiplexer::register`: the fault if there was one, and the object, the
selector and the world afterwards. -/
structure Registered (B W : Type) where
  outcome : Except Fault Unit
  event : Event B
  selector : Selector
  world : W

namespace Selector

variable {B C W : Type}

/-- `Multiplexer::is_listener`: whether input at the handle means a connection to accept. -/
def isListener (handle : Handle) (selector : Selector) : Bool := selector.listeners.contains handle

/-- `Multiplexer::register`, its last step: marks the handle as listening if the mask says so. -/
def mark (handle : Handle) (mask : Interest) (selector : Selector) : Selector :=
  if mask.includes .accept && !selector.isListener handle then
    { selector with listeners := handle :: selector.listeners }
  else selector

/-- `Multiplexer::forget_listener`: takes the mark away. -/
def forgetListener (handle : Handle) (selector : Selector) : Selector :=
  { selector with listeners := selector.listeners.filter (· ≠ handle) }

/-- `Multiplexer::register` once the source's call has gone through: watches the source of an object
for what `mask` wants of a poller. -/
def watch (conduct : Conduct B C W) (event : Event B) (mask : Interest) (wanted : Readiness)
    (world : W) (selector : Selector) : Selector :=
  { selector with
    poller := selector.poller.watch event.source event.handle.token wanted
      (conduct.level world event.source) }.mark event.handle mask

/-- `Multiplexer::register`: registers an object that is absent, or changes the registration of one
that is added. The mask is looked at first, then the handle, then the standing, and only then is the
source called; on every fault all is left as it was but for what the call did to the world. -/
def register (conduct : Conduct B C W) (mask : Interest) (event : Event B) (world : W)
    (selector : Selector) : Registered B W :=
  if mask.isEmpty then ⟨.error (.invalidArgument .emptyMask), event, selector, world⟩
  else
    match mask.readiness? with
    | none => ⟨.error (.invalidArgument .noReadiness), event, selector, world⟩
    | some wanted =>
      if event.handle < 0 then
        ⟨.error (.invalidArgument .negativeHandle), event, selector, world⟩
      else
        match event.standing with
        | .absent =>
          match conduct.call (.register event.handle.token wanted) event world with
          | (some cause, world) =>
            ⟨.error (.refusedBySystem event.handle cause), event, selector, world⟩
          | (none, world) =>
            ⟨.ok (), { event with standing := .added },
              selector.watch conduct event mask wanted world, world⟩
        | .added =>
          match conduct.call (.reregister event.handle.token wanted)
              { event with standing := .rearming } world with
          | (some cause, world) =>
            ⟨.error (.refusedBySystem event.handle cause), event, selector, world⟩
          | (none, world) =>
            ⟨.ok (), event, selector.watch conduct event mask wanted world, world⟩
        | .rearming =>
          ⟨.error (.invalidState event.handle .rearming "register"), event, selector, world⟩

/-- `Multiplexer::unregister`: takes an object off the poller if it is added. Whether the source's
call succeeds does not matter to its standing; the poller goes on watching a source that refused to
leave. The mark of a listener stays until it is forgotten. -/
def unregister (conduct : Conduct B C W) (event : Event B) (world : W) (selector : Selector) :
    Event B × Selector × W :=
  if event.standing = .added then
    let event := { event with standing := .absent }
    match conduct.call .deregister event world with
    | (none, world) =>
      (event, { selector with poller := selector.poller.forget event.source }, world)
    | (some _, world) => (event, selector, world)
  else (event, selector, world)

end Selector

end EventLoop
