/-!
Signals as input of a loop. A delivery writes one byte into a pipe, or nothing if the pipe is full;
that is all that may be done while a signal is being handled. The listener owns the reading end.
Told that there is input, it reads the pipe empty and runs its callback once if it found anything,
so that several deliveries may share one run. Deliveries may come at any moment, also between two
reads, and therefore a listener is given here step by step.
-/
namespace EventLoop

/-- `SignalEvent::new`, its check: whether the process may not install a handler for a signal. -/
def Signal.isReserved (number : Int) : Bool := [4, 8, 9, 11, 19].contains number

/-- Whether there is a signal of this number to install a handler for. The two in the gap belong to
the thread library. -/
def Signal.isKnown (number : Int) : Bool := 1 ≤ number && number ≤ 64 && number ≠ 32 && number ≠ 33

/-- The pair of sockets behind a `SignalEvent`: a pipe with room for `room` bytes, of which
`pending` have not been read. -/
structure SignalPipe where
  room : Nat
  pending : Nat := 0
deriving DecidableEq, Repr, Inhabited

namespace SignalPipe

/-- What the handler that `SignalEvent::new` registers does: writes the byte of a delivery. -/
def deliver (pipe : SignalPipe) : SignalPipe :=
  if pipe.pending < pipe.room then { pipe with pending := pipe.pending + 1 } else pipe

/-- Takes up to `most` bytes. -/
def take (most : Nat) (pipe : SignalPipe) : SignalPipe :=
  { pipe with pending := pipe.pending - most }

end SignalPipe

/-- Where a listener stands: waiting for a notification, or in the middle of reading. -/
inductive Attention where
  | idle
  | reading (found : Bool)
deriving DecidableEq, Repr, Inhabited

/-- `SignalEvent`: a listener, and how often its callback has run. -/
structure SignalListener where
  pipe : SignalPipe
  attention : Attention := .idle
  runs : Nat := 0
deriving DecidableEq, Repr, Inhabited

/-- What can happen to a listener, in any order. -/
inductive SignalStep where
  | delivery
  /-- The listener is told that there is input. -/
  | notified
  /-- One read, which gets up to `most + 1` bytes, or learns that there are none. -/
  | read (most : Nat)
  /-- One read that is cut short and will be tried again. -/
  | interrupted
  /-- One read that fails or meets the end of the pipe. -/
  | failed
deriving DecidableEq, Repr

namespace SignalListener

/-- `SignalEvent::drain`, its return, and what `SignalEvent::handle_event` does then: ends the
reading, and runs the callback if anything was found. -/
def conclude (found : Bool) (listener : SignalListener) : SignalListener :=
  { listener with
    attention := .idle
    runs := if found then listener.runs + 1 else listener.runs }

/-- One step: a delivery, `SignalEvent::handle_event` being called, or one read in the loop of
`SignalEvent::drain`. A read happens only in the middle of reading. -/
def step (listener : SignalListener) : SignalStep → SignalListener
  | .delivery => { listener with pipe := listener.pipe.deliver }
  | .notified =>
    match listener.attention with
    | .idle => { listener with attention := .reading false }
    | .reading _ => listener
  | .read most =>
    match listener.attention with
    | .idle => listener
    | .reading found =>
      if listener.pipe.pending = 0 then listener.conclude found
      else { listener with
        pipe := listener.pipe.take (most + 1)
        attention := .reading true }
  | .interrupted => listener
  | .failed =>
    match listener.attention with
    | .idle => listener
    | .reading found => listener.conclude found

/-- `SignalEvent::handle_event` where nothing else happens during it: reads of 64 bytes until there
are none. -/
def hear (listener : SignalListener) : SignalListener :=
  let reads := List.replicate (listener.pipe.pending / 64 + 2) (SignalStep.read 63)
  reads.foldl step (listener.step .notified)

end SignalListener

end EventLoop
