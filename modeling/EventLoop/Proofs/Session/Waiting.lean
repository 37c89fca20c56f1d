import EventLoop.Proofs.Server.Outflow
import EventLoop.Proofs.Session.Closings

/-! What waits in sessions. Only two acts change it: a send puts one frame behind what waits, and
taking leaves nothing. A send also does so when its loop is gone, though it fails then. Every other
act leaves what waits alone, in all sessions. -/
namespace EventLoop

/-- A message that was sent on a session, and what became of it. -/
structure Speech (M : Type) where
  key : Nat
  message : M
  outcome : Except Fault Unit

namespace Sessions

/-- What waits to be sent on a session. Nothing waits where there is no session. -/
def waiting (key : Nat) (sessions : Sessions) : List UInt8 :=
  ((sessions.get? key).map Session.outbound).getD []

/-- Whether a send has written its frame. -/
def isWritten : Except Fault Unit → Bool
  | .ok () => true
  | .error .loopGone => true
  | .error _ => false

/-- Acts on sessions by which nothing is sent and nothing is taken. -/
inductive Hushed : Sessions → Sessions → Prop where
  | close (key : Nat) (sessions : Sessions) : Hushed sessions (sessions.close key)
  | markClosed (key : Nat) (sessions : Sessions) : Hushed sessions (sessions.markClosed key)
  | open (session : Session) (silent : session.outbound = []) (sessions : Sessions) :
      Hushed sessions (sessions.openSession session).2
  | around (roster : Keyed UInt64 Nat) (pleas : List Plea) (loopGone : Bool)
      (sessions : Sessions) : Hushed sessions { sessions with roster, pleas, loopGone }

/-- The act on one session that leaves these bytes waiting in it. -/
structure Leaves (key : Nat) (bytes : List UInt8) (before after : Sessions) : Prop where
  numbered : after.Numbered
  waiting : ∀ probe, after.waiting probe = if probe = key then bytes else before.waiting probe

variable {sessions before after : Sessions} {key : Nat}

theorem waiting_of_found {session : Session} (found : sessions.get? key = some session) :
    sessions.waiting key = session.outbound := by
  rw [waiting, found]
  rfl

theorem waiting_of_missing (missing : sessions.get? key = none) : sessions.waiting key = [] := by
  rw [waiting, missing]
  rfl

theorem leaves_same (numbered : sessions.Numbered) :
    Leaves key (sessions.waiting key) sessions sessions := by
  refine ⟨numbered, fun probe => ?_⟩
  split
  · next same => rw [same]
  · rfl

private theorem leaves_record {session later : Session} {bytes : List UInt8} {asked : List Plea}
    (numbered : sessions.Numbered) (found : sessions.get? key = some session)
    (outbound : later.outbound = bytes) :
    Leaves key bytes sessions (sessions.record key later asked) := by
  refine ⟨numbered_record numbered found, fun probe => ?_⟩
  rw [waiting, get?_record]
  split
  · exact outbound
  · rfl

private theorem outbound_send {M : Type} [Message M] (message : M) (loopGone : Bool)
    (session : Session) :
    (session.send message loopGone).2.1.outbound =
      if isWritten (session.send message loopGone).1 then Frame.encode session.outbound message
      else session.outbound := by
  unfold Session.send
  cases session.closed with
  | true => rfl
  | false =>
    cases session.link with
    | none => rfl
    | some handle => cases loopGone <;> rfl

/-- A send puts its frame behind what waits, or nothing. -/
theorem sendUnder_leaves {M : Type} [Message M] (numbered : sessions.Numbered) (closed : Bool)
    (message : M) (key : Nat) :
    Leaves key
      (if isWritten (sessions.sendUnder closed message key).1 then
        Frame.encode (sessions.waiting key) message
      else sessions.waiting key)
      sessions (sessions.sendUnder closed message key).2 := by
  cases found : sessions.get? key with
  | none =>
    simp only [sendUnder, found, isWritten]
    exact leaves_same numbered
  | some session =>
    simp only [sendUnder, found, waiting_of_found found]
    exact leaves_record numbered found
      (outbound_send message sessions.loopGone { session with closed })

/-- What is taken is what waited, and nothing waits then. -/
theorem takeOutbound_leaves (numbered : sessions.Numbered) (key : Nat) :
    (sessions.takeOutbound key).1 = sessions.waiting key ∧
      Leaves key [] sessions (sessions.takeOutbound key).2 := by
  unfold takeOutbound
  cases found : sessions.get? key with
  | none =>
    have same : Leaves key (sessions.waiting key) sessions sessions := leaves_same numbered
    rw [waiting_of_missing found] at same
    exact ⟨(waiting_of_missing found).symm, same⟩
  | some session =>
    exact ⟨(waiting_of_found found).symm, leaves_record numbered found rfl⟩

/-- To leave what waited is to change nothing. -/
theorem Leaves.quiet (leaves : Leaves key (before.waiting key) before after) :
    after.Numbered ∧ ∀ probe, after.waiting probe = before.waiting probe := by
  refine ⟨leaves.numbered, fun probe => ?_⟩
  rw [leaves.waiting]
  split
  · next own => rw [own]
  · rfl

/-- **Other acts leave what waits alone.** -/
theorem Hushed.quiet (hushed : Hushed before after) (numbered : before.Numbered) :
    after.Numbered ∧ ∀ probe, after.waiting probe = before.waiting probe := by
  cases hushed with
  | close key =>
    unfold Sessions.close
    cases found : before.get? key with
    | none => exact ⟨numbered, fun _ => rfl⟩
    | some session =>
      have kept : (session.close before.loopGone).1.outbound = before.waiting key := by
        rw [waiting_of_found found, Session.close]
        split <;> rfl
      exact (leaves_record numbered found kept).quiet
  | markClosed key =>
    unfold Sessions.markClosed
    cases found : before.get? key with
    | none => exact ⟨numbered, fun _ => rfl⟩
    | some session =>
      have kept : session.markClosed.outbound = before.waiting key :=
        (waiting_of_found found).symm
      exact (leaves_record numbered found kept).quiet
  | «open» session silent =>
    refine ⟨numbered_openSession numbered session, fun probe => ?_⟩
    rw [waiting, get?_openSession]
    split
    · next fresh =>
      rw [fresh, waiting_of_missing (get?_opened numbered)]
      exact silent
    · rfl
  | around roster pleas loopGone => exact ⟨numbered, fun _ => rfl⟩

end Sessions

end EventLoop
