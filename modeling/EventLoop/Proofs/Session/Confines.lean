import EventLoop.Proofs.Session.Closings

/-! Somebody who holds one session and nothing else reaches no other. What it does changes that
session alone and leaves the roster as it is; and what the session asks of the loop it asks in its
own name. The same holds of what a connection does to its session while it is there. -/
namespace EventLoop

/-- Whom a session speaks for: its identity, and the handle of the connection behind it. -/
def Session.name (session : Session) : UInt64 × Option Handle := (session.id, session.link)

/-- In whose name a plea is made. -/
def Plea.name : Plea → UInt64 × Option Handle
  | .rearm handle generation _ => (generation, some handle)
  | .remove handle generation => (generation, some handle)

/-- A session that sends goes on speaking for whom it spoke, and asks in that name. -/
theorem Session.send_name {M : Type} [Message M] (message : M) (loopGone : Bool)
    (session : Session) :
    (session.send message loopGone).2.1.name = session.name ∧
      ∀ plea ∈ (session.send message loopGone).2.2, plea.name = session.name := by
  unfold send
  split
  · exact ⟨rfl, List.forall_mem_nil _⟩
  · simp only
    split
    · exact ⟨rfl, List.forall_mem_nil _⟩
    · next handle link =>
      split
      · exact ⟨rfl, List.forall_mem_nil _⟩
      · refine ⟨rfl, List.forall_mem_singleton.2 ?_⟩
        rw [name, link]
        rfl

private theorem Session.close_name (loopGone : Bool) (session : Session) :
    (session.close loopGone).1.name = session.name ∧
      ∀ plea ∈ (session.close loopGone).2, plea.name = session.name := by
  unfold close
  split
  · exact ⟨rfl, List.forall_mem_nil _⟩
  · simp only
    split
    · exact ⟨rfl, List.forall_mem_nil _⟩
    · next handle link =>
      split
      · exact ⟨rfl, List.forall_mem_nil _⟩
      · refine ⟨rfl, List.forall_mem_singleton.2 ?_⟩
        rw [name, link]
        rfl

namespace Sessions

/-- One act on the session `key` by somebody who holds it. -/
inductive OwnAct (M : Type) [Message M] (key : Nat) : Sessions → Sessions → Prop where
  | send (message : M) (sessions : Sessions) : OwnAct M key sessions (sessions.send message key).2
  | close (sessions : Sessions) : OwnAct M key sessions (sessions.close key)
  | take (sessions : Sessions) : OwnAct M key sessions (sessions.takeOutbound key).2

/-- Such acts, one after the other. -/
inductive OwnActs (M : Type) [Message M] (key : Nat) : Sessions → Sessions → Prop where
  | none (sessions : Sessions) : OwnActs M key sessions sessions
  | act {early middle late : Sessions} (acts : OwnActs M key early middle)
      (act : OwnAct M key middle late) : OwnActs M key early late

/-- What may have become of sessions when only the session `key` was touched. -/
structure Confined (key : Nat) (early late : Sessions) : Prop where
  others : ∀ other, other ≠ key → late.get? other = early.get? other
  own : (late.get? key).map Session.name = (early.get? key).map Session.name
  roster : late.roster = early.roster
  loopGone : late.loopGone = early.loopGone
  pleas : ∃ more, late.pleas = early.pleas ++ more ∧
    ∀ plea ∈ more, (early.get? key).map Session.name = some plea.name

variable {key : Nat} {early middle late sessions : Sessions}

theorem Confined.refl (key : Nat) (sessions : Sessions) : Confined key sessions sessions :=
  ⟨fun _ _ => rfl, rfl, rfl, rfl, [], (List.append_nil _).symm, List.forall_mem_nil _⟩

theorem Confined.trans (first : Confined key early middle) (second : Confined key middle late) :
    Confined key early late := by
  obtain ⟨asked, grown, named⟩ := first.pleas
  obtain ⟨more, grownOn, namedOn⟩ := second.pleas
  refine ⟨fun other apart => (second.others other apart).trans (first.others other apart),
    second.own.trans first.own, second.roster.trans first.roster,
    second.loopGone.trans first.loopGone, asked ++ more, ?_, ?_⟩
  · rw [grownOn, grown, List.append_assoc]
  · rw [first.own] at namedOn
    exact List.forall_mem_append.2 ⟨named, namedOn⟩

/-- Writing back a session that speaks for whom it spoke, and asks in that name. -/
theorem confined_record {session after : Session} {asked : List Plea}
    (found : sessions.get? key = some session) (name : after.name = session.name)
    (named : ∀ plea ∈ asked, plea.name = session.name) :
    Confined key sessions (sessions.record key after asked) := by
  refine ⟨fun other apart => ?_, ?_, rfl, rfl, asked, rfl, fun plea inside => ?_⟩
  · rw [get?_record, if_neg apart]
  · rw [get?_record, if_pos rfl, found]
    exact congrArg some name
  · rw [found, named plea inside]
    rfl

private theorem confined_send {M : Type} [Message M] (message : M) (key : Nat)
    (sessions : Sessions) :
    Confined key sessions (sessions.send message key).2 := by
  unfold send
  split
  · exact .refl key sessions
  · next session found =>
    obtain ⟨name, named⟩ := session.send_name message sessions.loopGone
    exact confined_record found name named

private theorem confined_close (key : Nat) (sessions : Sessions) :
    Confined key sessions (sessions.close key) := by
  unfold close
  split
  · exact .refl key sessions
  · next session found =>
    obtain ⟨name, named⟩ := session.close_name sessions.loopGone
    exact confined_record found name named

theorem confined_takeOutbound (key : Nat) (sessions : Sessions) :
    Confined key sessions (sessions.takeOutbound key).2 := by
  unfold takeOutbound
  split
  · exact .refl key sessions
  · next found => exact confined_record found rfl (List.forall_mem_nil _)

theorem confined_markClosed (key : Nat) (sessions : Sessions) :
    Confined key sessions (sessions.markClosed key) := by
  unfold markClosed
  split
  · exact .refl key sessions
  · next found => exact confined_record found rfl (List.forall_mem_nil _)

variable {M : Type} [Message M]

/-- **Whoever holds one session reaches no other.** -/
theorem OwnActs.confined (acts : OwnActs M key early late) : Confined key early late := by
  induction acts with
  | none => exact .refl key _
  | act acts act ih =>
    refine ih.trans ?_
    cases act with
    | send message => exact confined_send message key _
    | close => exact confined_close key _
    | take => exact confined_takeOutbound key _

/-- Whoever holds one session does no more than whoever holds them all. -/
theorem OwnActs.acts (acts : OwnActs M key early late) : Acts M early late := by
  induction acts with
  | none => exact .none _
  | act acts act ih =>
    refine ih.act ?_
    cases act with
    | send message => exact .send message key _
    | close => exact .close key _
    | take => exact .take key _

end Sessions

/-- A sink whose handlers use no session but the one that they were handed with. -/
def Sink.Private {M D : Type} [Message M] (sink : Sink M (Sessions × D)) : Prop :=
  ∀ group task office,
    Sessions.OwnActs M task.session office.1 (sink.submit group task office).2.1

end EventLoop
