import EventLoop.Proofs.Frame.Cuts
import EventLoop.Session.Roster

/-! What can be done to sessions. Handlers and sinks reach sessions by a few
public acts only, and whatever they do in whatever order, a session keeps its
identity and its link, and bytes that come to wait in it come with a plea to its
loop. That is `Sessions.Later`, which every act keeps, and so does all that
connections do to their own sessions. -/
namespace EventLoop

/-- A plea of the kind that sessions make: who asks to be watched asks for input
and for room. -/
def Plea.Usual : Plea → Prop
  | .rearm _ _ interest => interest = .both
  | .remove .. => True

namespace Sessions

/-! ## Acts -/

/-- One act that anyone may do who holds a session or the roster. -/
inductive Act (M : Type) [Message M] : Sessions → Sessions → Prop where
  | send (message : M) (key : Nat) (sessions : Sessions) :
      Act M sessions (sessions.send message key).2
  | close (key : Nat) (sessions : Sessions) : Act M sessions (sessions.close key)
  | take (key : Nat) (sessions : Sessions) : Act M sessions (sessions.takeOutbound key).2
  | openDetached (id : UInt64) (sessions : Sessions) :
      Act M sessions (sessions.openSession (Session.detached id)).2
  | enroll (roster : Keyed UInt64 Nat) (sessions : Sessions) :
      Act M sessions { sessions with roster }

/-- Acts, one after the other. -/
inductive Acts (M : Type) [Message M] : Sessions → Sessions → Prop where
  | none (sessions : Sessions) : Acts M sessions sessions
  | act {early middle late : Sessions} (acts : Acts M early middle) (act : Act M middle late) :
      Acts M early late

private theorem Acts.trans {M : Type} [Message M] {early middle late : Sessions}
    (first : Acts M early middle) (second : Acts M middle late) : Acts M early late := by
  induction second with
  | none => exact first
  | act acts act ih => exact .act ih act

/-! ## Later sessions -/

/-- A session later on: who it is and where it is linked has not changed, and if
bytes wait in it now they did before or its loop is asked for room to write. -/
structure Keeps (pleas : List Plea) (before after : Session) : Prop where
  id : after.id = before.id
  link : after.link = before.link
  waits : after.outbound ≠ [] → before.outbound ≠ [] ∨
    ∀ handle, after.link = some handle → .rearm handle after.id .both ∈ pleas

/-- All sessions later on, while the loop behind them is there. -/
structure Later (before after : Sessions) : Prop where
  loopGone : after.loopGone = before.loopGone
  opened : before.opened ≤ after.opened
  pleas : ∀ plea ∈ before.pleas, plea ∈ after.pleas
  usual : ∀ plea ∈ after.pleas, plea ∈ before.pleas ∨ plea.Usual
  kept : before.loopGone = false → ∀ key session, key < before.opened →
    before.get? key = some session →
      ∃ later, after.get? key = some later ∧ Keeps after.pleas session later

private theorem Keeps.refl (pleas : List Plea) (session : Session) : Keeps pleas session session :=
  ⟨rfl, rfl, .inl⟩

theorem Later.refl (sessions : Sessions) : Later sessions sessions :=
  ⟨rfl, Nat.le_refl _, fun _ inside => inside, fun _ inside => .inl inside,
    fun _ _ session _ found => ⟨session, found, .refl _ session⟩⟩

theorem Later.trans {early middle late : Sessions} (first : Later early middle)
    (second : Later middle late) : Later early late := by
  refine ⟨second.loopGone.trans first.loopGone, Nat.le_trans first.opened second.opened,
    fun plea inside => second.pleas plea (first.pleas plea inside), ?_, ?_⟩
  · intro plea inside
    rcases second.usual plea inside with between | usual
    · exact first.usual plea between
    · exact .inr usual
  intro here key session old found
  obtain ⟨between, foundBetween, kept⟩ := first.kept here key session old found
  obtain ⟨later, foundLater, keptLater⟩ := second.kept (first.loopGone.trans here) key between
    (Nat.lt_of_lt_of_le old first.opened) foundBetween
  refine ⟨later, foundLater, keptLater.id.trans kept.id, keptLater.link.trans kept.link, ?_⟩
  intro waiting
  rcases keptLater.waits waiting with waited | asked
  · rcases kept.waits waited with waitedEarly | askedEarly
    · exact .inl waitedEarly
    · refine .inr fun handle linked => second.pleas _ ?_
      rw [keptLater.id]
      exact askedEarly handle (keptLater.link ▸ linked)
  · exact .inr asked

theorem get?_record (key probe : Nat) (session : Session) (asked : List Plea)
    (sessions : Sessions) :
    (sessions.record key session asked).get? probe =
      if probe = key then some session else sessions.get? probe :=
  sessions.book.get?_insert key probe session

/-- Writing back a session that keeps to what it was is later. -/
theorem later_record {sessions : Sessions} {key : Nat} {session after : Session}
    {asked : List Plea} (found : sessions.get? key = some session)
    (usual : ∀ plea ∈ asked, plea.Usual)
    (keeps : sessions.loopGone = false → Keeps (sessions.pleas ++ asked) session after) :
    Later sessions (sessions.record key after asked) := by
  refine ⟨rfl, Nat.le_refl _, fun plea inside => List.mem_append_left asked inside,
    fun plea inside => (List.mem_append.1 inside).imp id (usual plea), ?_⟩
  intro here probe other old foundOther
  rw [get?_record]
  by_cases same : probe = key
  · subst same
    rw [if_pos rfl]
    have equal : other = session := Option.some.inj (foundOther.symm.trans found)
    exact ⟨after, rfl, equal ▸ keeps here⟩
  · rw [if_neg same]
    exact ⟨other, foundOther, .refl _ other⟩

private theorem later_send {M : Type} [Message M] (message : M) (key : Nat) (sessions : Sessions) :
    Later sessions (sessions.send message key).2 := by
  unfold send
  cases found : sessions.get? key with
  | none => exact .refl sessions
  | some session =>
    have usual : ∀ plea ∈ (session.send message sessions.loopGone).2.2, plea.Usual := by
      unfold Session.send
      intro plea inside
      split at inside
      · cases inside
      · split at inside
        · cases inside
        · split at inside
          · cases inside
          · rw [List.mem_singleton.1 inside]
            rfl
    refine later_record found usual fun here => ?_
    unfold Session.send
    split
    · exact .refl _ session
    · split
      · rename_i unlinked
        exact ⟨rfl, rfl, fun _ => .inr fun handle linked => by
          cases unlinked.symm.trans linked⟩
      · rename_i handle linked
        rw [here]
        simp only [Bool.false_eq_true, ↓reduceIte]
        refine ⟨rfl, rfl, fun _ => .inr ?_⟩
        intro other linkedOther
        have same : handle = other := Option.some.inj (linked.symm.trans linkedOther)
        rw [same]
        exact List.mem_append_right _ (List.mem_singleton.2 rfl)

private theorem later_close (key : Nat) (sessions : Sessions) :
    Later sessions (sessions.close key) := by
  unfold close
  cases found : sessions.get? key with
  | none => exact .refl sessions
  | some session =>
    have kept : Keeps (sessions.pleas ++ (session.close sessions.loopGone).2) session
        (session.close sessions.loopGone).1 := by
      unfold Session.close
      split
      · exact .refl _ session
      · exact ⟨rfl, rfl, .inl⟩
    have usual : ∀ plea ∈ (session.close sessions.loopGone).2, plea.Usual := by
      unfold Session.close
      intro plea inside
      split at inside
      · cases inside
      · simp only at inside
        split at inside
        · cases inside
        · split at inside
          · cases inside
          · rw [List.mem_singleton.1 inside]
            trivial
    exact later_record found usual fun _ => kept

theorem later_markClosed (key : Nat) (sessions : Sessions) :
    Later sessions (sessions.markClosed key) := by
  unfold markClosed
  cases found : sessions.get? key with
  | none => exact .refl sessions
  | some session => exact later_record found (fun _ none => by cases none) fun _ => ⟨rfl, rfl, .inl⟩

theorem later_takeOutbound (key : Nat) (sessions : Sessions) :
    Later sessions (sessions.takeOutbound key).2 := by
  unfold takeOutbound
  cases found : sessions.get? key with
  | none => exact .refl sessions
  | some session =>
    exact later_record found (fun _ none => by cases none)
      fun _ => ⟨rfl, rfl, fun waits => absurd rfl waits⟩

theorem pleas_takeOutbound (key : Nat) (sessions : Sessions) :
    (sessions.takeOutbound key).2.pleas = sessions.pleas := by
  unfold takeOutbound
  cases sessions.get? key with
  | none => rfl
  | some session => exact List.append_nil sessions.pleas

theorem pleas_markClosed (key : Nat) (sessions : Sessions) :
    (sessions.markClosed key).pleas = sessions.pleas := by
  unfold markClosed
  cases sessions.get? key with
  | none => rfl
  | some session => exact List.append_nil sessions.pleas

theorem takePleas_of_silent {sessions : Sessions} (silent : sessions.pleas = []) :
    sessions.takePleas.2 = sessions := by
  cases sessions
  cases silent
  rfl

theorem later_openSession (session : Session) (sessions : Sessions) :
    Later sessions (sessions.openSession session).2 := by
  refine ⟨rfl, Nat.le_succ _, fun _ inside => inside, fun _ inside => .inl inside, ?_⟩
  intro _ key other old found
  refine ⟨other, ?_, .refl _ other⟩
  have inserted := sessions.book.get?_insert sessions.opened key session
  rw [if_neg (Nat.ne_of_lt old)] at inserted
  exact inserted.trans found

private theorem later_roster (roster : Keyed UInt64 Nat) (sessions : Sessions) :
    Later sessions { sessions with roster } :=
  ⟨rfl, Nat.le_refl _, fun _ inside => inside, fun _ inside => .inl inside,
    fun _ _ session _ found => ⟨session, found, .refl _ session⟩⟩

theorem later_enlist (key : Nat) (sessions : Sessions) : Later sessions (sessions.enlist key) := by
  unfold enlist
  split
  · exact .refl sessions
  · exact later_roster _ sessions

theorem later_strike (id : UInt64) (sessions : Sessions) : Later sessions (sessions.strike id).2 :=
  later_roster _ sessions

/-- **Bytes that come to wait come with a plea**, whatever acts brought them. -/
theorem Acts.later {M : Type} [Message M] {before after : Sessions} (acts : Acts M before after) :
    Later before after := by
  induction acts with
  | none => exact .refl before
  | act acts act ih =>
    refine ih.trans ?_
    cases act with
    | send message key => exact later_send message key _
    | close key => exact later_close key _
    | take key => exact later_takeOutbound key _
    | openDetached id => exact later_openSession _ _
    | enroll roster => exact later_roster roster _

end Sessions

/-! ## Honest sinks -/

/-- A sink that reaches sessions by public acts only. -/
def Sink.Honest {M D : Type} [Message M] (sink : Sink M (Sessions × D)) : Prop :=
  ∀ group task office, Sessions.Acts M office.1 (sink.submit group task office).2.1

variable {M D : Type} [Message M] {sink : Sink M (Sessions × D)}

private theorem takeFrames_acts (honest : sink.Honest) (intake : Intake M) (session count : Nat)
    (buffer : List UInt8) (office : Sessions × D) :
    Sessions.Acts M office.1 (intake.takeFrames sink session buffer count office).state.1 := by
  induction buffer using intake.buffer_induction generalizing count office with
  | partialFrame buffer seen =>
    rw [Intake.takeFrames_partial seen]
    exact .none office.1
  | rejected buffer breach seen =>
    rw [Intake.takeFrames_rejected seen]
    exact .none office.1
  | whole buffer header payload rest seen ih =>
    rw [Intake.takeFrames_whole seen]
    split
    · exact .none office.1
    · exact .none office.1
    · rename_i message _ _
      have submitted := honest (Message.group message) ⟨message, session⟩ office
      simp only
      split
      · exact submitted.trans (ih _ _)
      · exact submitted

theorem decode_acts (honest : sink.Honest) (intake : Intake M) (session : Nat)
    (buffer : List UInt8) (office : Sessions × D) :
    Sessions.Acts M office.1 (intake.decode sink session buffer office).state.1 := by
  unfold Intake.decode
  split
  · exact .none office.1
  · exact takeFrames_acts honest intake session 0 buffer office

end EventLoop
