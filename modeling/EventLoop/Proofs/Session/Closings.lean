import EventLoop.Proofs.Session.Acts

/-! What becomes of sessions over time. A session keeps who it is and where it is linked, and
once it is closed it stays closed; no act gives an identity to a connection or takes one away.
Asking to be removed goes with being closed: whoever comes to be closed by an act asks for it,
and nobody asks a second time, which is counted over all sessions that a plea could come from. -/
namespace EventLoop

namespace Session

/-- The identity that a session has if a connection is behind it. -/
def given? (session : Session) : Option UInt64 := session.link.map fun _ => session.id

/-- Whether a session is closed that a connection of this handle and identity was behind. -/
def isOver (handle : Handle) (id : UInt64) (session : Session) : Bool :=
  session.closed && session.id = id && session.link = some handle

/-- A session later on. -/
structure Lasting (before after : Session) : Prop where
  id : after.id = before.id
  link : after.link = before.link
  closed : before.closed = true → after.closed = true

theorem Lasting.refl (session : Session) : Lasting session session :=
  ⟨rfl, rfl, fun closed => closed⟩

theorem Lasting.trans {before middle after : Session} (first : Lasting before middle)
    (second : Lasting middle after) : Lasting before after :=
  ⟨second.id.trans first.id, second.link.trans first.link,
    fun closed => second.closed (first.closed closed)⟩

private theorem Lasting.given? {before after : Session} (lasting : Lasting before after) :
    after.given? = before.given? := by
  rw [Session.given?, lasting.link, lasting.id]
  rfl

end Session

namespace Sessions

/-- Every session has a number that has been given out. -/
def Numbered (sessions : Sessions) : Prop :=
  ∀ key session, sessions.get? key = some session → key < sessions.opened

/-- The identities that sessions of connections have, in the order in which they were opened. -/
def given (sessions : Sessions) : List UInt64 := sessions.book.values.filterMap Session.given?

/-- How many sessions are closed that a connection of this handle and identity was behind. -/
def ceased (handle : Handle) (id : UInt64) (sessions : Sessions) : Nat :=
  sessions.book.values.countP (Session.isOver handle id)

/-- All sessions later on. -/
structure Lasts (before after : Sessions) : Prop where
  loopGone : after.loopGone = before.loopGone
  numbered : after.Numbered
  kept : ∀ key session, before.get? key = some session →
    ∃ later, after.get? key = some later ∧ Session.Lasting session later
  unlinked : ∀ key later, before.get? key = none → after.get? key = some later → later.link = none
  given : after.given = before.given
  pleas : ∀ plea ∈ before.pleas, plea ∈ after.pleas
  balance : ∀ handle id,
    after.pleas.count (.remove handle id) + before.ceased handle id ≤
      before.pleas.count (.remove handle id) + after.ceased handle id

/-- Sessions later on, when others may have been opened. -/
structure Onward (before after : Sessions) : Prop where
  kept : ∀ key session, before.get? key = some session →
    ∃ later, after.get? key = some later ∧ Session.Lasting session later
  given : before.given <+: after.given

/-- Whoever has come to be closed has asked to be removed, but for the session `own`. -/
def Asks (own : Option Nat) (before after : Sessions) : Prop :=
  before.loopGone = false → ∀ key session later handle, own ≠ some key →
    before.get? key = some session → after.get? key = some later → later.closed = true →
      later.link = some handle →
        session.closed = true ∨ .remove handle later.id ∈ after.pleas

variable {own : Option Nat} {before middle after sessions : Sessions} {key : Nat}

theorem Lasts.refl (numbered : sessions.Numbered) : Lasts sessions sessions where
  loopGone := rfl
  numbered := numbered
  kept _ session found := ⟨session, found, .refl session⟩
  unlinked key later missing found := by cases missing.symm.trans found
  given := rfl
  pleas _ inside := inside
  balance _ _ := Nat.le_refl _

theorem Lasts.trans (first : Lasts before middle) (second : Lasts middle after) :
    Lasts before after where
  loopGone := second.loopGone.trans first.loopGone
  numbered := second.numbered
  kept key session found := by
    obtain ⟨between, foundBetween, lasting⟩ := first.kept key session found
    obtain ⟨later, foundLater, lastingLater⟩ := second.kept key between foundBetween
    exact ⟨later, foundLater, lasting.trans lastingLater⟩
  unlinked key later missing found := by
    cases between : middle.get? key with
    | none => exact second.unlinked key later between found
    | some session =>
      obtain ⟨same, foundSame, lasting⟩ := second.kept key session between
      cases found.symm.trans foundSame
      exact lasting.link.trans (first.unlinked key session missing between)
  given := second.given.trans first.given
  pleas plea inside := second.pleas plea (first.pleas plea inside)
  balance handle id := by
    have early := first.balance handle id
    have late := second.balance handle id
    omega

theorem Asks.refl (own : Option Nat) (sessions : Sessions) : Asks own sessions sessions :=
  fun _ _ _ _ _ _ found foundLater closed _ => by
    cases found.symm.trans foundLater
    exact .inl closed

theorem Asks.trans (first : Asks own before middle) (second : Asks own middle after)
    (lasts : Lasts before middle) (lastsOn : Lasts middle after) : Asks own before after := by
  intro here key session later handle other found foundLater closed linked
  obtain ⟨between, foundBetween, _⟩ := lasts.kept key session found
  obtain ⟨_, foundSame, lasting⟩ := lastsOn.kept key between foundBetween
  cases foundLater.symm.trans foundSame
  rcases second (lasts.loopGone.trans here) key between later handle other foundBetween foundLater
    closed linked with closedBetween | asked
  · rcases first here key session between handle other found foundBetween closedBetween
      (lasting.link ▸ linked) with closedEarly | asked
    · exact .inl closedEarly
    · rw [lasting.id]
      exact .inr (lastsOn.pleas _ asked)
  · exact .inr asked

theorem Onward.refl (sessions : Sessions) : Onward sessions sessions :=
  ⟨fun _ session found => ⟨session, found, .refl session⟩, List.prefix_rfl⟩

theorem Onward.trans (first : Onward before middle) (second : Onward middle after) :
    Onward before after := by
  refine ⟨fun key session found => ?_, first.given.trans second.given⟩
  obtain ⟨between, foundBetween, lasting⟩ := first.kept key session found
  obtain ⟨later, foundLater, lastingLater⟩ := second.kept key between foundBetween
  exact ⟨later, foundLater, lasting.trans lastingLater⟩

theorem Lasts.onward (lasts : Lasts before after) : Onward before after :=
  ⟨lasts.kept, lasts.given ▸ List.prefix_rfl⟩

/-! ## One session -/

theorem numbered_record {session after : Session} {asked : List Plea}
    (numbered : sessions.Numbered) (found : sessions.get? key = some session) :
    (sessions.record key after asked).Numbered := by
  intro probe other there
  rw [get?_record] at there
  split at there
  · next same => exact same ▸ numbered key session found
  · exact numbered probe other there

/-- Writing back a session that lasts. What it asks is made good by its having closed. -/
theorem lasts_record {session later : Session} {asked : List Plea} (numbered : sessions.Numbered)
    (found : sessions.get? key = some session) (lasting : Session.Lasting session later)
    (balance : ∀ handle id,
      asked.count (.remove handle id) + (if session.isOver handle id then 1 else 0) ≤
        if later.isOver handle id then 1 else 0) :
    Lasts sessions (sessions.record key later asked) where
  loopGone := rfl
  numbered := numbered_record numbered found
  kept probe other there := by
    rw [get?_record]
    split
    · next same =>
      subst same
      cases found.symm.trans there
      exact ⟨later, rfl, lasting⟩
    · exact ⟨other, there, .refl other⟩
  unlinked probe other missing there := by
    rw [get?_record] at there
    split at there
    · next same =>
      subst same
      cases found.symm.trans missing
    · cases missing.symm.trans there
  given := by
    have same := Keyed.map_values_insert found Session.given? lasting.given?
    have looked := congrArg (List.filterMap id) same
    rw [List.filterMap_map, List.filterMap_map] at looked
    exact looked
  pleas plea inside := List.mem_append_left asked inside
  balance handle id := by
    have stored := (sessions.book.values_insert_perm key later).countP_eq (Session.isOver handle id)
    have stood := (Keyed.values_perm_erase found).countP_eq (Session.isOver handle id)
    have one := balance handle id
    rw [List.countP_cons] at stored stood
    simp only [record, ceased, List.count_append]
    omega

private theorem asks_record {session later : Session} {asked : List Plea}
    (found : sessions.get? key = some session)
    (asks : own ≠ some key → sessions.loopGone = false → later.closed = true →
      ∀ handle, later.link = some handle →
        session.closed = true ∨ .remove handle later.id ∈ asked) :
    Asks own sessions (sessions.record key later asked) := by
  intro here probe other another handle apart there thereLater closed linked
  rw [get?_record] at thereLater
  split at thereLater
  · next same =>
    subst same
    cases found.symm.trans there
    cases thereLater
    exact (asks apart here closed handle linked).imp_right (List.mem_append_right _)
  · cases there.symm.trans thereLater
    exact .inl closed

/-! ## Acts -/

section Acts

variable {M : Type} [Message M]

theorem lasts_send (message : M) (key : Nat) (numbered : sessions.Numbered) :
    Lasts sessions (sessions.send message key).2 ∧
      Asks none sessions (sessions.send message key).2 := by
  unfold send
  cases found : sessions.get? key with
  | none => exact ⟨.refl numbered, .refl none sessions⟩
  | some session =>
    have kept : (session.send message sessions.loopGone).2.1 =
        { session with outbound := (session.send message sessions.loopGone).2.1.outbound } := by
      unfold Session.send
      split
      · rfl
      · split
        · rfl
        · split <;> rfl
    have unasked (handle : Handle) (id : UInt64) :
        (session.send message sessions.loopGone).2.2.count (.remove handle id) = 0 := by
      unfold Session.send
      split
      · rfl
      · split
        · rfl
        · split <;> rfl
    refine ⟨lasts_record numbered found ?_ fun handle id => ?_,
      asks_record found fun _ _ closed handle _ => .inl ?_⟩
    · rw [kept]
      exact ⟨rfl, rfl, id⟩
    · rw [unasked, kept, Nat.zero_add]
      exact Nat.le_refl _
    · rw [kept] at closed
      exact closed

omit [Message M] in
private theorem close_eq {session : Session} (found : sessions.get? key = some session) :
    sessions.close key = sessions.record key (session.close sessions.loopGone).1
      (session.close sessions.loopGone).2 := by
  unfold close
  rw [found]

theorem lasts_close (key : Nat) (numbered : sessions.Numbered) :
    Lasts sessions (sessions.close key) ∧ Asks none sessions (sessions.close key) := by
  cases found : sessions.get? key with
  | none =>
    have same : sessions.close key = sessions := by
      unfold close
      rw [found]
    rw [same]
    exact ⟨.refl numbered, .refl none sessions⟩
  | some session =>
    rw [close_eq found]
    have lasting : Session.Lasting session (session.close sessions.loopGone).1 := by
      unfold Session.close
      split
      · exact .refl session
      · exact ⟨rfl, rfl, fun _ => rfl⟩
    refine ⟨lasts_record numbered found lasting fun handle id => ?_,
      asks_record found fun _ here closed handle linked => ?_⟩
    · unfold Session.close Session.isOver
      split
      · simp
      · next opened =>
        cases linked : session.link with
        | none => simp [opened]
        | some other =>
          cases sessions.loopGone with
          | true => simp [opened]
          | false =>
            simp only [opened, Bool.false_eq_true, ↓reduceIte, Bool.false_and, Nat.add_zero]
            by_cases same : other = handle ∧ session.id = id
            · simp [same]
            · simp [same]
    · unfold Session.close at closed linked ⊢
      split
      · next shut => exact .inl shut
      · next opened =>
        simp only [opened, Bool.false_eq_true, ↓reduceIte] at linked
        rw [linked, here]
        exact .inr (List.mem_singleton.2 rfl)

theorem lasts_takeOutbound (key : Nat) (numbered : sessions.Numbered) (own : Option Nat) :
    Lasts sessions (sessions.takeOutbound key).2 ∧
      Asks own sessions (sessions.takeOutbound key).2 := by
  unfold takeOutbound
  cases found : sessions.get? key with
  | none => exact ⟨.refl numbered, .refl own sessions⟩
  | some session =>
    exact ⟨lasts_record numbered found ⟨rfl, rfl, id⟩ fun _ _ => Nat.le_of_eq (Nat.zero_add _),
      asks_record found fun _ _ closed _ _ => .inl closed⟩

omit [Message M] in
theorem roster_markClosed (key : Nat) (sessions : Sessions) :
    (sessions.markClosed key).roster = sessions.roster := by
  unfold markClosed
  split <;> rfl

omit [Message M] in
theorem get?_markClosed {probe : Nat} (apart : probe ≠ key) :
    (sessions.markClosed key).get? probe = sessions.get? probe := by
  unfold markClosed
  split
  · rfl
  · rw [get?_record, if_neg apart]

/-- A session that is marked closed asks for nothing. -/
theorem lasts_markClosed (key : Nat) (numbered : sessions.Numbered) :
    Lasts sessions (sessions.markClosed key) ∧
      Asks (some key) sessions (sessions.markClosed key) := by
  unfold markClosed
  cases found : sessions.get? key with
  | none => exact ⟨.refl numbered, .refl _ sessions⟩
  | some session =>
    refine ⟨lasts_record numbered found ⟨rfl, rfl, fun _ => rfl⟩ fun handle id => ?_,
      asks_record found fun apart => absurd rfl apart⟩
    cases shut : session.closed with
    | true =>
      have same : session.markClosed = session := by
        cases session
        cases shut
        rfl
      rw [same]
      exact Nat.le_of_eq (Nat.zero_add _)
    | false => simp [Session.isOver, shut]

/-! ## Opening -/

theorem get?_openSession (session : Session) (probe : Nat) (sessions : Sessions) :
    (sessions.openSession session).2.get? probe =
      if probe = sessions.opened then some session else sessions.get? probe :=
  sessions.book.get?_insert sessions.opened probe session

/-- Who is there already keeps the number. -/
theorem kept_openSession (numbered : sessions.Numbered) (session : Session) {other : Session}
    (found : sessions.get? key = some other) :
    (sessions.openSession session).2.get? key = some other := by
  rw [get?_openSession, if_neg (Nat.ne_of_lt (numbered key other found))]
  exact found

theorem get?_opened (numbered : sessions.Numbered) : sessions.get? sessions.opened = none := by
  cases found : sessions.get? sessions.opened with
  | none => rfl
  | some session => exact absurd (numbered _ _ found) (Nat.lt_irrefl _)

theorem numbered_openSession (numbered : sessions.Numbered) (session : Session) :
    (sessions.openSession session).2.Numbered := by
  intro probe other there
  rw [get?_openSession] at there
  split at there
  · next same => exact same ▸ Nat.lt_succ_self _
  · exact Nat.lt_succ_of_lt (numbered probe other there)

theorem values_openSession (numbered : sessions.Numbered) (session : Session) :
    (sessions.openSession session).2.book.values = sessions.book.values ++ [session] :=
  Keyed.values_insert_of_missing (get?_opened numbered) session

omit [Message M] in
theorem onward_openSession (numbered : sessions.Numbered) (session : Session) :
    Onward sessions (sessions.openSession session).2 := by
  refine ⟨fun key other found => ⟨other, kept_openSession numbered session found, .refl other⟩, ?_⟩
  rw [given, given, values_openSession numbered session, List.filterMap_append]
  exact List.prefix_append _ _

omit [Message M] in
private theorem lasts_openDetached (id : UInt64) (numbered : sessions.Numbered) :
    Lasts sessions (sessions.openSession (Session.detached id)).2 ∧
      Asks none sessions (sessions.openSession (Session.detached id)).2 := by
  have kept (key : Nat) (session : Session) (found : sessions.get? key = some session) :
      (sessions.openSession (Session.detached id)).2.get? key = some session :=
    kept_openSession numbered (Session.detached id) found
  have values := values_openSession numbered (Session.detached id)
  refine ⟨⟨rfl, numbered_openSession numbered _, fun key session found =>
    ⟨session, kept key session found, .refl session⟩, ?_, ?_, fun plea inside => inside, ?_⟩, ?_⟩
  · intro key later missing found
    rw [get?_openSession] at found
    split at found
    · cases found
      rfl
    · cases missing.symm.trans found
  · rw [given, values, List.filterMap_append]
    exact List.append_nil _
  · intro handle other
    rw [ceased, ceased, values, List.countP_append]
    exact Nat.add_le_add_left (Nat.le_add_right _ _) _
  · intro _ key session later handle _ found foundLater closed _
    cases (kept key session found).symm.trans foundLater
    exact .inl closed

theorem lasts_roster (roster : Keyed UInt64 Nat) (numbered : sessions.Numbered) (own : Option Nat) :
    Lasts sessions { sessions with roster } ∧ Asks own sessions { sessions with roster } :=
  ⟨⟨rfl, numbered, fun _ session found => ⟨session, found, .refl session⟩,
      fun _ _ missing found => (by cases missing.symm.trans found), rfl,
      fun _ inside => inside, fun _ _ => Nat.le_refl _⟩,
    fun _ key session later handle _ found foundLater closed _ => by
      have same : session = later := Option.some.inj (found.symm.trans foundLater)
      exact .inl (same ▸ closed)⟩

/-- **Acts let sessions last, and whoever comes to be closed asks for its end.** -/
theorem lasts_of_acts (acts : Acts M before after) (numbered : before.Numbered) :
    Lasts before after ∧ Asks none before after := by
  induction acts with
  | none => exact ⟨.refl numbered, .refl none before⟩
  | @act middle late acts act ih =>
    obtain ⟨lasts, asks⟩ := ih
    have one : Lasts middle late ∧ Asks none middle late := by
      cases act with
      | send message key => exact lasts_send message key lasts.numbered
      | close key => exact lasts_close key lasts.numbered
      | take key => exact lasts_takeOutbound key lasts.numbered none
      | openDetached id => exact lasts_openDetached id lasts.numbered
      | enroll roster => exact lasts_roster roster lasts.numbered none
    exact ⟨lasts.trans one.1, asks.trans one.2 lasts one.1⟩

end Acts

end Sessions

end EventLoop
