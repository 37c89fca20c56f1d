import EventLoop.Proofs.Session.Speeches
import Mathlib.Data.List.Nodup

/-! Sending to everybody. The roster names each session under the identity that the session has, and
a session has one identity only, so nobody is on it twice, however often identities were given away
again. Going through it is therefore a send for each session, and as no send does anything to
another session, it does not matter in which order the roster is gone through, nor whether the
sessions are gone through or their identities. -/
namespace EventLoop

open scoped List

namespace Sessions

variable {M : Type} [Message M] {sessions before middle after next : Sessions}
  {start : Sessions} {history dealings : List (Dealing M)} {key : Nat} {session : Session}
  {keys more : List Nat} {message : M}

/-! ## On the roster -/

/-- Whoever is on the roster is there under its own identity. -/
def Listed (sessions : Sessions) : Prop :=
  ∀ id key, sessions.live? id = some key →
    ∃ session, sessions.get? key = some session ∧ session.id = id

private theorem Listed.onward (listed : before.Listed) (onward : Onward before after)
    (roster : after.roster = before.roster) : after.Listed := by
  intro id key live
  rw [live?, roster] at live
  obtain ⟨session, found, own⟩ := listed id key live
  obtain ⟨later, foundLater, lasting⟩ := onward.kept key session found
  exact ⟨later, foundLater, lasting.id.trans own⟩

private theorem roster_send (message : M) (key : Nat) (sessions : Sessions) :
    (sessions.send message key).2.roster = sessions.roster := by
  unfold send
  cases sessions.get? key <;> rfl

private theorem roster_sendEach (message : M) (keys : List Nat) (sessions : Sessions) :
    (sessions.sendEach message keys).2.roster = sessions.roster := by
  induction keys generalizing sessions with
  | nil => rfl
  | cons key rest ih => exact (ih _).trans (roster_send message key sessions)

omit [Message M] in
private theorem roster_close (key : Nat) (sessions : Sessions) :
    (sessions.close key).roster = sessions.roster := by
  unfold close
  cases sessions.get? key <;> rfl

/-- Whatever is done, the roster goes by identities. -/
theorem Step.listed (numbered : sessions.Numbered) (listed : sessions.Listed)
    (step : Step M sessions dealings next) : next.Listed := by
  have onward := (step.sequel numbered).onward
  cases step with
  | send message key => exact listed.onward onward (roster_send message key sessions)
  | sendTo message id =>
    rw [sendTo_eq_sendEach] at onward ⊢
    exact listed.onward onward (roster_sendEach message _ sessions)
  | broadcast message all => exact listed.onward onward (roster_sendEach message _ sessions)
  | take key =>
    refine listed.onward onward ?_
    unfold takeOutbound
    cases sessions.get? key <;> rfl
  | close key => exact listed.onward onward (roster_close key sessions)
  | closeLive id =>
    refine listed.onward onward ?_
    unfold Sessions.closeLive
    cases sessions.live? id with
    | none => rfl
    | some key => exact roster_close key sessions
  | markClosed key => exact listed.onward onward (roster_markClosed key sessions)
  | «open» session silent => exact listed.onward onward rfl
  | enlist key =>
    unfold Sessions.enlist
    cases found : sessions.get? key with
    | none => exact listed
    | some session =>
      intro id other live
      have inserted := (sessions.roster.get?_insert session.id id key).symm.trans live
      split at inserted
      · next own => exact ⟨session, Option.some.inj inserted ▸ found, own.symm⟩
      · exact listed id other inserted
  | strike id =>
    intro other key live
    have left := (sessions.roster.get?_erase id other).symm.trans live
    split at left
    · cases left
    · exact listed other key left
  | passOn => exact listed.onward onward rfl
  | dismiss => exact listed.onward onward rfl

private theorem Run.listed (numbered : start.Numbered) (listed : start.Listed)
    (run : Run M start history sessions) : sessions.Listed := by
  induction run with
  | start => exact listed
  | step run step ih => exact step.listed (run.sequel numbered).numbered ih

/-- **Nobody is on the roster twice.** -/
theorem Listed.nodup (listed : sessions.Listed) : sessions.roster.values.Nodup := by
  refine (List.Nodup.of_map Prod.fst sessions.roster.distinct).map_on ?_
  rintro ⟨id, key⟩ entry ⟨other, another⟩ entryToo (same : key = another)
  subst same
  obtain ⟨session, found, own⟩ := listed id key ((Keyed.get?_eq_some_iff _ _ _).2 entry)
  obtain ⟨_, foundToo, ownToo⟩ := listed other key ((Keyed.get?_eq_some_iff _ _ _).2 entryToo)
  cases found.symm.trans foundToo
  rw [← own, ← ownToo]

private theorem Listed.present (listed : sessions.Listed) (inside : key ∈ sessions.roster.values) :
    ∃ session, sessions.get? key = some session := by
  obtain ⟨⟨id, _⟩, entry, rfl⟩ := List.mem_map.1 inside
  obtain ⟨session, found, _⟩ := listed id _ ((Keyed.get?_eq_some_iff _ _ _).2 entry)
  exact ⟨session, found⟩

/-! ## Reaching sessions -/

/-- Whether there is a session of this number that is not closed. -/
def isOpen (sessions : Sessions) (key : Nat) : Bool :=
  (sessions.get? key).any fun session => !session.closed

/-- The sessions on the roster that are not closed. -/
def audience (sessions : Sessions) : List Nat := sessions.roster.values.filter sessions.isOpen

/-- A message has reached the sessions in `keys`, each once: its frame waits there behind what
waited before. In no session has anything else changed. -/
structure Reaches (message : M) (keys : List Nat) (before after : Sessions) : Prop where
  sessions : ∀ key, after.get? key = (before.get? key).map fun session =>
    if key ∈ keys then { session with outbound := Frame.encode session.outbound message }
    else session
  roster : after.roster = before.roster
  loopGone : after.loopGone = before.loopGone

private theorem Reaches.nobody (message : M) (sessions : Sessions) :
    Reaches message [] sessions sessions :=
  ⟨fun key => by simp, rfl, rfl⟩

private theorem Reaches.trans (first : Reaches message keys before middle)
    (second : Reaches message more middle after) (apart : ∀ key ∈ keys, key ∉ more) :
    Reaches message (keys ++ more) before after := by
  refine ⟨fun key => ?_, second.roster.trans first.roster, second.loopGone.trans first.loopGone⟩
  rw [second.sessions, first.sessions, Option.map_map]
  refine congrArg (Option.map · _) (funext fun session => ?_)
  by_cases early : key ∈ keys
  · simp [early, apart key early]
  · simp [early]

private theorem Reaches.perm (reaches : Reaches message keys before after) (same : keys ~ more) :
    Reaches message more before after := by
  refine ⟨fun key => ?_, reaches.roster, reaches.loopGone⟩
  rw [reaches.sessions]
  simp only [same.mem_iff]

/-- Nobody is closed by a message, or opened. -/
theorem Reaches.isOpen (reaches : Reaches message keys before after) (key : Nat) :
    after.isOpen key = before.isOpen key := by
  unfold Sessions.isOpen
  rw [reaches.sessions, Option.any_map]
  refine congrArg (Option.any · _) (funext fun session => ?_)
  show (!(if key ∈ keys then _ else session).closed) = !session.closed
  split <;> rfl

/-- Two ways to reach the same sessions end alike. -/
theorem Reaches.alike (one : Reaches message keys before after)
    (other : Reaches message keys before next) (key : Nat) : after.get? key = next.get? key :=
  (one.sessions key).trans (other.sessions key).symm

private theorem Reaches.stranded (reaches : Reaches message keys before after)
    (stranded : Stranded key after) : Stranded key before := by
  obtain ⟨gone, later, found, linked⟩ := stranded
  rw [reaches.sessions] at found
  obtain ⟨session, foundBefore, rfl⟩ := Option.map_eq_some_iff.1 found
  refine ⟨reaches.loopGone.symm.trans gone, session, foundBefore, ?_⟩
  split at linked
  · exact linked
  · exact linked

/-- What a send leaves of its session does not depend on the loop. -/
theorem written_send (message : M) (gone : Bool) (session : Session) :
    (session.send message gone).2.1 = if session.closed then session
      else { session with outbound := Frame.encode session.outbound message } := by
  unfold Session.send
  cases session.closed with
  | true => rfl
  | false =>
    cases session.link with
    | none => rfl
    | some handle => cases gone <;> rfl

/-- **A send reaches its session if that is open**, and nobody else. -/
theorem send_reaches (found : sessions.get? key = some session)
    (free : ¬ Stranded key sessions) (message : M) :
    (sessions.send message key).1.isOk = sessions.isOpen key ∧
      Reaches message (if sessions.isOpen key then [key] else []) sessions
        (sessions.send message key).2 := by
  have opened : sessions.isOpen key = !session.closed := by
    unfold isOpen
    rw [found, Option.any_some]
  have sent : (sessions.send message key).2 =
      sessions.record key (session.send message sessions.loopGone).2.1
        (session.send message sessions.loopGone).2.2 := by
    unfold send
    rw [found]
  refine ⟨?_, fun probe => ?_, roster_send message key sessions, sent ▸ rfl⟩
  · have awake : session.link.isSome → sessions.loopGone = false := fun linked =>
      Bool.eq_false_iff.2 fun gone => free ⟨gone, session, found, linked⟩
    rw [send_outcome found, opened]
    cases session.closed with
    | true => rfl
    | false =>
      cases linked : session.link.isSome with
      | false => rfl
      | true => rw [awake linked]; rfl
  · rw [sent, get?_record, written_send, opened]
    by_cases own : probe = key
    · subst own
      rw [if_pos rfl, found, Option.map_some]
      cases session.closed <;> simp
    · rw [if_neg own]
      cases session.closed <;> simp [own]

/-- **Sends in a row reach those of their sessions that are open**, and are accepted by them. -/
theorem sendEach_reaches (message : M) {order : List Nat} (once : order.Nodup)
    (present : ∀ key ∈ order, ∃ session, sessions.get? key = some session)
    (free : ∀ key ∈ order, ¬ Stranded key sessions) :
    (sessions.sendEach message order).1 = (order.filter sessions.isOpen).length ∧
      Reaches message (order.filter sessions.isOpen) sessions
        (sessions.sendEach message order).2 := by
  induction order generalizing sessions with
  | nil => exact ⟨rfl, .nobody message sessions⟩
  | cons key rest ih =>
    obtain ⟨unseen, onceRest⟩ := List.nodup_cons.1 once
    obtain ⟨_, found⟩ := present key List.mem_cons_self
    obtain ⟨told, reaches⟩ := send_reaches found (free key List.mem_cons_self) message
    have same : (sessions.send message key).2.isOpen = sessions.isOpen :=
      funext reaches.isOpen
    have presentRest : ∀ other ∈ rest, ∃ session,
        (sessions.send message key).2.get? other = some session := by
      intro other inside
      obtain ⟨session, foundOther⟩ := present other (List.mem_cons_of_mem key inside)
      exact ⟨_, (reaches.sessions other).trans (congrArg _ foundOther)⟩
    have freeRest : ∀ other ∈ rest, ¬ Stranded other (sessions.send message key).2 :=
      fun other inside stranded =>
        free other (List.mem_cons_of_mem key inside) (reaches.stranded stranded)
    obtain ⟨count, further⟩ := ih onceRest presentRest freeRest
    rw [same] at count further
    have all := reaches.trans further fun probe inside later => by
      split at inside
      · exact unseen (List.mem_singleton.1 inside ▸ (List.mem_filter.1 later).1)
      · cases inside
    have shape : (if sessions.isOpen key then [key] else []) ++ rest.filter sessions.isOpen =
        (key :: rest).filter sessions.isOpen := by
      rw [List.filter_cons]
      cases sessions.isOpen key <;> rfl
    refine ⟨?_, shape ▸ all⟩
    rw [← shape, List.length_append]
    simp only [sendEach, count]
    cases outcome : (sessions.send message key).1 with
    | ok _ =>
      rw [← told, outcome]
      exact Nat.add_comm _ 1
    | error _ =>
      rw [← told, outcome]
      exact (Nat.zero_add _).symm

/-! ## To everybody -/

/-- Sends to each of the identities in turn and counts the answers that it was sent. -/
def sendToEach (message : M) : List UInt64 → Sessions → Nat × Sessions
  | [], sessions => (0, sessions)
  | id :: rest, sessions =>
    let (answer, sessions) := sessions.sendTo message id
    let (count, sessions) := sendToEach message rest sessions
    ((match answer with | .ok true => count + 1 | _ => count), sessions)

/-- Sending to identities is sending to the sessions they stand for on the roster. -/
theorem sendToEach_eq_sendEach (message : M) (ids : List UInt64) {roster : Keyed UInt64 Nat}
    (own : sessions.roster = roster) :
    sessions.sendToEach message ids = sessions.sendEach message (ids.filterMap roster.get?) := by
  induction ids generalizing sessions with
  | nil => rfl
  | cons id rest ih =>
    unfold sendToEach sendTo live?
    rw [own, List.filterMap_cons]
    cases roster.get? id with
    | none => exact ih own
    | some key =>
      simp only [sendEach, ih ((roster_send message key sessions).trans own)]
      cases (sessions.send message key).1 <;> rfl

/-- **To everybody is to each of them, in any order.** Whatever was done before, a message to
everybody adds one frame to each session on the roster that is not closed, also where identities
were given away again; it leaves every other session alone, and their number is its answer. It does
not matter in which order the roster is gone through. To go through the identities on it, in any
order, and to send to each of them gives the same sum of sends and leaves the same in every
session. -/
theorem broadcast_is_one_send_each (run : Run M ({} : Sessions) history sessions)
    (there : ∀ key ∈ sessions.roster.values, ¬ Stranded key sessions) (message : M) :
    sessions.audience.Nodup ∧
    (sessions.broadcast message).1 = sessions.audience.length ∧
    Reaches message sessions.audience sessions (sessions.broadcast message).2 ∧
    (∀ order, order ~ sessions.roster.values →
      (sessions.sendEach message order).1 = (sessions.broadcast message).1 ∧
      ∀ key, (sessions.sendEach message order).2.get? key =
        (sessions.broadcast message).2.get? key) ∧
    ∀ ids, ids ~ sessions.roster.keys →
      (sessions.sendToEach message ids).1 = (sessions.broadcast message).1 ∧
      ∀ key, (sessions.sendToEach message ids).2.get? key =
        (sessions.broadcast message).2.get? key := by
  have listed : sessions.Listed :=
    run.listed (fun key session found => by cases found) (fun id key live => by cases live)
  have through (order : List Nat) (all : order ~ sessions.roster.values) :
      (sessions.sendEach message order).1 = sessions.audience.length ∧
        Reaches message sessions.audience sessions (sessions.sendEach message order).2 := by
    have once := all.nodup_iff.2 listed.nodup
    have heard := all.filter sessions.isOpen
    obtain ⟨count, reaches⟩ := sendEach_reaches message once
      (fun key inside => listed.present (all.mem_iff.1 inside))
      (fun key inside => there key (all.mem_iff.1 inside))
    exact ⟨count.trans heard.length_eq, reaches.perm heard⟩
  obtain ⟨count, reaches⟩ := through sessions.roster.values (.refl _)
  refine ⟨listed.nodup.filter _, count, reaches, fun order all => ?_, fun ids all => ?_⟩
  · obtain ⟨countToo, reachesToo⟩ := through order all
    exact ⟨countToo.trans count.symm, reachesToo.alike reaches⟩
  · rw [sendToEach_eq_sendEach message ids rfl]
    obtain ⟨countToo, reachesToo⟩ := through (ids.filterMap sessions.roster.get?)
      (sessions.roster.filterMap_keys ▸ all.filterMap sessions.roster.get?)
    exact ⟨countToo.trans count.symm, reachesToo.alike reaches⟩

open Trial in
/-- Three sessions, of which the third has the identity of the first and takes its place on the
roster; the second is closed. A message to everybody reaches the third only, whichever way the
roster is gone through. -/
theorem message_to_everybody_reaches_one_of_three :
    ∃ (history : List (Dealing Telegram)) (sessions : Sessions),
      Run Telegram ({} : Sessions) history sessions ∧
      (∀ key ∈ sessions.roster.values, ¬ Stranded key sessions) ∧
      sessions.roster.keys = [1, 2] ∧ sessions.audience = [2] ∧
      (sessions.broadcast (Telegram.pong 5)).1 = 1 ∧
      (sessions.sendEach (Telegram.pong 5) [1, 2]).1 = 1 ∧
      (sessions.sendToEach (Telegram.pong 5) [2, 1]).1 = 1 ∧
      ∀ key, (sessions.sendToEach (Telegram.pong 5) [2, 1]).2.get? key =
        (sessions.broadcast (Telegram.pong 5)).2.get? key := by
  have run := @Run.start Telegram _ {}
    |>.step (.open (Session.detached 1) rfl)
    |>.step (.open (Session.attached 2 (.v4 127 0 0 1 40001) 5) rfl)
    |>.step (.open (Session.detached 1) rfl)
    |>.step (.enlist 0)
    |>.step (.enlist 1)
    |>.step (.send (.pong 4) 0)
    |>.step (.enlist 2)
    |>.step (.close 1)
  have calm {sessions : Sessions} (here : sessions.loopGone = false) :
      ∀ key ∈ sessions.roster.values, ¬ Stranded key sessions :=
    fun _ _ stranded => Bool.false_ne_true (here.symm.trans stranded.1)
  obtain ⟨_, count, _, orders, identities⟩ :=
    broadcast_is_one_send_each run (calm rfl) (Telegram.pong 5)
  have one : _ = 1 := count.trans (by decide)
  obtain ⟨same, _⟩ := orders [1, 2] (by decide)
  obtain ⟨sameToo, alike⟩ := identities [2, 1] (by decide)
  exact ⟨_, _, run, calm rfl, by decide, by decide, one, same.trans one, sameToo.trans one, alike⟩

end Sessions

end EventLoop
