import EventLoop.Proofs.Session.Waiting
import EventLoop.Trial.Telegram
import Mathlib.Data.List.Basic

/-! What becomes of sends, whoever sends and however: on a session, to an identity, or to everybody
on the roster. A send is refused by a closed session before it writes anything, for good; else its
frame is put behind what waits. A send can fail after that, when its loop is gone and cannot be
asked any more: its sender is told of a failure, and the frame waits like any other. So what was
taken from a session and what waits in it are the frames of the sends that were accepted and of
those that failed so late, in order. -/
namespace EventLoop

variable {M : Type}

/-- Whether a send was accepted. -/
def Speech.isAccepted (speech : Speech M) : Bool := speech.outcome.isOk

namespace Sessions

/-! ## Everything that is done with sessions -/

/-- What is noticed of sessions: a `Session::send` with what its sender was told, and the bytes that
a `Session::take_outbound` took. -/
inductive Dealing (M : Type) where
  | spoke (speech : Speech M)
  | drained (key : Nat) (bytes : List UInt8)

/-- The sends that sending to each of `keys` in turn comes to. -/
def speeches [Message M] (message : M) : List Nat → Sessions → List (Speech M)
  | [], _ => []
  | key :: rest, sessions =>
    ⟨key, message, (sessions.send message key).1⟩ ::
      speeches message rest (sessions.send message key).2

/-- One thing that somebody does with sessions. A session is known to everybody who holds it by its
number. -/
inductive Step (M : Type) [Message M] (sessions : Sessions) :
    List (Dealing M) → Sessions → Prop where
  | send (message : M) (key : Nat) :
      Step M sessions ((speeches message [key] sessions).map .spoke) (sessions.send message key).2
  | sendTo (message : M) (id : UInt64) :
      Step M sessions ((speeches message (sessions.live? id).toList sessions).map .spoke)
        (sessions.sendTo message id).2
  /-- The roster is gone through in any order. -/
  | broadcast (message : M) {order : List Nat} (all : order.Perm sessions.roster.values) :
      Step M sessions ((speeches message order sessions).map .spoke)
        (sessions.sendEach message order).2
  | take (key : Nat) :
      Step M sessions [.drained key (sessions.takeOutbound key).1] (sessions.takeOutbound key).2
  | close (key : Nat) : Step M sessions [] (sessions.close key)
  | closeLive (id : UInt64) : Step M sessions [] (sessions.closeLive id).2
  | markClosed (key : Nat) : Step M sessions [] (sessions.markClosed key)
  /-- A session is opened, with a connection behind it or without. -/
  | open (session : Session) (silent : session.outbound = []) :
      Step M sessions [] (sessions.openSession session).2
  | enlist (key : Nat) : Step M sessions [] (sessions.enlist key)
  | strike (id : UInt64) : Step M sessions [] (sessions.strike id).2
  /-- What sessions ask is passed on to the loop. -/
  | passOn : Step M sessions [] sessions.takePleas.2
  /-- The loop goes. -/
  | dismiss : Step M sessions [] { sessions with loopGone := true }

/-- Any number of such things, with what was noticed of them. -/
inductive Run (M : Type) [Message M] (start : Sessions) : List (Dealing M) → Sessions → Prop where
  | start : Run M start [] start
  | step {history dealings : List (Dealing M)} {sessions next : Sessions}
      (run : Run M start history sessions) (step : Step M sessions dealings next) :
      Run M start (history ++ dealings) next

namespace Dealing

/-- All that was taken from a session. -/
def taken (key : Nat) (history : List (Dealing M)) : List UInt8 :=
  history.flatMap fun
    | .drained other bytes => if other = key then bytes else []
    | .spoke _ => []

/-- The messages of the sends on a session of which `p` holds. -/
def spoken (p : Speech M → Bool) (key : Nat) (history : List (Dealing M)) : List M :=
  history.filterMap fun
    | .spoke speech => if speech.key = key ∧ p speech then some speech.message else none
    | .drained .. => none

/-- The messages whose sends were accepted. -/
def accepted (key : Nat) (history : List (Dealing M)) : List M :=
  spoken Speech.isAccepted key history

/-- The messages whose sends were accepted, or failed only because the loop was gone. -/
def written (key : Nat) (history : List (Dealing M)) : List M :=
  spoken (fun speech => isWritten speech.outcome) key history

section Append

variable (history more : List (Dealing M)) (key : Nat)

private theorem taken_append : taken key (history ++ more) = taken key history ++ taken key more :=
  List.flatMap_append

private theorem written_append :
    written key (history ++ more) = written key history ++ written key more :=
  List.filterMap_append

end Append

/-- Nothing is taken by those who speak. -/
theorem taken_spoke (key : Nat) (speeches : List (Speech M)) :
    taken key (speeches.map .spoke) = [] := by
  induction speeches with
  | nil => rfl
  | cons speech rest ih => exact ih

private theorem taken_drained (key owner : Nat) (bytes : List UInt8) :
    taken (M := M) key [.drained owner bytes] = if owner = key then bytes else [] :=
  List.append_nil _

/-- A send adds its message to what was written on its session. -/
theorem written_spoke (key : Nat) (speech : Speech M) (history : List (Dealing M)) :
    written key (.spoke speech :: history) =
      if speech.key = key ∧ isWritten speech.outcome then speech.message :: written key history
      else written key history := by
  rw [written, spoken, List.filterMap_cons]
  by_cases told : speech.key = key ∧ isWritten speech.outcome
  · simp only [told, and_self, ↓reduceIte]
    rfl
  · simp only [told, ↓reduceIte]
    rfl

/-- Where no send failed because the loop was gone, what was written is what was accepted. -/
theorem written_eq_accepted {key : Nat} {history : List (Dealing M)}
    (there : ∀ speech, .spoke speech ∈ history → speech.key = key →
      speech.outcome ≠ .error .loopGone) : written key history = accepted key history := by
  refine List.filterMap_congr fun dealing inside => ?_
  cases dealing with
  | drained other bytes => rfl
  | spoke speech =>
    by_cases own : speech.key = key
    · have same : isWritten speech.outcome = speech.isAccepted := by
        have fine := there speech inside own
        unfold isWritten Speech.isAccepted
        cases outcome : speech.outcome with
        | ok _ => rfl
        | error fault =>
          cases fault with
          | loopGone => exact absurd outcome fine
          | _ => rfl
      simp only [same]
    · simp only [own, false_and]

end Dealing

variable [Message M] {start sessions next : Sessions} {history dealings : List (Dealing M)}
  {key : Nat} {session : Session}

/-! ## One send -/

/-- What the sender is told depends on the session and on its loop. -/
theorem send_outcome (found : sessions.get? key = some session) (message : M) :
    (sessions.send message key).1 =
      if session.closed then .error (.io .notConnected)
      else if session.link.isSome && sessions.loopGone then .error .loopGone
      else .ok () := by
  unfold send
  rw [found]
  simp only [Session.send]
  split
  · rfl
  · cases session.link with
    | none => rfl
    | some handle => cases sessions.loopGone <;> rfl

/-- A send puts its frame behind what waits, or nothing. -/
theorem send_leaves (numbered : sessions.Numbered) (message : M) (key : Nat) :
    Leaves key
      (if isWritten (sessions.send message key).1 then
        Frame.encode (sessions.waiting key) message
      else sessions.waiting key)
      sessions (sessions.send message key).2 := by
  cases found : sessions.get? key with
  | none =>
    simp only [send, found, isWritten]
    exact leaves_same numbered
  | some session =>
    rw [send_eq_sendUnder found]
    exact sendUnder_leaves numbered session.closed message key

/-! ## Sends in a row -/

/-- Sending to an identity is sending to whoever has it. -/
theorem sendTo_eq_sendEach (message : M) (id : UInt64) (sessions : Sessions) :
    (sessions.sendTo message id).2 = (sessions.sendEach message (sessions.live? id).toList).2 := by
  unfold sendTo
  cases sessions.live? id <;> rfl

/-- **A send to an identity tells of its success** exactly if its one send was accepted. -/
theorem sendTo_true_iff (message : M) (id : UInt64) (sessions : Sessions) :
    (sessions.sendTo message id).1 = .ok true ↔
      ∃ speech ∈ speeches message (sessions.live? id).toList sessions,
        speech.isAccepted = true := by
  unfold sendTo
  cases sessions.live? id with
  | none => simp [speeches]
  | some key =>
    simp only [Option.toList_some, speeches, List.mem_singleton, exists_eq_left, Speech.isAccepted]
    cases (sessions.send message key).1 with
    | ok _ => exact iff_of_true rfl rfl
    | error fault => exact iff_of_false (by intro same; cases same) (by intro same; cases same)

/-- **Sending to many counts the sends that were accepted.** -/
theorem sendEach_count (message : M) (keys : List Nat) (sessions : Sessions) :
    (sessions.sendEach message keys).1 =
      (speeches message keys sessions).countP Speech.isAccepted := by
  induction keys generalizing sessions with
  | nil => rfl
  | cons key rest ih =>
    simp only [sendEach, speeches, List.countP_cons, Speech.isAccepted, ih]
    cases (sessions.send message key).1 <;> rfl

private theorem lasts_sendEach (numbered : sessions.Numbered) (message : M) (keys : List Nat) :
    Lasts sessions (sessions.sendEach message keys).2 := by
  induction keys generalizing sessions with
  | nil => exact .refl numbered
  | cons key rest ih =>
    obtain ⟨lasts, _⟩ := lasts_send message key numbered
    exact lasts.trans (ih lasts.numbered)

/-- What waits in a session after sends in a row. -/
theorem waiting_sendEach (numbered : sessions.Numbered) (message : M) (keys : List Nat)
    (key : Nat) :
    (sessions.sendEach message keys).2.waiting key = sessions.waiting key ++
      Frame.stream (Dealing.written key ((speeches message keys sessions).map .spoke)) := by
  induction keys generalizing sessions with
  | nil => exact (List.append_nil _).symm
  | cons first rest ih =>
    have leaves := send_leaves numbered message first
    have onwards := ih leaves.numbered
    rw [leaves.waiting] at onwards
    simp only [sendEach, speeches, List.map_cons]
    rw [onwards, Dealing.written_spoke]
    by_cases own : key = first
    · subst own
      cases isWritten (sessions.send message key).1 with
      | true =>
        simp only [↓reduceIte, and_self, Frame.stream_cons, Frame.encode, List.append_assoc]
      | false => simp
    · simp [own, Ne.symm own]

/-- Each of the sends in a row is told what it is told somewhere on the way. -/
theorem speeches_told (numbered : sessions.Numbered) (message : M) (keys : List Nat) :
    ∀ speech ∈ speeches message keys sessions, ∃ middle,
      Lasts sessions middle ∧ Lasts middle (sessions.sendEach message keys).2 ∧
        speech.outcome = (middle.send speech.message speech.key).1 := by
  induction keys generalizing sessions with
  | nil => exact List.forall_mem_nil _
  | cons first rest ih =>
    obtain ⟨sent, _⟩ := lasts_send message first numbered
    refine List.forall_mem_cons.2 ⟨?_, fun speech inside => ?_⟩
    · exact ⟨sessions, .refl numbered, lasts_sendEach numbered message (first :: rest), rfl⟩
    · obtain ⟨middle, before, after, told⟩ := ih sent.numbered speech inside
      exact ⟨middle, sent.trans before, after, told⟩

/-! ## One thing after the other -/

/-- Acts by which nothing is sent and nothing is taken let sessions go on. -/
theorem Hushed.onward (numbered : sessions.Numbered) (hushed : Hushed sessions next) :
    Onward sessions next := by
  cases hushed with
  | close key => exact (lasts_close key numbered).1.onward
  | markClosed key => exact (lasts_markClosed key numbered).1.onward
  | «open» session silent => exact onward_openSession numbered session
  | around roster pleas loopGone => exact ⟨(Onward.refl sessions).kept, List.prefix_rfl⟩

/-- What a step comes to: sends in a row, bytes that are taken, or neither. The loop does not come
back. -/
inductive Step.Kind (sessions : Sessions) : List (Dealing M) → Sessions → Prop where
  | speaks (message : M) (keys : List Nat) :
      Kind sessions ((speeches message keys sessions).map .spoke)
        (sessions.sendEach message keys).2
  | takes (key : Nat) :
      Kind sessions [.drained key (sessions.takeOutbound key).1] (sessions.takeOutbound key).2
  | hushed {next : Sessions} (hushed : Hushed sessions next)
      (gone : sessions.loopGone = true → next.loopGone = true) : Kind sessions [] next

private theorem Step.kind (numbered : sessions.Numbered) (step : Step M sessions dealings next) :
    Step.Kind sessions dealings next := by
  have aside (roster : Keyed UInt64 Nat) (pleas : List Plea) :
      Step.Kind (M := M) sessions [] { sessions with roster, pleas } :=
    .hushed (.around roster pleas sessions.loopGone sessions) id
  cases step with
  | send message key => exact .speaks message [key]
  | sendTo message id =>
    rw [sendTo_eq_sendEach]
    exact .speaks message _
  | broadcast message all => exact .speaks message _
  | take key => exact .takes key
  | close key =>
    exact .hushed (.close key sessions) fun gone => (lasts_close key numbered).1.loopGone.trans gone
  | closeLive id =>
    unfold Sessions.closeLive
    cases sessions.live? id with
    | none => exact aside sessions.roster sessions.pleas
    | some key =>
      exact .hushed (.close key sessions)
        fun gone => (lasts_close key numbered).1.loopGone.trans gone
  | markClosed key =>
    exact .hushed (.markClosed key sessions)
      fun gone => (lasts_markClosed key numbered).1.loopGone.trans gone
  | «open» session silent => exact .hushed (.open session silent sessions) id
  | enlist key =>
    unfold Sessions.enlist
    cases sessions.get? key with
    | none => exact aside sessions.roster sessions.pleas
    | some session => exact aside (sessions.roster.insert session.id key) sessions.pleas
  | strike id => exact aside (sessions.roster.erase id) sessions.pleas
  | passOn => exact aside sessions.roster []
  | dismiss => exact .hushed (.around sessions.roster sessions.pleas true sessions) fun _ => rfl

/-- Sessions after whatever was done with them. -/
structure Sequel (before after : Sessions) : Prop where
  numbered : after.Numbered
  onward : Onward before after
  gone : before.loopGone = true → after.loopGone = true

private theorem Lasts.sequel (lasts : Lasts sessions next) : Sequel sessions next :=
  ⟨lasts.numbered, lasts.onward, lasts.loopGone.trans⟩

private theorem Sequel.trans (first : Sequel start sessions) (second : Sequel sessions next) :
    Sequel start next :=
  ⟨second.numbered, first.onward.trans second.onward, fun gone => second.gone (first.gone gone)⟩

theorem Step.sequel (numbered : sessions.Numbered) (step : Step M sessions dealings next) :
    Sequel sessions next := by
  cases step.kind numbered with
  | speaks message keys => exact (lasts_sendEach numbered message keys).sequel
  | takes key => exact (lasts_takeOutbound key numbered none).1.sequel
  | hushed hushed gone => exact ⟨(hushed.quiet numbered).1, hushed.onward numbered, gone⟩

theorem Run.sequel (numbered : start.Numbered) (run : Run M start history sessions) :
    Sequel start sessions := by
  induction run with
  | start => exact ⟨numbered, .refl start, id⟩
  | step run step ih => exact ih.trans (step.sequel ih.numbered)

/-- Whatever a sender is told, some state on the way tells it. -/
theorem Step.told (numbered : sessions.Numbered) (step : Step M sessions dealings next) :
    ∀ speech, .spoke speech ∈ dealings → ∃ middle, Sequel sessions middle ∧ Sequel middle next ∧
      speech.outcome = (middle.send speech.message speech.key).1 := by
  intro speech inside
  cases step.kind numbered with
  | speaks message keys =>
    obtain ⟨other, among, same⟩ := List.mem_map.1 inside
    cases same
    obtain ⟨middle, before, after, told⟩ := speeches_told numbered message keys speech among
    exact ⟨middle, before.sequel, after.sequel, told⟩
  | takes key => cases List.mem_singleton.1 inside
  | hushed hushed gone => cases inside

private theorem Run.told (numbered : start.Numbered) (run : Run M start history sessions) :
    ∀ speech, .spoke speech ∈ history → ∃ middle, Sequel start middle ∧ Sequel middle sessions ∧
      speech.outcome = (middle.send speech.message speech.key).1 := by
  induction run with
  | start => exact fun speech inside => absurd inside List.not_mem_nil
  | step run step ih =>
    have before := run.sequel numbered
    intro speech inside
    rcases List.mem_append.1 inside with early | now
    · obtain ⟨middle, first, second, told⟩ := ih speech early
      exact ⟨middle, first, second.trans (step.sequel before.numbered), told⟩
    · obtain ⟨middle, first, second, told⟩ := step.told before.numbered speech now
      exact ⟨middle, before.trans first, second, told⟩

/-- **What a step takes, and what waits after it**, is what waited and what the step wrote. -/
theorem Step.balance (numbered : sessions.Numbered) (step : Step M sessions dealings next)
    (key : Nat) :
    Dealing.taken key dealings ++ next.waiting key =
      sessions.waiting key ++ Frame.stream (Dealing.written key dealings) := by
  cases step.kind numbered with
  | speaks message keys =>
    rw [Dealing.taken_spoke, List.nil_append]
    exact waiting_sendEach numbered message keys key
  | takes owner =>
    obtain ⟨taken, leaves⟩ := takeOutbound_leaves numbered owner
    have nothing : Dealing.written (M := M) key [.drained owner (sessions.takeOutbound owner).1] =
        [] := rfl
    rw [nothing, Dealing.taken_drained, taken, leaves.waiting, Frame.stream, List.foldl_nil]
    by_cases own : key = owner
    · simp [own]
    · simp [own, Ne.symm own]
  | hushed hushed gone =>
    exact ((hushed.quiet numbered).2 key).trans (List.append_nil _).symm

private theorem Run.balance (numbered : start.Numbered) (run : Run M start history sessions)
    (key : Nat) :
    Dealing.taken key history ++ sessions.waiting key =
      start.waiting key ++ Frame.stream (Dealing.written key history) := by
  induction run with
  | start => exact (List.append_nil _).symm
  | @step history dealings sessions next run step ih =>
    have one := step.balance (run.sequel numbered).numbered key
    rw [Dealing.taken_append, Dealing.written_append, Frame.stream_append, List.append_assoc, one,
      ← List.append_assoc, ih, List.append_assoc]

/-! ## Stranded and closed sessions -/

/-- There is a connection behind the session, and its loop is gone. -/
def Stranded (key : Nat) (sessions : Sessions) : Prop :=
  sessions.loopGone = true ∧ ∃ session, sessions.get? key = some session ∧ session.link.isSome

/-- The session is closed. -/
def Shut (key : Nat) (sessions : Sessions) : Prop :=
  ∃ session, sessions.get? key = some session ∧ session.closed = true

private theorem Stranded.later (stranded : Stranded key sessions) (sequel : Sequel sessions next) :
    Stranded key next := by
  obtain ⟨gone, session, found, linked⟩ := stranded
  obtain ⟨later, foundLater, lasting⟩ := sequel.onward.kept key session found
  exact ⟨sequel.gone gone, later, foundLater, lasting.link ▸ linked⟩

private theorem Shut.later (shut : Shut key sessions) (sequel : Sequel sessions next) :
    Shut key next := by
  obtain ⟨session, found, closed⟩ := shut
  obtain ⟨later, foundLater, lasting⟩ := sequel.onward.kept key session found
  exact ⟨later, foundLater, lasting.closed closed⟩

/-- Whoever closes a session leaves it closed, whether it was before or not. -/
theorem shut_close (found : sessions.get? key = some session) : Shut key (sessions.close key) := by
  refine ⟨(session.close sessions.loopGone).1, ?_, ?_⟩
  · unfold Sessions.close
    rw [found, get?_record, if_pos rfl]
  · unfold Session.close
    split
    · next closed => exact closed
    · rfl

private theorem shut_markClosed (found : sessions.get? key = some session) :
    Shut key (sessions.markClosed key) := by
  refine ⟨session.markClosed, ?_, rfl⟩
  unfold Sessions.markClosed
  rw [found, get?_record, if_pos rfl]

/-- Only who is stranded hears that the loop is gone. -/
theorem stranded_of_send {message : M} (told : (sessions.send message key).1 = .error .loopGone) :
    Stranded key sessions := by
  cases found : sessions.get? key with
  | none =>
    rw [send, found] at told
    cases told
  | some session =>
    rw [send_outcome found] at told
    split at told
    · cases told
    · split at told
      · next both =>
        obtain ⟨linked, gone⟩ := Bool.and_eq_true_iff.1 both
        exact ⟨gone, session, found, linked⟩
      · cases told

private theorem Shut.send (shut : Shut key sessions) (message : M) :
    (sessions.send message key).1 = .error (.io .notConnected) := by
  obtain ⟨session, found, closed⟩ := shut
  rw [send_outcome found, closed]
  rfl

/-- Who was told that the loop is gone is stranded for good. -/
theorem Run.stranded (numbered : start.Numbered) (run : Run M start history sessions)
    (speech : Speech M) (inside : .spoke speech ∈ history)
    (gone : speech.outcome = .error .loopGone) : Stranded speech.key sessions := by
  obtain ⟨middle, _, after, told⟩ := run.told numbered speech inside
  exact (stranded_of_send (told.symm.trans gone)).later after

/-- **A closed session accepts nothing any more.** -/
theorem Run.shut (numbered : start.Numbered) (shut : Shut key start)
    (run : Run M start history sessions) (speech : Speech M) (inside : .spoke speech ∈ history)
    (own : speech.key = key) : speech.outcome = .error (.io .notConnected) := by
  obtain ⟨middle, before, _, told⟩ := run.told numbered speech inside
  rw [told, own]
  exact (shut.later before).send speech.message

/-! ## Whatever is done -/

/-- **What was written left or waits.** Whatever is done with sessions, whoever holds them, and
whenever their loop goes: what was taken from a session and what waits in it are the frames of the
sends that wrote, in order, each of them once. These are the sends that were accepted; where a
connection is behind the session and its loop is gone, also those that failed for that. What a send
does, and what its sender is told, goes by the state of the session and of its loop. A closed
session refuses before anything is written, and from then on refuses everybody. What is told of
sends to an identity and to everybody is how many were accepted. -/
theorem written_frames_left_or_wait (run : Run M ({} : Sessions) history sessions) :
    (∀ key, Dealing.taken key history ++ sessions.waiting key =
        Frame.stream (Dealing.written key history) ∧
      (¬ Stranded key sessions →
        Dealing.written key history = Dealing.accepted key history)) ∧
    (∀ key session, sessions.get? key = some session → ∀ message : M,
      (sessions.send message key).1 =
          (if session.closed then .error (.io .notConnected)
          else if session.link.isSome && sessions.loopGone then .error .loopGone
          else .ok ()) ∧
        Leaves key
          (if isWritten (sessions.send message key).1 then
            Frame.encode (sessions.waiting key) message
          else sessions.waiting key)
          sessions (sessions.send message key).2) ∧
    (∀ (message : M) id, (sessions.sendTo message id).1 = .ok true ↔
      ∃ speech ∈ speeches message (sessions.live? id).toList sessions,
        speech.isAccepted = true) ∧
    (∀ (message : M) keys, (sessions.sendEach message keys).1 =
      (speeches message keys sessions).countP Speech.isAccepted) ∧
    (∀ key session, sessions.get? key = some session →
      Shut key (sessions.close key) ∧ Shut key (sessions.markClosed key)) ∧
    ∀ key, Shut key sessions → ∀ more late, Run M sessions more late →
      ∀ speech, .spoke speech ∈ more → speech.key = key →
        speech.outcome = .error (.io .notConnected) := by
  have nobody : ({} : Sessions).Numbered := fun key session found => by cases found
  have numbered := (run.sequel nobody).numbered
  refine ⟨fun key => ⟨run.balance nobody key, fun free => ?_⟩,
    fun key session found message => ⟨send_outcome found message, send_leaves numbered message key⟩,
    fun message id => sendTo_true_iff message id sessions,
    fun message keys => sendEach_count message keys sessions,
    fun key session found => ⟨shut_close found, shut_markClosed found⟩,
    fun key shut more late further => further.shut numbered shut⟩
  exact Dealing.written_eq_accepted fun speech inside own told =>
    free (own ▸ run.stranded nobody speech inside told)

open Trial in
/-- Of two sends, one before the session is closed and one after it, the first is taken. -/
theorem frame_before_the_close_is_taken :
    let history : List (Dealing Telegram) :=
      [.spoke ⟨0, .pong 1, .ok ()⟩, .spoke ⟨0, .pong 2, .error (.io .notConnected)⟩,
        .drained 0 (Frame.stream [Telegram.pong 1])]
    ∃ sessions, Run Telegram ({} : Sessions) history sessions ∧
      Dealing.taken 0 history ++ sessions.waiting 0 =
        Frame.stream (Dealing.written 0 history) := by
  intro history
  have run := @Run.start Telegram _ {}
    |>.step (.open (Session.detached 1) rfl)
    |>.step (.send (.pong 1) 0)
    |>.step (.close 0)
    |>.step (.send (.pong 2) 0)
    |>.step (.take 0)
  exact ⟨_, run, ((written_frames_left_or_wait run).1 0).1⟩

open Trial in
/-- A send that fails can have written: the loop behind a session goes, a send is told so, and its
frame waits. It is not among the accepted ones. -/
theorem failed_send_leaves_its_frame :
    ∃ (history : List (Dealing Telegram)) (sessions : Sessions),
      Run Telegram ({} : Sessions) history sessions ∧
        history = [.spoke ⟨0, .pong 1, .error .loopGone⟩] ∧
        sessions.waiting 0 = Frame.stream [Telegram.pong 1] ∧
        Dealing.taken 0 history ++ sessions.waiting 0 ≠
          Frame.stream (Dealing.accepted 0 history) := by
  have run := @Run.start Telegram _ {}
    |>.step (.open (Session.attached 1 (.v4 127 0 0 1 40001) 5) rfl)
    |>.step .dismiss
    |>.step (.send (.pong 1) 0)
  exact ⟨_, _, run, rfl, by decide, by decide⟩

end Sessions

end EventLoop
