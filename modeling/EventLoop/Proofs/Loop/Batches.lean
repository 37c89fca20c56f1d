import EventLoop.Proofs.Loop.Minutes

/-! What is delivered in a batch and when alarms are served. `Batch` says from the
entries and the owners alone who is told what, in which order; `Phase` says what any
part of a turn in which objects are told things leaves as it was, and whom it spares.
Above all, nobody is told anything at a handle whose removal has been asked for. -/
namespace EventLoop

variable {B C W : Type}

namespace Changes

theorem isRemoved_foldl (requests : List (Request B)) (changes : Changes B C) (handle : Handle) :
    (requests.foldl Changes.request changes).isRemoved handle = true ↔
      changes.isRemoved handle = true ∨ .remove handle ∈ requests := by
  induction requests generalizing changes with
  | nil => simp
  | cons request requests ih =>
    rw [List.foldl_cons, ih]
    cases request <;> simp [Changes.request, Changes.isRemoved, or_assoc, or_left_comm]

end Changes

/-- An object but for what only its conduct looks into. -/
def Event.bare (event : Event B) : Event Unit := { event with body := () }

namespace Loop

/-- The owner of a handle, but for its body. -/
def bare? {V : Type} (handle : Handle) (loop : Loop B C V) : Option (Event Unit) :=
  (loop.lookup handle).map Event.bare

/-- An owner that comes back with another body owns what it owned. -/
theorem bare?_insert {V : Type} {loop : Loop B C V} {handle : Handle} {event : Event B}
    (found : loop.lookup handle = some event) (body : B) (probe : Handle) :
    ((loop.table.insert handle { event with body }).get? probe).map Event.bare =
      loop.bare? probe := by
  rw [loop.table.get?_insert handle probe, bare?]
  split
  · next here =>
    rw [here, found]
    rfl
  · rfl

/-! ## Phases -/

/-- A part of a turn in which objects are told things. Owners may change their bodies
and nothing else; whatever is asked for is put behind what was asked for before; nobody
is told anything at a handle that is to be removed, be it since before or since an earlier
notification of the phase. -/
structure Phase (early : Loop B C (W × Minutes B)) (tellings : List (Telling B))
    (late : Loop B C (W × Minutes B)) : Prop where
  told : late.told = early.told ++ tellings
  owners : ∀ handle, late.bare? handle = early.bare? handle
  listeners : late.selector.listeners = early.selector.listeners
  pending : late.changes.pending =
    early.changes.pending ++ (tellings.flatMap Telling.requests).map Request.change
  removed : ∀ handle, late.changes.isRemoved handle = true ↔
    early.changes.isRemoved handle = true ∨ ∃ telling ∈ tellings, telling.Silences handle
  spared : ∀ telling ∈ tellings, early.changes.isRemoved telling.event.handle = false
  hushed : tellings.Pairwise fun earlier later => ¬ earlier.Silences later.event.handle

variable {early middle late loop : Loop B C (W × Minutes B)}

/-- Two loops between which nothing has happened that concerns objects. -/
structure Beside (early late : Loop B C (W × Minutes B)) : Prop where
  told : late.told = early.told
  table : late.table = early.table
  listeners : late.selector.listeners = early.selector.listeners
  changes : late.changes = early.changes

private theorem Beside.trans (first : Beside early middle) (second : Beside middle late) :
    Beside early late :=
  ⟨second.told.trans first.told, second.table.trans first.table,
    second.listeners.trans first.listeners, second.changes.trans first.changes⟩

private theorem Beside.phase (beside : Beside early late) : Phase early [] late := by
  refine ⟨?_, fun handle => ?_, beside.listeners, ?_, fun handle => ?_, ?_, .nil⟩
  · rw [beside.told, List.append_nil]
  · rw [bare?, bare?, lookup, lookup, beside.table]
  · rw [beside.changes]
    exact (List.append_nil _).symm
  · rw [beside.changes]
    simp
  · exact fun telling inside => absurd inside List.not_mem_nil

private theorem Phase.trans {tellings more : List (Telling B)} (first : Phase early tellings middle)
    (second : Phase middle more late) : Phase early (tellings ++ more) late := by
  have quiet : ∀ later ∈ more, early.changes.isRemoved later.event.handle = false ∧
      ∀ earlier ∈ tellings, ¬ earlier.Silences later.event.handle := by
    intro later inside
    have spared := second.spared later inside
    have silent : ¬ (middle.changes.isRemoved later.event.handle = true) := by
      rw [spared]
      exact Bool.false_ne_true
    rw [first.removed] at silent
    refine ⟨?_, fun earlier before asked => silent (.inr ⟨earlier, before, asked⟩)⟩
    cases removed : early.changes.isRemoved later.event.handle with
    | false => rfl
    | true => exact absurd (.inl removed) silent
  refine ⟨?_, fun handle => (second.owners handle).trans (first.owners handle),
    second.listeners.trans first.listeners, ?_, fun handle => ?_, ?_, ?_⟩
  · rw [second.told, first.told, List.append_assoc]
  · rw [second.pending, first.pending, List.append_assoc, List.flatMap_append, List.map_append]
  · rw [second.removed, first.removed, or_assoc]
    simp only [List.mem_append, or_and_right, exists_or]
  · intro telling inside
    rcases List.mem_append.1 inside with before | after
    · exact first.spared telling before
    · exact (quiet telling after).1
  · exact List.pairwise_append.2 ⟨first.hushed, second.hushed,
      fun earlier before later after => (quiet later after).2 earlier before⟩

/-- Where only bodies have changed, every object still stands under its own handle. -/
theorem Phase.filed {tellings : List (Telling B)} (phase : Phase early tellings late)
    (filed : early.Filed) : late.Filed := by
  intro handle event found
  have same := phase.owners handle
  rw [bare?, bare?, found, Option.map_some] at same
  obtain ⟨owner, owned, bare⟩ := Option.map_eq_some_iff.1 same.symm
  have handles : owner.bare.handle = event.bare.handle := congrArg Event.handle bare
  exact handles.symm.trans (filed handle owner owned)

/-! ## One notification -/

variable (conduct : Conduct B C W)

private theorem carryOut_beside (loop : Loop B C (W × Minutes B)) (order : Order B C) :
    Beside loop (loop.carryOut conduct.minuted order) := by
  cases order with
  | stop => exact ⟨rfl, rfl, rfl, rfl⟩
  | wake => exact ⟨rfl, rfl, rfl, rfl⟩
  | change change =>
    simp only [carryOut, submit]
    split
    · exact ⟨rfl, rfl, rfl, rfl⟩
    · cases change <;> exact ⟨rfl, rfl, rfl, rfl⟩

private theorem carryOutAll_beside (loop : Loop B C (W × Minutes B)) (orders : List (Order B C)) :
    Beside loop (orders.foldl (carryOut conduct.minuted) loop) := by
  induction orders generalizing loop with
  | nil => exact ⟨rfl, rfl, rfl, rfl⟩
  | cons order orders ih => exact (carryOut_beside conduct loop order).trans (ih _)

/-- What the owner of a handle is told, and asks for in answer. -/
def telling (notice : Notice) (event : Event B) (loop : Loop B C (W × Minutes B)) : Telling B :=
  ⟨notice, event, (conduct.notify notice event loop.outlook loop.world.1).requests⟩

/-- A notification at a handle that is not to be removed is a phase of its own. -/
theorem notify_phase {handle : Handle} {event : Event B} (filed : loop.Filed)
    (found : loop.lookup handle = some event) (kept : loop.changes.isRemoved handle = false)
    (notice : Notice) :
    Phase loop [loop.telling conduct notice event]
      (loop.notify conduct.minuted notice handle) := by
  have own := filed handle event found
  rw [notify_eq conduct.minuted notice found]
  obtain ⟨told, table, listeners, changes⟩ := carryOutAll_beside conduct _
    (conduct.minuted.notify notice event loop.outlook loop.world).orders
  refine ⟨told, fun probe => ?_, listeners, ?_, fun probe => ?_, ?_, List.pairwise_singleton _ _⟩
  · rw [bare?, lookup, takeUp, table]
    exact bare?_insert found _ probe
  · rw [takeUp, changes, Changes.pending_foldl, List.flatMap_singleton]
    rfl
  · rw [takeUp, changes, Changes.isRemoved_foldl]
    simp only [List.mem_singleton, exists_eq_left]
    exact Iff.rfl
  · intro told inside
    rw [List.mem_singleton.1 inside]
    exact own ▸ kept

/-! ## Batches -/

/-- Somebody hears of an entry: it is not the waker's, and its handle is not silenced and has an
owner that is watched. -/
def Hears (silenced : Handle → Prop) (entry : Ready) (start : Loop B C (W × Minutes B)) : Prop :=
  entry.token ≠ wakerToken ∧ ¬ silenced entry.token.handle ∧
    ∃ owner, start.bare? entry.token.handle = some owner ∧ owner.standing = .added

/-- One half of an entry: one notification of the owner of the handle if it is due, and none
otherwise. -/
inductive Half (start : Loop B C (W × Minutes B)) (handle : Handle) (notice : Notice)
    (due : Prop) : List (Telling B) → Prop where
  | told {telling : Telling B} (now : due) (kind : telling.notice = notice)
      (owner : start.bare? handle = some telling.event.bare) :
      Half start handle notice due [telling]
  | silent (not : ¬ due) : Half start handle notice due []

/-- Who is told what in a batch that begins with the owners of `start`, while no handle that is
silenced hears anything: entry by entry, first of input, as a connection to accept or as
something to read, and then of room for output. Handles whose removal is asked for are silenced
from then on. -/
inductive Batch (start : Loop B C (W × Minutes B)) :
    (Handle → Prop) → List Ready → List (Telling B) → Prop where
  | done (silenced : Handle → Prop) : Batch start silenced [] []
  | entry {silenced : Handle → Prop} {entry : Ready} {entries : List Ready}
      {input output rest : List (Telling B)}
      (read : Half start entry.token.handle (start.inputNotice entry.token.handle)
        (start.Hears silenced entry ∧ entry.readiness.input = true) input)
      (write : Half start entry.token.handle .writable
        (start.Hears silenced entry ∧ entry.readiness.output = true ∧
          ∀ telling ∈ input, ¬ telling.Silences entry.token.handle) output)
      (later : Batch start
        (fun handle => silenced handle ∨ ∃ telling ∈ input ++ output, telling.Silences handle)
        entries rest) :
      Batch start silenced (entry :: entries) (input ++ output ++ rest)

/-- The handles that are to be removed. -/
def Removed {V : Type} (loop : Loop B C V) (handle : Handle) : Prop :=
  loop.changes.isRemoved handle = true

private theorem Half.congr {start other : Loop B C (W × Minutes B)} {handle : Handle}
    {notice : Notice} {due dueToo : Prop} {tellings : List (Telling B)}
    (owner : other.bare? handle = start.bare? handle) (same : due ↔ dueToo)
    (half : Half start handle notice due tellings) : Half other handle notice dueToo tellings := by
  cases half with
  | told now kind owned => exact .told (same.1 now) kind (owner.trans owned)
  | silent not => exact .silent fun now => not (same.2 now)

/-- It only matters who owns what and who listens. -/
theorem Batch.congr {start other : Loop B C (W × Minutes B)} {silenced silencedToo : Handle → Prop}
    {entries : List Ready} {tellings : List (Telling B)}
    (owners : ∀ handle, other.bare? handle = start.bare? handle)
    (listeners : other.selector.listeners = start.selector.listeners)
    (same : ∀ handle, silenced handle ↔ silencedToo handle)
    (batch : Batch start silenced entries tellings) :
    Batch other silencedToo entries tellings := by
  induction batch generalizing silencedToo with
  | done => exact .done silencedToo
  | @entry silenced entry entries input output rest read write later ih =>
    have hears : start.Hears silenced entry ↔ other.Hears silencedToo entry := by
      unfold Hears
      rw [same, owners]
    have notice (handle : Handle) : other.inputNotice handle = start.inputNotice handle := by
      unfold inputNotice Selector.isListener
      rw [listeners]
    refine .entry ?_ (write.congr (owners _) (and_congr_left fun _ => hears))
      (ih fun handle => or_congr_left (same handle))
    rw [notice]
    exact read.congr (owners _) (and_congr_left fun _ => hears)

/-- An entry that nobody hears of is passed over. -/
theorem deliver_unheard_beside {entry : Ready} (loop : Loop B C (W × Minutes B))
    (unheard : ¬ loop.Hears loop.Removed entry) :
    Beside loop (loop.deliver conduct.minuted entry).2 ∧
      (loop.deliver conduct.minuted entry).1 = 0 := by
  have nothing : Beside loop loop := ⟨rfl, rfl, rfl, rfl⟩
  unfold deliver
  split
  · exact ⟨nothing, rfl⟩
  · rename_i other
    simp only
    split
    · exact ⟨nothing, rfl⟩
    · rename_i kept
      split
      · exact ⟨⟨rfl, rfl, rfl, rfl⟩, rfl⟩
      · rename_i owner found
        have unwatched : owner.standing ≠ .added := fun watched =>
          unheard ⟨other, kept, owner.bare, congrArg (Option.map Event.bare) found, watched⟩
        rw [if_pos unwatched]
        exact ⟨nothing, rfl⟩

/-- An entry that somebody hears of is delivered in two halves, of which the second looks again
at what is to be removed. -/
theorem deliver_heard_eq {entry : Ready} (loop : Loop B C (W × Minutes B))
    (heard : loop.Hears loop.Removed entry) :
    loop.deliver conduct.minuted entry =
      let told := if entry.readiness.input
        then loop.notify conduct.minuted (loop.inputNotice entry.token.handle) entry.token.handle
        else loop
      let count := if entry.readiness.input then 1 else 0
      if entry.readiness.output && !told.changes.isRemoved entry.token.handle
      then (count + 1, told.notify conduct.minuted .writable entry.token.handle)
      else (count, told) := by
  obtain ⟨other, kept, bare, owned, watched⟩ := heard
  obtain ⟨owner, found, rfl⟩ := Option.map_eq_some_iff.1 owned
  have silent : loop.changes.isRemoved entry.token.handle = false := by simpa [Removed] using kept
  have added : owner.standing = .added := watched
  unfold deliver
  simp only [other, silent, found, added, ↓reduceIte, ne_eq, not_true_eq_false,
    Bool.false_eq_true]
  cases entry.readiness.input <;> rfl

/-- An owner that is told something while its handle is not to be removed. -/
theorem notify_half {handle : Handle} {owner : Event B} (filed : loop.Filed)
    (found : loop.lookup handle = some owner) (kept : loop.changes.isRemoved handle = false)
    (notice : Notice) (due : Prop) (now : due) :
    ∃ tellings, tellings.length = 1 ∧ Half loop handle notice due tellings ∧
      Phase loop tellings (loop.notify conduct.minuted notice handle) := by
  have bare : loop.bare? handle = some (loop.telling conduct notice owner).event.bare :=
    congrArg (Option.map Event.bare) found
  exact ⟨_, rfl, .told now rfl bare, notify_phase conduct filed found kept notice⟩

/-- **One entry**: who is told what, and what it leads to. -/
theorem deliver_phase (filed : loop.Filed) (entry : Ready) :
    ∃ input output,
      Half loop entry.token.handle (loop.inputNotice entry.token.handle)
        (loop.Hears loop.Removed entry ∧ entry.readiness.input = true) input ∧
      Half loop entry.token.handle .writable
        (loop.Hears loop.Removed entry ∧ entry.readiness.output = true ∧
          ∀ telling ∈ input, ¬ telling.Silences entry.token.handle) output ∧
      Phase loop (input ++ output) (loop.deliver conduct.minuted entry).2 ∧
      (loop.deliver conduct.minuted entry).1 = (input ++ output).length := by
  by_cases heard : loop.Hears loop.Removed entry
  · rw [deliver_heard_eq conduct loop heard]
    obtain ⟨_, kept, bare, owned, _⟩ := id heard
    have keptHere : loop.changes.isRemoved entry.token.handle = false := by
      simpa [Removed] using kept
    -- The first half, with what is known of the loop between the halves.
    obtain ⟨input, read, phase, counted⟩ : ∃ input,
        Half loop entry.token.handle (loop.inputNotice entry.token.handle)
          (loop.Hears loop.Removed entry ∧ entry.readiness.input = true) input ∧
        Phase loop input (if entry.readiness.input
          then loop.notify conduct.minuted (loop.inputNotice entry.token.handle) entry.token.handle
          else loop) ∧
        (if entry.readiness.input then 1 else 0) = input.length := by
      cases ready : entry.readiness.input with
      | true =>
        obtain ⟨owner, found, _⟩ := Option.map_eq_some_iff.1 owned
        obtain ⟨tellings, one, half, phase⟩ := notify_half conduct filed found keptHere
          (loop.inputNotice entry.token.handle) (loop.Hears loop.Removed entry ∧ true = true)
          ⟨heard, rfl⟩
        exact ⟨tellings, half, phase, one.symm⟩
      | false =>
        exact ⟨[], .silent fun now => Bool.false_ne_true now.2,
          Beside.phase ⟨rfl, rfl, rfl, rfl⟩, rfl⟩
    simp only
    rw [counted]
    generalize (if entry.readiness.input
      then loop.notify conduct.minuted (loop.inputNotice entry.token.handle) entry.token.handle
      else loop) = told at phase ⊢
    have silenced : told.changes.isRemoved entry.token.handle = true ↔
        ∃ telling ∈ input, telling.Silences entry.token.handle := by
      rw [phase.removed, keptHere]
      simp
    cases room : entry.readiness.output && !told.changes.isRemoved entry.token.handle with
    | true =>
      obtain ⟨ready, still⟩ := Bool.and_eq_true_iff.1 room
      have stillKept : told.changes.isRemoved entry.token.handle = false := by simpa using still
      have unasked : ∀ telling ∈ input, ¬ telling.Silences entry.token.handle := by
        intro telling inside asked
        have removed := silenced.2 ⟨telling, inside, asked⟩
        rw [stillKept] at removed
        cases removed
      obtain ⟨owner, found, _⟩ := Option.map_eq_some_iff.1 ((phase.owners _).trans owned)
      obtain ⟨output, one, half, later⟩ := notify_half conduct (phase.filed filed) found stillKept
        .writable (loop.Hears loop.Removed entry ∧ entry.readiness.output = true ∧
          ∀ telling ∈ input, ¬ telling.Silences entry.token.handle) ⟨heard, ready, unasked⟩
      refine ⟨input, output, read, half.congr (phase.owners _).symm Iff.rfl, phase.trans later, ?_⟩
      rw [List.length_append, one]
      rfl
    | false =>
      refine ⟨input, [], read, .silent fun now => ?_, ?_, ?_⟩
      · have removed : told.changes.isRemoved entry.token.handle = true := by
          simpa [now.2.1] using room
        obtain ⟨telling, inside, asked⟩ := silenced.1 removed
        exact now.2.2 telling inside asked
      · rw [List.append_nil]
        exact phase
      · rw [List.append_nil]
        rfl
  · obtain ⟨beside, none⟩ := deliver_unheard_beside conduct loop heard
    exact ⟨[], [], .silent fun now => heard now.1, .silent fun now => heard now.1, beside.phase,
      none⟩

/-- **A whole batch**, entry by entry: who is told what, and how many notifications that is. -/
theorem deliverAll_batch (filed : loop.Filed) (entries : List Ready) :
    ∃ tellings, Batch loop loop.Removed entries tellings ∧
      Phase loop tellings (loop.deliverAll conduct.minuted entries).2 ∧
      (loop.deliverAll conduct.minuted entries).1 = tellings.length := by
  induction entries generalizing loop with
  | nil => exact ⟨[], .done _, Beside.phase ⟨rfl, rfl, rfl, rfl⟩, rfl⟩
  | cons entry entries ih =>
    obtain ⟨input, output, read, write, phase, here⟩ := deliver_phase conduct filed entry
    obtain ⟨rest, batch, later, counted⟩ := ih (phase.filed filed)
    have onward := batch.congr (fun handle => (phase.owners handle).symm) phase.listeners.symm
      phase.removed
    refine ⟨input ++ output ++ rest, .entry read write onward, phase.trans later, ?_⟩
    rw [List.length_append, ← here, ← counted]
    rfl

/-! ## Alarms -/

private theorem serve_phase (filed : loop.Filed) (now : Nat) (alarm : Alarm C) :
    ∃ tellings, Phase loop tellings (loop.serve conduct.minuted now alarm) ∧
      ∀ telling ∈ tellings, telling.notice = .timer := by
  have nothing (late : Loop B C (W × Minutes B)) (beside : Beside loop late) :
      ∃ tellings, Phase loop tellings late ∧ ∀ telling ∈ tellings, telling.notice = .timer :=
    ⟨[], beside.phase, fun telling inside => absurd inside List.not_mem_nil⟩
  cases alarm with
  | event handle generation =>
    cases roused : loop.roused? handle generation with
    | some owner =>
      obtain ⟨kept, found, _⟩ := roused?_eq_some.1 roused
      rw [serve_of_roused conduct.minuted now roused]
      refine ⟨_, notify_phase conduct filed found kept .timer, ?_⟩
      intro telling inside
      rw [List.mem_singleton.1 inside]
      rfl
    | none =>
      rw [serve_of_unroused conduct.minuted now roused]
      exact nothing loop ⟨rfl, rfl, rfl, rfl⟩
  | callback callback interval remaining =>
    have fired : Beside loop
        { loop with world := (conduct.minuted.fire callback loop.outlook loop.world).world } :=
      ⟨rfl, rfl, rfl, rfl⟩
    have ordered := fired.trans (carryOutAll_beside conduct _
      (conduct.minuted.fire callback loop.outlook loop.world).orders)
    simp only [serve]
    split
    · exact nothing _ (ordered.trans ⟨rfl, rfl, rfl, rfl⟩)
    · exact nothing _ ordered

private theorem serveAll_phase (filed : loop.Filed) (now : Nat) (due : List (Alarm C)) :
    ∃ tellings, Phase loop tellings (due.foldl (serve conduct.minuted now) loop) ∧
      ∀ telling ∈ tellings, telling.notice = .timer := by
  induction due generalizing loop with
  | nil =>
    exact ⟨[], Beside.phase ⟨rfl, rfl, rfl, rfl⟩,
      fun telling inside => absurd inside List.not_mem_nil⟩
  | cons alarm due ih =>
    obtain ⟨here, phase, timers⟩ := serve_phase conduct filed now alarm
    obtain ⟨later, phaseLater, timersLater⟩ := ih (phase.filed filed)
    refine ⟨here ++ later, phase.trans phaseLater, ?_⟩
    intro telling inside
    exact (List.mem_append.1 inside).elim (timers telling) (timersLater telling)

/-- **Serving alarms** tells objects of timers and of nothing else. -/
theorem fireAlarms_phase (filed : loop.Filed) :
    ∃ tellings, Phase loop tellings (loop.fireAlarms conduct.minuted) ∧
      ∀ telling ∈ tellings, telling.notice = .timer := by
  have taken (agenda : Agenda (Alarm C)) : Beside loop
      { (loop.readClock conduct.minuted).2 with agenda } := ⟨rfl, rfl, rfl, rfl⟩
  obtain ⟨tellings, phase, timers⟩ :=
    serveAll_phase conduct ((taken _).phase.filed filed) (loop.readClock conduct.minuted).1
      (((loop.readClock conduct.minuted).2.agenda.expired (loop.readClock conduct.minuted).1).1)
  exact ⟨tellings, (taken _).phase.trans phase, timers⟩

end Loop

end EventLoop
