import EventLoop.Proofs.Loop.Journals
import EventLoop.Proofs.Loop.Lifetimes

/-! Requests and alarms outlive the owners they were made for, and never reach
another. A request that names a generation does nothing once the handle is free
or somebody else's. An alarm names the owner of the moment at which it was
scheduled, and is delivered at most once and to nobody else: every call by which
an object is told of an alarm is in the journal of the life, and finds its place in
the history there. Both hold wherever the loop's thread has come to and whoever has
come in between; what is needed of a history is only that no owner enters it
twice. -/
namespace EventLoop

variable {B C W : Type}

/-! ## Histories -/

/-- A loop that owns nothing and has nothing on its agenda. -/
structure Loop.Vacant (loop : Loop B C W) : Prop where
  table : loop.table = {}
  agenda : loop.agenda = {}

/-- The owner that enters with a deed. -/
def Deed.newcomer? : Deed → Option (Handle × UInt64)
  | .entered handle generation => some (handle, generation)
  | _ => none

/-- Whoever has entered and not left. -/
def Present (history : List Deed) (handle : Handle) (generation : UInt64) : Prop :=
  .entered handle generation ∈ history ∧ .left handle generation ∉ history

instance (history : List Deed) (handle : Handle) (generation : UInt64) :
    Decidable (Present history handle generation) :=
  inferInstanceAs (Decidable (_ ∧ _))

/-- An alarm for an owner is still out: more were scheduled than have been delivered or
have lapsed. -/
def AlarmOut (history : List Deed) (handle : Handle) (generation : UInt64) : Prop :=
  history.count (.told .timer handle generation) + history.count (.lapsed handle generation) <
    history.count (.scheduled handle generation)

/-- The notices in a loop's journal, each with whoever it was given to. -/
def Loop.notices (loop : Loop B C (W × List (Doing B C))) : List Deed :=
  loop.journal.filterMap Doing.deed?

/-! ## What every life keeps -/

variable {conduct : Conduct B C W} {start site : Site B C W} {history : List Deed}
  {handed : List (Event B)} {around : W → W → Prop}

private theorem Loop.Vacant.ledger_eq {loop : Loop B C W} (vacant : loop.Vacant) :
    loop.ledger = .blank ∧ loop.Filed := by
  have nobody : ∀ handle, loop.lookup handle = none := fun handle => by
    rw [Loop.lookup, vacant.table]
    rfl
  refine ⟨Ledger.ext (funext ?_) (funext fun handle => funext ?_), ?_⟩
  · intro handle
    exact Loop.owner?_eq_none.2 (nobody handle)
  · intro generation
    simp only [Loop.ledger, Loop.waiting, vacant.agenda]
    rfl
  · intro handle event found
    rw [nobody] at found
    cases found

/-- The history of a life is one that its ledger permits, and as long as there is a loop
it keeps that ledger. -/
theorem Site.Lifetime.accounted (life : Lifetime conduct around start history handed site)
    (filed : start.loop.Filed) :
    ∃ ledger, start.ledger.Follows history ledger ∧
      (site.loop.alive = true → site.loop.Filed ∧ ledger = site.ledger) := by
  induction life with
  | start => exact ⟨_, .none _, fun _ => ⟨filed, rfl⟩⟩
  | step life alive step ih =>
    obtain ⟨ledger, follows, keeps⟩ := ih
    obtain ⟨filedHere, rfl⟩ := keeps alive
    have further := step.accounted filedHere
    exact ⟨_, follows.trans further.follows, fun _ => ⟨further.filed, rfl⟩⟩
  | @order deeds handed site life order ih =>
    obtain ⟨ledger, follows, keeps⟩ := ih
    refine ⟨ledger, follows, fun alive => ?_⟩
    obtain ⟨filedHere, rfl⟩ := keeps ((site.loop.carryOut_keeps conduct order).2.2.symm.trans alive)
    have carried := Loop.accounts_carryOut conduct filedHere order
    exact ⟨carried.filed, Site.ledger_congr carried.follows.eq site.stage⟩
  | @call deeds handed loop life alive change ih =>
    obtain ⟨ledger, follows, keeps⟩ := ih
    obtain ⟨filedHere, rfl⟩ := keeps alive
    have applied : Site.Accounts ⟨loop, .resting⟩ _ ⟨_, .resting⟩ :=
      Site.accounts_of_loop (Loop.accounts_apply conduct filedHere change) rfl rfl
    exact ⟨_, follows.trans applied.follows, fun _ => ⟨applied.filed, rfl⟩⟩
  | elsewhere life moved queue ih => exact ih
  | @close deeds handed loop life alive ih =>
    obtain ⟨ledger, follows, _⟩ := ih
    refine ⟨ledger, follows, fun stillAlive => ?_⟩
    cases (Loop.close_empty conduct loop).2.2.2.symm.trans stillAlive

/-- **The history of a life tells of the notices that are in its journal**, in their
order, and of no other. -/
theorem Site.Lifetime.attested {start site : Site B C (W × List (Doing B C))}
    (life : Lifetime conduct.journaled (Beyond around) start history handed site)
    (filed : start.loop.Filed) :
    site.loop.notices = start.loop.notices ++ history.filter Deed.isTold := by
  unfold Loop.notices
  induction life with
  | start => exact (List.append_nil _).symm
  | step life alive step ih =>
    obtain ⟨_, _, keeps⟩ := life.accounted filed
    rw [step.journaled, List.filterMap_append, ih, List.filter_append,
      step.notices (keeps alive).1, List.append_assoc]
  | order life order ih => rw [Loop.carryOut_journal, ih]
  | call life alive change ih =>
    rw [Loop.apply_journal, ih, List.filter_append, Loop.changeDeeds_untold, List.append_nil]
  | @elsewhere deeds handed site world life moved queue ih =>
    have same : world.2 = site.loop.journal := moved.2
    exact (congrArg (List.filterMap Doing.deed?) same).trans ih
  | @close deeds handed loop life alive ih =>
    rw [Loop.close_journal, ih]

private theorem count_entered_le_one (distinct : (history.filterMap Deed.newcomer?).Nodup)
    (handle : Handle) (generation : UInt64) :
    history.count (.entered handle generation) ≤ 1 := by
  have once := List.nodup_iff_count.1 distinct (handle, generation)
  rw [List.count_filterMap] at once
  refine Nat.le_trans (List.countP_mono_left fun deed _ same => ?_) once
  rw [eq_of_beq same]
  simp [Deed.newcomer?]

/-- In the ledger of a history without a second entry stands who is present. -/
theorem Ledger.Follows.owner_iff {late : Ledger} (follows : Ledger.blank.Follows history late)
    (distinct : (history.filterMap Deed.newcomer?).Nodup) (handle : Handle)
    (generation : UInt64) :
    late.owner handle = some generation ↔ Present history handle generation := by
  have balance := follows.owner_balance handle generation
  have once := count_entered_le_one distinct handle generation
  simp only [Ledger.blank, reduceCtorEq, ↓reduceIte, Nat.add_zero] at balance
  rw [Present, ← List.count_pos_iff, ← List.count_eq_zero]
  constructor
  · intro owned
    rw [if_pos owned] at balance
    omega
  · rintro ⟨entered, stayed⟩
    by_cases owned : late.owner handle = some generation
    · exact owned
    · rw [if_neg owned] at balance
      omega

/-- A deed of a history was permitted by the ledger of what came before it. -/
theorem Ledger.Follows.permitted {early late : Ledger} {before after : List Deed} {deed : Deed}
    (follows : early.Follows (before ++ deed :: after) late) :
    ∃ ledger, early.Follows before ledger ∧ ledger.Permits deed := by
  obtain ⟨ledger, first, second⟩ := follows.cut
  cases second with
  | deed permitted rest => exact ⟨ledger, first, permitted⟩

/-- A request that names a generation does nothing to a loop in which nobody of
that generation owns the handle. -/
theorem apply_stale (conduct : Conduct B C W) (loop : Loop B C W) {handle : Handle}
    {generation : UInt64}
    (stale : ∀ owner, loop.lookup handle = some owner → owner.generation ≠ generation)
    (mask : Interest) (delay : Nat) :
    loop.apply conduct (.rearm { handle, generation := some generation } mask) = loop ∧
      loop.apply conduct (.remove { handle, generation := some generation }) = loop ∧
      loop.apply conduct (.schedule { handle, generation := some generation } delay) = loop := by
  have disowned : loop.owns { handle, generation := some generation } = false := by
    unfold Loop.owns
    cases found : loop.lookup handle with
    | none => rfl
    | some owner => simpa using stale owner found
  refine ⟨?_, ?_, ?_⟩
  · simp [Loop.apply, disowned]
  · simp [Loop.apply, disowned]
  · simp only [Loop.apply, disowned]
    split <;> rfl

/-- A notice in a history without a second entry is given to whoever is present; one of
an alarm is given for an alarm that is still out. -/
theorem Ledger.Follows.told {late : Ledger} {before after : List Deed} {notice : Notice}
    {handle : Handle} {generation : UInt64}
    (follows : Ledger.blank.Follows (before ++ .told notice handle generation :: after) late)
    (distinct : (before.filterMap Deed.newcomer?).Nodup) :
    Present before handle generation ∧
      (notice = .timer → AlarmOut before handle generation) := by
  obtain ⟨ledger, early, owned, waits⟩ := follows.permitted
  refine ⟨(early.owner_iff distinct handle generation).1 owned, fun timer => ?_⟩
  have balance := early.alarm_balance handle generation
  have waiting := waits timer
  simp only [Ledger.blank, Nat.add_zero] at balance
  unfold AlarmOut
  omega

/-- What stands in a journal at some place stands at its own place in the history. -/
theorem Doing.place_of_cut {earlier later : List (Doing B C)} {doing : Doing B C} {deed : Deed}
    (attested : (earlier ++ doing :: later).filterMap Doing.deed? = history.filter Deed.isTold)
    (is : doing.deed? = some deed) :
    ∃ before after, history = before ++ deed :: after ∧
      before.filter Deed.isTold = earlier.filterMap Doing.deed? := by
  rw [List.filterMap_append, List.filterMap_cons_some is] at attested
  obtain ⟨first, rest, rfl, begins, goesOn⟩ := List.filter_eq_append_iff.1 attested.symm
  obtain ⟨between, after, rfl, quiet, _, _⟩ := List.filter_eq_cons_iff.1 goesOn
  refine ⟨first ++ between, after, (List.append_assoc ..).symm, ?_⟩
  rw [List.filter_append, begins, List.filter_eq_nil_iff.2 quiet, List.append_nil]

/-- **Requests and alarms keep to the owner they were made for.** A request that names a
generation leaves every loop as it is in which the handle is free or another's. In a life
in which no owner enters twice, who owns a handle is who has entered and not left, and
alarms are scheduled for whoever is present. The life with its journal is the same life,
and the notices in the journal, which are the calls that objects were told by, are those of
the history. No owner is told of alarms more often than alarms were scheduled for it, and
as long as there is a loop every alarm has been told, has lapsed or still waits. And every
object that was told of an alarm was the owner present at that place of the history, with
an alarm out that had been scheduled for it. -/
theorem requests_and_alarms_keep_to_owner (conduct : Conduct B C W) {start site : Site B C W}
    {around : W → W → Prop} {history : List Deed} {handed : List (Event B)}
    (vacant : start.loop.Vacant) (resting : start.stage = .resting)
    (life : Site.Lifetime conduct around start history handed site)
    (distinct : (history.filterMap Deed.newcomer?).Nodup) :
    (∀ (loop : Loop B C W) (handle : Handle) (generation : UInt64),
      (∀ owner, loop.lookup handle = some owner → owner.generation ≠ generation) →
      ∀ mask delay,
        loop.apply conduct (.rearm { handle, generation := some generation } mask) = loop ∧
        loop.apply conduct (.remove { handle, generation := some generation }) = loop ∧
        loop.apply conduct (.schedule { handle, generation := some generation } delay) = loop) ∧
    (site.loop.alive = true → ∀ handle generation,
      site.loop.owner? handle = some generation ↔ Present history handle generation) ∧
    (∀ before after handle generation,
      history = before ++ .scheduled handle generation :: after →
        Present before handle generation) ∧
    ∃ recorded : Site B C (W × List (Doing B C)),
      Site.Lifetime conduct.journaled (Beyond around) start.journaling history handed recorded ∧
      recorded.offRecord = site ∧
      recorded.loop.notices = history.filter Deed.isTold ∧
      (∀ handle generation,
        recorded.loop.notices.count (.told .timer handle generation) ≤
          history.count (.scheduled handle generation)) ∧
      (site.loop.alive = true → ∀ handle generation,
        history.count (.scheduled handle generation) =
          recorded.loop.notices.count (.told .timer handle generation) +
            history.count (.lapsed handle generation) + site.ledger.waiting handle generation) ∧
      ∀ earlier telling orders later,
        recorded.loop.journal = earlier ++ .told telling orders :: later →
        telling.notice = .timer →
        ∃ before after,
          history = before ++
            .told .timer telling.event.handle telling.event.generation :: after ∧
          before.filter Deed.isTold = earlier.filterMap Doing.deed? ∧
          Present before telling.event.handle telling.event.generation ∧
          AlarmOut before telling.event.handle telling.event.generation := by
  obtain ⟨loopBlank, filed⟩ := vacant.ledger_eq
  have blank : start.ledger = .blank := by
    obtain ⟨loop, stage⟩ := start
    cases resting
    exact loopBlank
  obtain ⟨ledger, follows, keeps⟩ := life.accounted filed
  rw [blank] at follows
  have firstOnce {before after : List Deed} (cut : history = before ++ after) :
      (before.filterMap Deed.newcomer?).Nodup := by
    rw [cut, List.filterMap_append] at distinct
    exact (List.nodup_append.1 distinct).1
  have begun : Site.Lifetime conduct around start.journaling.offRecord history handed site := life
  obtain ⟨recorded, written, same⟩ := begun.recorded Doing.scribe
  have attested : recorded.loop.notices = history.filter Deed.isTold :=
    Site.Lifetime.attested written filed
  -- The deeds of the history that tell somebody something are calls, so they can be counted there.
  have counted (handle : Handle) (generation : UInt64) :
      recorded.loop.notices.count (.told .timer handle generation) =
        history.count (.told .timer handle generation) := by
    rw [attested, List.count_filter rfl]
  have balance (handle : Handle) (generation : UInt64) :
      history.count (.scheduled handle generation) =
        history.count (.told .timer handle generation) +
          history.count (.lapsed handle generation) + ledger.waiting handle generation := by
    simpa [Ledger.blank] using follows.alarm_balance handle generation
  refine ⟨fun loop handle generation stale => apply_stale conduct loop stale, ?_, ?_, recorded,
    written, same, attested, ?_, ?_, ?_⟩
  · intro alive handle generation
    obtain ⟨_, rfl⟩ := keeps alive
    exact follows.owner_iff distinct handle generation
  · intro before after handle generation cut
    obtain ⟨earlier, early, permitted⟩ := (cut ▸ follows).permitted
    exact (early.owner_iff (firstOnce cut) handle generation).1 permitted
  · intro handle generation
    have all := balance handle generation
    rw [counted]
    omega
  · intro alive handle generation
    obtain ⟨_, rfl⟩ := keeps alive
    rw [counted]
    exact balance handle generation
  · intro earlier telling orders later cut timer
    have told : (Doing.told telling orders : Doing B C).deed? =
        some (.told .timer telling.event.handle telling.event.generation) := by
      rw [Doing.deed?, timer]
    rw [Loop.notices, cut] at attested
    obtain ⟨before, after, here, sofar⟩ := Doing.place_of_cut attested told
    obtain ⟨present, out⟩ := Ledger.Follows.told (here ▸ follows) (firstOnce here)
    exact ⟨before, after, here, sofar, present, out rfl⟩

/-- A handle is reused while a removal, a request and an alarm for its first owner
are still under way. The second owner hears of its own alarm only. -/
theorem reused_handle_hears_its_own_alarm :
    let conduct : Conduct Unit Empty Nat :=
      { call := fun _ _ world => (none, world)
        notify := fun _ _ _ world => ⟨(), world, [], []⟩
        fire := fun callback => nomatch callback
        level := fun _ _ => {}
        clock := fun world => (world, world + 100)
        wait := fun _ _ world => world
        unresolved := fun _ world => world
        destroy := fun _ world => world }
    let anything : Nat → Nat → Prop := fun _ _ => True
    let start : Site Unit Empty Nat := ⟨{ world := 0 }, .resting⟩
    let history : List Deed :=
      [.entered 5 1, .scheduled 5 1, .left 5 1, .entered 5 2, .scheduled 5 2, .lapsed 5 1,
        .told .timer 5 2]
    ∃ handed site, Site.Lifetime conduct anything start history handed site ∧
      site.loop.owner? 5 = some 2 ∧ Present history 5 2 ∧ ¬ Present history 5 1 ∧
      ∃ recorded : Site Unit Empty (Nat × List (Doing Unit Empty)),
        recorded.offRecord = site ∧ recorded.loop.notices = [.told .timer 5 2] ∧
        recorded.loop.notices.count (.told .timer 5 1) = 0 := by
  intro conduct anything start history
  have added : Site.Lifetime conduct anything start
      [.entered 5 1, .scheduled 5 1, .left 5 1, .entered 5 2, .scheduled 5 2] _ _ :=
    .call
      (.call
        (.call .start rfl (.add { handle := 5, generation := 1, source := 3, body := () } .timer))
        rfl (.remove { handle := 5 }))
      rfl (.add { handle := 5, generation := 2, source := 4, body := () } .timer)
  have asked : Site.Lifetime conduct anything start _ _ _ :=
    added.order (.change (.remove { handle := 5, generation := some 1 }))
  have delivering : Site.Lifetime conduct anything start _ _ _ :=
    ((asked.step rfl (.begin _)).step rfl (.take rfl)).step rfl (.poll rfl false none [] [])
  have ringing : Site.Lifetime conduct anything start _ _ _ :=
    (delivering.step rfl (.handOver _)).step rfl (.ring _)
  have lapsed : Site.Lifetime conduct anything start
      [.entered 5 1, .scheduled 5 1, .left 5 1, .entered 5 2, .scheduled 5 2, .lapsed 5 1] _ _ :=
    ringing.step rfl (.serve _ _ _ _)
  have life : Site.Lifetime conduct anything start history _ _ := lapsed.step rfl (.serve _ _ _ _)
  obtain ⟨_, _, _, recorded, _, same, notices, _⟩ :=
    requests_and_alarms_keep_to_owner conduct ⟨rfl, rfl⟩ rfl life (by decide)
  refine ⟨_, _, life, by decide, by decide, by decide, recorded, same, notices, ?_⟩
  rw [notices]
  rfl

end EventLoop
