import EventLoop.Proofs.Loop.Batches

/-! What becomes of an object whose removal has been asked for. Applying a list of
changes, an owner stays at its handle as it is but for its standing until a removal of
the handle comes, and is destroyed then: no other change takes its place. So whoever
owned a handle when its removal was asked for is gone when the list has been applied,
whatever else the list contains, and has heard nothing in between. -/
namespace EventLoop

variable {B C W : Type}

namespace Loop

/-! ## Applying a list -/

/-- Between two loops objects come to their end, and nobody is told anything. -/
structure Ends (early : Loop B C (W × Minutes B)) (ended : List (Event B))
    (late : Loop B C (W × Minutes B)) : Prop where
  told : late.told = early.told
  ended : late.ended = early.ended ++ ended

private theorem Ends.trans {early middle late : Loop B C (W × Minutes B)}
    {ended more : List (Event B)}
    (first : Ends early ended middle) (second : Ends middle more late) :
    Ends early (ended ++ more) late := by
  constructor
  · exact second.told.trans first.told
  · rw [second.ended, first.ended, List.append_assoc]

/-- An object is among the destroyed, as it was but for its standing. -/
def Destroyed (event : Event B) (ended : List (Event B)) : Prop :=
  ∃ standing, { event with standing } ∈ ended

variable (conduct : Conduct B C W) {loop : Loop B C (W × Minutes B)} {handle : Handle}
  {owner : Event B}

/-- Applying a change writes nothing into the minutes but who is destroyed. -/
theorem apply_ends (loop : Loop B C (W × Minutes B)) (change : Change B C) :
    ∃ ended, Ends loop ended (loop.apply conduct.minuted change) := by
  have within : conduct.minuted.Within fun early late =>
      late.2.told = early.2.told ∧ ∃ ended, late.2.ended = early.2.ended ++ ended := by
    refine ⟨fun world => ⟨rfl, [], (List.append_nil _).symm⟩, ?_, ?_, ?_, ?_⟩
    · rintro early middle late ⟨told, ended, first⟩ ⟨toldLater, more, second⟩
      refine ⟨toldLater.trans told, ended ++ more, ?_⟩
      rw [second, first, List.append_assoc]
    · intro call event world
      exact ⟨rfl, [], (List.append_nil _).symm⟩
    · intro event world
      exact ⟨rfl, [event], rfl⟩
    · intro world
      exact ⟨rfl, [], (List.append_nil _).symm⟩
  obtain ⟨told, ended, destroyed⟩ := apply_moves conduct.minuted within loop change
  exact ⟨ended, told, destroyed⟩

private theorem applyAll_ends (loop : Loop B C (W × Minutes B)) (pending : List (Change B C)) :
    ∃ ended, Ends loop ended (pending.foldl (apply conduct.minuted) loop) := by
  induction pending generalizing loop with
  | nil => exact ⟨[], rfl, (List.append_nil _).symm⟩
  | cons change pending ih =>
    obtain ⟨ended, ends⟩ := apply_ends conduct loop change
    obtain ⟨more, later⟩ := ih (loop.apply conduct.minuted change)
    exact ⟨ended ++ more, ends.trans later⟩

private theorem applyAll_keeps {V : Type} (conduct : Conduct B C V) (loop : Loop B C V)
    (filed : loop.Filed) (pending : List (Change B C)) :
    (pending.foldl (apply conduct) loop).Filed ∧
      (pending.foldl (apply conduct) loop).changes = loop.changes := by
  induction pending generalizing loop with
  | nil => exact ⟨filed, rfl⟩
  | cons change pending ih =>
    obtain ⟨filedLate, kept⟩ := ih _ (accounts_apply conduct filed change).filed
    exact ⟨filedLate, kept.trans (apply_keeps conduct loop change).2.1⟩

private theorem unregister_unminuted (selector : Selector) (event : Event B)
    (world : W × Minutes B) :
    (∃ standing, (selector.unregister conduct.minuted event world).1 = { event with standing }) ∧
      (selector.unregister conduct.minuted event world).2.2.2 = world.2 := by
  have dismissal := Selector.unregister_dismissal conduct.minuted event world selector
  generalize selector.unregister conduct.minuted event world = gone at dismissal ⊢
  cases dismissal with
  | idle standing => exact ⟨⟨event.standing, rfl⟩, rfl⟩
  | asked added called =>
    cases called
    exact ⟨⟨.absent, rfl⟩, rfl⟩

private theorem removeEvent_destroys (found : loop.lookup handle = some owner) :
    ∃ standing, (loop.removeEvent conduct.minuted handle).2.ended =
      loop.ended ++ [{ owner with standing }] := by
  obtain ⟨⟨standing, left⟩, unminuted⟩ :=
    unregister_unminuted conduct loop.selector owner loop.world
  refine ⟨standing, ?_⟩
  rw [← left]
  unfold removeEvent
  rw [found]
  exact congrArg (·.ended ++ _) unminuted

/-- **What a change does to an owner**: it stays as it is but for its standing, which no removal
of its handle lets it do, or it is destroyed and its handle free. -/
theorem apply_fate (filed : loop.Filed) (found : loop.lookup handle = some owner)
    (change : Change B C) {ended : List (Event B)}
    (ends : Ends loop ended (loop.apply conduct.minuted change)) :
    (change ≠ .remove { handle } ∧ ∃ standing,
      (loop.apply conduct.minuted change).lookup handle = some { owner with standing }) ∨
    (Destroyed owner ended ∧ (loop.apply conduct.minuted change).lookup handle = none) := by
  by_cases concerned : handleOf change = some handle
  · cases change with
    | add event mask =>
      have here : event.handle = handle := Option.some.inj concerned
      subst here
      rcases addEvent_owner conduct.minuted filed event mask with
        ⟨resident, standing, resides, stands⟩ | ⟨free, _⟩
      · have same : resident = owner := Option.some.inj (resides.symm.trans found)
        subst same
        left
        constructor
        · rintro ⟨⟩
        · exact ⟨standing, stands⟩
      · cases free.symm.trans found
    | rearm target mask =>
      have here : target.handle = handle := Option.some.inj concerned
      subst here
      left
      constructor
      · rintro ⟨⟩
      · simp only [apply]
        split
        · obtain ⟨standing, stands⟩ := registerOwned_owner conduct.minuted loop owner mask
          refine ⟨standing, ?_⟩
          rw [rearm, found, ← filed _ _ found]
          exact stands
        · exact ⟨owner.standing, found⟩
    | remove target =>
      have here : target.handle = handle := Option.some.inj concerned
      subst here
      cases meant : loop.owns target with
      | true =>
        right
        simp only [apply, meant, ↓reduceIte] at ends ⊢
        obtain ⟨standing, left⟩ := removeEvent_destroys conduct found
        have same : ended = [{ owner with standing }] :=
          List.append_cancel_left (ends.ended.symm.trans left)
        refine ⟨⟨standing, ?_⟩, removeEvent_owner conduct.minuted target.handle⟩
        rw [same]
        exact List.mem_singleton_self _
      | false =>
        left
        constructor
        · intro any
          rw [Change.remove.inj any] at meant
          simp [owns, found] at meant
        · refine ⟨owner.standing, ?_⟩
          simp only [apply, meant, Bool.false_eq_true, ↓reduceIte]
          exact found
    | schedule target delay =>
      left
      constructor
      · rintro ⟨⟩
      · refine ⟨owner.standing, ?_⟩
        simp only [apply]
        split
        · split <;> exact found
        · exact found
    | timer callback interval delayed repeats => cases concerned
  · left
    constructor
    · intro any
      cases any
      exact concerned rfl
    · refine ⟨owner.standing, ?_⟩
      rw [apply_owner conduct.minuted filed change concerned]
      exact found

/-- A free handle gets an owner only by an addition. -/
theorem apply_newcomer (filed : loop.Filed) (free : loop.lookup handle = none)
    (change : Change B C) {event : Event B}
    (now : (loop.apply conduct.minuted change).lookup handle = some event) :
    ∃ added mask standing, change = .add added mask ∧ added.handle = handle ∧
      event = { added with standing } := by
  by_cases concerned : handleOf change = some handle
  · cases change with
    | add added mask =>
      have here : added.handle = handle := Option.some.inj concerned
      subst here
      rcases addEvent_owner conduct.minuted filed added mask with
        ⟨resident, _, resides, _⟩ | ⟨_, gone | ⟨standing, stands⟩⟩
      · cases free.symm.trans resides
      · cases gone.symm.trans now
      · exact ⟨added, mask, standing, rfl, rfl, Option.some.inj (now.symm.trans stands)⟩
    | rearm target mask =>
      have here : target.handle = handle := Option.some.inj concerned
      subst here
      simp [apply, owns, free] at now
    | remove target =>
      have here : target.handle = handle := Option.some.inj concerned
      subst here
      simp [apply, owns, free] at now
    | schedule target delay =>
      have here : target.handle = handle := Option.some.inj concerned
      subst here
      simp [apply, free] at now
    | timer callback interval delayed repeats => cases concerned
  · rw [apply_owner conduct.minuted filed change concerned, free] at now
    cases now

/-- **What a list does to an owner**: it stays if no removal of its handle is in the list, and is
destroyed otherwise, unless it was destroyed even so. -/
theorem applyAll_fate (filed : loop.Filed) (found : loop.lookup handle = some owner)
    (pending : List (Change B C)) :
    ∃ ended, Ends loop ended (pending.foldl (apply conduct.minuted) loop) ∧
      ((.remove { handle } ∉ pending ∧ ∃ standing,
        (pending.foldl (apply conduct.minuted) loop).lookup handle = some { owner with standing }) ∨
      Destroyed owner ended) := by
  induction pending generalizing loop owner with
  | nil =>
    refine ⟨[], ⟨rfl, (List.append_nil _).symm⟩, .inl ⟨List.not_mem_nil, owner.standing, found⟩⟩
  | cons change pending ih =>
    obtain ⟨ended, ends⟩ := apply_ends conduct loop change
    have filedStill := (accounts_apply conduct.minuted filed change).filed
    rcases apply_fate conduct filed found change ends with
      ⟨other, standing, stands⟩ | ⟨⟨standing, gone⟩, free⟩
    · obtain ⟨more, later, fate⟩ := ih filedStill stands
      refine ⟨ended ++ more, ends.trans later, ?_⟩
      rcases fate with ⟨others, stays⟩ | ⟨final, gone⟩
      · left
        refine ⟨?_, stays⟩
        rintro (_ | ⟨_, inside⟩)
        · exact other rfl
        · exact others inside
      · exact .inr ⟨final, List.mem_append_right ended gone⟩
    · obtain ⟨more, later⟩ : ∃ more, Ends (loop.apply conduct.minuted change) more
          (pending.foldl (apply conduct.minuted) (loop.apply conduct.minuted change)) :=
        applyAll_ends conduct _ pending
      exact ⟨ended ++ more, ends.trans later, .inr ⟨standing, List.mem_append_left more gone⟩⟩

/-- Whoever owns a handle after a list was its owner and no removal of the handle is in the list,
or the list brought it. -/
theorem applyAll_owner (filed : loop.Filed) (pending : List (Change B C)) {event : Event B}
    (now : (pending.foldl (apply conduct.minuted) loop).lookup handle = some event) :
    (.remove { handle } ∉ pending ∧ ∃ owner standing,
      loop.lookup handle = some owner ∧ event = { owner with standing }) ∨
    ∃ added mask standing, .add added mask ∈ pending ∧ added.handle = handle ∧
      event = { added with standing } := by
  induction pending generalizing loop with
  | nil => exact .inl ⟨List.not_mem_nil, event, event.standing, now, rfl⟩
  | cons change pending ih =>
    have filedStill := (accounts_apply conduct.minuted filed change).filed
    rcases ih filedStill now with ⟨others, resident, standing, resides, rfl⟩ |
      ⟨added, mask, standing, inside, here, rfl⟩
    · cases found : loop.lookup handle with
      | some owner =>
        obtain ⟨ended, ends⟩ := apply_ends conduct loop change
        rcases apply_fate conduct filed found change ends with ⟨other, before, stands⟩ | ⟨_, free⟩
        · left
          constructor
          · rintro (_ | ⟨_, inside⟩)
            · exact other rfl
            · exact others inside
          · have same : resident = { owner with standing := before } :=
              Option.some.inj (resides.symm.trans stands)
            exact ⟨owner, standing, rfl, by rw [same]⟩
        · cases free.symm.trans resides
      | none =>
        obtain ⟨added, mask, before, rfl, here, rfl⟩ :=
          apply_newcomer conduct filed found change resides
        exact .inr ⟨added, mask, standing, List.mem_cons_self, here, rfl⟩
    · exact .inr ⟨added, mask, standing, List.mem_cons_of_mem change inside, here, rfl⟩

/-! ## After a phase -/

/-- What was asked for in a phase has been applied. Nobody was told anything, and nobody is
silenced any more; whoever owned a handle whose removal was asked for has been destroyed; and
who owns such a handle now was brought to it by the list. -/
structure Cleared (tellings : List (Telling B)) (early late : Loop B C (W × Minutes B)) : Prop where
  told : late.told = early.told
  changes : late.changes = {}
  destroyed : ∀ telling ∈ tellings, ∀ handle owner, telling.Silences handle →
    early.lookup handle = some owner →
    ∃ ended, late.ended = early.ended ++ ended ∧ Destroyed owner ended
  newcomers : ∀ telling ∈ tellings, ∀ handle event, telling.Silences handle →
    late.lookup handle = some event →
    ∃ added mask standing, .add added mask ∈ early.changes.pending ∧ added.handle = handle ∧
      event = { added with standing }

private theorem Phase.cleared {early late : Loop B C (W × Minutes B)} {tellings : List (Telling B)}
    (phase : Phase early tellings late) (filed : early.Filed) :
    Cleared tellings late (late.applyChanges conduct.minuted) := by
  have filedLate : ({ late with changes := {} } : Loop B C (W × Minutes B)).Filed :=
    phase.filed filed
  have listed {telling : Telling B} (inside : telling ∈ tellings) {handle : Handle}
      (asked : telling.Silences handle) : .remove { handle } ∈ late.changes.pending := by
    rw [phase.pending]
    refine List.mem_append_right _ (List.mem_map.2 ⟨.remove handle, ?_, rfl⟩)
    exact List.mem_flatMap.2 ⟨telling, inside, asked⟩
  obtain ⟨ended, ends⟩ := applyAll_ends conduct { late with changes := {} } late.changes.pending
  obtain ⟨_, emptied⟩ := applyAll_keeps conduct.minuted _ filedLate late.changes.pending
  refine ⟨ends.told, emptied, ?_, ?_⟩
  · intro telling inside handle owner asked found
    obtain ⟨ended, ends, ⟨unlisted, _⟩ | gone⟩ :=
      applyAll_fate conduct filedLate found late.changes.pending
    · exact absurd (listed inside asked) unlisted
    · exact ⟨ended, ends.ended, gone⟩
  · intro telling inside handle event asked now
    rcases applyAll_owner conduct filedLate late.changes.pending now with ⟨unlisted, _⟩ | brought
    · exact absurd (listed inside asked) unlisted
    · exact brought

end Loop

/-- **A removal silences its handle at once and destroys its owner.** Whatever the entries of a
batch, the owners and their conduct: on the record, which the loop itself runs along with, a
batch is delivered as `Loop.Batch` says and counted; nobody hears anything at a handle once its
removal has been asked for, neither in the batch nor from alarms; and when the list has been
applied, whoever owned the handle is destroyed, and its place free or a newcomer's. -/
theorem removals_silence_and_destroy (conduct : Conduct B C W) (loop : Loop B C W)
    (filed : loop.Filed) (entries : List Ready) :
    let polled := loop.onRecord.deliverAll conduct.minuted entries
    let applied := polled.2.applyChanges conduct.minuted
    let rung := applied.fireAlarms conduct.minuted
    let finished := rung.applyChanges conduct.minuted
    (loop.deliverAll conduct entries = (polled.1, polled.2.offRecord) ∧
      polled.2.offRecord.applyChanges conduct = applied.offRecord ∧
      applied.offRecord.fireAlarms conduct = rung.offRecord ∧
      rung.offRecord.applyChanges conduct = finished.offRecord) ∧
    ∃ batch alarms,
      (Loop.Batch loop.onRecord loop.onRecord.Removed entries batch ∧
        Loop.Phase loop.onRecord batch polled.2 ∧ polled.1 = batch.length) ∧
      Loop.Cleared batch polled.2 applied ∧
      (Loop.Phase applied alarms rung ∧ ∀ telling ∈ alarms, telling.notice = .timer) ∧
      Loop.Cleared alarms rung finished := by
  intro polled applied rung finished
  have filedAtOnce : loop.onRecord.Filed := filed
  have shadows := recorded_shadows Minutes.scribe conduct
  obtain ⟨batch, deliveries, phase, counted⟩ :=
    Loop.deliverAll_batch conduct filedAtOnce entries
  have cleared := phase.cleared conduct filedAtOnce
  have filedApplied : applied.Filed :=
    (Loop.applyAll_keeps conduct.minuted { polled.2 with changes := {} } (phase.filed filedAtOnce)
      polled.2.changes.pending).1
  obtain ⟨alarms, ringing, timers⟩ := Loop.fireAlarms_phase conduct filedApplied
  refine ⟨⟨?_, ?_, ?_, ?_⟩, batch, alarms, ⟨deliveries, phase, counted⟩, cleared,
    ⟨ringing, timers⟩, ringing.cleared conduct filedApplied⟩
  · exact Loop.deliverAll_seen shadows loop.onRecord entries
  · exact Loop.applyChanges_seen shadows polled.2
  · exact Loop.fireAlarms_seen shadows applied
  · exact Loop.applyChanges_seen shadows rung

/-- The first of three objects removes its neighbour and itself while it is told of input, and
brings a successor for its own handle. Neither its second half nor the neighbour's entry is
delivered, while the third object hears both of its halves. -/
theorem neighbour_falls_silent :
    let conduct : Conduct Unit Empty Unit :=
      { call := fun _ _ world => (none, world)
        notify := fun _ event _ world =>
          ⟨(), world, if event.handle = 1
            then [.remove 2, .remove 1, .add { handle := 1, source := 14, body := () } .readable]
            else [], []⟩
        fire := fun callback => nomatch callback
        level := fun _ _ => {}
        clock := fun world => (0, world)
        wait := fun _ _ world => world
        unresolved := fun _ world => world
        destroy := fun _ world => world }
    let loop : Loop Unit Empty Unit :=
      [.add { handle := 1, source := 11, body := () } .both,
        .add { handle := 2, source := 12, body := () } .both,
        .add { handle := 3, source := 13, body := () } .both].foldl (Loop.apply conduct)
        { world := () }
    let entries : List Ready :=
      [⟨wakerToken, ⟨true, false⟩⟩, ⟨1, ⟨true, true⟩⟩, ⟨2, ⟨true, true⟩⟩, ⟨9, ⟨true, true⟩⟩,
        ⟨3, ⟨true, true⟩⟩]
    let polled := loop.onRecord.deliverAll conduct.minuted entries
    loop.Filed ∧ (loop.deliverAll conduct entries).1 = 3 ∧
    ∃ batch, batch.map (fun telling => (telling.notice, telling.event.handle)) =
        [(.readable, 1), (.readable, 3), (.writable, 3)] ∧
      (polled.2.applyChanges conduct.minuted).ended.map Event.source = [12, 11] ∧
      Loop.Cleared batch polled.2 (polled.2.applyChanges conduct.minuted) := by
  intro conduct loop entries polled
  have filed : loop.Filed :=
    (Loop.applyAll_keeps conduct { world := () } (fun handle event found => nomatch found) _).1
  obtain ⟨_, batch, _, ⟨_, phase, _⟩, cleared, _⟩ :=
    removals_silence_and_destroy conduct loop filed entries
  refine ⟨filed, by decide, batch, ?_, by decide, cleared⟩
  have told : polled.2.told = batch := phase.told
  rw [← told]
  decide

end EventLoop
