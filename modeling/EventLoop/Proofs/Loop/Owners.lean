import EventLoop.Proofs.Loop.Places
import EventLoop.Proofs.Loop.Removals

/-! What becomes of an owner. As long as a loop lives, whoever owns a handle keeps it until a
removal of the handle is applied: neither an addition for the handle nor a re-arming nor any
notification puts another in its place. With what is known about places, each object that was ever
handed over has one owner at any moment and comes to one end. -/
namespace EventLoop

open scoped List

variable {B C W ι : Type}

namespace Loop

/-- Whoever owns a handle is the same object, of the same generation. -/
def Retains (name : Event B → ι) (handle : Handle) (owner : Event B) (loop : Loop B C W) : Prop :=
  ∃ stays, loop.lookup handle = some stays ∧ name stays = name owner ∧
    stays.generation = owner.generation

variable {conduct : Conduct B C W} {name : Event B → ι} {handle : Handle} {owner : Event B}
  {early late loop : Loop B C (W × Minutes B)}

private theorem Retains.of_found (found : loop.lookup handle = some owner) :
    loop.Retains name handle owner :=
  ⟨owner, found, rfl, rfl⟩

private theorem Retains.of_table (retains : early.Retains name handle owner)
    (table : late.table = early.table) : late.Retains name handle owner := by
  obtain ⟨stays, found, same⟩ := retains
  refine ⟨stays, ?_, same⟩
  rw [lookup, table]
  exact found

private theorem Retains.notified (retains : loop.Retains name handle owner)
    (names : conduct.Names name) (alive : loop.alive = true) (notice : Notice) (told : Handle) :
    (loop.notify conduct.minuted notice told).Retains name handle owner := by
  obtain ⟨stays, stands, named, generation⟩ := retains
  cases found : loop.lookup told with
  | none =>
    rw [notify_missing conduct.minuted notice found]
    exact ⟨stays, stands, named, generation⟩
  | some event =>
    rw [notify_eq conduct.minuted notice found]
    have renamed := names.minuted.notify notice event loop.outlook loop.world
    generalize conduct.minuted.notify notice event loop.outlook loop.world = reaction at renamed ⊢
    have took := (takeUp_took conduct.minuted alive told event reaction).owner handle
    by_cases here : handle = told
    · rw [if_pos here] at took
      rw [here, found] at stands
      cases stands
      exact ⟨_, took, renamed.trans named, generation⟩
    · rw [if_neg here] at took
      exact ⟨stays, took.trans stands, named, generation⟩

private theorem Retains.served (retains : loop.Retains name handle owner)
    (names : conduct.Names name) (alive : loop.alive = true) (now : Nat) (alarm : Alarm C) :
    (loop.serve conduct.minuted now alarm).Retains name handle owner := by
  cases alarm with
  | event told generation =>
    simp only [serve]
    split
    · exact retains.notified names alive .timer told
    · exact retains
  | callback callback interval remaining =>
    have ordered := carryOutAll_ordered conduct.minuted { loop with
        world := (conduct.minuted.fire callback loop.outlook loop.world).world } alive
      (conduct.minuted.fire callback loop.outlook loop.world).orders
    have still := retains.of_table ordered.table
    simp only [serve]
    split
    · exact still.of_table rfl
    · exact still

/-- Whoever leaves is meant by a removal of its handle. -/
theorem removal_of_left {V : Type} {conduct : Conduct B C V} {loop : Loop B C V}
    {change : Change B C} {generation : UInt64}
    (left : .left handle generation ∈ loop.changeDeeds conduct change) :
    ∃ target, change = .remove target ∧ target.handle = handle ∧ loop.owns target = true ∧
      loop.owner? handle = some generation := by
  cases change with
  | add event mask =>
    simp only [changeDeeds, addDeeds] at left
    split at left
    · cases left
    · rcases List.mem_append.1 left with entered | scheduled
      · split at entered
        · cases List.mem_singleton.1 entered
        · cases entered
      · split at scheduled
        · cases List.mem_singleton.1 scheduled
        · cases scheduled
  | rearm target mask => cases left
  | remove target =>
    simp only [changeDeeds] at left
    split at left
    · next meant =>
      obtain ⟨owner, owned, same⟩ := List.mem_map.1 left
      cases same
      exact ⟨target, rfl, rfl, meant, Option.mem_toList.1 owned⟩
    · cases left
  | schedule target delay =>
    simp only [changeDeeds] at left
    split at left
    · obtain ⟨owner, owned, same⟩ := List.mem_map.1 left
      cases same
    · cases left
  | timer callback interval delayed repeats => cases left

/-- **Only a removal takes an owner out**: what was applied says so, or the owner is still
there. -/
theorem Retains.applied (retains : loop.Retains name handle owner) (names : conduct.Names name)
    (filed : loop.Filed) (change : Change B C)
    (kept : .left handle owner.generation ∉ loop.changeDeeds conduct.minuted change) :
    (loop.apply conduct.minuted change).Retains name handle owner := by
  obtain ⟨stays, stands, named, generation⟩ := retains
  obtain ⟨ended, ends⟩ := apply_ends conduct loop change
  rcases apply_fate conduct filed stands change ends with ⟨_, standing, found⟩ | ⟨_, free⟩
  · refine ⟨_, found, ?_, generation⟩
    rw [← named, ← names.idle stays, ← names.idle]
    rfl
  · have balance := (accounts_apply conduct.minuted filed change).follows.owner_balance handle
      owner.generation
    have before : loop.ledger.owner handle = some owner.generation := by
      rw [← generation]
      exact congrArg (Option.map Event.generation) stands
    have after : (loop.apply conduct.minuted change).ledger.owner handle = none :=
      owner?_eq_none.2 free
    rw [before, after, List.count_eq_zero_of_not_mem kept] at balance
    simp at balance

end Loop

namespace Site

variable {conduct : Conduct B C W} {name : Event B → ι} {handle : Handle} {owner : Event B}
  {early late : Site B C (W × Minutes B)} {deeds more : List Deed} {handed : List (Event B)}

private theorem Step.retains (step : Step conduct.minuted early deeds late)
    (names : conduct.Names name) (filed : early.loop.Filed) (alive : early.loop.alive = true)
    (kept : .left handle owner.generation ∉ deeds)
    (retains : early.loop.Retains name handle owner) : late.loop.Retains name handle owner := by
  cases step with
  | begin => exact retains
  | @take loop change rest inbox =>
    have taken : ({ loop with inbox := rest } : Loop B C (W × Minutes B)).Retains name handle
      owner := retains.of_table rfl
    exact taken.applied names filed change kept
  | poll => exact retains.of_table rfl
  | pollFails => exact retains.of_table rfl
  | @pass loop entry => exact retains.of_table (Loop.passOver_keeps conduct.minuted loop entry).1
  | hear => exact retains.notified names alive _ _
  | hearNothing => exact retains
  | answer => exact retains.notified names alive _ _
  | answerNothing => exact retains
  | handOver => exact retains.of_table rfl
  | apply => exact retains.applied names filed _ kept
  | ring => exact retains.of_table rfl
  | serve => exact retains.served names alive _ _
  | silence => exact retains.of_table rfl
  | rest => exact retains

/-- **An owner stays until it is removed**, as long as there is a loop. -/
theorem Lifetime.retains [DecidableEq ι] {around : W → W → Prop} {before : List (Event B)}
    (life : Lifetime conduct.minuted (Beyond around) early deeds handed late)
    (names : conduct.Names name) (settled : early.Settled name before)
    (retains : early.loop.Retains name handle owner) (alive : late.loop.alive = true)
    (kept : .left handle owner.generation ∉ deeds) : late.loop.Retains name handle owner := by
  induction life with
  | start => exact retains
  | step life lives step ih =>
    rw [List.mem_append, not_or] at kept
    have filed := (life.settled names settled).filed
    exact step.retains names filed lives kept.2 (ih lives kept.1)
  | @order deeds handed site life order ih =>
    obtain ⟨table, _, lives⟩ := site.loop.carryOut_keeps conduct.minuted order
    exact (ih (lives.symm.trans alive) kept).of_table table
  | call life lives change ih =>
    rw [List.mem_append, not_or] at kept
    have filed := (life.settled names settled).filed
    exact (ih lives kept.1).applied names filed change kept.2
  | elsewhere life moved queue ih => exact (ih alive kept).of_table rfl
  | @close deeds handed loop =>
    cases (Loop.close_empty conduct.minuted loop).2.2.2.symm.trans alive

/-- Whoever stands in the table is not among the destroyed, unless it was handed over twice. -/
theorem Settled.stands [DecidableEq ι] (settled : early.Settled name handed)
    (distinct : (handed.map name).Nodup) (retains : early.loop.Retains name handle owner) :
    name owner ∉ early.loop.ended.map name := by
  obtain ⟨stays, found, named, _⟩ := retains
  have apart := settled.placed.nodup_iff.2 distinct
  rw [List.map_append] at apart
  have inside : name owner ∈ (early.waiting ++ early.loop.table.values).map name := by
    rw [← named]
    exact List.mem_map_of_mem (List.mem_append_right _ (Keyed.mem_values_of_get? found))
  intro gone
  exact (List.nodup_append.1 apart).2.2 _ inside _ gone rfl

end Site

/-- **Each object has one owner and one end.** On every life of a loop, wherever its thread has
come to and beyond its close, the objects that wait to be added, that stand in the table and that
have been destroyed are together those that were handed over, each as often as it was: if none was
handed over twice, none is in two places and none is destroyed twice. Whoever stands in the table
stands under its own handle. Once there is no loop any more, everything that was handed over has
been destroyed. And whoever owns a handle keeps it, and is not destroyed, until the loop is gone or
it leaves, which it does by a removal that means it, as `Loop.removal_of_left` says. -/
theorem each_object_has_one_owner_and_one_end {conduct : Conduct B C W} {name : Event B → ι}
    (names : conduct.Names name) {around : W → W → Prop} {start site : Site B C W}
    (unused : start.Unused) {deeds : List Deed} {handed : List (Event B)}
    (life : Site.Lifetime conduct around start deeds handed site) :
    ∃ recorded : Site B C (W × Minutes B),
      Site.Lifetime conduct.minuted (Beyond around) start.onRecord deeds handed recorded ∧
      recorded.offRecord = site ∧
      (site.waiting ++ site.loop.table.values ++ recorded.loop.ended).map name ~
        handed.map name ∧
      ((handed.map name).Nodup →
        ((site.waiting ++ site.loop.table.values ++ recorded.loop.ended).map name).Nodup) ∧
      site.loop.Filed ∧
      (site.loop.alive = false → recorded.loop.ended.map name ~ handed.map name) ∧
      ∀ handle owner, site.loop.lookup handle = some owner → ∀ more extra late,
        Site.Lifetime conduct.minuted (Beyond around) recorded more extra late →
        late.loop.alive = true → .left handle owner.generation ∉ more →
        late.loop.Retains name handle owner ∧
        (((handed ++ extra).map name).Nodup → name owner ∉ late.loop.ended.map name) := by
  classical
  have begun : Site.Lifetime conduct around start.onRecord.offRecord deeds handed site := life
  obtain ⟨recorded, told, rfl⟩ := begun.recorded Minutes.scribe
  have settled : recorded.Settled name handed := told.settled names (unused.settled name)
  refine ⟨recorded, told, rfl, settled.placed, settled.placed.nodup_iff.2, settled.filed, ?_, ?_⟩
  · intro gone
    obtain ⟨nobody, empty⟩ := settled.vacant gone
    have placed := settled.placed
    rwa [nobody, empty] at placed
  · intro handle owner found more extra late later alive kept
    have retains := later.retains names settled (.of_found found) alive kept
    exact ⟨retains, fun distinct => (later.settled names settled).stands distinct retains⟩

/-- A listener stays when another object comes for its handle, and when one comes that wishes for
nothing. Told of a connection it asks twice to be removed and leaves its handle to a successor.
The loop is closed with an order in its inbox, and another order comes after that. Whichever way
the six objects went, each was destroyed once. -/
theorem six_objects_end_once :
    let conduct : Conduct Unit Empty Unit :=
      { call := fun _ _ world => (none, world)
        notify := fun _ _ _ world =>
          ⟨(), world, [.remove 3, .remove 3, .add { handle := 3, source := 10, body := () }
            .readable], []⟩
        fire := fun callback => nomatch callback
        level := fun _ _ => {}
        clock := fun world => (0, world)
        wait := fun _ _ world => world
        unresolved := fun _ world => world
        destroy := fun _ world => world }
    let start : Site Unit Empty Unit := ⟨{ world := () }, .resting⟩
    let anything : Unit → Unit → Prop := fun _ _ => True
    conduct.Names Event.source ∧ start.Unused ∧ ∃ deeds handed site,
      Site.Lifetime conduct anything start deeds handed site ∧
      handed.map Event.source = [7, 8, 9, 10, 11, 12] ∧ site.loop.alive = false ∧
      ∃ recorded : Site Unit Empty (Unit × Minutes Unit),
        Site.Lifetime conduct.minuted (Beyond anything) start.onRecord deeds handed recorded ∧
        recorded.loop.ended.map Event.source ~ [7, 8, 9, 10, 11, 12] := by
  intro conduct start anything
  have names : conduct.Names Event.source := ⟨fun _ => rfl, fun _ _ _ _ => rfl⟩
  have unused : start.Unused := ⟨rfl, rfl, rfl, rfl, rfl, rfl, rfl⟩
  let listener : Event Unit := { handle := 3, source := 7, body := () }
  let rival : Event Unit := { handle := 3, source := 8, body := () }
  let wishless : Event Unit := { handle := 4, source := 9, body := () }
  let successor : Event Unit := { handle := 3, source := 10, body := () }
  have listening : Site.Lifetime conduct anything start _ [listener, rival, wishless] ⟨
      { selector := { poller := { watched := ⟨[(7, 3, ⟨true, false⟩)], by decide⟩ },
                      listeners := [3] }
        table := ⟨[(3, { listener with standing := .added })], by decide⟩
        world := () }, .resting⟩ :=
    ((Site.Lifetime.start.call rfl (.add listener .accept)).call rfl (.add rival .accept)).call rfl
      (.add wishless .none)
  have told : Site.Lifetime conduct anything start _ [listener, rival, wishless, successor] _ :=
    (((listening.step rfl (.begin _)).step rfl (.poll rfl false none [⟨3, ⟨true, false⟩⟩] [])).step
      rfl (.hear [] rfl rfl)).step rfl (.answerNothing [] (.inl rfl))
  have asked : Site.Lifetime conduct anything start _ _ ⟨_, .applying [.remove { handle := 3 },
      .remove { handle := 3 }, .add successor .readable] false⟩ :=
    told.step rfl (.handOver _)
  have replaced : Site.Lifetime conduct anything start _
      [listener, rival, wishless, successor] ⟨
      { selector := { poller := { watched := ⟨[(10, 3, ⟨true, false⟩)], by decide⟩ } }
        table := ⟨[(3, { successor with standing := .added })], by decide⟩
        world := () }, .applying [] false⟩ :=
    ((asked.step rfl (.apply _ _ _ _)).step rfl (.apply _ _ _ _)).step rfl (.apply _ _ _ _)
  have rung : Site.Lifetime conduct anything start _ _ ⟨_, .ringing 0 []⟩ :=
    replaced.step rfl (.ring _)
  have rested : Site.Lifetime conduct anything start _ _ ⟨_, .resting⟩ :=
    (rung.step rfl (.silence _ _)).step rfl (.rest _)
  have queued : Site.Lifetime conduct anything start _ _ _ :=
    rested.order (.change (.add { handle := 5, source := 11, body := () } .both))
  have late : Site.Lifetime conduct anything start _ _ _ :=
    (queued.close rfl).order (.change (.add { handle := 6, source := 12, body := () } .both))
  obtain ⟨recorded, taken, _, _, _, _, ended, _⟩ :=
    each_object_has_one_owner_and_one_end names unused late
  exact ⟨names, unused, _, _, _, late, rfl, rfl, recorded, taken, ended rfl⟩

end EventLoop
