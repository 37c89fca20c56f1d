import EventLoop.Proofs.Loop.Stages

/-! What a history amounts to. A ledger says who owns each handle and how many
alarms wait for each owner; every deed is entered into it, and may happen only if
the ledger permits it. The loop keeps such a ledger without knowing of it: its
table and its agenda say at every step what the ledger of its history says, which
is `Step.accounted`. Whatever follows from ledgers alone then holds of every
loop. -/
namespace EventLoop

variable {B C W : Type}

/-! ## Ledgers -/

/-- Who owns each handle, and how many alarms wait for each owner. -/
@[ext] structure Ledger where
  owner : Handle → Option UInt64
  waiting : Handle → UInt64 → Nat

namespace Ledger

/-- The ledger of a loop that owns nothing. -/
def blank : Ledger := ⟨fun _ => none, fun _ _ => 0⟩

/-- When a deed may happen. An alarm is delivered, or lapses, only if it waits. -/
def Permits (ledger : Ledger) : Deed → Prop
  | .entered handle _ => ledger.owner handle = none
  | .left handle generation => ledger.owner handle = some generation
  | .scheduled handle generation => ledger.owner handle = some generation
  | .told notice handle generation =>
    ledger.owner handle = some generation ∧
      (notice = .timer → 0 < ledger.waiting handle generation)
  | .lapsed handle generation => 0 < ledger.waiting handle generation

def setOwner (handle : Handle) (owner : Option UInt64) (ledger : Ledger) : Ledger :=
  { ledger with owner := fun probe => if probe = handle then owner else ledger.owner probe }

/-- Changes by `change` how many alarms wait for one owner. -/
def onWaiting (change : Nat → Nat) (handle : Handle) (generation : UInt64) (ledger : Ledger) :
    Ledger :=
  { ledger with waiting := fun probe owner =>
      if probe = handle ∧ owner = generation then change (ledger.waiting probe owner)
      else ledger.waiting probe owner }

private theorem setOwner_none (handle : Handle) (owner : Option UInt64) (ledger : Ledger)
    (free : ledger.owner handle = none) :
    (ledger.setOwner handle owner).setOwner handle none = ledger := by
  refine Ledger.ext (funext fun probe => ?_) rfl
  simp only [setOwner]
  split
  · next here => rw [here, free]
  · rfl

/-- Enters a deed. -/
def record (ledger : Ledger) : Deed → Ledger
  | .entered handle generation => ledger.setOwner handle (some generation)
  | .left handle _ => ledger.setOwner handle none
  | .scheduled handle generation => ledger.onWaiting (· + 1) handle generation
  | .told .timer handle generation => ledger.onWaiting (· - 1) handle generation
  | .told _ _ _ => ledger
  | .lapsed handle generation => ledger.onWaiting (· - 1) handle generation

/-- Deeds that lead from one ledger to another, each permitted when it happens. -/
inductive Follows : Ledger → List Deed → Ledger → Prop where
  | none (ledger : Ledger) : Follows ledger [] ledger
  | deed {early late : Ledger} {deed : Deed} {deeds : List Deed} (permitted : early.Permits deed)
      (rest : Follows (early.record deed) deeds late) : Follows early (deed :: deeds) late

theorem Follows.trans {early middle late : Ledger} {deeds more : List Deed}
    (first : Follows early deeds middle) (second : Follows middle more late) :
    Follows early (deeds ++ more) late := by
  induction first with
  | none => exact second
  | deed permitted rest ih => exact .deed permitted (ih second)

private theorem Follows.of_eq {early late : Ledger} (same : early = late) : Follows early [] late :=
  same ▸ .none early

theorem Follows.eq {early late : Ledger} (follows : Follows early [] late) : early = late := by
  cases follows
  rfl

private theorem Follows.eq_record {early late : Ledger} {deed : Deed}
    (follows : Follows early [deed] late) :
    early.record deed = late := by
  cases follows with
  | deed _ rest => exact rest.eq

private theorem Follows.single {early late : Ledger} {deed : Deed} (permitted : early.Permits deed)
    (recorded : early.record deed = late) : Follows early [deed] late :=
  .deed permitted (.of_eq recorded)

/-- A history is cut anywhere. -/
theorem Follows.cut {early late : Ledger} {deeds more : List Deed}
    (follows : Follows early (deeds ++ more) late) :
    ∃ middle, Follows early deeds middle ∧ Follows middle more late := by
  induction deeds generalizing early with
  | nil => exact ⟨early, .none early, follows⟩
  | cons deed deeds ih =>
    cases follows with
    | deed permitted rest =>
      obtain ⟨middle, first, second⟩ := ih rest
      exact ⟨middle, .deed permitted first, second⟩

/-! ## What ledgers add up to -/

private theorem owner_balance_single {ledger : Ledger} {deed : Deed}
    (permitted : ledger.Permits deed) (handle : Handle) (generation : UInt64) :
    [deed].count (.entered handle generation) +
        (if ledger.owner handle = some generation then 1 else 0) =
      [deed].count (.left handle generation) +
        (if (ledger.record deed).owner handle = some generation then 1 else 0) := by
  cases deed with
  | entered other fresh =>
    have free : ledger.owner other = none := permitted
    by_cases here : handle = other
    · subst here
      simp [record, setOwner, free, List.count_cons]
    · have apart : ¬ other = handle := fun same => here same.symm
      simp [record, setOwner, here, apart]
  | left other gone =>
    have owned : ledger.owner other = some gone := permitted
    by_cases here : handle = other
    · subst here
      simp [record, setOwner, owned, List.count_cons]
    · have apart : ¬ other = handle := fun same => here same.symm
      simp [record, setOwner, here, apart]
  | scheduled => simp [record, onWaiting]
  | told notice other owner =>
    have same : (ledger.record (.told notice other owner)).owner = ledger.owner := by
      cases notice <;> rfl
    rw [same]
    simp
  | lapsed => simp [record, onWaiting]

/-- How many times the owner has entered is how many times it has left, and once
more while it owns the handle. -/
theorem Follows.owner_balance {early late : Ledger} {deeds : List Deed}
    (follows : Follows early deeds late) (handle : Handle) (generation : UInt64) :
    deeds.count (.entered handle generation) +
        (if early.owner handle = some generation then 1 else 0) =
      deeds.count (.left handle generation) +
        (if late.owner handle = some generation then 1 else 0) := by
  induction follows with
  | none => simp
  | @deed early late deed deeds permitted rest ih =>
    have here := owner_balance_single permitted handle generation
    rw [← List.singleton_append, List.count_append, List.count_append]
    omega

private theorem alarm_balance_single {ledger : Ledger} {deed : Deed}
    (permitted : ledger.Permits deed) (handle : Handle) (generation : UInt64) :
    [deed].count (.scheduled handle generation) + ledger.waiting handle generation =
      [deed].count (.told .timer handle generation) + [deed].count (.lapsed handle generation) +
        (ledger.record deed).waiting handle generation := by
  have fewer {other : Handle} {owner : UInt64} (waits : 0 < ledger.waiting other owner) :
      ledger.waiting handle generation =
        (if other = handle ∧ owner = generation then 1 else 0) +
          (ledger.onWaiting (· - 1) other owner).waiting handle generation := by
    simp only [onWaiting]
    by_cases same : handle = other ∧ generation = owner
    · obtain ⟨rfl, rfl⟩ := same
      simp only [and_self, ↓reduceIte]
      omega
    · have apart : ¬ (other = handle ∧ owner = generation) := fun eq => same ⟨eq.1.symm, eq.2.symm⟩
      simp [same, apart]
  cases deed with
  | entered => simp [record, setOwner]
  | left => simp [record, setOwner]
  | scheduled other owner =>
    simp only [record, onWaiting]
    by_cases same : handle = other ∧ generation = owner
    · obtain ⟨rfl, rfl⟩ := same
      simp
      omega
    · have apart : ¬ (other = handle ∧ owner = generation) := fun eq => same ⟨eq.1.symm, eq.2.symm⟩
      simp [same, apart]
  | told notice other owner =>
    cases notice with
    | timer =>
      have less := fewer (permitted.2 rfl)
      simp only [record, List.count_cons, List.count_nil, beq_iff_eq, Deed.told.injEq, true_and,
        reduceCtorEq, ↓reduceIte]
      omega
    | accept => simp [record]
    | readable => simp [record]
    | writable => simp [record]
  | lapsed other owner =>
    have less := fewer permitted
    simp only [record, List.count_cons, List.count_nil, beq_iff_eq, Deed.lapsed.injEq,
      reduceCtorEq, ↓reduceIte]
    omega

/-- Every alarm that was scheduled for an owner was delivered to it, has lapsed,
or still waits. -/
theorem Follows.alarm_balance {early late : Ledger} {deeds : List Deed}
    (follows : Follows early deeds late) (handle : Handle) (generation : UInt64) :
    deeds.count (.scheduled handle generation) + early.waiting handle generation =
      deeds.count (.told .timer handle generation) + deeds.count (.lapsed handle generation) +
        late.waiting handle generation := by
  induction follows with
  | none => simp
  | @deed early late deed deeds permitted rest ih =>
    have here := alarm_balance_single permitted handle generation
    rw [← List.singleton_append, List.count_append, List.count_append, List.count_append]
    omega

end Ledger

/-! ## The ledger that a loop keeps -/

/-- Whether an alarm is for this owner. -/
def Alarm.means (handle : Handle) (generation : UInt64) : Alarm C → Bool
  | .event other owner => other = handle && owner = generation
  | .callback .. => false

/-- How many alarms that have fallen due are for this owner. -/
def Stage.waiting (handle : Handle) (generation : UInt64) : Stage B C → Nat
  | .ringing _ due => due.countP (Alarm.means handle generation)
  | _ => 0

/-- Whether no alarm is being served. -/
def Stage.isQuiet : Stage B C → Bool
  | .ringing .. => false
  | _ => true

private theorem Stage.waiting_of_quiet {stage : Stage B C} (quiet : stage.isQuiet = true)
    (handle : Handle) (generation : UInt64) : stage.waiting handle generation = 0 := by
  cases stage with
  | ringing => cases quiet
  | _ => rfl

namespace Loop

/-- How many alarms on the agenda are for this owner. -/
def waiting (handle : Handle) (generation : UInt64) (loop : Loop B C W) : Nat :=
  loop.agenda.entries.countP fun entry => entry.2.means handle generation

/-- What the table and the agenda say. -/
def ledger (loop : Loop B C W) : Ledger where
  owner handle := loop.owner? handle
  waiting handle generation := loop.waiting handle generation

/-- Every object stands in the table under its own handle. -/
def Filed (loop : Loop B C W) : Prop :=
  ∀ handle event, loop.lookup handle = some event → event.handle = handle

/-- An operation does to the ledger what its deeds do, and files as the loop
does. -/
structure Accounts (early : Loop B C W) (deeds : List Deed) (late : Loop B C W) : Prop where
  follows : early.ledger.Follows deeds late.ledger
  filed : late.Filed

variable (conduct : Conduct B C W) {loop : Loop B C W}

private theorem accounts_of_same {late : Loop B C W} (filed : loop.Filed)
    (table : late.table = loop.table)
    (agenda : late.agenda = loop.agenda) : loop.Accounts [] late := by
  have lookups : ∀ handle, late.lookup handle = loop.lookup handle := fun handle => by
    rw [lookup, lookup, table]
  refine ⟨.of_eq (Ledger.ext ?_ ?_), ?_⟩
  · funext handle
    simp only [ledger, owner?, lookups]
  · funext handle generation
    simp only [ledger, waiting, agenda]
  · intro handle event found
    exact filed handle event ((lookups handle).symm.trans found)

private theorem Accounts.trans {early middle late : Loop B C W} {deeds more : List Deed}
    (first : early.Accounts deeds middle) (second : middle.Accounts more late) :
    early.Accounts (deeds ++ more) late :=
  ⟨first.follows.trans second.follows, second.filed⟩

/-- Where nothing is done, every owner is the same. -/
theorem Accounts.owner {late : Loop B C W} (accounts : loop.Accounts [] late) (handle : Handle) :
    late.owner? handle = loop.owner? handle :=
  (congrFun (congrArg Ledger.owner accounts.follows.eq) handle).symm

theorem lookup_insert (handle probe : Handle) (event : Event B) :
    ({ loop with table := loop.table.insert handle event } : Loop B C W).lookup probe =
      if probe = handle then some event else loop.lookup probe :=
  loop.table.get?_insert handle probe event

/-- The loop with an object in its table, under its handle. -/
def enter (event : Event B) (loop : Loop B C W) : Loop B C W :=
  { loop with table := loop.table.insert event.handle event }

theorem lookup_enter (event : Event B) (loop : Loop B C W) (probe : Handle) :
    (loop.enter event).lookup probe =
      if probe = event.handle then some event else loop.lookup probe :=
  lookup_insert event.handle probe event

theorem lookup_entered (event : Event B) (loop : Loop B C W) :
    (loop.enter event).lookup event.handle = some event := by
  rw [lookup_enter, if_pos rfl]

/-- Putting an object where one of its generation stands changes no owner. -/
theorem accounts_insert (event : Event B) {late : Loop B C W} (filed : loop.Filed)
    (owned : loop.owner? event.handle = some event.generation)
    (table : late.table = loop.table.insert event.handle event)
    (agenda : late.agenda = loop.agenda) : loop.Accounts [] late := by
  have lookups (probe : Handle) :
      late.lookup probe = if probe = event.handle then some event else loop.lookup probe := by
    rw [lookup, table, Keyed.get?_insert]
    rfl
  refine ⟨.of_eq (Ledger.ext ?_ ?_), ?_⟩
  · funext probe
    have after : late.owner? probe =
        (if probe = event.handle then some event else loop.lookup probe).map Event.generation :=
      congrArg _ (lookups probe)
    refine Eq.trans ?_ after.symm
    split
    · next here => rw [here]; exact owned
    · rfl
  · funext handle generation
    simp only [ledger, waiting, agenda]
  · intro handle other found
    rw [lookups] at found
    split at found
    · next here => cases found; exact here.symm
    · exact filed handle other found

private theorem countP_place (means : Nat × Alarm C → Bool) (due : Nat) (alarm : Alarm C)
    (entries : List (Nat × Alarm C)) :
    (Agenda.place due alarm entries).countP means =
      entries.countP means + if means (due, alarm) then 1 else 0 := by
  rw [(Agenda.place_perm due alarm entries).countP_eq, List.countP_cons]

private theorem waiting_schedule (loop : Loop B C W) (delay : Nat) (alarm : Alarm C)
    (handle : Handle) (generation : UInt64) :
    (loop.schedule conduct delay alarm).waiting handle generation =
      loop.waiting handle generation + if alarm.means handle generation then 1 else 0 :=
  countP_place _ _ alarm _

/-- Scheduling an alarm for an owner is one deed. -/
theorem accounts_schedule {handle : Handle} {generation : UInt64} (filed : loop.Filed)
    (owned : loop.owner? handle = some generation) (delay : Nat) :
    loop.Accounts [.scheduled handle generation]
      (loop.schedule conduct delay (.event handle generation)) := by
  refine ⟨.single owned (Ledger.ext rfl ?_), filed⟩
  funext probe owner
  have after := waiting_schedule conduct loop delay (.event handle generation) probe owner
  have asked : (Alarm.event handle generation : Alarm C).means probe owner =
      decide (probe = handle ∧ owner = generation) := by
    simp [Alarm.means, eq_comm]
  rw [asked] at after
  simp only [Ledger.record, Ledger.onWaiting, ledger]
  split
  · next same => rw [after, if_pos (by simpa using same)]
  · next other => rw [after, if_neg (by simpa using other)]; rfl

omit conduct in
/-- A callback is nobody's. -/
theorem accounts_callback {late : Loop B C W} {due interval : Nat} {callback : C}
    {remaining : Option Nat} (filed : loop.Filed) (table : late.table = loop.table)
    (agenda : late.agenda = loop.agenda.schedule due (.callback callback interval remaining)) :
    loop.Accounts [] late := by
  have kept : loop.Accounts [] { late with agenda := loop.agenda } :=
    accounts_of_same filed table rfl
  have owners := congrArg Ledger.owner kept.follows.eq
  refine ⟨.of_eq (Ledger.ext owners ?_), kept.filed⟩
  funext handle generation
  have placed := countP_place (fun entry => entry.2.means handle generation) due
    (.callback callback interval remaining) loop.agenda.entries
  simp only [ledger, waiting, agenda]
  exact placed.symm

/-- A registration leaves an object its names. -/
theorem register_names (mask : Interest) (event : Event B) (world : W)
    (selector : Selector) :
    (selector.register conduct mask event world).event.handle = event.handle ∧
      (selector.register conduct mask event world).event.generation = event.generation := by
  unfold Selector.register
  split
  · exact ⟨rfl, rfl⟩
  · split
    · exact ⟨rfl, rfl⟩
    · split
      · exact ⟨rfl, rfl⟩
      · split
        · split <;> exact ⟨rfl, rfl⟩
        · split <;> exact ⟨rfl, rfl⟩
        · exact ⟨rfl, rfl⟩

private theorem accounts_registerOwned {event : Event B} (filed : loop.Filed)
    (owned : loop.owner? event.handle = some event.generation) (mask : Interest) :
    loop.Accounts [] (loop.registerOwned conduct event mask).2 := by
  obtain ⟨handle, generation⟩ := register_names conduct mask event loop.world loop.selector
  have inserted : (loop.registerOwned conduct event mask).2.table =
      loop.table.insert (loop.selector.register conduct mask event loop.world).event.handle
        (loop.selector.register conduct mask event loop.world).event := by
    rw [handle]
    rfl
  exact accounts_insert _ filed (by rw [handle, generation]; exact owned) inserted rfl

private theorem accounts_settle {event : Event B} (filed : loop.Filed)
    (owned : loop.owner? event.handle = some event.generation) (mask : Interest) :
    loop.Accounts
      (match (loop.settle conduct event mask).1 with
        | .error _ => []
        | .ok () => if mask.includes .timer then [.scheduled event.handle event.generation] else [])
      (loop.settle conduct event mask).2 := by
  have registered : loop.Accounts [] (loop.registerRest conduct event mask).2 := by
    unfold registerRest
    split
    · exact ⟨.none _, filed⟩
    · exact accounts_registerOwned conduct filed owned _
  rw [settle]
  generalize loop.registerRest conduct event mask = reached at registered ⊢
  obtain ⟨outcome, late⟩ := reached
  cases outcome with
  | error fault => exact registered
  | ok _ =>
    have same : late.owner? event.handle = some event.generation :=
      (registered.owner event.handle).trans owned
    by_cases timer : mask.includes .timer = true
    · simp only [alarmed, timer, ↓reduceIte]
      exact registered.trans (accounts_schedule conduct registered.filed same late.pause)
    · simp only [alarmed, timer, Bool.false_eq_true, ↓reduceIte]
      exact registered

theorem owner?_eq_none {handle : Handle} :
    loop.owner? handle = none ↔ loop.lookup handle = none := by
  rw [owner?, Option.map_eq_none_iff]

/-- A new owner is one deed. -/
theorem accounts_enter {event : Event B} (filed : loop.Filed)
    (free : loop.owner? event.handle = none) :
    loop.Accounts [.entered event.handle event.generation] (loop.enter event) := by
  refine ⟨.single free (Ledger.ext ?_ rfl), ?_⟩
  · funext probe
    have after : (loop.enter event).owner? probe = _ :=
      congrArg (Option.map Event.generation) (lookup_enter event loop probe)
    refine Eq.trans ?_ after.symm
    simp only [Ledger.record, Ledger.setOwner]
    split
    · rfl
    · rfl
  · intro handle other found
    rw [lookup_enter] at found
    split at found
    · next here => cases found; exact here.symm
    · exact filed handle other found

/-- An owner that goes is one deed. -/
theorem accounts_erase {handle : Handle} {generation : UInt64} {late : Loop B C W}
    (filed : loop.Filed) (owned : loop.owner? handle = some generation)
    (table : late.table = loop.table.erase handle) (agenda : late.agenda = loop.agenda) :
    loop.Accounts [.left handle generation] late := by
  have lookups (probe : Handle) :
      late.lookup probe = if probe = handle then none else loop.lookup probe := by
    rw [lookup, table, Keyed.get?_erase]
    rfl
  refine ⟨.single owned (Ledger.ext ?_ ?_), ?_⟩
  · funext probe
    have after : late.owner? probe = _ :=
      congrArg (Option.map Event.generation) (lookups probe)
    refine Eq.trans ?_ after.symm
    simp only [Ledger.record, Ledger.setOwner]
    split
    · rfl
    · rfl
  · funext probe owner
    simp only [Ledger.record, Ledger.setOwner, ledger, waiting, agenda]
  · intro probe other found
    rw [lookups] at found
    split at found
    · cases found
    · exact filed probe other found

private theorem accounts_addEvent (filed : loop.Filed) (event : Event B) (mask : Interest) :
    loop.Accounts (loop.addDeeds conduct event mask) (loop.addEvent conduct event mask).2 := by
  unfold addDeeds
  by_cases empty : mask.isEmpty = true
  · simp only [addEvent, empty, ↓reduceIte]
    exact accounts_of_same filed rfl rfl
  · cases found : loop.lookup event.handle with
    | some owner =>
      have owned : loop.owner? event.handle = some owner.generation := by rw [owner?, found]; rfl
      have handle := filed _ _ found
      have settled := accounts_settle conduct filed
        (by rw [handle]; exact owned) mask
      simp only [addEvent, empty, Bool.false_eq_true, ↓reduceIte, found, owned]
      generalize loop.settle conduct owner mask = reached at settled ⊢
      obtain ⟨outcome, late⟩ := reached
      have destroyed := settled.trans (accounts_of_same settled.filed
        (show (late.destroy conduct event).table = late.table from rfl) rfl)
      rw [List.append_nil, handle] at destroyed
      cases outcome with
      | error fault => exact destroyed
      | ok _ => simpa using destroyed
    | none =>
      have free : loop.owner? event.handle = none := owner?_eq_none.2 found
      have entered := accounts_enter filed free
      have owned : (loop.enter event).owner? event.handle = some event.generation := by
        rw [owner?, lookup_entered]
        rfl
      have settled := accounts_settle conduct entered.filed owned mask
      unfold enter at entered owned settled
      simp only [addEvent, empty, Bool.false_eq_true, ↓reduceIte, found, free]
      generalize ({ loop with table := loop.table.insert event.handle event }).settle conduct event
        mask = reached at settled ⊢
      obtain ⟨outcome, late⟩ := reached
      cases outcome with
      | ok _ => exact entered.trans settled
      | error fault =>
        have still : late.owner? event.handle = some event.generation :=
          (settled.owner event.handle).trans owned
        have erased : late.Accounts [.left event.handle event.generation]
            ({ late with table := late.table.erase event.handle }.destroy conduct
              ((late.lookup event.handle).getD event)) :=
          accounts_erase settled.filed still rfl rfl
        refine ⟨.of_eq ?_, erased.filed⟩
        rw [← erased.follows.eq_record, ← settled.follows.eq, ← entered.follows.eq_record]
        exact (Ledger.setOwner_none _ _ _ free).symm

private theorem accounts_removeEvent (filed : loop.Filed) (handle : Handle) :
    loop.Accounts ((loop.owner? handle).toList.map (.left handle))
      (loop.removeEvent conduct handle).2 := by
  unfold removeEvent
  cases found : loop.lookup handle with
  | none =>
    rw [owner?_eq_none.2 found]
    exact accounts_of_same filed rfl rfl
  | some owner =>
    have owned : loop.owner? handle = some owner.generation := by rw [owner?, found]; rfl
    rw [owned]
    exact accounts_erase filed owned rfl rfl

/-- What applying a change does to the ledger is what its deeds say. -/
theorem accounts_apply (filed : loop.Filed) (change : Change B C) :
    loop.Accounts (loop.changeDeeds conduct change) (loop.apply conduct change) := by
  cases change with
  | add event mask => exact accounts_addEvent conduct filed event mask
  | rearm target mask =>
    simp only [apply, changeDeeds]
    split
    · unfold rearm
      cases found : loop.lookup target.handle with
      | none => exact accounts_of_same filed rfl rfl
      | some owner =>
        have owned : loop.owner? owner.handle = some owner.generation := by
          rw [filed _ _ found, owner?, found]
          rfl
        exact accounts_registerOwned conduct filed owned mask
    · exact accounts_of_same filed rfl rfl
  | remove target =>
    simp only [apply, changeDeeds]
    split
    · exact accounts_removeEvent conduct filed target.handle
    · exact accounts_of_same filed rfl rfl
  | schedule target delay =>
    simp only [apply, changeDeeds]
    cases found : loop.lookup target.handle with
    | none =>
      rw [owner?_eq_none.2 found]
      simpa using accounts_of_same filed rfl rfl
    | some owner =>
      have owned : loop.owner? target.handle = some owner.generation := by rw [owner?, found]; rfl
      simp only [owned]
      split
      · exact accounts_schedule conduct filed owned delay
      · exact accounts_of_same filed rfl rfl
  | timer callback interval delayed repeats =>
    exact accounts_callback filed rfl rfl

theorem accounts_carryOut (filed : loop.Filed) (order : Order B C) :
    loop.Accounts [] (loop.carryOut conduct order) := by
  cases order with
  | stop => exact accounts_of_same filed rfl rfl
  | wake => exact accounts_of_same filed rfl rfl
  | change change =>
    simp only [carryOut, submit]
    split
    · exact accounts_of_same filed rfl rfl
    · cases change <;> exact accounts_of_same filed rfl rfl

private theorem accounts_carryOutAll (filed : loop.Filed) (orders : List (Order B C)) :
    loop.Accounts [] (orders.foldl (carryOut conduct) loop) := by
  induction orders generalizing loop with
  | nil => exact accounts_of_same filed rfl rfl
  | cons order orders ih =>
    have first := accounts_carryOut conduct filed order
    exact first.trans (ih first.filed)

/-- Being notified moves no object and no alarm. -/
theorem accounts_notify (filed : loop.Filed) (notice : Notice) (handle : Handle) :
    loop.Accounts [] (loop.notify conduct notice handle) := by
  unfold notify
  cases found : loop.lookup handle with
  | none => exact accounts_of_same filed rfl rfl
  | some event =>
    have own := filed _ _ found
    have owned : loop.owner? event.handle = some event.generation := by
      rw [own, owner?, found]
      rfl
    simp only
    generalize conduct.notify notice event loop.outlook loop.world = reaction
    have inserted : loop.Accounts [] { loop with
        table := loop.table.insert handle { event with body := reaction.body }
        changes := reaction.requests.foldl Changes.request loop.changes
        world := reaction.world } :=
      accounts_insert { event with body := reaction.body } filed owned (by rw [own]) rfl
    exact inserted.trans (accounts_carryOutAll conduct inserted.filed reaction.orders)

/-- A notification that no alarm gives cause for. -/
theorem accounts_told (filed : loop.Filed) {notice : Notice} (untimed : notice ≠ .timer)
    (handle : Handle) :
    loop.Accounts (loop.noticeDeeds notice handle) (loop.notify conduct notice handle) := by
  have notified := accounts_notify conduct filed notice handle
  unfold noticeDeeds
  cases owned : loop.owner? handle with
  | none => exact notified
  | some generation =>
    refine ⟨.single ⟨owned, fun timer => absurd timer untimed⟩ ?_, notified.filed⟩
    have same : loop.ledger.record (.told notice handle generation) = loop.ledger := by
      cases notice with
      | timer => exact absurd rfl untimed
      | _ => rfl
    exact same.trans notified.follows.eq

theorem passOver_keeps (loop : Loop B C W) (entry : Ready) :
    (loop.passOver conduct entry).table = loop.table ∧
      (loop.passOver conduct entry).agenda = loop.agenda := by
  unfold passOver
  split
  · exact ⟨rfl, rfl⟩
  · split <;> exact ⟨rfl, rfl⟩

private theorem inputNotice_ne_timer (handle : Handle) (loop : Loop B C W) :
    loop.inputNotice handle ≠ .timer := by
  unfold inputNotice
  split <;> exact fun same => by cases same

end Loop

/-! ## The ledger at every step -/

namespace Site

/-- What the table, the agenda and the alarms that have fallen due say. -/
def ledger (site : Site B C W) : Ledger where
  owner handle := site.loop.owner? handle
  waiting handle generation :=
    site.loop.waiting handle generation + site.stage.waiting handle generation

/-- A step of a site does to its ledger what its deeds do. -/
structure Accounts (early : Site B C W) (deeds : List Deed) (late : Site B C W) : Prop where
  follows : early.ledger.Follows deeds late.ledger
  filed : late.loop.Filed

/-- While no alarm is being served, a site keeps the ledger of its loop. -/
theorem accounts_of_loop {early late : Loop B C W} {deeds : List Deed} {before after : Stage B C}
    (accounts : early.Accounts deeds late) (quietBefore : before.isQuiet = true)
    (quietAfter : after.isQuiet = true) : Accounts ⟨early, before⟩ deeds ⟨late, after⟩ := by
  have same {loop : Loop B C W} {stage : Stage B C} (quiet : stage.isQuiet = true) :
      loop.ledger = (⟨loop, stage⟩ : Site B C W).ledger := by
    refine Ledger.ext rfl (funext fun handle => funext fun generation => ?_)
    simp only [Loop.ledger, ledger, Stage.waiting_of_quiet quiet, Nat.add_zero]
  exact ⟨same quietBefore ▸ same quietAfter ▸ accounts.follows, accounts.filed⟩

variable {conduct : Conduct B C W}

theorem ledger_congr {early late : Loop B C W} (same : early.ledger = late.ledger)
    (stage : Stage B C) :
    (⟨early, stage⟩ : Site B C W).ledger = (⟨late, stage⟩ : Site B C W).ledger := by
  have owners := congrArg Ledger.owner same
  have alarms := congrArg Ledger.waiting same
  refine Ledger.ext owners (funext fun handle => funext fun generation => ?_)
  have here : early.waiting handle generation = late.waiting handle generation :=
    congrFun (congrFun alarms handle) generation
  simp only [ledger, here]

/-- Alarms that have fallen due go from the agenda to those that are served. -/
theorem accounts_ring {early late : Loop B C W} {now : Nat} (filed : early.Filed)
    (table : late.table = early.table) (agenda : late.agenda = (early.agenda.expired now).2) :
    Accounts ⟨early, .applying [] false⟩ []
      ⟨late, .ringing now (early.agenda.expired now).1⟩ := by
  have kept : early.Accounts [] { late with agenda := early.agenda } :=
    Loop.accounts_of_same filed table rfl
  have owners := congrArg Ledger.owner kept.follows.eq
  refine ⟨.of_eq (Ledger.ext owners ?_), kept.filed⟩
  funext handle generation
  have parts : early.agenda.entries.takeWhile (fun entry => decide (entry.1 ≤ now)) ++
      early.agenda.entries.dropWhile (fun entry => decide (entry.1 ≤ now)) =
        early.agenda.entries :=
    List.takeWhile_append_dropWhile
  have counted := congrArg (List.countP fun entry => entry.2.means handle generation) parts
  rw [List.countP_append] at counted
  simp only [ledger, Loop.waiting, Stage.waiting, agenda, Agenda.expired, List.countP_map]
  rw [← counted, Nat.add_zero, Nat.add_comm]
  rfl

/-- The alarm in front is one of those that wait, and the others wait on. -/
private theorem serve_front (loop : Loop B C W) (now : Nat) (handle : Handle)
    (generation : UInt64) (due : List (Alarm C)) :
    let early : Site B C W := ⟨loop, .ringing now (.event handle generation :: due)⟩
    0 < early.ledger.waiting handle generation ∧
      early.ledger.onWaiting (· - 1) handle generation =
        (⟨loop, .ringing now due⟩ : Site B C W).ledger := by
  have front (probe : Handle) (owner : UInt64) :
      (Stage.ringing now (.event handle generation :: due) : Stage B C).waiting probe owner =
        (Stage.ringing now due : Stage B C).waiting probe owner +
          if probe = handle ∧ owner = generation then 1 else 0 := by
    simp only [Stage.waiting, List.countP_cons, Alarm.means, Bool.and_eq_true, decide_eq_true_eq]
    simp only [eq_comm]
  refine ⟨?_, Ledger.ext rfl (funext fun probe => funext ?_)⟩
  · simp only [ledger]
    rw [front, if_pos ⟨rfl, rfl⟩]
    omega
  · intro owner
    simp only [Ledger.onWaiting, ledger]
    rw [front]
    split <;> omega

private theorem accounts_serve {loop : Loop B C W} (filed : loop.Filed) (now : Nat)
    (alarm : Alarm C) (due : List (Alarm C)) :
    Accounts ⟨loop, .ringing now (alarm :: due)⟩ (loop.alarmDeeds alarm)
      ⟨loop.serve conduct now alarm, .ringing now due⟩ := by
  cases alarm with
  | event handle generation =>
    obtain ⟨waits, others⟩ := serve_front loop now handle generation due
    cases roused : loop.roused? handle generation with
    | some event =>
      obtain ⟨_, found, rfl⟩ := Loop.roused?_eq_some.1 roused
      have owned : loop.owner? handle = some event.generation := by rw [Loop.owner?, found]; rfl
      have notified := Loop.accounts_notify conduct filed .timer handle
      rw [Loop.alarmDeeds_of_roused roused, Loop.serve_of_roused conduct now roused,
        Loop.noticeDeeds, owned]
      refine ⟨.single ⟨owned, fun _ => waits⟩ ?_, notified.filed⟩
      exact others.trans (ledger_congr notified.follows.eq _)
    | none =>
      rw [Loop.alarmDeeds_of_unroused roused, Loop.serve_of_unroused conduct now roused]
      exact ⟨.single waits others, filed⟩
  | callback callback interval remaining =>
    have moved : loop.Accounts []
        (loop.serve conduct now (.callback callback interval remaining)) := by
      have fired : loop.Accounts []
          { loop with world := (conduct.fire callback loop.outlook loop.world).world } :=
        Loop.accounts_of_same filed rfl rfl
      have ordered := fired.trans (Loop.accounts_carryOutAll conduct fired.filed
        (conduct.fire callback loop.outlook loop.world).orders)
      simp only [Loop.serve]
      split
      · exact ordered.trans (Loop.accounts_callback ordered.filed rfl rfl)
      · exact ordered
    refine ⟨.of_eq ?_, moved.filed⟩
    have others : (⟨loop, .ringing now (.callback callback interval remaining :: due)⟩ :
        Site B C W).ledger = (⟨loop, .ringing now due⟩ : Site B C W).ledger := by
      refine Ledger.ext rfl (funext fun handle => funext fun generation => ?_)
      simp [ledger, Stage.waiting, Alarm.means]
    exact others.trans (ledger_congr moved.follows.eq _)

/-- **A loop keeps the ledger of its history.** -/
theorem Step.accounted {early late : Site B C W} {deeds : List Deed}
    (step : Step conduct early deeds late) (filed : early.loop.Filed) :
    early.Accounts deeds late := by
  have still {loop : Loop B C W} (filed : loop.Filed) (selector : Selector)
      (changes : Changes B C) (inbox : List (Change B C)) (world : W) :
      loop.Accounts [] { loop with selector, changes, inbox, world } :=
    Loop.accounts_of_same filed rfl rfl
  cases step with
  | begin loop => exact accounts_of_loop (still filed _ _ _ _) rfl rfl
  | @take loop change rest inbox =>
    have moved := still filed loop.selector loop.changes rest loop.world
    exact accounts_of_loop (moved.trans (Loop.accounts_apply conduct moved.filed change)) rfl rfl
  | poll => exact accounts_of_loop (still filed _ _ _ _) rfl rfl
  | pollFails => exact accounts_of_loop (still filed _ _ _ _) rfl rfl
  | @pass loop entry entries unheard =>
    obtain ⟨table, agenda⟩ := Loop.passOver_keeps conduct loop entry
    exact accounts_of_loop (Loop.accounts_of_same filed table agenda) rfl rfl
  | @hear loop entry =>
    have untimed := Loop.inputNotice_ne_timer entry.token.handle loop
    exact accounts_of_loop (Loop.accounts_told conduct filed untimed _) rfl rfl
  | hearNothing => exact accounts_of_loop (still filed _ _ _ _) rfl rfl
  | answer =>
    have untimed : Notice.writable ≠ .timer := fun same => by cases same
    exact accounts_of_loop (Loop.accounts_told conduct filed untimed _) rfl rfl
  | answerNothing => exact accounts_of_loop (still filed _ _ _ _) rfl rfl
  | handOver => exact accounts_of_loop (still filed _ _ _ _) rfl rfl
  | apply loop change => exact accounts_of_loop (Loop.accounts_apply conduct filed change) rfl rfl
  | ring loop => exact accounts_ring filed rfl rfl
  | serve loop now alarm due => exact accounts_serve filed now alarm due
  | silence =>
    obtain ⟨follows, filed⟩ := still filed _ _ _ _
    exact ⟨follows, filed⟩
  | rest => exact accounts_of_loop (still filed _ _ _ _) rfl rfl

end Site

end EventLoop
