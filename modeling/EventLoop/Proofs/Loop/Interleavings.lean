import EventLoop.Proofs.Loop.Minutes
import EventLoop.Proofs.Loop.Sides
import EventLoop.Trial.Stage

/-! Requests that meet on their way. What two threads ask of a loop arrives in one row that keeps
the order of each, and nothing says which request comes first when they are of different threads.
If the two speak of different handles it does not matter: whichever row comes about, the handles of
one thread make one side of the loop and all others the other side, and on each side only the
requests that concern it make a difference. -/
namespace EventLoop

open scoped List

variable {B C W P : Type} {conduct : Conduct B C W} {past : W → Source → P}

/-! ## Rows -/

/-- Two lists are merged into one that keeps the order of each. -/
inductive Merged {α : Type} : List α → List α → List α → Prop where
  | nil : Merged [] [] []
  | first {a : α} {first second merged : List α} (rest : Merged first second merged) :
      Merged (a :: first) second (a :: merged)
  | second {a : α} {first second merged : List α} (rest : Merged first second merged) :
      Merged first (a :: second) (a :: merged)

namespace Merged

variable {α : Type} {first second merged : List α}

private theorem swap (row : Merged first second merged) : Merged second first merged := by
  induction row with
  | nil => exact .nil
  | first _ ih => exact .second ih
  | second _ ih => exact .first ih

private theorem mem_iff (row : Merged first second merged) (a : α) :
    a ∈ merged ↔ a ∈ first ++ second := by
  induction row with
  | nil => rfl
  | first _ ih => simp only [List.mem_cons, List.cons_append, ih]
  | second _ ih =>
    simp only [List.mem_cons, List.mem_append, ih]
    exact or_left_comm

/-- Whoever can tell the two apart gets the first one back. -/
theorem filter_eq {p : α → Bool} (row : Merged first second merged) (ours : ∀ a ∈ first, p a = true)
    (theirs : ∀ a ∈ second, p a = false) : merged.filter p = first := by
  induction row with
  | nil => rfl
  | first _ ih =>
    obtain ⟨here, rest⟩ := List.forall_mem_cons.1 ours
    rw [List.filter_cons, here, if_pos rfl, ih rest theirs]
  | second _ ih =>
    obtain ⟨away, rest⟩ := List.forall_mem_cons.1 theirs
    rw [List.filter_cons, away, ih ours rest]
    rfl

end Merged

/-- Lists with the same of every kind, in whatever order the kinds come, have the same in them. -/
theorem perm_of_classes {α κ : Type} [DecidableEq κ] (kind : α → κ) {one two : List α}
    (same : ∀ k, one.filter (kind · = k) = two.filter (kind · = k)) : one ~ two := by
  classical
  refine List.perm_iff_count.2 fun a => ?_
  have counted (l : List α) : (l.filter (kind · = kind a)).count a = l.count a :=
    List.count_filter (p := (kind · = kind a)) (decide_eq_true rfl)
  rw [← counted one, ← counted two, same]

/-! ## Sources that keep to themselves -/

/-- What there is of a source on the record: its own past, and who has ended with it. -/
def pastOnRecord (past : W → Source → P) (world : W × Minutes B) (source : Source) :
    P × List (Event B) :=
  (past world.1 source, world.2.ended.filter (·.source = source))

/-- To be on the record makes no source talk to another. -/
theorem Conduct.Separate.minuted (separate : conduct.Separate past) :
    conduct.minuted.Separate (pastOnRecord past) where
  answer call event world other same :=
    separate.answer call event world.1 other.1 (congrArg Prod.fst same)
  called call event world other same := by
    obtain ⟨own, ended⟩ := Prod.mk.inj same
    exact Prod.ext (separate.called call event world.1 other.1 own) ended
  ended event world other same := by
    obtain ⟨own, ended⟩ := Prod.mk.inj same
    refine Prod.ext (separate.ended event world.1 other.1 own) ?_
    simp only [pastOnRecord, Conduct.minuted_destroy, List.filter_append, ended]
  uncalled call event world source apart :=
    Prod.ext (separate.uncalled call event world.1 source apart) rfl
  unended event world source apart := by
    refine Prod.ext (separate.unended event world.1 source apart) ?_
    simp [pastOnRecord, Conduct.minuted_destroy, Ne.symm apart]
  clock world source := Prod.ext (separate.clock world.1 source) rfl

namespace Trial

/-- What there is of a source on the stage: what was written about calls, and its near end. -/
def Stage.account (stage : Stage) (source : Source) : Keyed String Backing × Option NearEnd :=
  (stage.backings, stage.ends.get? source)

variable {event : Event Role} {stage other : Stage} {source : Source}

/-- A socket answers by its own near end, and changes no other. -/
theorem callSocket_eq (name : CallName) (source : Source) (stage : Stage) :
    (callSocket name source stage).1 =
        (stage.ends.get? source).bind (fun near => (near.answer name).1) ∧
      ∀ probe, (callSocket name source stage).2.account probe =
        (stage.backings, if probe = source then
          (stage.ends.get? source).map (fun near => (near.answer name).2)
        else stage.ends.get? probe) := by
  unfold callSocket
  cases found : stage.ends.get? source with
  | none =>
    refine ⟨rfl, fun probe => Prod.ext rfl ?_⟩
    by_cases own : probe = source
    · simp [Stage.account, own, found]
    · simp [Stage.account, own]
  | some near =>
    refine ⟨rfl, fun probe => Prod.ext rfl ?_⟩
    exact stage.ends.get?_insert source probe _

/-- A call is that of a socket, unless it was written that it fails. -/
theorem callSource_eq (call : SourceCall) (event : Event Role) (stage : Stage) :
    (∃ trouble, ∀ other : Stage, other.backings = stage.backings →
      (scripted.call call event other).1 = some trouble ∧
        (scripted.call call event other).2.account = other.account) ∨
    ∀ other : Stage, other.backings = stage.backings →
      (scripted.call call event other).1 =
          (callSocket (SourceCall.name call) event.source other).1 ∧
        (scripted.call call event other).2.account =
          (callSocket (SourceCall.name call) event.source other).2.account := by
  cases body : event.body with
  | listener number =>
    have called (other : Stage) : scripted.call call event other =
        callSocket (SourceCall.name call) event.source other := by
      simp only [scripted, callSource, body]
    exact .inr fun other _ => called other ▸ ⟨rfl, rfl⟩
  | actor actor =>
    have called (other : Stage) (written : other.backings = stage.backings) :
        scripted.call call event other =
          if (((stage.backings.get? actor.id).map Backing.failing).getD []).contains
              (SourceCall.name call) then
            (some (.system ((SourceCall.name call).text ++ " refused")),
              other.note (.called (SourceCall.name call) actor.id (SourceCall.wanted call)))
          else callSocket (SourceCall.name call) event.source
            (other.note (.called (SourceCall.name call) actor.id (SourceCall.wanted call))) := by
      rw [← written]
      simp only [scripted, callSource, body]
      rfl
    cases fails : (((stage.backings.get? actor.id).map Backing.failing).getD []).contains
        (SourceCall.name call) with
    | true =>
      refine .inl ⟨.system ((SourceCall.name call).text ++ " refused"), fun other written => ?_⟩
      rw [called other written, fails, if_pos rfl]
      exact ⟨rfl, rfl⟩
    | false =>
      refine .inr fun other written => ?_
      rw [called other written, fails, if_neg Bool.false_ne_true]
      refine ⟨?_, funext fun probe => ?_⟩
      · rw [(callSocket_eq ..).1, (callSocket_eq ..).1]
        rfl
      · rw [(callSocket_eq ..).2, (callSocket_eq ..).2]
        rfl

/-- Whoever ends takes its own near end away. -/
theorem account_endRole (event : Event Role) (stage : Stage) (source : Source) :
    (scripted.destroy event stage).account source =
      (stage.backings, if source = event.source then none else stage.ends.get? source) := by
  have near : (scripted.destroy event stage).ends = stage.ends.erase event.source := by
    simp only [scripted, endRole]
    split <;> rfl
  have written : (scripted.destroy event stage).backings = stage.backings := by
    simp only [scripted, endRole]
    split <;> rfl
  rw [Stage.account, written, near, Keyed.get?_erase]

/-- **The sources on the stage keep to themselves**: which calls of theirs fail was written
beforehand, or depends on whether the poller has that source. -/
theorem scripted_separate : scripted.Separate Stage.account where
  answer call event stage other same := by
    obtain ⟨written, near⟩ := Prod.mk.inj same
    rcases callSource_eq call event stage with ⟨trouble, fails⟩ | asks
    · rw [(fails stage rfl).1, (fails other written.symm).1]
    · rw [(asks stage rfl).1, (asks other written.symm).1, (callSocket_eq ..).1,
        (callSocket_eq ..).1, near]
  called call event stage other same := by
    obtain ⟨written, near⟩ := Prod.mk.inj same
    rcases callSource_eq call event stage with ⟨trouble, fails⟩ | asks
    · rw [(fails stage rfl).2, (fails other written.symm).2, same]
    · rw [(asks stage rfl).2, (asks other written.symm).2, (callSocket_eq ..).2,
        (callSocket_eq ..).2, written, near]
  ended event stage other same := by
    obtain ⟨written, _⟩ := Prod.mk.inj same
    rw [account_endRole, account_endRole, if_pos rfl, if_pos rfl, written]
  uncalled call event stage source apart := by
    rcases callSource_eq call event stage with ⟨trouble, fails⟩ | asks
    · rw [(fails stage rfl).2]
    · rw [(asks stage rfl).2, (callSocket_eq ..).2, if_neg apart]
      rfl
  unended event stage source apart := by
    rw [account_endRole, if_neg apart]
    rfl
  clock _ _ := rfl

end Trial

/-! ## Both sides -/

/-- All other handles and sources. -/
def Side.flip (side : Side) : Side where
  keys key := !side.keys key
  sources source := !side.sources source

private theorem Side.Puts.flip {side : Side} {here : Bool} {event : Event B}
    (puts : side.Puts here event) : side.flip.Puts (!here) event :=
  ⟨congrArg not puts.handle, congrArg not puts.source⟩

namespace Loop

variable {side : Side} {one two loop : Loop B C W}

private theorem Parted.flip (parted : Parted side loop) : Parted side.flip loop :=
  ⟨parted.filed, fun handle owner found => (parted.puts handle owner found).flip⟩

/-- Two loops own the same, mark and watch the same and have the same pending, and their sources
have gone through the same. -/
structure Concurs (past : W → Source → P) (one two : Loop B C W) : Prop where
  owners : ∀ handle, one.lookup handle = two.lookup handle
  listens : ∀ handle, one.selector.isListener handle = two.selector.isListener handle
  watching : ∀ source, one.watching? source = two.watching? source
  past : ∀ source, past one.world source = past two.world source
  targets : one.targets ~ two.targets

/-- Loops that are alike on both sides are alike. -/
theorem Alike.concurs (here : Alike side past one two) (there : Alike side.flip past one two) :
    Concurs past one two := by
  have either {α : Type} {f : α → Prop} {member : α → Bool} (own : ∀ a, member a = true → f a)
      (other : ∀ a, (!member a) = true → f a) (a : α) : f a := by
    cases inside : member a with
    | true => exact own a inside
    | false => exact other a (congrArg not inside)
  refine ⟨either here.owners there.owners, either here.listens there.listens,
    either here.watching there.watching, either here.past there.past, ?_⟩
  calc one.targets
    _ ~ one.targets.filter (side.keys ·.handle?) ++ one.targets.filter (!side.keys ·.handle?) :=
      (List.filter_append_perm _ _).symm
    _ ~ two.targets.filter (side.keys ·.handle?) ++ two.targets.filter (!side.keys ·.handle?) :=
      here.targets.append there.targets
    _ ~ two.targets := List.filter_append_perm _ _

/-- An object owns its handle, or one of the changes brings it. -/
def Knows (loop : Loop B C W) (changes : List (Change B C)) (event : Event B) : Prop :=
  loop.lookup event.handle = some event ∨ event ∈ eventsIn changes

/-- Two lists of changes have nothing to do with each other: no handle is in both. Objects, whether
they are owned or still to come, own their sources: at different handles they share none. -/
structure Unrelated (loop : Loop B C W) (first second : List (Change B C)) : Prop where
  handles : ∀ one ∈ first, ∀ two ∈ second, handleOf one ≠ handleOf two
  sources : ∀ event other, loop.Knows (first ++ second) event →
    loop.Knows (first ++ second) other → event.source = other.source →
    event.handle = other.handle

open Classical in
/-- The side of a list of changes: the handles that it speaks of, and the sources of the objects
there. -/
noncomputable def sideOf (loop : Loop B C W) (first second : List (Change B C)) : Side where
  keys key := decide (∃ change ∈ first, handleOf change = key)
  sources source := decide (∃ event, loop.Knows (first ++ second) event ∧ event.source = source ∧
    ∃ change ∈ first, handleOf change = some event.handle)

variable {first second changes others : List (Change B C)} {event : Event B}

private theorem Unrelated.puts (unrelated : loop.Unrelated first second)
    (known : loop.Knows (first ++ second) event) :
    (loop.sideOf first second).Puts
      ((loop.sideOf first second).keys (some event.handle)) event := by
  refine ⟨rfl, decide_eq_decide.2 ⟨?_, fun spoken => ⟨event, known, rfl, spoken⟩⟩⟩
  rintro ⟨other, knownToo, same, spoken⟩
  rwa [unrelated.sources event other known knownToo same.symm]

private theorem Unrelated.parted (unrelated : loop.Unrelated first second) (filed : loop.Filed) :
    Parted (loop.sideOf first second) loop := by
  refine ⟨filed, fun handle owner found => ?_⟩
  have own : owner.handle = handle := filed handle owner found
  subst own
  exact unrelated.puts (.inl found)

/-- Each side gets its own changes back out of a row. -/
theorem Unrelated.rows (unrelated : loop.Unrelated first second)
    (row : Merged first second changes) :
    changes.filter ((loop.sideOf first second).keys <| handleOf ·) = first ∧
      changes.filter ((loop.sideOf first second).flip.keys <| handleOf ·) = second := by
  have ours : ∀ change ∈ first,
      (loop.sideOf first second).keys (handleOf change) = true :=
    fun change inside => decide_eq_true ⟨change, inside, rfl⟩
  have theirs : ∀ change ∈ second,
      (loop.sideOf first second).keys (handleOf change) = false :=
    fun change inside => decide_eq_false fun ⟨one, spoken, same⟩ =>
      unrelated.handles one spoken change inside same
  exact ⟨row.filter_eq ours theirs,
    row.swap.filter_eq (fun change inside => congrArg not (theirs change inside))
      fun change inside => congrArg not (ours change inside)⟩

/-- **Two rows of the same requests come to the same.** -/
theorem Unrelated.concurs (separate : conduct.Separate past) (filed : loop.Filed)
    (unrelated : loop.Unrelated first second) (row : Merged first second changes)
    (rowToo : Merged first second others) :
    Concurs past (changes.foldl (apply conduct) loop) (others.foldl (apply conduct) loop) := by
  have parted := unrelated.parted filed
  have puts {changes : List (Change B C)} (row : Merged first second changes) (event : Event B)
      (inside : event ∈ eventsIn changes) :
      (loop.sideOf first second).Puts
        ((loop.sideOf first second).keys (some event.handle)) event := by
    refine unrelated.puts (.inr ?_)
    obtain ⟨change, there, brings⟩ := List.mem_filterMap.1 inside
    exact List.mem_filterMap.2 ⟨change, (row.mem_iff change).1 there, brings⟩
  obtain ⟨ours, theirs⟩ := unrelated.rows row
  obtain ⟨oursToo, theirsToo⟩ := unrelated.rows rowToo
  have here := applyAll_alike separate (.refl _ past loop) parted parted changes (puts row)
  have hereToo := applyAll_alike separate (.refl _ past loop) parted parted others (puts rowToo)
  have there := applyAll_alike separate (.refl _ past loop) parted.flip parted.flip changes
    fun event inside => (puts row event inside).flip
  have thereToo := applyAll_alike separate (.refl _ past loop) parted.flip parted.flip others
    fun event inside => (puts rowToo event inside).flip
  rw [ours] at here
  rw [oursToo] at hereToo
  rw [theirs] at there
  rw [theirsToo] at thereToo
  exact Alike.concurs (here.trans hereToo.symm) (there.trans thereToo.symm)

/-- **Requests for different handles commute.** Where sources keep to themselves, and two lists of
requests speak of different handles, it does not matter in which of the possible rows they meet in
the inbox: applied one after the other, they come to the same. The same objects stand at the same
handles, registered as far and watched for the same, the same handles listen, the same objects have
ended, and the same is pending on the agenda. The record is kept to tell who has ended; without it
the loop goes the same way. -/
theorem requests_for_different_handles_commute (separate : conduct.Separate past)
    (filed : loop.Filed) (unrelated : loop.Unrelated first second)
    (row : Merged first second changes) (rowToo : Merged first second others) :
    let one := changes.foldl (apply conduct.minuted) loop.onRecord
    let two := others.foldl (apply conduct.minuted) loop.onRecord
    Concurs (fun world source => past world.1 source) one two ∧ one.ended ~ two.ended ∧
      one.offRecord = changes.foldl (apply conduct) loop ∧
      two.offRecord = others.foldl (apply conduct) loop := by
  have filedToo : loop.onRecord.Filed := filed
  have unrelatedToo : loop.onRecord.Unrelated first second := ⟨unrelated.handles, unrelated.sources⟩
  have concurs := unrelatedToo.concurs separate.minuted filedToo row rowToo
  refine ⟨⟨concurs.owners, concurs.listens, concurs.watching,
    fun source => congrArg Prod.fst (concurs.past source), concurs.targets⟩, ?_,
    (applyAll_seen (recorded_shadows Minutes.scribe conduct) loop.onRecord changes).symm,
    (applyAll_seen (recorded_shadows Minutes.scribe conduct) loop.onRecord others).symm⟩
  exact perm_of_classes Event.source fun source => congrArg Prod.snd (concurs.past source)

open Trial in
/-- On a stage with three sources, the second of which the poller has already: an object comes to
one handle, is to hear of a time and is removed; at another handle one object comes whose source
refuses, and then a second one, which is to hear of the same time. Whether the one half of this
comes after the other or in between, and though the objects end and are pending in another order
then, the same have ended and the same are pending. -/
theorem requests_in_two_rows :
    let stage : Trial.Stage :=
      { ends := ((Keyed.empty.insert 0 {}).insert 1 { watched := true }).insert 2 {} }
    let loop : Loop Role Ticker Trial.Stage := { world := stage }
    let first : List (Change Role Ticker) :=
      [.add { handle := 3, source := 0, body := .listener 10 } .readable,
        .schedule { handle := 3 } 50, .remove { handle := 3 }]
    let second : List (Change Role Ticker) :=
      [.add { handle := 7, source := 1, body := .listener 12 } .readable,
        .add { handle := 7, source := 2, body := .listener 12 } .accept,
        .schedule { handle := 7 } 50, .rearm { handle := 7 } .both]
    let others := second.take 3 ++ first ++ second.drop 3
    let one := (first ++ second).foldl (apply scripted.minuted) loop.onRecord
    let two := others.foldl (apply scripted.minuted) loop.onRecord
    loop.Filed ∧ loop.Unrelated first second ∧ Merged first second (first ++ second) ∧
      Merged first second others ∧
      one.ended.map Event.handle = [3, 7] ∧ two.ended.map Event.handle = [7, 3] ∧
      one.ended ~ two.ended ∧
      one.targets.map Alarm.handle? = [some 3, some 7] ∧
      two.targets.map Alarm.handle? = [some 7, some 3] ∧ one.targets ~ two.targets ∧
      (∀ handle, one.lookup handle = two.lookup handle) ∧
      (one.lookup 7).map Event.source = some 2 ∧ one.selector.isListener 7 = true := by
  intro stage loop first second others one two
  have filed : loop.Filed := fun handle event found => by cases found
  have row : Merged first second (first ++ second) :=
    .first <| .first <| .first <| .second <| .second <| .second <| .second .nil
  have rowToo : Merged first second others :=
    .second <| .second <| .second <| .first <| .first <| .first <| .second .nil
  have brought (event : Event Role) (known : loop.Knows (first ++ second) event) :
      (event.handle = 3 ∧ event.source = 0) ∨ (event.handle = 7 ∧ event.source ≠ 0) := by
    rcases known with there | inside
    · cases there
    · simp only [first, second, eventsIn, List.cons_append, List.nil_append, List.filterMap_cons,
        List.filterMap_nil, List.mem_cons, List.not_mem_nil, or_false] at inside
      rcases inside with rfl | rfl | rfl <;> decide
  have unrelated : loop.Unrelated first second := by
    refine ⟨?_, fun event other known knownToo same => ?_⟩
    · have ours : ∀ change ∈ first, handleOf change = some 3 := by simp [first, handleOf]
      have theirs : ∀ change ∈ second, handleOf change = some 7 := by simp [second, handleOf]
      intro change inside another there
      rw [ours change inside, theirs another there]
      decide
    · rcases brought event known with ⟨own, zero⟩ | ⟨own, some⟩ <;>
        rcases brought other knownToo with ⟨ownToo, zeroToo⟩ | ⟨ownToo, someToo⟩
      · exact own.trans ownToo.symm
      · exact absurd (same.symm.trans zero) someToo
      · exact absurd (same.trans zeroToo) some
      · exact own.trans ownToo.symm
  obtain ⟨concurs, ended, _⟩ :=
    requests_for_different_handles_commute scripted_separate filed unrelated row rowToo
  exact ⟨filed, unrelated, row, rowToo, by decide, by decide, ended, by decide, by decide,
    concurs.targets, concurs.owners, by decide, by decide⟩

end Loop

end EventLoop
