import EventLoop.Pool
import Mathlib.Data.List.Induction
import Mathlib.Data.List.Nodup

/-! A pool together with everything that came out of it. Objects are numbered in the order in which
they are made, so that two with like contents are still two; a pool makes nothing of the numbers.
Whoever acquires an object holds it alone, may change it, and drops it or takes it out for good, in
any order and however many others are out. Each object is then in one place at a time; those in the
pool wait in line; and none has other contents than its last holder left in it. -/
namespace EventLoop.Pool

variable {α : Type}

/-! ## Numbered objects -/

/-- An object, and how many were made before it. -/
structure Numbered (α : Type) where
  number : Nat
  contents : α
deriving DecidableEq, Repr

/-- Makes objects as `make` does, and numbers them. -/
def numbering (make : Nat → α) (number : Nat) : Numbered α := ⟨number, make number⟩

/-- A pool of numbered objects as it looks to those who only see contents. -/
def plain (pool : Pool (Numbered α)) : Pool α :=
  ⟨pool.idle.map Numbered.contents, pool.capacity, pool.made, by
    rw [List.length_map]
    exact pool.within⟩

/-- Numbers change nothing in what is handed out. -/
theorem plain_acquire (make : Nat → α) (pool : Pool (Numbered α)) :
    pool.plain.acquire make =
      ((pool.acquire (numbering make)).1.contents, (pool.acquire (numbering make)).2.plain) := by
  obtain ⟨idle, capacity, made, within⟩ := pool
  cases idle <;> rfl

/-- Numbers change nothing in what is kept. -/
theorem plain_release (object : Numbered α) (pool : Pool (Numbered α)) :
    pool.plain.release object.contents =
      ((pool.release object).1, (pool.release object).2.plain) := by
  obtain ⟨idle, capacity, made, within⟩ := pool
  by_cases room : idle.length < capacity
  · have roomToo : (idle.map Numbered.contents).length < capacity := by rwa [List.length_map]
    simp [release, plain, room]
  · simp [release, plain, room]

/-- Who finds objects waiting gets the first of them. -/
theorem acquire_of_waiting (make : Nat → α) {pool : Pool α} {object : α} {rest : List α}
    (waits : pool.idle = object :: rest) :
    ∃ within, pool.acquire make = (object, ⟨rest, pool.capacity, pool.made, within⟩) := by
  obtain ⟨idle, capacity, made, within⟩ := pool
  cases waits
  exact ⟨_, rfl⟩

/-- Who finds none gets a new one. -/
theorem acquire_of_empty (make : Nat → α) {pool : Pool α} (empty : pool.idle = []) :
    ∃ within, pool.acquire make =
      (make pool.made, ⟨[], pool.capacity, pool.made + 1, within⟩) := by
  obtain ⟨idle, capacity, made, within⟩ := pool
  cases empty
  exact ⟨_, rfl⟩

/-- An object that is given back while there is room goes behind those that wait. -/
theorem release_of_room {pool : Pool α} (object : α) (room : pool.idle.length < pool.capacity) :
    ∃ within, pool.release object =
      (true, ⟨pool.idle ++ [object], pool.capacity, pool.made, within⟩) :=
  ⟨_, dif_pos room⟩

private theorem release_of_full {pool : Pool α} (object : α)
    (full : ¬ pool.idle.length < pool.capacity) :
    pool.release object = (false, pool) :=
  dif_neg full

/-! ## Holders -/

/-- An `ObjectPool` and what has come of its objects: those that a `PooledObject` holds, in the
order in which they were acquired, those that were taken out for good, and those that the pool had
no room for. -/
structure Lending (α : Type) where
  pool : Pool (Numbered α)
  held : List (Numbered α) := []
  taken : List (Numbered α) := []
  discarded : List (Numbered α) := []

/-- What happens to an object: it is acquired, perhaps made for that; its holder changes it; it is
dropped, and kept or not; it is taken out. -/
inductive Transfer (α : Type) where
  | acquired (number : Nat) (created : Bool)
  | changed (number : Nat) (contents : α)
  | dropped (number : Nat) (kept : Bool)
  | taken (number : Nat)
deriving DecidableEq, Repr

/-- Which object it happens to. -/
def Transfer.number : Transfer α → Nat
  | .acquired number _ => number
  | .changed number _ => number
  | .dropped number _ => number
  | .taken number => number

namespace Lending

/-- All objects there are, place by place. -/
def objects (lending : Lending α) : List (Numbered α) :=
  lending.pool.idle ++ lending.held ++ lending.taken ++ lending.discarded

/-- Somebody acquires an object. -/
def lend (make : Nat → α) (lending : Lending α) : Lending α :=
  let (object, pool) := lending.pool.acquire (numbering make)
  { lending with pool, held := lending.held ++ [object] }

/-- A holder drops an object, and `others` are still held. -/
def drop (object : Numbered α) (others : List (Numbered α)) (lending : Lending α) : Lending α :=
  let (kept, pool) := lending.pool.release object
  { lending with
    pool, held := others
    discarded := if kept then lending.discarded else lending.discarded ++ [object] }

/-- One thing that somebody does who has the pool or an object from it. -/
inductive Step (make : Nat → α) (lending : Lending α) : Transfer α → Lending α → Prop where
  | acquire :
      Step make lending
        (.acquired (lending.pool.acquire (numbering make)).1.number
          ((lending.pool.acquire (numbering make)).2.made != lending.pool.made))
        (lending.lend make)
  | change {before after : List (Numbered α)} {object : Numbered α}
      (held : lending.held = before ++ object :: after) (contents : α) :
      Step make lending (.changed object.number contents)
        { lending with held := before ++ { object with contents } :: after }
  | drop {before after : List (Numbered α)} {object : Numbered α}
      (held : lending.held = before ++ object :: after) :
      Step make lending (.dropped object.number (lending.pool.release object).1)
        (lending.drop object (before ++ after))
  | take {before after : List (Numbered α)} {object : Numbered α}
      (held : lending.held = before ++ object :: after) :
      Step make lending (.taken object.number)
        { lending with held := before ++ after, taken := lending.taken ++ [object] }

/-- Any number of such things, with all that has happened to objects. -/
inductive Run (make : Nat → α) (start : Lending α) : List (Transfer α) → Lending α → Prop where
  | start : Run make start [] start
  | step {history : List (Transfer α)} {transfer : Transfer α} {lending next : Lending α}
      (run : Run make start history lending) (step : Step make lending transfer next) :
      Run make start (history ++ [transfer]) next

/-- A pool as it is made, with nothing out. -/
def opened (capacity : Nat) (make : Nat → α) : Lending α :=
  { pool := full capacity (numbering make) }

/-! ## What a history says -/

/-- What was left in an object last: what it was made with, or what it was last changed to. -/
def leftIn (make : Nat → α) (history : List (Transfer α)) (number : Nat) : α :=
  history.foldl (fun contents transfer =>
    match transfer with
    | .changed other later => if other = number then later else contents
    | _ => contents) (make number)

/-- The objects that have come to wait in the pool, in order: those made with it, and each that was
kept when it was dropped. -/
def entered (capacity : Nat) (history : List (Transfer α)) : List Nat :=
  List.range capacity ++ history.filterMap fun
    | .dropped number true => some number
    | _ => none

/-- The objects that have been handed out after waiting, in order. -/
def handedOut (history : List (Transfer α)) : List Nat :=
  history.filterMap fun
    | .acquired number false => some number
    | _ => none

/-- What a history says of the objects there are. -/
structure Accounted (make : Nat → α) (kept : Nat) (history : List (Transfer α))
    (lending : Lending α) : Prop where
  capacity : lending.pool.capacity = kept
  places : (lending.objects.map Numbered.number).Perm (List.range lending.pool.made)
  contents : ∀ object ∈ lending.objects, object.contents = leftIn make history object.number
  line : entered kept history = handedOut history ++ lending.pool.idle.map Numbered.number
  known : ∀ transfer ∈ history, transfer.number < lending.pool.made

variable {make : Nat → α} {kept : Nat} {history more : List (Transfer α)} {transfer : Transfer α}
  {start lending next late : Lending α}

/-- What only moves an object leaves its contents alone. -/
theorem leftIn_moved (make : Nat → α) (history : List (Transfer α)) (number : Nat)
    (moved : ∀ other contents, transfer ≠ .changed other contents) :
    leftIn make (history ++ [transfer]) number = leftIn make history number := by
  rw [leftIn, List.foldl_append]
  cases transfer with
  | changed other contents => exact absurd rfl (moved other contents)
  | _ => rfl

private theorem leftIn_changed (make : Nat → α) (history : List (Transfer α)) (other : Nat)
    (contents : α) (number : Nat) :
    leftIn make (history ++ [.changed other contents]) number =
      if other = number then contents else leftIn make history number :=
  List.foldl_append

/-- What has just been made has the contents it was made with. -/
theorem leftIn_unknown (make : Nat → α) {number : Nat}
    (unknown : ∀ transfer ∈ history, transfer.number ≠ number) :
    leftIn make history number = make number := by
  induction history using List.reverseRecOn with
  | nil => rfl
  | append_singleton history transfer ih =>
    obtain ⟨before, last⟩ := List.forall_mem_append.1 unknown
    have apart := last transfer List.mem_cons_self
    cases transfer with
    | changed other contents =>
      have elsewhere : other ≠ number := apart
      rw [leftIn_changed, if_neg elsewhere]
      exact ih before
    | _ =>
      rw [leftIn_moved make history number fun _ _ same => by cases same]
      exact ih before

private theorem known_append (known : ∀ other ∈ history, other.number < lending.pool.made)
    (grows : lending.pool.made ≤ next.pool.made) (last : transfer.number < next.pool.made) :
    ∀ other ∈ history ++ [transfer], other.number < next.pool.made :=
  List.forall_mem_append.2
    ⟨fun other inside => Nat.lt_of_lt_of_le (known other inside) grows,
      List.forall_mem_singleton.2 last⟩

/-- An object that is held, and all others. -/
theorem objects_of_held {before after : List (Numbered α)} {object : Numbered α}
    (held : lending.held = before ++ object :: after) :
    lending.objects.Perm (object ::
      (lending.pool.idle ++ (before ++ after) ++ lending.taken ++ lending.discarded)) := by
  simp only [objects, held, List.append_assoc, List.cons_append]
  simp only [← List.append_assoc lending.pool.idle before]
  exact List.perm_middle

namespace Accounted

/-- The number of an object that there is has been given out. -/
theorem number_lt (accounted : Accounted make kept history lending) {object : Numbered α}
    (inside : object ∈ lending.objects) : object.number < lending.pool.made :=
  List.mem_range.1 (accounted.places.subset (List.mem_map_of_mem inside))

/-- No number is given to two objects. -/
theorem distinct (accounted : Accounted make kept history lending) :
    (lending.objects.map Numbered.number).Nodup :=
  accounted.places.nodup_iff.2 List.nodup_range

/-- Where objects only move from place to place, their contents stay what they were. -/
theorem moved (accounted : Accounted make kept history lending)
    (same : next.objects.Perm lending.objects) (made : next.pool.made = lending.pool.made)
    (capacity : next.pool.capacity = lending.pool.capacity)
    (line : entered kept (history ++ [transfer]) =
      handedOut (history ++ [transfer]) ++ next.pool.idle.map Numbered.number)
    (moves : ∀ other contents, transfer ≠ .changed other contents)
    (known : transfer.number < lending.pool.made) :
    Accounted make kept (history ++ [transfer]) next where
  capacity := capacity.trans accounted.capacity
  places := by
    rw [made]
    exact (same.map _).trans accounted.places
  contents object inside := by
    rw [leftIn_moved make history object.number moves]
    exact accounted.contents object (same.subset inside)
  line := line
  known := known_append accounted.known (Nat.le_of_eq made.symm) (made ▸ known)

/-- **Whoever acquires an object gets the one that has waited longest**, and a new one if none
waits. -/
theorem lend (accounted : Accounted make kept history lending) :
    Accounted make kept
      (history ++ [.acquired (lending.pool.acquire (numbering make)).1.number
        ((lending.pool.acquire (numbering make)).2.made != lending.pool.made)])
      (lending.lend make) := by
  have line := accounted.line
  unfold Lending.lend
  cases waits : lending.pool.idle with
  | nil =>
    obtain ⟨within, acquired⟩ := acquire_of_empty (numbering make) waits
    have created : (lending.pool.made + 1 != lending.pool.made) = true := by simp
    have fresh : leftIn make (history ++ [.acquired lending.pool.made true]) lending.pool.made =
        make lending.pool.made := by
      rw [leftIn_moved make history _ fun _ _ same => by cases same]
      exact leftIn_unknown make fun transfer inside =>
        Nat.ne_of_lt (accounted.known transfer inside)
    have newcomer : ([] ++ (lending.held ++ [numbering make lending.pool.made]) ++ lending.taken ++
        lending.discarded).Perm (numbering make lending.pool.made :: lending.objects) := by
      simp only [objects, waits, List.nil_append, List.append_assoc]
      exact List.perm_middle
    simp only [acquired, created]
    refine ⟨accounted.capacity, ?_, ?_, ?_, ?_⟩
    · rw [List.range_succ]
      exact ((newcomer.map Numbered.number).trans (accounted.places.cons _)).trans
        (List.perm_append_singleton _ _).symm
    · intro object inside
      rcases List.mem_cons.1 (newcomer.subset inside) with rfl | before
      · exact fresh.symm
      · rw [leftIn_moved make history _ fun _ _ same => by cases same]
        exact accounted.contents object before
    · simpa [entered, handedOut, waits] using line
    · exact known_append accounted.known (Nat.le_succ _) (Nat.lt_succ_self _)
  | cons object rest =>
    obtain ⟨within, acquired⟩ := acquire_of_waiting (numbering make) waits
    have created : (lending.pool.made != lending.pool.made) = false := by simp
    have inside : object ∈ lending.objects := by
      simp only [objects, waits, List.cons_append]
      exact List.mem_cons_self
    simp only [acquired, created]
    refine accounted.moved ?_ rfl rfl ?_ (fun _ _ same => by cases same)
      (accounted.number_lt inside)
    · simp only [objects, waits, List.cons_append, List.append_assoc]
      exact (List.perm_middle.append_left rest).trans List.perm_middle
    · simpa [entered, handedOut, waits] using line

/-- **Only its holder changes an object.** -/
theorem change (accounted : Accounted make kept history lending)
    {before after : List (Numbered α)} {object : Numbered α}
    (held : lending.held = before ++ object :: after) (contents : α) :
    Accounted make kept (history ++ [.changed object.number contents])
      { lending with held := before ++ { object with contents } :: after } := by
  have numbers : (before ++ { object with contents } :: after).map Numbered.number =
      lending.held.map Numbered.number := by
    simp only [held, List.map_append, List.map_cons]
  have split := objects_of_held held
  have apart := (split.map Numbered.number).nodup_iff.1 accounted.distinct
  refine ⟨accounted.capacity, ?_, ?_, ?_, ?_⟩
  · have places := accounted.places
    simp only [objects, List.map_append] at places numbers ⊢
    rwa [numbers]
  · intro other inside
    rw [leftIn_changed]
    rcases List.mem_cons.1 ((objects_of_held rfl).subset inside) with rfl | elsewhere
    · exact (if_pos rfl).symm
    · have different : object.number ≠ other.number := fun same =>
        (List.nodup_cons.1 apart).1 (same ▸ List.mem_map_of_mem elsewhere)
      rw [if_neg different]
      exact accounted.contents other (split.symm.subset (List.mem_cons_of_mem _ elsewhere))
  · simpa [entered, handedOut] using accounted.line
  · exact known_append accounted.known (Nat.le_refl _)
      (accounted.number_lt (split.symm.subset List.mem_cons_self))

/-- **An object that is dropped goes to the end of the line**, or is gone if the pool is full. -/
theorem drop (accounted : Accounted make kept history lending)
    {before after : List (Numbered α)} {object : Numbered α}
    (held : lending.held = before ++ object :: after) :
    Accounted make kept (history ++ [.dropped object.number (lending.pool.release object).1])
      (lending.drop object (before ++ after)) := by
  have split := objects_of_held held
  have line := accounted.line
  have inside := accounted.number_lt (split.symm.subset List.mem_cons_self)
  unfold Lending.drop
  by_cases room : lending.pool.idle.length < lending.pool.capacity
  · obtain ⟨within, released⟩ := release_of_room object room
    simp only [released, ↓reduceIte]
    refine accounted.moved ?_ rfl rfl ?_ (fun _ _ same => by cases same) inside
    · refine .trans ?_ split.symm
      simp only [objects, List.append_assoc, List.cons_append]
      exact List.perm_middle
    · have longer := congrArg (· ++ [object.number]) line
      simpa [entered, handedOut] using longer
  · simp only [release_of_full object room, Bool.false_eq_true, ↓reduceIte]
    refine accounted.moved ?_ rfl rfl ?_ (fun _ _ same => by cases same) inside
    · refine .trans ?_ split.symm
      simp only [objects, ← List.append_assoc]
      exact List.perm_append_singleton _ _
    · simpa [entered, handedOut] using line

/-- **An object that is taken out stays out.** -/
theorem take (accounted : Accounted make kept history lending)
    {before after : List (Numbered α)} {object : Numbered α}
    (held : lending.held = before ++ object :: after) :
    Accounted make kept (history ++ [.taken object.number])
      { lending with held := before ++ after, taken := lending.taken ++ [object] } := by
  have split := objects_of_held held
  refine accounted.moved ?_ rfl rfl ?_ (fun _ _ same => by cases same)
    (accounted.number_lt (split.symm.subset List.mem_cons_self))
  · refine .trans ?_ split.symm
    simp only [objects, List.append_assoc, List.singleton_append]
    simp only [← List.append_assoc]
    exact List.perm_middle
  · simpa [entered, handedOut] using accounted.line

private theorem step (accounted : Accounted make kept history lending)
    (step : Step make lending transfer next) :
    Accounted make kept (history ++ [transfer]) next := by
  cases step with
  | acquire => exact accounted.lend
  | change held contents => exact accounted.change held contents
  | drop held => exact accounted.drop held
  | take held => exact accounted.take held

end Accounted

/-- A pool as it is made holds all the objects there are, as they were made. -/
theorem opened_accounted (capacity : Nat) (make : Nat → α) :
    Accounted make capacity [] (opened capacity make) := by
  have numbers : ((List.range capacity).map (numbering make)).map Numbered.number =
      List.range capacity := by
    rw [List.map_map]
    exact List.map_id _
  refine ⟨rfl, ?_, ?_, ?_, List.forall_mem_nil _⟩
  · simp only [objects, opened, full, List.append_nil, numbers]
    exact .refl _
  · intro object inside
    simp only [objects, opened, full, List.append_nil] at inside
    obtain ⟨number, _, rfl⟩ := List.mem_map.1 inside
    rfl
  · simp only [entered, handedOut, opened, full, List.filterMap_nil, List.append_nil,
      List.nil_append, numbers]

private theorem Run.accounted (accounted : Accounted make kept [] start)
    (run : Run make start history lending) : Accounted make kept history lending := by
  induction run with
  | start => exact accounted
  | step run step ih => exact ih.step step

/-! ## What a step comes to -/

/-- What a step finds and what it leaves, case by case. -/
inductive Turnout (make : Nat → α) (capacity : Nat) (lending next : Lending α) :
    Transfer α → Prop where
  | oldest {object : Numbered α} {rest : List (Numbered α)}
      (waits : lending.pool.idle = object :: rest) (left : next.pool.idle = rest)
      (made : next.pool.made = lending.pool.made) (held : next.held = lending.held ++ [object]) :
      Turnout make capacity lending next (.acquired object.number false)
  | created (empty : lending.pool.idle = []) (left : next.pool.idle = [])
      (made : next.pool.made = lending.pool.made + 1)
      (held : next.held = lending.held ++ [numbering make lending.pool.made]) :
      Turnout make capacity lending next (.acquired lending.pool.made true)
  | changed (number : Nat) (contents : α) (pool : next.pool = lending.pool) :
      Turnout make capacity lending next (.changed number contents)
  | kept {object : Numbered α} (holds : object ∈ lending.held)
      (room : lending.pool.available < capacity)
      (back : next.pool.idle = lending.pool.idle ++ [object])
      (made : next.pool.made = lending.pool.made) (discarded : next.discarded = lending.discarded) :
      Turnout make capacity lending next (.dropped object.number true)
  | discarded {object : Numbered α} (holds : object ∈ lending.held)
      (full : ¬ lending.pool.available < capacity) (pool : next.pool = lending.pool)
      (gone : next.discarded = lending.discarded ++ [object]) :
      Turnout make capacity lending next (.dropped object.number false)
  | taken {object : Numbered α} (holds : object ∈ lending.held) (pool : next.pool = lending.pool)
      (out : next.taken = lending.taken ++ [object]) :
      Turnout make capacity lending next (.taken object.number)

private theorem Step.turnout (capacity : lending.pool.capacity = kept)
    (step : Step make lending transfer next) : Turnout make kept lending next transfer := by
  subst capacity
  cases step with
  | acquire =>
    unfold Lending.lend
    cases waits : lending.pool.idle with
    | nil =>
      obtain ⟨within, acquired⟩ := acquire_of_empty (numbering make) waits
      have created : (lending.pool.made + 1 != lending.pool.made) = true := by simp
      simp only [acquired, created]
      exact .created waits rfl rfl rfl
    | cons object rest =>
      obtain ⟨within, acquired⟩ := acquire_of_waiting (numbering make) waits
      have created : (lending.pool.made != lending.pool.made) = false := by simp
      simp only [acquired, created]
      exact .oldest waits rfl rfl rfl
  | change held contents => exact .changed _ contents rfl
  | @drop before after object held =>
    have holds : object ∈ lending.held :=
      held ▸ List.mem_append_right _ List.mem_cons_self
    unfold Lending.drop
    by_cases room : lending.pool.idle.length < lending.pool.capacity
    · obtain ⟨within, released⟩ := release_of_room object room
      simp only [released, ↓reduceIte]
      exact .kept holds room rfl rfl rfl
    · simp only [release_of_full object room, Bool.false_eq_true, ↓reduceIte]
      exact .discarded holds room rfl rfl
  | @take before after object held =>
    exact .taken (held ▸ List.mem_append_right _ List.mem_cons_self) rfl rfl

/-- What is out for good stays where it is. -/
theorem Step.out_for_good (step : Step make lending transfer next) :
    lending.taken <+: next.taken ∧ lending.discarded <+: next.discarded := by
  cases step with
  | acquire => exact ⟨List.prefix_rfl, List.prefix_rfl⟩
  | change held contents => exact ⟨List.prefix_rfl, List.prefix_rfl⟩
  | drop held =>
    unfold Lending.drop
    refine ⟨List.prefix_rfl, ?_⟩
    simp only
    split
    · exact List.prefix_rfl
    · exact List.prefix_append _ _
  | take held => exact ⟨List.prefix_append _ _, List.prefix_rfl⟩

private theorem Run.out_for_good (run : Run make start history lending) :
    start.taken <+: lending.taken ∧ start.discarded <+: lending.discarded := by
  induction run with
  | start => exact ⟨List.prefix_rfl, List.prefix_rfl⟩
  | step run step ih =>
    obtain ⟨taken, discarded⟩ := step.out_for_good
    exact ⟨ih.1.trans taken, ih.2.trans discarded⟩

/-- **A pool accounts for every object.** However objects are acquired, changed, dropped and taken
out, each object made is in exactly one place: in the pool, with one holder, taken out, or
discarded. It has the contents that were last left in it. Those that came to wait in the pool have
been handed out in this order or still wait in it, and there are never more than the pool keeps. An
acquisition finds the one that waits longest, and makes a new one exactly if none waits; a drop goes
to the end of the line exactly if there is room; and what is taken out or discarded stays so. To
those who see contents only, it is all the same without the numbers. -/
theorem pool_accounts_for_every_object (make : Nat → α) (capacity : Nat)
    (run : Run make (opened capacity make) history lending) :
    (lending.objects.map Numbered.number).Perm (List.range lending.pool.made) ∧
      (∀ object ∈ lending.objects, object.contents = leftIn make history object.number) ∧
      entered capacity history = handedOut history ++ lending.pool.idle.map Numbered.number ∧
      lending.pool.available ≤ capacity ∧
      (∀ transfer next, Step make lending transfer next →
        Turnout make capacity lending next transfer) ∧
      (∀ more late, Run make lending more late →
        lending.taken <+: late.taken ∧ lending.discarded <+: late.discarded) ∧
      lending.pool.plain.acquire make =
        ((lending.pool.acquire (numbering make)).1.contents,
          (lending.pool.acquire (numbering make)).2.plain) ∧
      ∀ object, lending.pool.plain.release object.contents =
        ((lending.pool.release object).1, (lending.pool.release object).2.plain) := by
  have accounted := run.accounted (opened_accounted capacity make)
  have few : lending.pool.available ≤ capacity :=
    accounted.capacity ▸ lending.pool.available_le
  exact ⟨accounted.places, accounted.contents, accounted.line, few,
    fun transfer next step => step.turnout accounted.capacity,
    fun more late further => further.out_for_good,
    plain_acquire make lending.pool, fun object => plain_release object lending.pool⟩

/-- Of two objects from a pool that keeps one, the one that is dropped first is kept. It is handed
out again with what its holder left in it, and once it is taken out the pool is empty. -/
theorem first_one_back_is_kept :
    let history : List (Transfer Nat) :=
      [.acquired 0 false, .acquired 1 true, .changed 1 7, .dropped 1 true, .dropped 0 false,
        .acquired 1 false, .taken 1]
    ∃ lending, Run (· * 10) (opened 1 (· * 10)) history lending ∧
      lending.pool.available = 0 ∧ lending.taken = [⟨1, 7⟩] ∧ lending.discarded = [⟨0, 0⟩] ∧
      (lending.objects.map Numbered.number).Perm (List.range lending.pool.made) := by
  intro history
  have run := @Run.start Nat (· * 10) (opened 1 (· * 10))
    |>.step .acquire |>.step .acquire
    |>.step (@Step.change _ _ _ [⟨0, 0⟩] [] ⟨1, 10⟩ rfl 7)
    |>.step (@Step.drop _ _ _ [⟨0, 0⟩] [] ⟨1, 7⟩ rfl)
    |>.step (@Step.drop _ _ _ [] [] ⟨0, 0⟩ rfl)
    |>.step .acquire
    |>.step (@Step.take _ _ _ [] [] ⟨1, 7⟩ rfl)
  exact ⟨_, run, rfl, rfl, rfl, (pool_accounts_for_every_object _ 1 run).1⟩

end Lending

end EventLoop.Pool
