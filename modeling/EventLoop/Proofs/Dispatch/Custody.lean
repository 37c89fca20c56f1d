import EventLoop.Dispatch

/-! Who has a task, from the moment it is offered to a sink. Tasks are numbered in the order in
which they are offered, so that two of them with equal messages are still two. A sink takes a task
or refuses it; what it has taken it begins and finishes, in any order and as many at a time as it
likes; and what a handler is given and what is destroyed is written down by the trade itself,
while the task is performed. So the life of each message can be read off the history. -/
namespace EventLoop

variable {M S W : Type}

/-! ## What becomes of a message -/

/-- What can happen to a task and to its message. -/
inductive Happening (M : Type) where
  | taken
  | refused
  | begun
  /-- A handler has been given the message, for a session, and has left it like this. -/
  | handled (message : M) (session : Nat) (ending : Ending) (left : M)
  | destroyed (message : M)

/-- A trade that writes down what is run and what is destroyed. -/
def Trade.noted (trade : Trade M W) : Trade M (W × List (Happening M)) where
  run message session state :=
    let (ending, left, world) := trade.run message session state.1
    (ending, left, world, state.2 ++ [.handled message session ending left])
  destroy message state := (trade.destroy message state.1, state.2 ++ [.destroyed message])

/-- What performing a task in a world comes to: its handler is run on its message and for its
session, and what the handler leaves is destroyed. -/
def Errand.performing (trade : Trade M W) (task : Errand M) (world : W) : List (Happening M) :=
  let (ending, left, _) := trade.run task.message task.session world
  [.handled task.message task.session ending left, .destroyed left]

/-- **Performing a task runs its message once and then destroys it once**, however the handler
ends. -/
theorem perform_noted (trade : Trade M W) (task : Errand M) (world : W)
    (before : List (Happening M)) :
    task.perform trade.noted (world, before) =
      ((task.perform trade world).1, (task.perform trade world).2,
        before ++ task.performing trade world) := by
  simp [Errand.perform, Trade.noted, Errand.performing]

/-! ## Tasks in the hands of a sink -/

/-- How far a sink has come with a task. -/
inductive Standby where
  | offered
  | waiting
  | running
  | done
  | refused
deriving DecidableEq

/-- Whether a task was taken, once that is decided. -/
def Standby.verdict : Standby → Option Bool
  | offered => none
  | waiting => some true
  | running => some true
  | done => some true
  | refused => some false

/-- A task that was offered to a sink. -/
structure Charge (M : Type) where
  task : Errand M
  standby : Standby

/-- All tasks that were ever offered to a `DispatchSink`, the world in which handlers act, and what
has happened to each task, by its number. -/
structure Custody (M W : Type) where
  charges : List (Charge M) := []
  world : W
  history : List (Nat × Happening M) := []

namespace Custody

/-- What has happened to one task. -/
def life (number : Nat) (custody : Custody M W) : List (Happening M) :=
  (custody.history.filter (·.1 = number)).map Prod.snd

/-- All tasks that were ever offered. -/
def tasks (custody : Custody M W) : List (Errand M) := custody.charges.map Charge.task

/-- Whether a task was taken. None as long as that is not decided. -/
def verdict (number : Nat) (custody : Custody M W) : Option Bool :=
  (custody.charges[number]?).bind fun charge => charge.standby.verdict

/-- Nothing that was taken is left to do. -/
def IsAtRest (custody : Custody M W) : Prop :=
  ∀ charge ∈ custody.charges, charge.standby ≠ .waiting ∧ charge.standby ≠ .running

/-- Offers a task, which gets the next number. -/
def offer (task : Errand M) (custody : Custody M W) : Custody M W :=
  { custody with charges := custody.charges ++ [⟨task, .offered⟩] }

/-- Writes down what happens to a task, and how far it has come with that. -/
def enter (number : Nat) (standby : Standby) (happenings : List (Happening M))
    (custody : Custody M W) : Custody M W :=
  { custody with
    charges := custody.charges.modify number fun charge => { charge with standby }
    history := custody.history ++ happenings.map (number, ·) }

/-- Refuses a task, whose message is destroyed. -/
def refuse (trade : Trade M W) (number : Nat) (task : Errand M) (custody : Custody M W) :
    Custody M W :=
  let (world, happenings) := trade.noted.destroy task.message (custody.world, [])
  enter number .refused (.refused :: happenings) { custody with world }

/-- Performs a task to its end. -/
def finish (trade : Trade M W) (number : Nat) (task : Errand M) (custody : Custody M W) :
    Custody M W :=
  let (_, world, happenings) := task.perform trade.noted (custody.world, [])
  enter number .done happenings { custody with world }

/-- One thing that a sink may do. Meanwhile anything may happen in the world. -/
inductive Step (trade : Trade M W) (custody : Custody M W) : Custody M W → Prop where
  | aside (world : W) : Step trade custody { custody with world }
  | take {number : Nat} {task : Errand M}
      (found : custody.charges[number]? = some ⟨task, .offered⟩) :
      Step trade custody (custody.enter number .waiting [.taken])
  | refuse {number : Nat} {task : Errand M}
      (found : custody.charges[number]? = some ⟨task, .offered⟩) :
      Step trade custody (custody.refuse trade number task)
  | begin {number : Nat} {task : Errand M}
      (found : custody.charges[number]? = some ⟨task, .waiting⟩) :
      Step trade custody (custody.enter number .running [.begun])
  | finish {number : Nat} {task : Errand M}
      (found : custody.charges[number]? = some ⟨task, .running⟩) :
      Step trade custody (custody.finish trade number task)

/-- Any number of things that a sink may do. -/
inductive Steps (trade : Trade M W) (custody : Custody M W) : Custody M W → Prop where
  | refl : Steps trade custody custody
  | tail {late later : Custody M W} (steps : Steps trade custody late)
      (step : Step trade late later) : Steps trade custody later

/-! ## The life of a message -/

/-- What has happened to a task that has come this far. -/
inductive Life (trade : Trade M W) (task : Errand M) : Standby → List (Happening M) → Prop where
  | offered : Life trade task .offered []
  | waiting : Life trade task .waiting [.taken]
  | running : Life trade task .running [.taken, .begun]
  | done (world : W) : Life trade task .done (.taken :: .begun :: task.performing trade world)
  | refused : Life trade task .refused [.refused, .destroyed task.message]

/-- Every task has had the life that belongs to how far it has come. -/
structure Sound (trade : Trade M W) (custody : Custody M W) : Prop where
  known : ∀ entry ∈ custody.history, entry.1 < custody.charges.length
  lives : ∀ number charge, custody.charges[number]? = some charge →
    Life trade charge.task charge.standby (custody.life number)

variable {trade : Trade M W} {custody late later : Custody M W} {number : Nat}

theorem Steps.one (step : Step trade custody late) : Steps trade custody late := .tail .refl step

private theorem life_enter_own (number : Nat) (standby : Standby) (happenings : List (Happening M))
    (custody : Custody M W) :
    (custody.enter number standby happenings).life number = custody.life number ++ happenings := by
  simp [life, enter, List.filter_map, Function.comp_def]

private theorem life_enter_other {other : Nat} (apart : number ≠ other) (standby : Standby)
    (happenings : List (Happening M)) (custody : Custody M W) :
    (custody.enter number standby happenings).life other = custody.life other := by
  simp [life, enter, List.filter_map, Function.comp_def, apart]

theorem charge_enter_own {charge : Charge M} (found : custody.charges[number]? = some charge)
    (standby : Standby) (happenings : List (Happening M)) :
    (custody.enter number standby happenings).charges[number]? =
      some { charge with standby } := by
  simp [enter, found]

theorem charge_enter_other {other : Nat} (apart : number ≠ other) (standby : Standby)
    (happenings : List (Happening M)) :
    (custody.enter number standby happenings).charges[other]? = custody.charges[other]? := by
  simp [enter, apart]

theorem charge_refuse_own {charge : Charge M} (found : custody.charges[number]? = some charge)
    (task : Errand M) :
    (custody.refuse trade number task).charges[number]? =
      some { charge with standby := .refused } := by
  refine charge_enter_own ?_ _ _
  exact found

private theorem Sound.enter {charge : Charge M} {standby : Standby}
    {happenings : List (Happening M)}
    (sound : custody.Sound trade) (found : custody.charges[number]? = some charge)
    (onward : ∀ past, Life trade charge.task charge.standby past →
      Life trade charge.task standby (past ++ happenings)) :
    (custody.enter number standby happenings).Sound trade := by
  have bound : number < custody.charges.length := (List.getElem?_eq_some_iff.1 found).1
  constructor
  · intro entry inside
    show entry.1 < (custody.charges.modify number _).length
    rw [List.length_modify]
    rcases List.mem_append.1 inside with before | now
    · exact sound.known entry before
    · obtain ⟨happening, _, rfl⟩ := List.mem_map.1 now
      exact bound
  · intro other charge there
    by_cases here : number = other
    · subst here
      rw [charge_enter_own found] at there
      cases there
      rw [life_enter_own]
      exact onward _ (sound.lives number _ found)
    · rw [charge_enter_other here] at there
      rw [life_enter_other here]
      exact sound.lives other charge there

theorem Sound.offer (sound : custody.Sound trade) (task : Errand M) :
    (custody.offer task).Sound trade := by
  constructor
  · intro entry inside
    have known := sound.known entry inside
    simp only [Custody.offer, List.length_append, List.length_singleton]
    omega
  · intro number charge there
    rcases Nat.lt_trichotomy number custody.charges.length with before | rfl | after
    · have same : (custody.offer task).charges[number]? = custody.charges[number]? :=
        List.getElem?_append_left before
      exact sound.lives number charge (same ▸ there)
    · have nothing : (custody.offer task).life custody.charges.length = [] := by
        rw [life, List.map_eq_nil_iff, List.filter_eq_nil_iff]
        intro entry inside
        simpa using Nat.ne_of_lt (sound.known entry inside)
      rw [nothing]
      simp only [Custody.offer, List.getElem?_concat_length, Option.some.injEq] at there
      exact there ▸ .offered
    · have beyond := (List.getElem?_eq_some_iff.1 there).1
      simp only [Custody.offer, List.length_append, List.length_singleton] at beyond
      omega

private theorem Sound.aside (sound : custody.Sound trade) (world : W) :
    ({ custody with world } : Custody M W).Sound trade := ⟨sound.known, sound.lives⟩

/-- **Whatever a sink does, every message leads its own life.** -/
theorem Sound.step (sound : custody.Sound trade) (step : Step trade custody late) :
    late.Sound trade := by
  cases step with
  | aside world => exact sound.aside world
  | take found =>
    refine sound.enter found fun past life => ?_
    cases life
    exact .waiting
  | refuse found =>
    refine (sound.aside _).enter found fun past life => ?_
    cases life
    exact .refused
  | begin found =>
    refine sound.enter found fun past life => ?_
    cases life
    exact .running
  | finish found =>
    unfold Custody.finish
    rw [perform_noted]
    refine (sound.aside _).enter found fun past life => ?_
    cases life
    exact .done custody.world

theorem Sound.steps (sound : custody.Sound trade) (steps : Steps trade custody late) :
    late.Sound trade := by
  induction steps with
  | refl => exact sound
  | tail steps step ih => exact ih.step step

/-! ## What is decided stays so -/

private theorem tasks_enter (number : Nat) (standby : Standby) (happenings : List (Happening M))
    (custody : Custody M W) : (custody.enter number standby happenings).tasks = custody.tasks := by
  refine List.ext_getElem? fun other => ?_
  by_cases here : number = other
  · subst here
    cases found : custody.charges[number]? <;> simp [tasks, enter, found]
  · simp [tasks, enter, here]

private theorem verdict_enter {charge : Charge M} {standby : Standby} {other : Nat} {taken : Bool}
    (happenings : List (Happening M)) (found : custody.charges[number]? = some charge)
    (same : ∀ taken, charge.standby.verdict = some taken → standby.verdict = some taken)
    (decided : custody.verdict other = some taken) :
    (custody.enter number standby happenings).verdict other = some taken := by
  by_cases here : number = other
  · subst here
    rw [verdict, found] at decided
    rw [verdict, charge_enter_own found]
    exact same taken decided
  · rw [verdict, charge_enter_other here]
    exact decided

private theorem Step.tasks (step : Step trade custody late) : late.tasks = custody.tasks := by
  cases step with
  | aside world => rfl
  | take found => exact tasks_enter _ _ _ _
  | refuse found => exact tasks_enter _ _ _ _
  | begin found => exact tasks_enter _ _ _ _
  | finish found => exact tasks_enter _ _ _ _

private theorem Step.verdict {taken : Bool} (step : Step trade custody late)
    (decided : custody.verdict number = some taken) : late.verdict number = some taken := by
  cases step with
  | aside world => exact decided
  | take found => exact verdict_enter _ found (fun _ here => nomatch here) decided
  | @refuse number task found =>
    have aside (world : W) :
        ({ custody with world } : Custody M W).charges[number]? = some ⟨task, .offered⟩ := found
    exact verdict_enter _ (aside _) (fun _ here => nomatch here) decided
  | begin found => exact verdict_enter _ found (fun _ here => here) decided
  | @finish number task found =>
    have aside (world : W) :
        ({ custody with world } : Custody M W).charges[number]? = some ⟨task, .running⟩ := found
    exact verdict_enter _ (aside _) (fun _ here => here) decided

theorem Steps.tasks (steps : Steps trade custody late) : late.tasks = custody.tasks := by
  induction steps with
  | refl => rfl
  | tail steps step ih => exact step.tasks.trans ih

theorem Steps.verdict {taken : Bool} (steps : Steps trade custody late)
    (decided : custody.verdict number = some taken) : late.verdict number = some taken := by
  induction steps with
  | refl => exact decided
  | tail steps step ih => exact step.verdict ih

end Custody

/-! ## What a sink owes -/

/-- A sink that deals properly with tasks. Whatever it does with its state while it answers, it
first has the task and in the end has taken or refused it, as it says; the rest of the time it goes
on with what it has taken. Who has what can be read off its state. -/
structure Sink.Serves (sink : Sink M S) (trade : Trade M W) (goesOn : S → S → Prop)
    (custody : S → Custody M W) (fit : S → Prop) : Prop where
  keeps : ∀ group task state, fit state → fit (sink.submit group task state).2
  submit : ∀ group task state, fit state →
    Custody.Steps trade ((custody state).offer task) (custody (sink.submit group task state).2)
  answer : ∀ group task state, fit state →
    (custody (sink.submit group task state).2).verdict (custody state).charges.length =
      some (sink.submit group task state).1.isOk
  onwards : ∀ state late, fit state → goesOn state late →
    fit late ∧ Custody.Steps trade (custody state) (custody late)

end EventLoop
