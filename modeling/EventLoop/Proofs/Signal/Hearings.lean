import EventLoop.Trial.Stage
import Mathlib.Data.List.Induction

/-! How signals are heard. Deliveries come at any moment: before the listener is told that there is
input, between two of its reads, after the last of them. Some write nothing, because the pipe is
full, and many may share one run of the callback. What holds all the same is that a pipe with
something in it, or a reading that has found something, stands for a run that is still to come, and
that neither is there without a delivery. -/
namespace EventLoop

namespace SignalPipe

variable (pipe : SignalPipe)

private theorem room_deliver : pipe.deliver.room = pipe.room := by
  unfold deliver
  split <;> rfl

private theorem pending_deliver_le : pipe.deliver.pending ≤ pipe.pending + 1 := by
  unfold deliver
  split
  · exact Nat.le_refl _
  · exact Nat.le_succ _

private theorem le_pending_deliver : pipe.pending ≤ pipe.deliver.pending := by
  unfold deliver
  split
  · exact Nat.le_succ _
  · exact Nat.le_refl _

/-- Room for one byte is enough for a delivery to show. -/
theorem pending_deliver_pos (holds : 0 < pipe.room) : 0 < pipe.deliver.pending := by
  unfold deliver
  split
  · exact Nat.succ_pos _
  · next full => exact Nat.lt_of_lt_of_le holds (Nat.le_of_not_lt full)

end SignalPipe

/-- Whether a step is a read that gets through. -/
def SignalStep.isRead : SignalStep → Bool
  | .read _ => true
  | .delivery => false
  | .notified => false
  | .interrupted => false
  | .failed => false

namespace SignalListener

variable {listener ending : SignalListener} {step : SignalStep} {found : Bool}
  {steps during : List SignalStep} {room bytes ran : Nat}

/-! ## Steps -/

/-- A listener to which nothing has happened, on a pipe with room for `room` bytes. -/
def fresh (room : Nat) : SignalListener := { pipe := { room } }

/-- Steps, one after the other. -/
def run (steps : List SignalStep) (listener : SignalListener) : SignalListener :=
  steps.foldl SignalListener.step listener

private theorem run_append (steps more : List SignalStep) (listener : SignalListener) :
    listener.run (steps ++ more) = (listener.run steps).run more :=
  List.foldl_append

/-- What a step comes to, by where the listener stands. -/
inductive Course (listener : SignalListener) : SignalStep → SignalListener → Prop where
  | delivers : Course listener .delivery { listener with pipe := listener.pipe.deliver }
  | wakes (idle : listener.attention = .idle) :
      Course listener .notified { listener with attention := .reading false }
  | takes {found : Bool} (most : Nat) (reading : listener.attention = .reading found)
      (waiting : 0 < listener.pipe.pending) :
      Course listener (.read most)
        { listener with pipe := listener.pipe.take (most + 1), attention := .reading true }
  | dry {found : Bool} (most : Nat) (reading : listener.attention = .reading found)
      (empty : listener.pipe.pending = 0) : Course listener (.read most) (listener.conclude found)
  | fails {found : Bool} (reading : listener.attention = .reading found) :
      Course listener .failed (listener.conclude found)
  | idles {step : SignalStep} (idle : listener.attention = .idle)
      (other : step ≠ .delivery ∧ step ≠ .notified) : Course listener step listener
  | goesOn {found : Bool} {step : SignalStep} (reading : listener.attention = .reading found)
      (aside : step = .notified ∨ step = .interrupted) : Course listener step listener

private theorem step_course (listener : SignalListener) (step : SignalStep) :
    listener.Course step (listener.step step) := by
  cases step with
  | delivery => exact .delivers
  | notified =>
    cases standing : listener.attention with
    | idle => simpa only [SignalListener.step, standing] using Course.wakes standing
    | reading found =>
      simpa only [SignalListener.step, standing] using Course.goesOn standing (.inl rfl)
  | read most =>
    cases standing : listener.attention with
    | idle =>
      simpa only [SignalListener.step, standing] using Course.idles standing ⟨by nofun, by nofun⟩
    | reading found =>
      by_cases empty : listener.pipe.pending = 0
      · simpa only [SignalListener.step, standing, empty, if_true]
          using Course.dry most standing empty
      · simpa only [SignalListener.step, standing, empty, if_false]
          using Course.takes most standing (Nat.pos_of_ne_zero empty)
  | interrupted =>
    cases standing : listener.attention with
    | idle => exact .idles standing ⟨by nofun, by nofun⟩
    | reading found => exact .goesOn standing (.inr rfl)
  | failed =>
    cases standing : listener.attention with
    | idle =>
      simpa only [SignalListener.step, standing] using Course.idles standing ⟨by nofun, by nofun⟩
    | reading found => simpa only [SignalListener.step, standing] using Course.fails standing

private theorem step_notified (idle : listener.attention = .idle) :
    listener.step .notified = { listener with attention := .reading false } := by
  simp only [SignalListener.step, idle]

/-! ## Runs that are still to come -/

/-- One if what was found so far is to be reported at the end of the reading. -/
def due (listener : SignalListener) : Nat := if listener.attention = .reading true then 1 else 0

/-- The runs so far, and the most that may come of what is there now. -/
def tally (listener : SignalListener) : Nat :=
  listener.runs + listener.pipe.pending + listener.due

/-- At the end of a reading what is due is done. -/
theorem runs_conclude (reading : listener.attention = .reading found) :
    (listener.conclude found).runs = listener.runs + listener.due := by
  rw [due, reading]
  cases found <;> rfl

private theorem tally_conclude (reading : listener.attention = .reading found) :
    (listener.conclude found).tally = listener.tally := by
  unfold tally
  rw [runs_conclude reading]
  show listener.runs + listener.due + listener.pipe.pending + 0 = _
  omega

/-- **A step makes up no run**, unless it is a delivery, which makes up for one. -/
theorem tally_step_le (listener : SignalListener) (step : SignalStep) :
    (listener.step step).tally ≤ listener.tally + if step = .delivery then 1 else 0 := by
  have course := listener.step_course step
  generalize listener.step step = next at course ⊢
  cases course with
  | delivers =>
    have one := listener.pipe.pending_deliver_le
    simp only [tally, due, if_true]
    omega
  | wakes idle => exact Nat.add_le_add_left (Nat.zero_le _) _
  | takes most reading waiting =>
    simp only [tally, due, SignalPipe.take, if_true]
    omega
  | dry most reading empty => exact tally_conclude reading ▸ Nat.le_add_right _ _
  | fails reading => exact tally_conclude reading ▸ Nat.le_add_right _ _
  | idles idle other => exact Nat.le_add_right _ _
  | goesOn reading aside => exact Nat.le_add_right _ _

private theorem tally_run_le (steps : List SignalStep) (listener : SignalListener) :
    (listener.run steps).tally ≤ listener.tally + steps.count .delivery := by
  induction steps generalizing listener with
  | nil => exact Nat.le_refl _
  | cons step rest ih =>
    calc (listener.run (step :: rest)).tally
        ≤ (listener.step step).tally + rest.count .delivery := ih _
      _ ≤ listener.tally + (if step = .delivery then 1 else 0) + rest.count .delivery :=
          Nat.add_le_add_right (listener.tally_step_le step) _
      _ = listener.tally + (step :: rest).count .delivery := by
          simp only [List.count_cons, beq_iff_eq]
          omega

/-- There was a run after the first `ran`, or one is still to come. -/
structure Owes (ran : Nat) (listener : SignalListener) : Prop where
  before : ran ≤ listener.runs
  after : ran < listener.tally

/-- A delivery makes a listener owe a run. -/
theorem owes_delivery (holds : 0 < listener.pipe.room) :
    Owes listener.runs (listener.step .delivery) := by
  have shows := listener.pipe.pending_deliver_pos holds
  refine ⟨Nat.le_refl _, ?_⟩
  simp only [tally, SignalListener.step]
  omega

/-- **A run that is owed is not forgotten**, whatever comes. -/
theorem Owes.later (owes : Owes ran listener) (step : SignalStep) :
    Owes ran (listener.step step) := by
  obtain ⟨before, after⟩ := owes
  have course := listener.step_course step
  generalize listener.step step = next at course ⊢
  cases course with
  | delivers =>
    have more := listener.pipe.le_pending_deliver
    refine ⟨before, Nat.lt_of_lt_of_le after ?_⟩
    exact Nat.add_le_add_right (Nat.add_le_add_left more _) _
  | wakes idle =>
    refine ⟨before, ?_⟩
    simpa [tally, due, idle] using after
  | takes most reading waiting =>
    -- the bytes may all be gone, but their find is due
    refine ⟨before, ?_⟩
    simp only [tally, due, if_true]
    omega
  | dry most reading empty =>
    exact ⟨Nat.le_trans before (runs_conclude reading ▸ Nat.le_add_right _ _),
      tally_conclude reading ▸ after⟩
  | fails reading =>
    exact ⟨Nat.le_trans before (runs_conclude reading ▸ Nat.le_add_right _ _),
      tally_conclude reading ▸ after⟩
  | idles idle other => exact ⟨before, after⟩
  | goesOn reading aside => exact ⟨before, after⟩

private theorem Owes.run (owes : Owes ran listener) (steps : List SignalStep) :
    Owes ran (listener.run steps) := by
  induction steps generalizing listener with
  | nil => exact owes
  | cons step rest ih => exact ih (owes.later step)

/-- Nothing is owed any more once the pipe is empty and nobody is reading. -/
theorem Owes.paid (owes : Owes ran listener) (idle : listener.attention = .idle)
    (empty : listener.pipe.pending = 0) : ran < listener.runs := by
  have after := owes.after
  simpa [tally, due, idle, empty] using after

/-! ## What waits in the pipe -/

/-- A read that takes all there is. -/
def Empties (listener : SignalListener) (step : SignalStep) : Prop :=
  ∃ most, step = .read most ∧ listener.attention ≠ .idle ∧ listener.pipe.pending ≤ most + 1

/-- Something was delivered after the last read that emptied the pipe. -/
inductive Outstanding (start : SignalListener) : List SignalStep → Prop where
  | delivered (steps : List SignalStep) : Outstanding start (steps ++ [.delivery])
  | left {steps : List SignalStep} {step : SignalStep} (outstanding : Outstanding start steps)
      (short : ¬ (start.run steps).Empties step) : Outstanding start (steps ++ [step])

private theorem outstanding_concat {start : SignalListener} :
    Outstanding start (steps ++ [step]) ↔
      step = .delivery ∨ Outstanding start steps ∧ ¬ (start.run steps).Empties step := by
  constructor
  · intro outstanding
    generalize all : steps ++ [step] = history at outstanding
    cases outstanding with
    | delivered earlier => exact .inl (List.append_singleton_inj.1 all).2
    | left outstanding short =>
      obtain ⟨rfl, rfl⟩ := List.append_singleton_inj.1 all
      exact .inr ⟨outstanding, short⟩
  · rintro (rfl | ⟨outstanding, short⟩)
    · exact .delivered steps
    · exact .left outstanding short

private theorem room_step (listener : SignalListener) (step : SignalStep) :
    (listener.step step).pipe.room = listener.pipe.room := by
  have course := listener.step_course step
  generalize listener.step step = next at course ⊢
  cases course with
  | delivers => exact listener.pipe.room_deliver
  | _ => rfl

private theorem room_run (steps : List SignalStep) (listener : SignalListener) :
    (listener.run steps).pipe.room = listener.pipe.room := by
  induction steps generalizing listener with
  | nil => rfl
  | cons step rest ih => exact (ih _).trans (listener.room_step step)

/-- After a step something waits if it has just been delivered, or has waited and was not all
taken. -/
theorem pending_step (holds : 0 < listener.pipe.room) (step : SignalStep) :
    0 < (listener.step step).pipe.pending ↔
      step = .delivery ∨ 0 < listener.pipe.pending ∧ ¬ listener.Empties step := by
  have course := listener.step_course step
  generalize listener.step step = next at course ⊢
  cases course with
  | delivers => exact iff_of_true (listener.pipe.pending_deliver_pos holds) (.inl rfl)
  | wakes idle => simp [Empties]
  | takes most reading waiting =>
    constructor
    · intro left
      refine .inr ⟨waiting, ?_⟩
      rintro ⟨_, same, _, all⟩
      cases same
      exact Nat.not_lt.2 all (Nat.lt_of_sub_pos left)
    · rintro (delivered | ⟨_, short⟩)
      · cases delivered
      · exact Nat.sub_pos_of_lt (Nat.lt_of_not_le fun all =>
          short ⟨most, rfl, by rw [reading]; nofun, all⟩)
  | dry most reading empty => simp [conclude, empty]
  | fails reading => simp [Empties, conclude]
  | idles idle other => simp [Empties, idle, other]
  | goesOn reading aside => rcases aside with rfl | rfl <;> simp [Empties]

/-- **What waits is what was delivered since the pipe was emptied.** -/
theorem pending_iff_outstanding (holds : 0 < room) (steps : List SignalStep) :
    0 < ((fresh room).run steps).pipe.pending ↔ Outstanding (fresh room) steps := by
  induction steps using List.reverseRecOn with
  | nil =>
    refine iff_of_false (Nat.lt_irrefl 0) fun outstanding => ?_
    generalize none : ([] : List SignalStep) = history at outstanding
    cases outstanding <;> simp at none
  | append_singleton steps step ih =>
    have kept : 0 < ((fresh room).run steps).pipe.room := by rwa [room_run]
    rw [outstanding_concat, run_append]
    exact (pending_step kept step).trans (or_congr_right (and_congr_left' ih))

/-! ## Hearings -/

/-- How many bytes a step takes out of the pipe. -/
def taken (listener : SignalListener) : SignalStep → Nat
  | .read most => if listener.attention = .idle then 0 else min listener.pipe.pending (most + 1)
  | .delivery => 0
  | .notified => 0
  | .interrupted => 0
  | .failed => 0

/-- What is taken has waited, and waits no more. -/
theorem taken_step (other : step ≠ .delivery) :
    listener.taken step + (listener.step step).pipe.pending = listener.pipe.pending := by
  have course := listener.step_course step
  generalize listener.step step = next at course ⊢
  cases course with
  | delivers => exact absurd rfl other
  | wakes idle => exact Nat.zero_add _
  | takes most reading waiting =>
    simp only [taken, reading, SignalPipe.take, reduceCtorEq, if_false]
    omega
  | dry most reading empty => simp [taken, conclude, empty]
  | fails reading => exact Nat.zero_add _
  | idles idle other => cases step <;> simp [taken, idle]
  | goesOn reading aside => rcases aside with rfl | rfl <;> exact Nat.zero_add _

/-- A reading, from where it stands to where it ends, with what comes during it and the number of
bytes that it takes. -/
inductive Reading : SignalListener → List SignalStep → Nat → SignalListener → Prop where
  | ends {listener : SignalListener} {step : SignalStep} (busy : listener.attention ≠ .idle)
      (rests : (listener.step step).attention = .idle) :
      Reading listener [step] (listener.taken step) (listener.step step)
  | goesOn {listener ending : SignalListener} {step : SignalStep} {during : List SignalStep}
      {bytes : Nat} (busy : listener.attention ≠ .idle)
      (still : (listener.step step).attention ≠ .idle)
      (rest : Reading (listener.step step) during bytes ending) :
      Reading listener (step :: during) (listener.taken step + bytes) ending

/-- What a listener that is not reading does once it is told that there is input. -/
def Hearing (listener : SignalListener) (during : List SignalStep) (bytes : Nat)
    (ending : SignalListener) : Prop :=
  listener.attention = .idle ∧ Reading (listener.step .notified) during bytes ending

/-- The step that ends a reading takes nothing and does what is due. It found the pipe empty, or
failed. -/
theorem step_ends (busy : listener.attention ≠ .idle)
    (rests : (listener.step step).attention = .idle) :
    listener.taken step = 0 ∧ (listener.step step).runs = listener.runs + listener.due ∧
      (step ≠ .failed → (listener.step step).pipe.pending = 0) := by
  have course := listener.step_course step
  generalize listener.step step = next at course rests ⊢
  cases course with
  | delivers => exact absurd rests busy
  | wakes idle => exact absurd idle busy
  | takes most reading waiting => cases rests
  | dry most reading empty => exact ⟨by simp [taken, empty], runs_conclude reading, fun _ => empty⟩
  | fails reading => exact ⟨rfl, runs_conclude reading, fun fine => absurd rfl fine⟩
  | idles idle other => exact absurd idle busy
  | goesOn reading aside => exact absurd rests busy

/-- A step after which the reading goes on does not run anything. Bytes are due if any are taken. -/
theorem step_still (busy : listener.attention ≠ .idle)
    (still : (listener.step step).attention ≠ .idle) :
    (listener.step step).runs = listener.runs ∧
      (0 < (listener.step step).due ↔ 0 < listener.taken step + listener.due) := by
  have course := listener.step_course step
  generalize listener.step step = next at course still ⊢
  cases course with
  | delivers => exact ⟨rfl, by simp [due, taken]⟩
  | wakes idle => exact absurd idle busy
  | takes most reading waiting =>
    refine ⟨rfl, iff_of_true Nat.zero_lt_one ?_⟩
    simp only [taken, if_neg busy]
    omega
  | dry most reading empty => exact absurd rfl still
  | fails reading => exact absurd rfl still
  | idles idle other => exact absurd idle busy
  | goesOn reading aside => rcases aside with rfl | rfl <;> exact ⟨rfl, by simp [taken]⟩

/-- What a reading comes to. -/
structure Heard (listener : SignalListener) (during : List SignalStep) (bytes : Nat)
    (ending : SignalListener) : Prop where
  last : ending = listener.run during
  idle : ending.attention = .idle
  runs : ending.runs = listener.runs + if 0 < bytes + listener.due then 1 else 0
  empty : .failed ∉ during → ending.pipe.pending = 0

/-- **A reading that has found something, or finds something, ends with one run**, and no other
does. -/
theorem Reading.heard (reading : Reading listener during bytes ending) :
    Heard listener during bytes ending := by
  induction reading with
  | @ends listener step busy rests =>
    obtain ⟨none, runs, empty⟩ := step_ends busy rests
    refine ⟨rfl, rests, ?_, fun fine => empty fun same => fine (same ▸ List.mem_singleton_self _)⟩
    rw [runs, none, due]
    split <;> rfl
  | @goesOn listener ending step during bytes busy still rest ih =>
    obtain ⟨runs, found⟩ := step_still busy still
    refine ⟨ih.last, ih.idle, ?_, fun fine => ih.empty fun later => fine (.tail _ later)⟩
    rw [ih.runs, runs]
    congr 2
    exact propext (by omega)

/-- As long as a reading goes on, every read makes what waits less, and only a delivery makes it
more. -/
theorem pending_still (busy : listener.attention ≠ .idle)
    (still : (listener.step step).attention ≠ .idle) :
    (listener.step step).pipe.pending + (if step.isRead then 1 else 0) ≤
      listener.pipe.pending + if step = .delivery then 1 else 0 := by
  have course := listener.step_course step
  generalize listener.step step = next at course still ⊢
  cases course with
  | delivers => simpa [SignalStep.isRead] using listener.pipe.pending_deliver_le
  | wakes idle => exact absurd idle busy
  | takes most reading waiting =>
    simp only [SignalPipe.take, SignalStep.isRead, if_true]
    omega
  | dry most reading empty => exact absurd rfl still
  | fails reading => exact absurd rfl still
  | idles idle other => exact absurd idle busy
  | goesOn reading aside => rcases aside with rfl | rfl <;> exact Nat.le_refl _

/-- **A reading comes to its end** once there have been more reads than bytes that wait or are
delivered. -/
theorem reading_ends (busy : listener.attention ≠ .idle)
    (enough : listener.pipe.pending + steps.count .delivery < steps.countP SignalStep.isRead) :
    ∃ during rest bytes ending, steps = during ++ rest ∧ Reading listener during bytes ending := by
  induction steps generalizing listener with
  | nil => exact absurd enough (Nat.not_lt_zero _)
  | cons step rest ih =>
    by_cases rests : (listener.step step).attention = .idle
    · exact ⟨[step], rest, _, _, rfl, .ends busy rests⟩
    · have less := pending_still busy rests
      simp only [List.count_cons, List.countP_cons, beq_iff_eq] at enough
      obtain ⟨during, later, bytes, ending, rfl, reading⟩ := ih rests (by omega)
      exact ⟨step :: during, later, _, _, rfl, .goesOn busy rests reading⟩

/-- **A hearing runs the callback once if it takes any bytes**, and not at all if it takes none. -/
theorem Hearing.heard (hearing : listener.Hearing during bytes ending) :
    ending = listener.run (.notified :: during) ∧ ending.attention = .idle ∧
      ending.runs = listener.runs + (if 0 < bytes then 1 else 0) ∧
      (.failed ∉ during → ending.pipe.pending = 0) := by
  obtain ⟨idle, reading⟩ := hearing
  obtain ⟨last, rests, runs, empty⟩ := reading.heard
  refine ⟨last, rests, ?_, empty⟩
  simpa [step_notified idle, due] using runs

/-- Who is not reading runs nothing. -/
theorem runs_step (idle : listener.attention = .idle) (step : SignalStep) :
    (listener.step step).runs = listener.runs := by
  have course := listener.step_course step
  generalize listener.step step = next at course ⊢
  cases course with
  | dry most reading empty => exact absurd (idle.symm.trans reading) (by nofun)
  | fails reading => exact absurd (idle.symm.trans reading) (by nofun)
  | _ => rfl

/-- A reading in which no read fails pays what is owed. -/
theorem Owes.settled (owes : Owes ran listener) (fine : .failed ∉ during)
    (reading : listener.Reading during bytes ending ∨ listener.Hearing during bytes ending) :
    ran < ending.runs := by
  rcases reading with reading | hearing
  · obtain ⟨rfl, idle, _, empty⟩ := reading.heard
    exact (owes.run during).paid idle (empty fine)
  · obtain ⟨rfl, idle, _, empty⟩ := hearing.heard
    exact (owes.run (.notified :: during)).paid idle (empty fine)

/-- Who is not reading does not read. -/
theorem run_reads (idle : listener.attention = .idle) (most count : Nat) :
    listener.run (List.replicate count (.read most)) = listener := by
  induction count with
  | zero => rfl
  | succ count ih =>
    rw [List.replicate_succ]
    simpa only [run, List.foldl_cons, SignalListener.step, idle] using ih

/-- Nothing but reads of 64 bytes is a reading that takes all there is, if there are enough. -/
theorem reading_reads (busy : listener.attention ≠ .idle) {count : Nat}
    (enough : (listener.pipe.pending + 63) / 64 < count) :
    ∃ reads ≤ count, Reading listener (List.replicate reads (.read 63)) listener.pipe.pending
      (listener.run (List.replicate count (.read 63))) := by
  induction count generalizing listener with
  | zero => exact absurd enough (Nat.not_lt_zero _)
  | succ count ih =>
    have takes : listener.taken (.read 63) = min listener.pipe.pending 64 := if_neg busy
    have kept : listener.taken (.read 63) + (listener.step (.read 63)).pipe.pending =
        listener.pipe.pending := taken_step (by nofun)
    rw [List.replicate_succ]
    by_cases rests : (listener.step (.read 63)).attention = .idle
    · obtain ⟨none, _⟩ := step_ends busy rests
      refine ⟨1, Nat.succ_pos count, ?_⟩
      have rest : listener.run (.read 63 :: List.replicate count (.read 63)) =
          listener.step (.read 63) := run_reads rests 63 count
      have empty : listener.pipe.pending = listener.taken (.read 63) := by omega
      rw [rest, empty]
      exact .ends busy rests
    · have less : (listener.step (.read 63)).pipe.pending + 1 ≤ listener.pipe.pending :=
        pending_still busy rests
      obtain ⟨reads, few, reading⟩ := ih rests (by omega)
      refine ⟨reads + 1, Nat.succ_le_succ few, ?_⟩
      rw [List.replicate_succ]
      exact kept ▸ .goesOn busy rests reading

/-- **The loop hears as described**, and takes all that waits. -/
theorem hearing_hear (idle : listener.attention = .idle) :
    ∃ reads, listener.Hearing (List.replicate reads (.read 63)) listener.pipe.pending
      listener.hear := by
  have busy : (listener.step .notified).attention ≠ .idle := by
    rw [step_notified idle]
    nofun
  have enough : ((listener.step .notified).pipe.pending + 63) / 64 <
      listener.pipe.pending / 64 + 2 := by
    rw [step_notified idle]
    show (listener.pipe.pending + 63) / 64 < _
    omega
  obtain ⟨reads, _, reading⟩ := reading_reads busy enough
  rw [step_notified idle] at reading
  exact ⟨reads, idle, by simpa only [hear, run, step_notified idle] using reading⟩

open Trial in
/-- **On the stage, a listener that is told of input notes its signal** once if there is any, and
not if there is none. Of anything else it may be told without consequence. -/
theorem world_notifyRole {event : Event Role} {number : Int} (hears : event.body = .listener number)
    (notice : Notice) (outlook : Outlook Role Ticker) (stage : Trial.Stage) :
    (notifyRole notice event outlook stage).world =
      if notice = .readable then
        let drained := stage.touch event.source fun near => { near with unread := 0 }
        if 0 < ((stage.ends.get? event.source).getD {}).unread then
          drained.note (.signal number)
        else drained
      else stage := by
  unfold notifyRole
  rw [hears]
  by_cases readable : notice = .readable
  · simp only [readable, if_true]
    generalize ((stage.ends.get? event.source).getD {}).unread = unread
    let listener : SignalListener := { pipe := ⟨unread, unread⟩ }
    obtain ⟨reads, hearing⟩ : ∃ reads, listener.Hearing _ _ listener.hear := hearing_hear rfl
    obtain ⟨_, _, runs, _⟩ := hearing.heard
    rw [runs]
    cases unread <;> rfl
  · simp only [readable, if_false]

/-! ## Whatever comes, and whenever -/

/-- **Every delivery is heard, and no run is made up.** Whatever deliveries, notifications and reads
there were, in whatever order: something waits in the pipe exactly if something was delivered since
it was last emptied. A hearing runs the callback once if it took any bytes, and not at all if it
took none; it empties the pipe, unless a read fails; and between hearings nothing is run. So by the
end of a reading in which no read failed, whether the delivery came before it or during it, there
has been a run since the delivery. Where nothing comes in between, the loop's own way to hear is
such a hearing, which takes all that waits; and any hearing ends after as many reads as there are
bytes, and one more. There never were more runs than deliveries. -/
theorem delivery_is_heard_and_none_made_up (holds : 0 < room) (steps : List SignalStep) :
    let now := (fresh room).run steps
    (0 < now.pipe.pending ↔ Outstanding (fresh room) steps) ∧
    (∀ during bytes ending, now.Hearing during bytes ending →
      ending = now.run (.notified :: during) ∧ ending.attention = .idle ∧
        ending.runs = now.runs + (if 0 < bytes then 1 else 0) ∧
        (.failed ∉ during → ending.pipe.pending = 0)) ∧
    (now.attention = .idle → ∀ step, (now.step step).runs = now.runs) ∧
    (∀ before between, steps = before ++ .delivery :: between →
      ∀ during bytes ending, .failed ∉ during →
        now.Reading during bytes ending ∨ now.Hearing during bytes ending →
        ((fresh room).run before).runs < ending.runs) ∧
    (now.attention = .idle →
      ∃ reads, now.Hearing (List.replicate reads (.read 63)) now.pipe.pending now.hear) ∧
    (now.attention = .idle → ∀ onward : List SignalStep,
      now.pipe.pending + onward.count .delivery < onward.countP SignalStep.isRead →
      ∃ during rest bytes ending, onward = during ++ rest ∧ now.Hearing during bytes ending) ∧
    now.runs ≤ steps.count .delivery := by
  refine ⟨pending_iff_outstanding holds steps, fun during bytes ending => Hearing.heard,
    runs_step, ?_, hearing_hear, fun idle onward enough => ?_, ?_⟩
  · rintro before between rfl during bytes ending fine reading
    have room : 0 < ((fresh room).run before).pipe.room := by rwa [room_run]
    have owes := (owes_delivery room).run between
    rw [run_append] at reading
    exact owes.settled fine reading
  · have busy : ((fresh room).run steps |>.step .notified).attention ≠ .idle := by
      rw [step_notified idle]
      nofun
    have enough : (((fresh room).run steps).step .notified).pipe.pending + onward.count .delivery <
        onward.countP SignalStep.isRead := by rwa [step_notified idle]
    obtain ⟨during, rest, bytes, ending, rfl, reading⟩ := reading_ends busy enough
    exact ⟨during, rest, bytes, ending, rfl, idle, reading⟩
  · calc ((fresh room).run steps).runs
        ≤ ((fresh room).run steps).tally := Nat.le_add_right_of_le (Nat.le_add_right _ _)
      _ ≤ (fresh room).tally + steps.count .delivery := tally_run_le steps _
      _ = steps.count .delivery := Nat.zero_add _

/-- Three deliveries in a burst to a pipe with room for two, and a reading by single bytes that is
interrupted and during which one more is delivered. The listener has heard once before the last of
them and hears that one too. -/
theorem burst_is_heard_twice :
    let steps : List SignalStep :=
      [.delivery, .delivery, .delivery, .notified, .read 0, .delivery, .interrupted, .read 0,
        .read 0, .read 0, .delivery]
    let during : List SignalStep := [.interrupted, .read 63, .read 63]
    let now := (fresh 2).run steps
    0 < 2 ∧ now.pipe.pending = 1 ∧ now.runs = 1 ∧ Outstanding (fresh 2) steps ∧
      ∃ ending, now.Hearing during 1 ending ∧ now.runs < ending.runs ∧ ending.pipe.pending = 0 := by
  intro steps during now
  have room : 0 < 2 := by decide
  obtain ⟨readable, hearings, _, delivered, _⟩ := delivery_is_heard_and_none_made_up room steps
  have hearing : now.Hearing during 1 (now.run (.notified :: during)) :=
    ⟨rfl, .goesOn (by decide) (by decide)
      (.goesOn (by decide) (by decide) (.ends (by decide) (by decide)))⟩
  have later := delivered (steps.take 10) [] (by decide) during 1 _ (by decide) (.inr hearing)
  obtain ⟨_, _, _, empty⟩ := hearings during 1 _ hearing
  exact ⟨room, by decide, by decide, readable.1 (by decide), _, hearing, later,
    empty (by decide)⟩

end SignalListener

end EventLoop
