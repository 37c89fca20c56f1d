import EventLoop.Proofs.Loop.Beats

/-! How often a callback timer runs. A metronome is all that tells it when: whenever a pass finds
it due it strikes, and it is due again one interval later. A timer runs at each stroke until it
has said that it does not want to run again, or has run as often as it was wished for. The count
is made after a run, so that every timer runs once, also one that was to run no times at all. -/
namespace EventLoop

variable {B C W ι : Type}

/-! ## What a story tells -/

/-- What a callback said when it ran. -/
def Tick.answer? : Tick Unit → Option Bool
  | .ran _ again => some again
  | _ => none

/-- When a timer was set, and for when. -/
def Tick.start? : Tick Unit → Option (Nat × Nat)
  | .set _ now due => some (now, due)
  | _ => none

/-- What the clock read at a pass. -/
def Tick.reading? : Tick Unit → Option Nat
  | .pass now => some now
  | _ => none

/-- The answers of all runs in a story. -/
def answersIn (told : List (Tick Unit)) : List Bool := told.filterMap Tick.answer?

/-- When the timer of a story was set, each time for when. -/
def startsIn (told : List (Tick Unit)) : List (Nat × Nat) := told.filterMap Tick.start?

/-- The readings of the passes since the timer was set. -/
def passesSince : List (Tick Unit) → List Nat
  | [] => []
  | .set _ _ _ :: rest => rest.filterMap Tick.reading?
  | _ :: rest => passesSince rest

variable {told : List (Tick Unit)}

private theorem passesSince_append (started : startsIn told ≠ []) (tick : Tick Unit) :
    passesSince (told ++ [tick]) = passesSince told ++ tick.reading?.toList := by
  induction told with
  | nil => exact absurd rfl started
  | cons first rest ih =>
    cases first with
    | set _ now due =>
      simp only [List.cons_append, passesSince, List.filterMap_append]
      cases tick <;> rfl
    | asked _ wish => exact ih started
    | pass now => exact ih started
    | ran _ again => exact ih started

private theorem passesSince_start (unset : startsIn told = []) (now due : Nat) :
    passesSince (told ++ [.set () now due]) = [] := by
  induction told with
  | nil => rfl
  | cons first rest ih =>
    cases first with
    | set _ now due => cases unset
    | asked _ wish => exact ih unset
    | pass now => exact ih unset
    | ran _ again => exact ih unset

/-! ## Metronomes -/

/-- How often a metronome has struck, and when it is due next. -/
structure Metronome where
  strokes : Nat
  due : Nat
deriving DecidableEq, Repr

namespace Metronome

/-- A pass makes the metronome strike if it finds it due. -/
def hear (interval : Nat) (metronome : Metronome) (reading : Nat) : Metronome :=
  if metronome.due ≤ reading then ⟨metronome.strokes + 1, reading + interval⟩ else metronome

/-- The metronome after some passes. -/
def after (interval : Nat) (metronome : Metronome) (readings : List Nat) : Metronome :=
  readings.foldl (hear interval) metronome

private theorem strokes_le_hear (interval : Nat) (metronome : Metronome) (reading : Nat) :
    metronome.strokes ≤ (metronome.hear interval reading).strokes := by
  unfold hear
  split
  · exact Nat.le_succ _
  · exact Nat.le_refl _

/-- Among passes in order of time, a metronome strikes at least as often as there are passes
that lie an interval apart, the first of them when it is due or later. -/
theorem strokes_of_spaced {interval : Nat} {readings spaced : List Nat} (metronome : Metronome)
    (inOrder : readings.Pairwise (· ≤ ·)) (among : spaced.Sublist readings)
    (apart : spaced.Pairwise fun one next => one + interval ≤ next)
    (late : ∀ reading ∈ spaced, metronome.due ≤ reading) :
    metronome.strokes + spaced.length ≤ (metronome.after interval readings).strokes := by
  induction readings generalizing spaced metronome with
  | nil =>
    rw [List.sublist_nil.1 among]
    exact Nat.le_refl _
  | cons reading readings ih =>
    obtain ⟨first, inOrder⟩ := List.pairwise_cons.1 inOrder
    show _ ≤ ((metronome.hear interval reading).after interval readings).strokes
    unfold hear
    split
    · cases spaced with
      | nil =>
        have struck := ih ⟨metronome.strokes + 1, reading + interval⟩ inOrder
          (List.nil_sublist _) apart (List.forall_mem_nil _)
        exact Nat.le_of_succ_le struck
      | cons one later =>
        obtain ⟨behind, apart⟩ := List.pairwise_cons.1 apart
        have after : reading ≤ one := by
          rcases List.mem_cons.1 (among.mem List.mem_cons_self) with rfl | present
          · exact Nat.le_refl _
          · exact first one present
        have struck := ih ⟨metronome.strokes + 1, reading + interval⟩ inOrder among.tail apart
          fun next present =>
            Nat.le_trans (Nat.add_le_add_right after interval) (behind next present)
        simp only [List.tail_cons, List.length_cons] at struck ⊢
        omega
    · rename_i early
      refine ih metronome inOrder ?_ apart late
      rcases List.sublist_cons_iff.1 among with within | ⟨later, rfl, _⟩
      · exact within
      · exact absurd (late reading List.mem_cons_self) early

end Metronome

/-! ## What a story comes to -/

/-- A timer has been wished for and set, each once, and this is its metronome. -/
structure Begun (wish : Wish) (told : List (Tick Unit)) (metronome : Metronome) : Prop where
  wished : told.filterMap Tick.wish? = [wish]
  started : ∃ now, startsIn told = [(now, now + wish.delay)] ∧
    metronome = (⟨0, now + wish.delay⟩ : Metronome).after wish.interval (passesSince told)

/-- A timer has more runs to come: it was always willing, and has not run to the full. -/
structure Running (wish : Wish) (told : List (Tick Unit)) (interval : Nat) (left : Option Nat) :
    Prop where
  interval : interval = wish.interval
  left : left = wish.repeats.map (· - (answersIn told).length)
  willing : false ∉ answersIn told
  more : ∀ most ∈ wish.repeats, (answersIn told).length < max most 1

/-- A timer is over: it was unwilling the last time, or has run to the full. -/
structure Finished (wish : Wish) (told : List (Tick Unit)) (metronome : Metronome) : Prop where
  atMost : ∀ most ∈ wish.repeats, (answersIn told).length ≤ max most 1
  last : ∀ earlier later, answersIn told = earlier ++ false :: later → later = []
  full : false ∉ answersIn told → ∃ most ∈ wish.repeats, (answersIn told).length = max most 1 ∧
    (answersIn told).length ≤ metronome.strokes

/-- What the story has come to when the timer has come so far. -/
def Beat.Accounts (told : List (Tick Unit)) : Beat → Prop
  | .unasked => told.filterMap Tick.wish? = [] ∧ startsIn told = [] ∧ answersIn told = []
  | .asked wish => told.filterMap Tick.wish? = [wish] ∧ startsIn told = [] ∧ answersIn told = []
  | .set due interval left =>
    ∃ wish, Begun wish told ⟨(answersIn told).length, due⟩ ∧ Running wish told interval left
  | .called now interval left =>
    ∃ wish, Begun wish told ⟨(answersIn told).length + 1, now + interval⟩ ∧
      Running wish told interval left
  | .past => ∃ wish metronome, Begun wish told metronome ∧ Finished wish told metronome

variable {wish : Wish} {metronome : Metronome} {interval now : Nat} {left : Option Nat}

private theorem answersIn_append (told : List (Tick Unit)) (tick : Tick Unit) :
    answersIn (told ++ [tick]) = answersIn told ++ tick.answer?.toList := by
  unfold answersIn
  rw [List.filterMap_append]
  cases tick <;> rfl

private theorem answersIn_pass (told : List (Tick Unit)) (now : Nat) :
    answersIn (told ++ [.pass now]) = answersIn told :=
  (answersIn_append told _).trans (List.append_nil _)

private theorem Begun.starts (begun : Begun wish told metronome) : startsIn told ≠ [] := by
  obtain ⟨now, started, _⟩ := begun.started
  rw [started]
  exact List.cons_ne_nil _ _

/-- A pass or a run changes the metronome at most. -/
theorem Begun.append (begun : Begun wish told metronome) {tick : Tick Unit}
    (unwished : tick.wish? = none) (unset : tick.start? = none) :
    Begun wish (told ++ [tick]) (metronome.after wish.interval tick.reading?.toList) := by
  have some_start := begun.starts
  obtain ⟨wished, now, started, rfl⟩ := begun
  refine ⟨?_, now, ?_, ?_⟩
  · rw [List.filterMap_append, wished, List.filterMap_cons_none unwished]
    rfl
  · rw [startsIn, List.filterMap_append, List.filterMap_cons_none unset]
    exact (List.append_nil _).trans started
  · rw [passesSince_append some_start, Metronome.after, Metronome.after, Metronome.after,
      List.foldl_append]

private theorem Running.atMost (running : Running wish told interval left) :
    ∀ most ∈ wish.repeats, (answersIn told).length ≤ max most 1 := fun most limit =>
  Nat.le_of_lt (running.more most limit)

private theorem Running.last (running : Running wish told interval left) :
    ∀ earlier later, answersIn told = earlier ++ false :: later → later = [] := by
  intro earlier later cut
  refine absurd ?_ running.willing
  rw [cut]
  exact List.mem_append_right _ List.mem_cons_self

private theorem Running.passed (running : Running wish told interval left) (now : Nat) :
    Running wish (told ++ [.pass now]) interval left := by
  have same := answersIn_pass told now
  refine ⟨running.interval, ?_, ?_, ?_⟩
  · rw [same, running.left]
  · rw [same]
    exact running.willing
  · rw [same]
    exact running.more

/-- A run after which more are to come is one more of those that were wished for. -/
theorem Running.again (running : Running wish told interval left)
    (more : left.map (· - 1) ≠ some 0) :
    Running wish (told ++ [.ran () true]) interval (left.map (· - 1)) := by
  have grown : answersIn (told ++ [.ran () true]) = answersIn told ++ [true] :=
    answersIn_append told _
  rw [running.left] at more
  refine ⟨running.interval, ?_, ?_, ?_⟩
  · rw [grown, List.length_append, running.left, Option.map_map]
    rfl
  · rw [grown]
    simpa using running.willing
  · intro most wished
    rw [wished] at more
    have some_left : most - (answersIn told).length - 1 ≠ 0 := fun none =>
      more (congrArg some none)
    rw [grown, List.length_append, List.length_singleton]
    omega

/-- The last run comes when the count is full or the callback is unwilling. -/
theorem Running.ended (running : Running wish told interval left) {again : Bool}
    (last : again = false ∨ left.map (· - 1) = some 0)
    (struck : (answersIn told).length + 1 ≤ metronome.strokes) :
    Finished wish (told ++ [.ran () again]) metronome := by
  have grown : answersIn (told ++ [.ran () again]) = answersIn told ++ [again] :=
    answersIn_append told _
  have counted : (answersIn (told ++ [.ran () again])).length = (answersIn told).length + 1 := by
    rw [grown, List.length_append, List.length_singleton]
  refine ⟨?_, ?_, ?_⟩
  · intro most wished
    rw [counted]
    exact running.more most wished
  · intro earlier later cut
    rcases later.eq_nil_or_concat with rfl | ⟨rest, answer, rfl⟩
    · rfl
    · rw [grown, List.concat_eq_append, ← List.cons_append, ← List.append_assoc] at cut
      refine absurd ?_ running.willing
      rw [List.append_inj_left' cut rfl]
      exact List.mem_append_right _ List.mem_cons_self
  · intro willing
    rw [grown] at willing
    have said : again ≠ false := fun refused => willing (by simp [refused])
    have none_left := last.resolve_left said
    rw [running.left, Option.map_map] at none_left
    obtain ⟨most, wished, spent⟩ := Option.map_eq_some_iff.1 none_left
    have room := running.more most wished
    refine ⟨most, wished, ?_, counted ▸ struck⟩
    rw [counted]
    simp only [Function.comp_apply] at spent
    omega

private theorem Finished.passed (finished : Finished wish told metronome) (now : Nat) :
    Finished wish (told ++ [.pass now]) (metronome.hear wish.interval now) := by
  have same := answersIn_pass told now
  refine ⟨?_, ?_, ?_⟩
  · rw [same]
    exact finished.atMost
  · rw [same]
    exact finished.last
  · rw [same]
    intro willing
    obtain ⟨most, wished, full, struck⟩ := finished.full willing
    exact ⟨most, wished, full,
      Nat.le_trans struck (Metronome.strokes_le_hear wish.interval metronome now)⟩

/-- **A story comes to what the timer has come to.** -/
theorem Story.accounts {beat : Beat} (story : Story told beat) : beat.Accounts told := by
  induction story with
  | begins => exact ⟨rfl, rfl, rfl⟩
  | @asked told story wish ih =>
    obtain ⟨wished, unset, idle⟩ := ih
    refine ⟨?_, ?_, ?_⟩
    · rw [List.filterMap_append, wished]
      rfl
    · rw [startsIn, List.filterMap_append]
      exact (List.append_nil _).trans unset
    · rw [answersIn_append, idle]
      rfl
  | @set told wish story now ih =>
    obtain ⟨wished, unset, idle⟩ := ih
    have still : answersIn (told ++ [.set () now (now + wish.delay)]) = [] := by
      rw [answersIn_append, idle]
      rfl
    refine ⟨wish, ⟨?_, now, ?_, ?_⟩, rfl, ?_, ?_, ?_⟩
    · rw [List.filterMap_append, wished]
      rfl
    · rw [startsIn, List.filterMap_append]
      exact congrArg (· ++ _) unset
    · rw [still, passesSince_start unset]
      rfl
    · rw [still]
      simp
    · rw [still]
      exact List.not_mem_nil
    · rw [still]
      intro most wished
      exact Nat.lt_of_lt_of_le Nat.zero_lt_one (Nat.le_max_right _ _)
  | @passedBy told beat story now early ih =>
    have same_wishes : (told ++ [Tick.pass now]).filterMap Tick.wish? = told.filterMap Tick.wish? :=
      List.filterMap_append.trans (List.append_nil _)
    have same_starts : startsIn (told ++ [.pass now]) = startsIn told :=
      List.filterMap_append.trans (List.append_nil _)
    have same_answers := answersIn_pass told now
    cases beat with
    | unasked => exact ⟨same_wishes.trans ih.1, same_starts.trans ih.2.1,
        same_answers.trans ih.2.2⟩
    | asked wish => exact ⟨same_wishes.trans ih.1, same_starts.trans ih.2.1,
        same_answers.trans ih.2.2⟩
    | set due interval left =>
      obtain ⟨wish, begun, running⟩ := ih
      refine ⟨wish, ?_, running.passed now⟩
      rw [same_answers]
      have silent : (⟨(answersIn told).length, due⟩ : Metronome).hear wish.interval now =
          ⟨(answersIn told).length, due⟩ := if_neg (Nat.not_le.2 (of_decide_eq_true early))
      exact silent ▸ begun.append rfl rfl
    | called reading interval left => cases early
    | past =>
      obtain ⟨wish, metronome, begun, finished⟩ := ih
      exact ⟨wish, _, begun.append rfl rfl, finished.passed now⟩
  | @called told due interval left story now come ih =>
    obtain ⟨wish, begun, running⟩ := ih
    refine ⟨wish, ?_, running.passed now⟩
    rw [answersIn_pass]
    have strikes : (⟨(answersIn told).length, due⟩ : Metronome).hear wish.interval now =
        ⟨(answersIn told).length + 1, now + interval⟩ := by
      rw [running.interval]
      exact if_pos come
    exact strikes ▸ begun.append rfl rfl
  | @again told now interval left story more ih =>
    obtain ⟨wish, begun, running⟩ := ih
    refine ⟨wish, ?_, running.again more⟩
    rw [answersIn_append, List.length_append]
    exact begun.append rfl rfl
  | @ended told now interval left again story last ih =>
    obtain ⟨wish, begun, running⟩ := ih
    exact ⟨wish, _, begun.append rfl rfl, running.ended last (Nat.le_refl _)⟩

/-! ## Timers -/

/-- How many runs come of so many strokes, if the callback is always willing. -/
def Wish.runs (wish : Wish) (strokes : Nat) : Nat :=
  match wish.repeats with
  | none => strokes
  | some most => min (max most 1) strokes

/-- How a timer that was set when the clock read `now` stands between two turns. If it was always
willing it has run at each stroke of its metronome, up to the count. As long as it is willing and
the count is not full it stands on the agenda, once and for the metronome's next stroke, and after
that it does not. The count is full as soon as that many passes have come which lie an interval
apart. -/
structure OnTime [DecidableEq ι] (name : C → ι) (timer : ι) (wish : Wish) (now : Nat)
    (told : List (Tick Unit)) (metronome : Metronome) (site : Site B C W) : Prop where
  measured : metronome =
    (⟨0, now + wish.delay⟩ : Metronome).after wish.interval (passesSince told)
  exact : false ∉ answersIn told → (answersIn told).length = wish.runs metronome.strokes
  stands : false ∉ answersIn told → (∀ most ∈ wish.repeats, (answersIn told).length < max most 1) →
    settingsIn name timer site.loop.agenda.entries =
      [(metronome.due, wish.interval, wish.repeats.map (· - (answersIn told).length))]
  gone : (false ∈ answersIn told ∨
      ∃ most ∈ wish.repeats, (answersIn told).length = max most 1) →
    settingsIn name timer site.loop.agenda.entries = []
  enough : false ∉ answersIn told → ∀ most ∈ wish.repeats, ∀ spaced : List Nat,
    (passesSince told).Pairwise (· ≤ ·) → spaced.Sublist (passesSince told) →
    (spaced.Pairwise fun one next => one + wish.interval ≤ next) →
    (∀ reading ∈ spaced, now + wish.delay ≤ reading) → max most 1 ≤ spaced.length →
    (answersIn told).length = max most 1

section Timers

variable [DecidableEq ι] {conduct : Conduct B C W} {name : C → ι} {timer : ι}
  {start site : Site B C W} {ticks : List (Tick C)}

/-- Enough passes make for enough strokes, and so for enough runs. -/
theorem enough_passes (exact : (answersIn told).length = wish.runs
      ((⟨0, now + wish.delay⟩ : Metronome).after wish.interval (passesSince told)).strokes)
    {most : Nat} (limited : most ∈ wish.repeats) {spaced : List Nat}
    (inOrder : (passesSince told).Pairwise (· ≤ ·)) (among : spaced.Sublist (passesSince told))
    (apart : spaced.Pairwise fun one next => one + wish.interval ≤ next)
    (late : ∀ reading ∈ spaced, now + wish.delay ≤ reading)
    (enough : max most 1 ≤ spaced.length) : (answersIn told).length = max most 1 := by
  have struck := Metronome.strokes_of_spaced ⟨0, now + wish.delay⟩ inOrder among apart late
  have limit : wish.repeats = some most := limited
  rw [exact, Wish.runs, limit]
  simp only [Nat.zero_add] at struck
  exact Nat.min_eq_left (Nat.le_trans enough struck)

private theorem Running.onTime {due : Nat} (running : Running wish told interval left)
    (begun : Begun wish told ⟨(answersIn told).length, due⟩)
    (stands : settingsIn name timer site.loop.agenda.entries = [(due, interval, left)]) :
    ∃ now, startsIn told = [(now, now + wish.delay)] ∧
      OnTime name timer wish now told ⟨(answersIn told).length, due⟩ site := by
  obtain ⟨_, now, started, measured⟩ := begun
  have exact : (answersIn told).length = wish.runs (answersIn told).length := by
    unfold Wish.runs
    split
    · rfl
    · rename_i most limit
      exact (Nat.min_eq_right (Nat.le_of_lt (running.more most limit))).symm
  refine ⟨now, started, measured, fun _ => exact, fun _ _ => ?_, fun ended => ?_, ?_⟩
  · rw [stands, ← running.interval, ← running.left]
  · rcases ended with refused | ⟨most, limit, full⟩
    · exact absurd refused running.willing
    · exact absurd full (Nat.ne_of_lt (running.more most limit))
  · intro _ most limited spaced inOrder among apart late enough
    have struck := congrArg Metronome.strokes measured
    exact enough_passes (exact.trans (congrArg wish.runs struck)) limited inOrder among apart late
      enough

private theorem Finished.onTime (finished : Finished wish told metronome)
    (begun : Begun wish told metronome)
    (gone : settingsIn name timer site.loop.agenda.entries = []) :
    ∃ now, startsIn told = [(now, now + wish.delay)] ∧
      OnTime name timer wish now told metronome site := by
  obtain ⟨_, now, started, measured⟩ := begun
  have exact : false ∉ answersIn told →
      (answersIn told).length = wish.runs metronome.strokes := by
    intro willing
    obtain ⟨most, limit, full, struck⟩ := finished.full willing
    have limited : wish.repeats = some most := limit
    rw [Wish.runs, limited]
    exact full.trans (Nat.min_eq_left (full ▸ struck)).symm
  refine ⟨now, started, measured, exact, fun willing more => ?_, fun _ => gone, ?_⟩
  · obtain ⟨most, limit, full, _⟩ := finished.full willing
    exact absurd full (Nat.ne_of_lt (more most limit))
  · intro willing most limited spaced inOrder among apart late enough
    have struck := congrArg Metronome.strokes measured
    exact enough_passes ((exact willing).trans (congrArg wish.runs struck)) limited inOrder among
      apart late enough

/-- **A timer runs at each stroke of its metronome.** A timer that is asked for once never runs
more often than it was wished for, or than once; it does not run again after a run that was to be
the last. It is set as soon as the inbox has been read, and between any two turns it has kept
time. -/
theorem timers_run_at_each_stroke (recalls : conduct.Recalls name)
    (fresh : start.Shows name timer .unasked) (vigil : Site.Vigil conduct start ticks site)
    (once : (storyOf name timer ticks).filterMap Tick.wish? = [wish]) :
    (∀ most ∈ wish.repeats, (answersIn (storyOf name timer ticks)).length ≤ max most 1) ∧
    (∀ earlier later, answersIn (storyOf name timer ticks) = earlier ++ false :: later →
      later = []) ∧
    (site.loop.inbox = [] → startsIn (storyOf name timer ticks) ≠ []) ∧
    (startsIn (storyOf name timer ticks) = [] → answersIn (storyOf name timer ticks) = []) ∧
    (startsIn (storyOf name timer ticks) ≠ [] → site.stage = .resting →
      ∃ now metronome, startsIn (storyOf name timer ticks) = [(now, now + wish.delay)] ∧
        OnTime name timer wish now (storyOf name timer ticks) metronome site) := by
  have few : ((storyOf name timer ticks).filterMap Tick.wish?).length ≤ 1 := by
    rw [once]
    exact Nat.le_refl _
  obtain ⟨beat, story, shows⟩ := vigil.shown recalls fresh few
  have accounts := story.accounts
  generalize storyOf name timer ticks = told at once accounts ⊢
  have only {other : Wish} {metronome : Metronome} (begun : Begun other told metronome) :
      other = wish := List.singleton_inj.1 (begun.wished.symm.trans once)
  cases beat with
  | unasked => exact absurd (accounts.1.symm.trans once) (List.cons_ne_nil _ _).symm
  | asked wish =>
    obtain ⟨_, unset, idle⟩ := accounts
    have waiting : site.loop.inbox ≠ [] := fun empty => by
      have inbox := shows.inbox
      rw [empty] at inbox
      cases inbox
    refine ⟨?_, ?_, fun empty => absurd empty waiting, fun _ => idle, fun set => absurd unset set⟩
    · rw [idle]
      exact fun _ _ => Nat.zero_le _
    · rw [idle]
      exact fun earlier later cut => absurd cut (by simp)
  | set due interval left =>
    obtain ⟨other, begun, running⟩ := accounts
    obtain rfl := only begun
    exact ⟨running.atMost, running.last, fun _ => begun.starts,
      fun unset => absurd unset begun.starts,
      fun _ _ => (running.onTime begun shows.agenda).imp fun _ kept => ⟨_, kept⟩⟩
  | called now interval left =>
    obtain ⟨other, begun, running⟩ := accounts
    obtain rfl := only begun
    refine ⟨running.atMost, running.last, fun _ => begun.starts,
      fun unset => absurd unset begun.starts, fun _ resting => ?_⟩
    have calls := shows.calls
    rw [resting] at calls
    cases calls
  | past =>
    obtain ⟨other, metronome, begun, finished⟩ := accounts
    obtain rfl := only begun
    exact ⟨finished.atMost, finished.last, fun _ => begun.starts,
      fun unset => absurd unset begun.starts,
      fun _ _ => (finished.onTime begun shows.agenda).imp fun _ kept => ⟨_, kept⟩⟩

end Timers

section Ticking

/-- A world that is nothing but a clock, one later at each reading, with callbacks that always
want to run again. -/
def Conduct.ticking : Conduct Unit Unit Nat where
  call _ _ world := (none, world)
  notify _ _ _ world := ⟨(), world, [], []⟩
  fire callback _ world := ⟨true, callback, world, []⟩
  level _ _ := {}
  clock world := (world, world + 1)
  wait _ _ world := world
  unresolved _ world := world
  destroy _ world := world

/-- A timer for two runs has made both after two turns, and is gone. -/
theorem timer_for_two_runs :
    ∃ ticks site, Site.Vigil .ticking ⟨{ world := 0 }, .resting⟩ ticks site ∧
      site.stage = .resting ∧ (answersIn (storyOf id () ticks)).length = 2 ∧
      settingsIn id () site.loop.agenda.entries = [] := by
  have asked : Site.Vigil .ticking ⟨{ world := 0 }, .resting⟩ _ _ :=
    Site.Vigil.start.order (.change (.timer () 1 true (some 2)))
  have taken : Site.Vigil .ticking ⟨{ world := 0 }, .resting⟩ _ _ :=
    (asked.step (.begin _)).step (.take rfl)
  have polled : Site.Vigil .ticking ⟨{ world := 0 }, .resting⟩ _ _ :=
    (taken.step (.poll rfl false none [] [])).step (.handOver _)
  have served : Site.Vigil .ticking ⟨{ world := 0 }, .resting⟩ _ _ :=
    (polled.step (.ring _)).step (.serve _ _ _ _)
  have rested : Site.Vigil .ticking ⟨{ world := 0 }, .resting⟩ _ _ :=
    (served.step (.silence _ _)).step (.rest _)
  have polledAgain : Site.Vigil .ticking ⟨{ world := 0 }, .resting⟩ _ _ :=
    ((rested.step (.begin _)).step (.poll rfl false none [] [])).step (.handOver _)
  have servedAgain : Site.Vigil .ticking ⟨{ world := 0 }, .resting⟩ _ _ :=
    (polledAgain.step (.ring _)).step (.serve _ _ _ _)
  have done : Site.Vigil .ticking ⟨{ world := 0 }, .resting⟩ _ _ :=
    (servedAgain.step (.silence _ _)).step (.rest _)
  have fresh : (⟨{ world := 0 }, .resting⟩ : Site Unit Unit Nat).Shows id () .unasked :=
    ⟨rfl, rfl, rfl, rfl, rfl⟩
  have recalls : Conduct.ticking.Recalls id := fun _ _ _ => rfl
  obtain ⟨_, _, _, _, kept⟩ := timers_run_at_each_stroke recalls fresh done rfl
  obtain ⟨now, metronome, started, onTime⟩ := kept (by decide) rfl
  have first : [(0, 1)] = [(now, now + 1)] := started
  obtain ⟨rfl, _⟩ := Prod.mk.inj (List.singleton_inj.1 first)
  have full := onTime.enough (by decide) 2 rfl [2, 4] (by decide) (by decide) (by decide)
    (by decide) (by decide)
  exact ⟨_, _, done, rfl, full, onTime.gone (.inr ⟨2, rfl, full⟩)⟩

/-- A timer that is to run no times at all runs once. -/
theorem timer_for_no_runs_runs_once :
    ∃ ticks site, Site.Vigil .ticking ⟨{ world := 0 }, .resting⟩ ticks site ∧
      (storyOf id () ticks).filterMap Tick.wish? = [⟨0, false, some 0⟩] ∧
      answersIn (storyOf id () ticks) = [true] := by
  have asked : Site.Vigil .ticking ⟨{ world := 0 }, .resting⟩ _ _ :=
    Site.Vigil.start.order (.change (.timer () 0 false (some 0)))
  have taken : Site.Vigil .ticking ⟨{ world := 0 }, .resting⟩ _ _ :=
    (asked.step (.begin _)).step (.take rfl)
  have polled : Site.Vigil .ticking ⟨{ world := 0 }, .resting⟩ _ _ :=
    (taken.step (.poll rfl false none [] [])).step (.handOver _)
  have served : Site.Vigil .ticking ⟨{ world := 0 }, .resting⟩ _ _ :=
    (polled.step (.ring _)).step (.serve _ _ _ _)
  exact ⟨_, _, served, rfl, rfl⟩

end Ticking

end EventLoop
