import EventLoop.Proofs.Dispatch.Crew
import EventLoop.Proofs.Dispatch.Custody

/-! Lanes as a sink of messages. A task is put into a queue with its number, a worker that takes it
begins it and performs it before it takes the next, and a task that comes when its worker has left
is destroyed. Every task that a worker has is in one place only, its queue or its hands, and that
is what makes lanes a sink that deals properly with its tasks. -/
namespace EventLoop

variable {M W : Type}

/-- The workers of a `ThreadPool`, and who has which task. -/
structure Staff (M W : Type) where
  lanes : Lanes (Nat × Errand M)
  custody : Custody M W

namespace Staff

/-- Queues a task for its worker, or destroys it if the worker has left. -/
def sink (trade : Trade M W) : Sink M (Staff M W) where
  submit group task staff :=
    let number := staff.custody.charges.length
    let offered := staff.custody.offer task
    match staff.lanes.submit group (number, task) with
    | (true, lanes) => (.ok (), ⟨lanes, offered.enter number .waiting [.taken]⟩)
    | (false, lanes) => (.error .sinkClosed, ⟨lanes, offered.refuse trade number task⟩)

/-- What a worker's step is to the task. -/
def attend (trade : Trade M W) (custody : Custody M W) : WorkStep (Nat × Errand M) → Custody M W
  | .began job => custody.enter job.1 .running [.begun]
  | .ended job => custody.finish trade job.1 job.2
  | .left => custody

/-- Lets one worker take a step, if there is anything for it to do. -/
def work (trade : Trade M W) (worker : Nat) (staff : Staff M W) : Staff M W :=
  match staff.lanes.step worker with
  | some (done, lanes) => ⟨lanes, attend trade staff.custody done⟩
  | none => staff

/-- Workers take steps, and may be told to leave. -/
inductive GoesOn (trade : Trade M W) (staff : Staff M W) : Staff M W → Prop where
  | work (worker : Nat) : GoesOn trade staff (staff.work trade worker)
  | close : GoesOn trade staff { staff with lanes := staff.lanes.close }

end Staff

/-! ## Where a task is -/

/-- A task that a parcel holds, with its number and as far as it has come. -/
def Parcel.post? : Parcel (Nat × Errand M) → Option (Nat × Charge M)
  | .task job => some (job.1, ⟨job.2, .waiting⟩)
  | .leave => none

/-- The tasks that a worker has, with their numbers and as far as they have come. -/
def Worker.posts (worker : Worker (Nat × Errand M)) : List (Nat × Charge M) :=
  worker.running.toList.map (fun job => (job.1, ⟨job.2, .running⟩)) ++
    worker.queue.filterMap Parcel.post?

/-- What a step of a worker does to the tasks that it has. -/
theorem Worker.step_posts {worker after : Worker (Nat × Errand M)}
    {done : WorkStep (Nat × Errand M)} (steps : worker.step = some (done, after)) :
    match done with
    | .began job => ∃ rest, worker.posts = (job.1, ⟨job.2, .waiting⟩) :: rest ∧
        after.posts = (job.1, ⟨job.2, .running⟩) :: rest
    | .ended job => worker.posts = (job.1, ⟨job.2, .running⟩) :: after.posts
    | .left => after.posts = worker.posts := by
  obtain ⟨queue, running, present⟩ := worker
  unfold Worker.step at steps
  split at steps
  · split at steps
    · next runs =>
      cases steps
      cases runs
      rfl
    · next runs queued =>
      cases steps
      cases runs
      cases queued
      exact ⟨_, rfl, rfl⟩
    · next runs queued =>
      cases steps
      cases runs
      cases queued
      rfl
    · cases steps
  · cases steps

namespace Custody

variable {custody : Custody M W} {posts front back : List (Nat × Charge M)} {number : Nat}
  {charge : Charge M}

/-- The tasks in these places are as far as the places say, and none is in two of them. -/
structure Posted (posts : List (Nat × Charge M)) (custody : Custody M W) : Prop where
  distinct : (posts.map Prod.fst).Nodup
  found : ∀ post ∈ posts, custody.charges[post.1]? = some post.2

private theorem Posted.perm {other : List (Nat × Charge M)} (posted : custody.Posted posts)
    (same : posts.Perm other) : custody.Posted other :=
  ⟨(same.map Prod.fst).nodup_iff.1 posted.distinct, fun post inside =>
    posted.found post (same.mem_iff.2 inside)⟩

private theorem Posted.tail {post : Nat × Charge M} (posted : custody.Posted (post :: posts)) :
    custody.Posted posts :=
  ⟨(List.nodup_cons.1 posted.distinct).2, fun _ inside => posted.found _ (.tail _ inside)⟩

/-- A task that is in none of these places does not matter to them. -/
theorem Posted.enter (posted : custody.Posted posts) (elsewhere : number ∉ posts.map Prod.fst)
    (standby : Standby) (happenings : List (Happening M)) :
    (custody.enter number standby happenings).Posted posts := by
  refine ⟨posted.distinct, fun post inside => ?_⟩
  have apart : number ≠ post.1 := fun same => elsewhere (same ▸ List.mem_map_of_mem inside)
  rw [charge_enter_other apart]
  exact posted.found post inside

/-- One task gets further. -/
theorem Posted.further (posted : custody.Posted ((number, charge) :: posts)) (standby : Standby)
    (happenings : List (Happening M)) :
    (custody.enter number standby happenings).Posted
      ((number, { charge with standby }) :: posts) := by
  obtain ⟨elsewhere, _⟩ := List.nodup_cons.1 posted.distinct
  refine ⟨posted.distinct, List.forall_mem_cons.2 ⟨?_, ?_⟩⟩
  · exact charge_enter_own (posted.found _ (.head _)) standby happenings
  · exact (posted.tail.enter elsewhere standby happenings).found

/-- Whoever is done with a task has it no more. -/
theorem Posted.finish (trade : Trade M W)
    (posted : custody.Posted ((number, charge) :: posts)) (task : Errand M) :
    (custody.finish trade number task).Posted posts := by
  obtain ⟨elsewhere, _⟩ := List.nodup_cons.1 posted.distinct
  have aside (world : W) : ({ custody with world } : Custody M W).Posted posts :=
    ⟨posted.tail.distinct, posted.tail.found⟩
  exact (aside _).enter elsewhere .done _

private theorem Posted.refuse (trade : Trade M W)
    (posted : custody.Posted ((number, charge) :: posts)) (task : Errand M) :
    (custody.refuse trade number task).Posted posts := by
  obtain ⟨elsewhere, _⟩ := List.nodup_cons.1 posted.distinct
  have aside (world : W) : ({ custody with world } : Custody M W).Posted posts :=
    ⟨posted.tail.distinct, posted.tail.found⟩
  exact (aside _).enter elsewhere .refused _

/-- A newcomer gets a number that nobody has. -/
theorem Posted.offer (posted : custody.Posted posts) (task : Errand M) :
    (custody.offer task).Posted ((custody.charges.length, ⟨task, .offered⟩) :: posts) := by
  have bound (post : Nat × Charge M) (inside : post ∈ posts) :
      post.1 < custody.charges.length :=
    (List.getElem?_eq_some_iff.1 (posted.found post inside)).1
  refine ⟨List.nodup_cons.2 ⟨fun known => ?_, posted.distinct⟩,
    List.forall_mem_cons.2 ⟨?_, fun post inside => ?_⟩⟩
  · obtain ⟨post, inside, same⟩ := List.mem_map.1 known
    exact Nat.lt_irrefl _ (same ▸ bound post inside)
  · exact List.getElem?_concat_length
  · exact (List.getElem?_append_left (bound post inside)).trans (posted.found post inside)

end Custody

/-! ## Lanes deal properly with their tasks -/

namespace Staff

variable {trade : Trade M W} {staff : Staff M W}

/-- The tasks that the workers have are as far as it says. -/
def IsFit (staff : Staff M W) : Prop :=
  staff.custody.Posted (staff.lanes.crew.flatMap Worker.posts)

/-- Workers that have nothing to do yet. -/
theorem fit_start (workers : Nat) (world : W) :
    ({ lanes := Lanes.start workers, custody := { world } } : Staff M W).IsFit := by
  have idle : (Lanes.start workers).crew.flatMap Worker.posts = ([] : List (Nat × Charge M)) := by
    rw [List.flatMap_eq_nil_iff]
    intro member inside
    rw [List.eq_of_mem_replicate inside]
    rfl
  unfold IsFit
  rw [idle]
  exact ⟨.nil, fun _ inside => nomatch inside⟩

/-- What one worker has, and what the others have. -/
theorem posts_apart {crew : List (Worker (Nat × Errand M))} {worker : Nat}
    {member : Worker (Nat × Errand M)} (there : crew[worker]? = some member) :
    ∃ others, (crew.flatMap Worker.posts).Perm (member.posts ++ others) ∧
      ∀ change : Worker (Nat × Errand M) → Worker (Nat × Errand M),
        ((crew.modify worker change).flatMap Worker.posts).Perm
          ((change member).posts ++ others) := by
  obtain ⟨within, rfl⟩ := List.getElem?_eq_some_iff.1 there
  have apart (change : Worker (Nat × Errand M) → Worker (Nat × Errand M)) :
      ((crew.modify worker change).flatMap Worker.posts).Perm
        ((change crew[worker]).posts ++ ((crew.take worker).flatMap Worker.posts ++
          (crew.drop (worker + 1)).flatMap Worker.posts)) := by
    rw [List.modify_eq_take_cons_drop within, List.flatMap_append, List.flatMap_cons]
    exact List.perm_append_comm_assoc _ _ _
  refine ⟨_, ?_, apart⟩
  have same := apart id
  rwa [List.modify_id] at same

/-- A parcel goes behind what a worker has. -/
theorem posts_give (parcel : Parcel (Nat × Errand M)) (member : Worker (Nat × Errand M)) :
    (member.give parcel).posts = member.posts ++ (Parcel.post? parcel).toList := by
  cases parcel <;> simp [Worker.posts, Worker.give, Parcel.post?]

private theorem close_posts (lanes : Lanes (Nat × Errand M)) :
    lanes.close.crew.flatMap Worker.posts = lanes.crew.flatMap Worker.posts := by
  simp [Lanes.close, List.flatMap_map, posts_give, Parcel.post?]

/-- A task goes to one of the workers, or to nobody. -/
theorem submit_cases (lanes : Lanes (Nat × Errand M)) (group : UInt64) (job : Nat × Errand M) :
    (∃ member, lanes.crew[lanes.workerOf group]? = some member ∧
      lanes.submit group job =
        (true, lanes.modify (lanes.workerOf group) (Worker.give (.task job)))) ∨
    lanes.submit group job = (false, lanes) := by
  unfold Lanes.submit
  split
  · next member there =>
    split
    · exact .inl ⟨member, there, rfl⟩
    · exact .inr rfl
  · exact .inr rfl

private theorem work_steps (fit : staff.IsFit) (worker : Nat) :
    (staff.work trade worker).IsFit ∧
      Custody.Steps trade staff.custody (staff.work trade worker).custody := by
  unfold work
  split
  · next done lanes steps =>
    obtain ⟨member, after, there, step, rfl⟩ := Lanes.step_cases steps
    obtain ⟨others, before, later⟩ := posts_apart there
    have posted := fit.perm before
    have moves := Worker.step_posts step
    cases done with
    | began job =>
      obtain ⟨rest, had, has⟩ := moves
      rw [had] at posted
      refine ⟨Custody.Posted.perm ?_ (later fun _ => after).symm,
        .one (.begin (posted.found _ (.head _)))⟩
      rw [has]
      exact posted.further .running [.begun]
    | ended job =>
      have had : member.posts = _ := moves
      rw [had] at posted
      refine ⟨Custody.Posted.perm ?_ (later fun _ => after).symm,
        .one (.finish (posted.found _ (.head _)))⟩
      exact posted.finish trade job.2
    | left =>
      refine ⟨Custody.Posted.perm ?_ (later fun _ => after).symm, .refl⟩
      have has : after.posts = member.posts := moves
      rw [has]
      exact posted
  · exact ⟨fit, .refl⟩

private theorem submit_steps (fit : staff.IsFit) (group : UInt64) (task : Errand M) :
    let answered := (sink trade).submit group task staff
    answered.2.IsFit ∧
      Custody.Steps trade (staff.custody.offer task) answered.2.custody ∧
      answered.2.custody.verdict staff.custody.charges.length = some answered.1.isOk := by
  have offered := Custody.Posted.offer fit task
  have new := offered.found _ (.head _)
  rcases submit_cases staff.lanes group (staff.custody.charges.length, task) with
    ⟨member, there, taken⟩ | refused
  · obtain ⟨others, before, later⟩ := posts_apart there
    have posted := offered.further .waiting [.taken]
    simp only [sink, taken]
    refine ⟨posted.perm ?_, .one (.take new), ?_⟩
    · refine List.Perm.trans ?_ (later _).symm
      rw [posts_give]
      exact ((before.cons _).trans (List.perm_middle.symm.trans (by simp [Parcel.post?])))
    · rw [Custody.verdict, Custody.charge_enter_own new]
      rfl
  · simp only [sink, refused]
    refine ⟨offered.refuse trade task, .one (.refuse new), ?_⟩
    rw [Custody.verdict, Custody.charge_refuse_own new]
    rfl

/-- **Lanes deal properly with their tasks.** -/
theorem serves (trade : Trade M W) :
    (sink trade).Serves trade (GoesOn trade) Staff.custody IsFit where
  keeps group task staff fit := (submit_steps fit group task).1
  submit group task staff fit := (submit_steps fit group task).2.1
  answer group task staff fit := (submit_steps fit group task).2.2
  onwards staff late fit goes := by
    cases goes with
    | work worker => exact work_steps fit worker
    | close =>
      refine ⟨?_, .refl⟩
      unfold IsFit
      rw [close_posts]
      exact fit

end Staff

end EventLoop
