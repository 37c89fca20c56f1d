import EventLoop.Proofs.Loop.Owners
import EventLoop.Proofs.Server.Passages

/-! Requests mean whoever owns their handle when they are applied, and that is still the one who
asked. A loop applies what it has been asked for in order, and whoever is told of something has
not been asked to go before; so all that is ahead of its requests leaves it where it is. -/
namespace EventLoop

variable {M D : Type}

/-! ## What is asked for -/

/-- A change that takes away whoever owns a handle. -/
def Change.Removes {B C : Type} (handle : Handle) : Change B C → Prop
  | .remove target => target.handle = handle
  | _ => False

/-- A list of changes that requests have made, with the handles that it silences. -/
def Changes.Made {B C : Type} (changes : Changes B C) : Prop :=
  ∃ requests : List (Request B), changes = requests.foldl Changes.request {}

private theorem Changes.Made.request {B C : Type} {changes : Changes B C} (made : changes.Made)
    (requests : List (Request B)) : (requests.foldl Changes.request changes).Made := by
  obtain ⟨before, rfl⟩ := made
  exact ⟨before ++ requests, (List.foldl_append).symm⟩

/-- A handle that is not silenced is not to be removed. -/
theorem Changes.Made.keeps {B C : Type} {changes : Changes B C} (made : changes.Made)
    {handle : Handle} (kept : changes.isRemoved handle = false) :
    ∀ change ∈ changes.pending, ¬ change.Removes handle := by
  obtain ⟨requests, rfl⟩ := made
  intro change inside removes
  rw [Changes.pending_foldl, List.nil_append] at inside
  obtain ⟨request, asked, rfl⟩ := List.mem_map.1 inside
  have silenced : (requests.foldl Changes.request ({} : Changes B C)).isRemoved handle = true := by
    refine (Changes.isRemoved_foldl _ _ _).2 (.inr ?_)
    cases request with
    | remove named =>
      obtain rfl : named = handle := removes
      exact asked
    | _ => exact removes.elim
  rw [kept] at silenced
  cases silenced

/-- A change that does not remove whoever owns a handle leaves it its owner. -/
theorem Loop.apply_keeps_owner {B C W : Type} (conduct : Conduct B C W) {loop : Loop B C W}
    (filed : loop.Filed) {change : Change B C} {handle : Handle} {id : UInt64}
    (keeps : ¬ change.Removes handle) (owned : loop.owner? handle = some id) :
    (loop.apply conduct change).owner? handle = some id := by
  have balance := (accounts_apply conduct filed change).follows.owner_balance handle id
  have stays : (loop.changeDeeds conduct change).count (.left handle id) = 0 := by
    refine List.count_eq_zero.2 fun left => ?_
    obtain ⟨target, rfl, same, _⟩ := removal_of_left left
    exact keeps same
  have before : loop.ledger.owner handle = some id := owned
  rw [stays, if_pos before] at balance
  by_contra gone
  have after : ¬ (loop.apply conduct change).ledger.owner handle = some id := gone
  rw [if_neg after] at balance
  omega

/-! ## What the steps of a loop ask for -/

section Steps

variable {B C W : Type} {conduct : Conduct B C W} {loop : Loop B C W}

theorem Loop.carryOutAll_changes (conduct : Conduct B C W) (loop : Loop B C W)
    (orders : List (Order B C)) :
    (orders.foldl (carryOut conduct) loop).changes = loop.changes := by
  induction orders generalizing loop with
  | nil => rfl
  | cons order orders ih =>
    refine (ih _).trans ?_
    cases order with
    | stop => rfl
    | wake => rfl
    | change change =>
      simp only [carryOut, submit]
      split
      · rfl
      · cases change <;> rfl

private theorem Loop.notify_made (made : loop.changes.Made) (notice : Notice) (handle : Handle) :
    (loop.notify conduct notice handle).changes.Made := by
  unfold notify
  split
  · exact made
  · simp only [carryOutAll_changes]
    exact made.request _

/-- All that a loop is to apply on its own account has been asked for by requests. -/
theorem Site.Step.made {site next : Site B C W} {deeds : List Deed}
    (step : Step conduct site deeds next) (made : site.loop.changes.Made) :
    next.loop.changes.Made := by
  have nothing : Changes.Made ({} : Changes B C) := ⟨[], rfl⟩
  cases step with
  | take inbox =>
    rw [(Loop.apply_keeps conduct _ _).2.1]
    exact made
  | apply loop change =>
    rw [(loop.apply_keeps conduct change).2.1]
    exact made
  | hear => exact Loop.notify_made made _ _
  | answer => exact Loop.notify_made made _ _
  | @pass loop entry =>
    unfold Loop.passOver
    split
    · exact made
    · split <;> exact made
  | handOver => exact nothing
  | silence => exact nothing
  | serve loop now alarm =>
    cases alarm with
    | event handle generation =>
      simp only [Loop.serve]
      split
      · exact Loop.notify_made made _ _
      · exact made
    | callback callback interval remaining =>
      simp only [Loop.serve]
      split <;> simp only [Loop.carryOutAll_changes] <;> exact made
  | _ => exact made

end Steps

namespace Scene

variable [Message M] {service : Service M D} {start scene early late next : Scene M D}

private theorem Passes.made {told : List Incident} (passes : Passes service early told late)
    (made : early.site.loop.changes.Made) : late.site.loop.changes.Made := by
  cases passes with
  | thread alive step => exact step.made made
  | flush alive found body =>
    simp only [Loop.flush, Loop.takeUp, Loop.carryOutAll_changes]
    exact made.request _
  | @ask loop stage flushing before plea after =>
    have same := Loop.carryOutAll_changes service.conduct loop [plea.order]
    exact same.symm ▸ made
  | @order loop stage flushing asking order brings =>
    have same := Loop.carryOutAll_changes service.conduct loop [order]
    exact same.symm ▸ made
  | call alive change brings =>
    rw [(Loop.apply_keeps service.conduct _ change).2.1]
    exact made
  | petition alive busy requests brings => exact made.request requests
  | @dismiss loop asking alive =>
    have gone : (service.dismiss loop).changes = {} := (loop.close_empty service.conduct).2.1
    exact ⟨[], gone⟩
  | _ => exact made

theorem Chronicle.made {loop : ServerLoop M D} {listening : Handle} {history : List Incident}
    (pristine : Pristine loop)
    (chronicle : Chronicle service (opening service listening loop) history scene) :
    scene.site.loop.changes.Made := by
  refine (chronicle.since_eve pristine).keeps (motive := fun _ scene => scene.site.loop.changes.Made)
    (fun _ _ _ _ made passes => passes.made made) ⟨[], ?_⟩
  have whole : (eve listening loop).site.loop.changes =
      ⟨loop.changes.pending, loop.changes.removed⟩ := rfl
  rw [whole, pristine.pending, pristine.removed]
  rfl

/-! ## Runs -/

/-- A run along which the loop's thread applies these of the changes ahead of it, in this order. -/
inductive Applies (service : Service M D) (start : Scene M D) :
    List (Change (Endpoint M) Empty) → Scene M D → Prop where
  | start : Applies service start [] start
  | aside {scene next : Scene M D} {done more : List (Change (Endpoint M) Empty)}
      {told : List Incident} (run : Applies service start done scene)
      (passes : Passes service scene told next)
      (ahead : next.site.ahead = scene.site.ahead ++ more) : Applies service start done next
  | applied {scene next : Scene M D} {done : List (Change (Endpoint M) Empty)}
      {change : Change (Endpoint M) Empty} {told : List Incident}
      (run : Applies service start done scene) (passes : Passes service scene told next)
      (ahead : scene.site.ahead = change :: next.site.ahead) :
      Applies service start (done ++ [change]) next

variable {done before more : List (Change (Endpoint M) Empty)}
  {change request : Change (Endpoint M) Empty} {mine : Handle} {id : UInt64}

/-- What is ahead grows at its end and is applied from its front. -/
theorem Passes.ahead {told : List Incident} (discreet : service.sink.Discreet)
    (kempt : Kempt early) (passes : Passes service early told late) :
    (∃ more, late.site.ahead = early.site.ahead ++ more) ∨
      ∃ change, early.site.ahead = change :: late.site.ahead := by
  have same (still : late.site.ahead = early.site.ahead) :
      ∃ more, late.site.ahead = early.site.ahead ++ more :=
    ⟨[], still.trans (List.append_nil _).symm⟩
  cases (kempt.passes discreet passes).2 with
  | aside aside =>
    obtain ⟨more, ahead, _⟩ := aside.ahead
    exact .inl ⟨more, ahead⟩
  | applied change applied =>
    rcases applied.source with ⟨ahead, _⟩ | ⟨nothing, still, _⟩
    · exact .inr ⟨change, ahead⟩
    · exact .inl (same (still.trans nothing.symm))
  | heard heard => exact .inl ⟨_, heard.ahead⟩
  | listened listened => exact .inl ⟨_, listened.ahead⟩
  | acted acted => exact .inl (same acted.ahead)
  | dismissed dismissed => exact .inl (same (dismissed.ahead.trans dismissed.idle.symm))

/-- Every run is one along which some changes are applied. -/
theorem Chronicle.applies {told : List Incident} (discreet : service.sink.Discreet)
    (kempt : Kempt start) (chronicle : Chronicle service start told scene) :
    ∃ done, Applies service start done scene := by
  refine (kempt.along (motive := fun _ scene => ∃ done, Applies service start done scene)
    discreet chronicle ⟨[], .start⟩ ?_).2
  rintro before early more late kempt _ ⟨done, run⟩ passes _
  rcases passes.ahead discreet kempt with ⟨grown, ahead⟩ | ⟨change, ahead⟩
  · exact ⟨done, run.aside passes ahead⟩
  · exact ⟨done ++ [change], run.applied passes ahead⟩

private theorem Applies.kempt (discreet : service.sink.Discreet) (kempt : Kempt start)
    (run : Applies service start done scene) : Kempt scene := by
  induction run with
  | start => exact kempt
  | aside run passes ahead ih => exact (ih.passes discreet passes).1
  | applied run passes ahead ih => exact (ih.passes discreet passes).1

/-- What has been applied was ahead, in front of what is ahead still. -/
theorem Applies.ahead (run : Applies service start done scene) :
    ∃ more, start.site.ahead ++ more = done ++ scene.site.ahead := by
  induction run with
  | start => exact ⟨[], List.append_nil _⟩
  | aside run passes ahead ih =>
    obtain ⟨more, whole⟩ := ih
    exact ⟨more ++ _, by rw [ahead, ← List.append_assoc, whole, List.append_assoc]⟩
  | applied run passes ahead ih =>
    obtain ⟨more, whole⟩ := ih
    exact ⟨more, by rw [whole, ahead, List.append_assoc]; rfl⟩

/-- As long as no change is applied, owners stay. -/
theorem Effect.owner_stays {told : List Incident} (effect : Effect service early told late)
    (ahead : late.site.ahead = early.site.ahead ++ more) (waits : early.site.ahead ≠ [])
    (handle : Handle) : late.site.loop.owner? handle = early.site.loop.owner? handle := by
  have of_table (table : late.site.loop.table = early.site.loop.table) :
      late.site.loop.owner? handle = early.site.loop.owner? handle := by
    rw [Loop.owner?, Loop.lookup, table]
    rfl
  have of_insert {told : Handle} {event after : Event (Endpoint M)}
      (found : early.site.loop.lookup told = some event)
      (table : late.site.loop.table = early.site.loop.table.insert told after)
      (same : after.generation = event.generation) :
      late.site.loop.owner? handle = early.site.loop.owner? handle := by
    rw [Loop.owner?, Loop.lookup, table, Keyed.get?_insert]
    split
    · next here =>
      rw [here, Loop.owner?, found]
      exact congrArg some same
    · rfl
  cases effect with
  | aside aside => exact of_table aside.table
  | applied change applied =>
    rcases applied.source with ⟨taken, _⟩ | ⟨nothing, _⟩
    · have lengths := congrArg List.length (taken.trans (congrArg (change :: ·) ahead))
      simp only [List.length_cons, List.length_append] at lengths
      omega
    · exact absurd nothing waits
  | heard heard => exact of_insert heard.found heard.table rfl
  | listened listened => exact of_insert listened.found listened.table rfl
  | acted acted => exact of_table acted.table
  | dismissed dismissed => exact absurd dismissed.idle waits

/-- A change that is applied has been ahead. -/
theorem Effect.owner_applied {told : List Incident} (effect : Effect service early told late)
    (ahead : early.site.ahead = change :: late.site.ahead) (handle : Handle) :
    late.site.loop.owner? handle =
      (early.site.loop.apply service.conduct change).owner? handle := by
  have longer {more : List (Change (Endpoint M) Empty)}
      (grown : late.site.ahead = early.site.ahead ++ more) : False := by
    have lengths := congrArg List.length (ahead.trans (congrArg (change :: ·) grown))
    simp only [List.length_cons, List.length_append] at lengths
    omega
  cases effect with
  | aside aside =>
    obtain ⟨more, grown, _⟩ := aside.ahead
    exact (longer grown).elim
  | applied other applied =>
    rcases applied.source with ⟨taken, _⟩ | ⟨nothing, _⟩
    · obtain rfl : other = change := (List.cons.inj (taken.symm.trans ahead)).1
      rw [Loop.owner?, Loop.owner?, Loop.lookup, Loop.lookup, applied.table]
    · cases nothing.symm.trans ahead
  | heard heard => exact (longer heard.ahead).elim
  | listened listened => exact (longer listened.ahead).elim
  | acted acted => exact (longer (acted.ahead.trans (List.append_nil _).symm)).elim
  | dismissed dismissed => cases dismissed.idle.symm.trans ahead

/-- **Whoever is not to be removed by what is ahead of a request still owns its handle** when it is
the turn of the request. -/
theorem Applies.keeps_owner (discreet : service.sink.Discreet) (kempt : Kempt start)
    (asked : start.site.ahead = before ++ request :: more)
    (keeps : ∀ change ∈ before, ¬ change.Removes mine)
    (owned : start.site.loop.owner? mine = some id)
    (run : Applies service start done scene) (first : done <+: before) :
    scene.site.loop.owner? mine = some id := by
  have waits {scene : Scene M D} {done : List (Change (Endpoint M) Empty)}
      (run : Applies service start done scene) (first : done <+: before) :
      scene.site.ahead ≠ [] := by
    intro nothing
    obtain ⟨further, whole⟩ := run.ahead
    obtain ⟨rest, rfl⟩ := first
    rw [asked, nothing] at whole
    have lengths := congrArg List.length whole
    simp only [List.length_append, List.length_cons, List.length_nil] at lengths
    omega
  induction run with
  | start => exact owned
  | aside run passes ahead ih =>
    have effect := ((run.kempt discreet kempt).passes discreet passes).2
    exact (effect.owner_stays ahead (waits run first) mine).trans (ih first)
  | applied run passes ahead ih =>
    have earlier := (List.prefix_append _ _).trans first
    have kept := run.kempt discreet kempt
    have effect := (kept.passes discreet passes).2
    rw [effect.owner_applied ahead mine]
    refine Loop.apply_keeps_owner service.conduct kept.filed (keeps _ ?_) (ih earlier)
    exact first.subset (List.mem_append_right _ List.mem_cons_self)

omit [Message M] in
/-- Between notifications it does not matter how far a thread has come with its entries. -/
theorem Kempt.restaged {site : Site (Endpoint M) Empty (Premises D)} {flushing held : Option Handle}
    {asking : List Plea} (kempt : Kempt ⟨site, flushing, asking⟩) (alive : site.loop.alive = true)
    {stage : Stage (Endpoint M) Empty} (busy : ¬ stage.IsQuiet) :
    Kempt ⟨⟨site.loop, stage⟩, held, asking⟩ :=
  ⟨kempt.filed, fun quiet => absurd quiet busy, kempt.inbox, kempt.silent, kempt.numbered,
    kempt.sincere, kempt.present, fun dead => by cases dead.symm.trans alive⟩

/-- **What an owner asks for when it is told of something reaches that owner**: when all that was
ahead has been applied, it still owns its handle. -/
theorem Kempt.request_reaches (kempt : Kempt scene) (discreet : service.sink.Discreet)
    (made : scene.site.loop.changes.Made) (alive : scene.site.loop.alive = true)
    {event : Event (Endpoint M)} (found : scene.site.loop.lookup mine = some event)
    (kept : scene.site.loop.changes.isRemoved mine = false) (busy : ¬ scene.site.stage.IsQuiet)
    (notice : Notice) {requests : List (Request (Endpoint M))} (asks : requests ≠ [])
    (pending : (scene.site.loop.notify service.conduct notice mine).changes.pending =
      scene.site.loop.changes.pending ++ requests.map Request.change)
    {stage : Stage (Endpoint M) Empty} (still : ¬ stage.IsQuiet) {later : Scene M D}
    (run : Applies service
      ⟨⟨scene.site.loop.notify service.conduct notice mine, stage⟩, none, scene.asking⟩
      scene.site.ahead later) :
    later.site.loop.owner? mine = some event.generation := by
  obtain ⟨⟨loop, before⟩, flushing, asking⟩ := scene
  have told : Kempt ⟨⟨loop.notify service.conduct notice mine, before⟩, flushing, asking⟩ :=
    (kempt.notified discreet alive found busy busy fun _ _ => .inl (Nat.le_refl _)).1
  have took := Loop.takeUp_took service.conduct alive mine event
    (service.conduct.notify notice event loop.outlook loop.world)
  rw [← Loop.notify_eq service.conduct notice found] at took
  have ahead : (⟨loop, before⟩ : Site (Endpoint M) Empty (Premises D)).ahead =
      loop.changes.pending := by
    rw [Site.ahead, ahead_of_busy busy, List.append_nil]
  cases requests with
  | nil => exact absurd rfl asks
  | cons request more =>
    have front : (⟨loop.notify service.conduct notice mine, stage⟩ :
        Site (Endpoint M) Empty (Premises D)).ahead =
          loop.changes.pending ++ request.change :: more.map Request.change := by
      rw [Site.ahead, ahead_of_busy still, List.append_nil]
      exact pending
    refine run.keeps_owner discreet (told.restaged (took.alive.trans alive) still) front
      (made.keeps kept) ?_ ?_
    · exact congrArg (Option.map Event.generation) ((took.owner mine).trans (if_pos rfl))
    · exact ahead ▸ List.prefix_rfl

end Scene

end EventLoop
