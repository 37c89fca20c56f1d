import EventLoop.Proofs.Loop.Batches
import EventLoop.Proofs.Loop.Courses
import EventLoop.Proofs.Server.Incidents

/-! What one step of a chronicle can do, said once. Most steps only move changes and alarms
along. Of the others one applies a change, one lets a connection hear of something, one lets
a listener admit whoever stands at the door, one is an act on a session, and one is the end of
the loop. What is to be known of every chronicle follows from these six. -/
namespace EventLoop

variable {M D : Type}

namespace Scene

/-- How a scene looks at any time, whatever its surroundings do. -/
structure Kempt (scene : Scene M D) : Prop where
  filed : scene.site.loop.Filed
  idle : scene.site.stage.IsQuiet → scene.site.loop.changes.pending = []
  inbox : Loop.eventsIn scene.site.loop.inbox = []
  silent : scene.site.loop.world.sessions.pleas = []
  numbered : scene.site.loop.world.sessions.Numbered
  sincere : ∀ handle, scene.site.loop.changes.isRemoved handle = true →
    .remove { handle } ∈ scene.site.loop.changes.pending
  present : scene.site.loop.alive = true → scene.site.loop.world.sessions.loopGone = false
  ended : scene.site.loop.alive = false →
    scene.site.loop.table = {} ∧ scene.site.stage = .resting ∧ scene.site.loop.inbox = []

/-! ## The six effects -/

/-- Changes and alarms are moved along, and more changes are asked for that bring nothing. An
alarm may lapse that its owner does not wait for. -/
structure Aside (early : Scene M D) (history : List Incident) (late : Scene M D) : Prop where
  table : late.site.loop.table = early.site.loop.table
  sessions : late.site.loop.world.sessions = early.site.loop.world.sessions
  next : late.site.loop.world.nextSession = early.site.loop.world.nextSession
  ahead : ∃ more, late.site.ahead = early.site.ahead ++ more ∧ Loop.eventsIn more = []
  inbox : ∃ more, late.site.loop.inbox = early.site.loop.inbox ++ more ∧ Loop.eventsIn more = []
  asking : early.site.loop.alive = true →
    ∀ plea ∈ early.asking, plea ∈ late.asking ∨ plea.change ∈ late.site.loop.inbox
  told : ∀ handle id, history.count (.queued handle id) + late.asking.count (.remove handle id) ≤
    early.asking.count (.remove handle id)
  waiting : ∀ handle id, early.site.ledger.waiting handle id ≤ late.site.ledger.waiting handle id ∨
    early.site.loop.owner? handle ≠ some id ∨ .remove { handle } ∈ late.site.ahead

/-- A change is applied: the next of those ahead, the next in the inbox when nothing is ahead,
or one that somebody asks for directly. -/
structure Applied [Message M] (service : Service M D) (early : Scene M D)
    (change : Change (Endpoint M) Empty) (late : Scene M D) : Prop where
  table : late.site.loop.table = (early.site.loop.apply service.conduct change).table
  world : late.site.loop.world = (early.site.loop.apply service.conduct change).world
  source : early.site.ahead = change :: late.site.ahead ∧
      late.site.loop.inbox = early.site.loop.inbox ∨
    early.site.ahead = [] ∧ late.site.ahead = [] ∧
      (early.site.loop.inbox = change :: late.site.loop.inbox ∨
        late.site.loop.inbox = early.site.loop.inbox ∧ Loop.sourceOf change = none)
  asking : late.asking = early.asking
  waiting : ∀ handle id, early.site.ledger.waiting handle id ≤ late.site.ledger.waiting handle id
  scheduled : ∀ handle delay id, change = .schedule { handle } delay →
    early.site.loop.owner? handle = some id → 0 < late.site.ledger.waiting handle id

/-- A connection hears of something. -/
structure Heard (early : Scene M D) (history : List Incident) (late : Scene M D)
    (notice : Notice) (handle : Handle) (event : Event (Endpoint M)) (connection : Connection M)
    (response : Service.Response M D) : Prop where
  found : early.site.loop.lookup handle = some event
  body : event.body = .connection connection
  behaves : Service.Behaves notice handle connection early.site.loop.world response
  table : late.site.loop.table = early.site.loop.table.insert handle
    { event with body := .connection response.connection }
  sessions : late.site.loop.world.sessions = response.premises.sessions.takePleas.2
  next : late.site.loop.world.nextSession = early.site.loop.world.nextSession
  ahead : late.site.ahead = early.site.ahead ++ response.requests.map Request.change
  inbox : late.site.loop.inbox =
    early.site.loop.inbox ++ response.premises.sessions.pleas.map Plea.change
  asking : late.asking = early.asking
  told : history =
    (response.premises.sessions.pleas.map (Plea.change (B := Endpoint M) (C := Empty))).filterMap
      Change.incident?
  waiting : ∀ probe id, early.site.ledger.waiting probe id ≤ late.site.ledger.waiting probe id ∨
    notice = .timer ∧ probe = handle ∧ id = event.generation

/-- A listener hears of something, and admits whoever it may. -/
structure Listened (service : Service M D) (early late : Scene M D) (handle : Handle)
    (event : Event (Endpoint M)) (requests : List (Request (Endpoint M)))
    (premises : Premises D) : Prop where
  found : early.site.loop.lookup handle = some event
  body : event.body = .listener
  admission : service.Admission early.site.loop.world requests premises
  table : late.site.loop.table = early.site.loop.table.insert handle event
  sessions : late.site.loop.world.sessions = premises.sessions
  next : late.site.loop.world.nextSession = premises.nextSession
  ahead : late.site.ahead = early.site.ahead ++ requests.map Request.change
  inbox : late.site.loop.inbox = early.site.loop.inbox
  asking : late.asking = early.asking
  waiting : ∀ probe id, early.site.ledger.waiting probe id ≤ late.site.ledger.waiting probe id ∨
    probe = handle

/-- Somebody acts on a session. -/
structure Acted (early late : Scene M D) (after : Sessions) : Prop where
  lasts : early.site.loop.world.sessions.Lasts after
  asks : early.site.loop.world.sessions.Asks none after
  roster : after.roster = early.site.loop.world.sessions.roster
  table : late.site.loop.table = early.site.loop.table
  sessions : late.site.loop.world.sessions = after.takePleas.2
  next : late.site.loop.world.nextSession = early.site.loop.world.nextSession
  ahead : late.site.ahead = early.site.ahead
  inbox : late.site.loop.inbox = early.site.loop.inbox
  asking : late.asking = early.asking ++ after.pleas
  waiting : ∀ handle id, early.site.ledger.waiting handle id = late.site.ledger.waiting handle id

/-- The loop is dismissed between two turns, when nothing is ahead: everything it owns or was
still to own ends, and sessions learn that it is gone. -/
structure Dismissed (early late : Scene M D) (premises : Premises D) : Prop where
  idle : early.site.ahead = []
  parts : Service.Parts early.site.loop.world
    (early.site.loop.table.values ++ early.site.waiting) premises
  table : late.site.loop.table = {}
  sessions : late.site.loop.world.sessions = { premises.sessions with loopGone := true }
  next : late.site.loop.world.nextSession = premises.nextSession
  ahead : late.site.ahead = []
  inbox : late.site.loop.inbox = []
  asking : late.asking = early.asking

/-- What a step does. -/
inductive Effect [Message M] (service : Service M D) (early : Scene M D) :
    List Incident → Scene M D → Prop where
  | aside {history : List Incident} {late : Scene M D} (aside : Aside early history late) :
      Effect service early history late
  | applied {late : Scene M D} (change : Change (Endpoint M) Empty)
      (applied : Applied service early change late) : Effect service early [] late
  | heard {history : List Incident} {late : Scene M D} {notice : Notice} {handle : Handle}
      {event : Event (Endpoint M)} {connection : Connection M} {response : Service.Response M D}
      (heard : Heard early history late notice handle event connection response) :
      Effect service early history late
  | listened {late : Scene M D} {handle : Handle} {event : Event (Endpoint M)}
      {requests : List (Request (Endpoint M))} {premises : Premises D}
      (listened : Listened service early late handle event requests premises) :
      Effect service early [] late
  | acted {late : Scene M D} {sessions : Sessions} (acted : Acted early late sessions) :
      Effect service early [] late
  | dismissed {late : Scene M D} {premises : Premises D}
      (dismissed : Dismissed early late premises) : Effect service early [] late

end Scene

/-! ## Changes that bring nothing -/

theorem Loop.eventsIn_eq_nil {B C : Type} {changes : List (Change B C)} :
    eventsIn changes = [] ↔ ∀ change ∈ changes, sourceOf change = none := by
  induction changes with
  | nil => simp [eventsIn]
  | cons change rest ih =>
    cases change with
    | add event mask => simp [eventsIn, sourceOf]
    | rearm => simpa [eventsIn, sourceOf] using ih
    | remove => simpa [eventsIn, sourceOf] using ih
    | schedule => simpa [eventsIn, sourceOf] using ih
    | timer => simpa [eventsIn, sourceOf] using ih

theorem Plea.brings_nothing {B C : Type} (pleas : List Plea) :
    Loop.eventsIn (pleas.map (Plea.change (B := B) (C := C))) = [] := by
  refine Loop.eventsIn_eq_nil.2 fun change inside => ?_
  obtain ⟨plea, _, rfl⟩ := List.mem_map.1 inside
  cases plea <;> rfl

/-! ## Alarms and changes -/

section Alarms

variable {B C W : Type} {conduct : Conduct B C W} {loop : Loop B C W}

/-- Applying a change tells nobody anything. -/
theorem changeDeeds_silent (conduct : Conduct B C W) (loop : Loop B C W) (change : Change B C)
    (handle : Handle) (generation : UInt64) :
    (loop.changeDeeds conduct change).count (.told .timer handle generation) = 0 ∧
      (loop.changeDeeds conduct change).count (.lapsed handle generation) = 0 := by
  rw [List.count_eq_zero, List.count_eq_zero]
  cases change with
  | add event mask =>
    simp only [Loop.changeDeeds, Loop.addDeeds]
    split
    · simp
    · split <;> split <;> simp
  | rearm target mask => simp [Loop.changeDeeds]
  | remove target =>
    simp only [Loop.changeDeeds]
    split <;> simp
  | schedule target delay =>
    simp only [Loop.changeDeeds]
    split <;> simp
  | timer => simp [Loop.changeDeeds]

/-- Applying a change takes no alarm off the agenda, and a request for an alarm for whoever
owns a handle puts one there. -/
theorem apply_waiting (conduct : Conduct B C W) (filed : loop.Filed) (change : Change B C) :
    (∀ handle id, loop.waiting handle id ≤ (loop.apply conduct change).waiting handle id) ∧
      ∀ handle delay id, change = .schedule { handle } delay → loop.owner? handle = some id →
        0 < (loop.apply conduct change).waiting handle id := by
  have follows := (Loop.accounts_apply conduct filed change).follows
  have balance (handle : Handle) (id : UInt64) :
      (loop.changeDeeds conduct change).count (.scheduled handle id) + loop.waiting handle id =
        (loop.apply conduct change).waiting handle id := by
    obtain ⟨untold, kept⟩ := changeDeeds_silent conduct loop change handle id
    have balance := follows.alarm_balance handle id
    rw [untold, kept, Nat.zero_add] at balance
    simpa [Loop.ledger] using balance
  refine ⟨fun handle id => balance handle id ▸ Nat.le_add_left _ _, ?_⟩
  rintro handle delay id rfl owned
  have owns : loop.owns { handle } = true := by
    obtain ⟨owner, found, _⟩ := Option.map_eq_some_iff.1 owned
    rw [Loop.owns, found]
  have once : (loop.changeDeeds conduct (.schedule { handle } delay)).count
      (.scheduled handle id) = 1 := by
    simp [Loop.changeDeeds, owns, owned]
  have sum := balance handle id
  omega

private theorem takeUp_agenda (conduct : Conduct B C W) (handle : Handle) (event : Event B)
    (reaction : Reaction B C W) :
    (loop.takeUp conduct handle event reaction).agenda = loop.agenda :=
  Loop.carryOutAll_agenda conduct reaction.orders _

end Alarms

namespace Scene

variable [Message M] {service : Service M D} {loop : ServerLoop M D}
  {stage next : Stage (Endpoint M) Empty} {flushing held : Option Handle} {asking : List Plea}

/-! ## Hearing -/

omit [Message M] in
theorem ahead_of_busy (busy : ¬ stage.IsQuiet) : stage.ahead = [] := by
  cases stage with
  | applying => exact absurd trivial busy
  | _ => rfl

/-- What is asked for in a reaction leaves a scene in order. -/
theorem Kempt.tookUp (kempt : Kempt ⟨⟨loop, stage⟩, flushing, asking⟩) (alive : loop.alive = true)
    {handle : Handle} {event : Event (Endpoint M)} (found : loop.lookup handle = some event)
    (busy : ¬ next.IsQuiet) (reaction : Reaction (Endpoint M) Empty (Premises D))
    (silent : reaction.world.sessions.pleas = []) (numbered : reaction.world.sessions.Numbered)
    (here : reaction.world.sessions.loopGone = loop.world.sessions.loopGone)
    (brings : Loop.eventsIn (reaction.orders.filterMap Order.change?) = []) :
    Kempt ⟨⟨loop.takeUp service.conduct handle event reaction, next⟩, held, asking⟩ := by
  have ordered := Loop.carryOutAll_ordered service.conduct { loop with
    table := loop.table.insert handle { event with body := reaction.body }
    changes := reaction.requests.foldl Changes.request loop.changes
    world := reaction.world } alive reaction.orders
  have took := Loop.takeUp_took service.conduct alive handle event reaction
  have changes : (loop.takeUp service.conduct handle event reaction).changes =
      reaction.requests.foldl Changes.request loop.changes := ordered.changes
  refine ⟨?_, fun quiet => absurd quiet busy, ?_, ?_, ?_, ?_, ?_, ?_⟩
  · intro probe other there
    rw [took.owner] at there
    split at there
    · next same =>
      cases there
      exact (kempt.filed _ _ found).trans same.symm
    · exact kempt.filed probe other there
  · rw [took.inbox, Loop.eventsIn_append, brings, kempt.inbox]
    rfl
  · rw [took.world]
    exact silent
  · rw [took.world]
    exact numbered
  · intro probe removed
    rw [changes] at removed ⊢
    rw [Changes.pending_foldl]
    rcases (Changes.isRemoved_foldl _ _ _).1 removed with before | asked
    · exact List.mem_append_left _ (kempt.sincere probe before)
    · exact List.mem_append_right _ (List.mem_map.2 ⟨_, asked, rfl⟩)
  · intro _
    rw [took.world]
    exact here.trans (kempt.present alive)
  · intro dead
    have lives := took.alive.trans alive
    cases dead.symm.trans lives

omit [Message M] in
theorem ledger_le {early late : ServerLoop M D} {before after : Stage (Endpoint M) Empty}
    {handle : Handle} {id : UInt64} (agenda : early.waiting handle id ≤ late.waiting handle id)
    (due : before.waiting handle id ≤ after.waiting handle id) :
    (⟨early, before⟩ : Site _ _ _).ledger.waiting handle id ≤
      (⟨late, after⟩ : Site _ _ _).ledger.waiting handle id :=
  Nat.add_le_add agenda due

omit [Message M] in
theorem voiced_orders (response : Service.Response M D) :
    (Service.voiced response).orders.filterMap Order.change? =
      response.premises.sessions.pleas.map Plea.change := by
  unfold Service.voiced
  simp only [Sessions.takePleas, List.filterMap_map]
  exact congrFun List.filterMap_eq_map _

/-- A connection hears of something, and the loop takes up what it asks for. -/
theorem Kempt.hears (kempt : Kempt ⟨⟨loop, stage⟩, flushing, asking⟩) (alive : loop.alive = true)
    {notice : Notice} {handle : Handle} {event : Event (Endpoint M)} {connection : Connection M}
    {response : Service.Response M D} (found : loop.lookup handle = some event)
    (body : event.body = .connection connection) (busy : ¬ stage.IsQuiet) (still : ¬ next.IsQuiet)
    (behaves : Service.Behaves notice handle connection loop.world response)
    (due : ∀ probe id, stage.waiting probe id ≤ next.waiting probe id ∨
      notice = .timer ∧ probe = handle ∧ id = event.generation) :
    Kempt ⟨⟨loop.takeUp service.conduct handle event (Service.voiced response), next⟩, held,
        asking⟩ ∧
      Effect service ⟨⟨loop, stage⟩, flushing, asking⟩
        (loop.arrivals (loop.takeUp service.conduct handle event (Service.voiced response)))
        ⟨⟨loop.takeUp service.conduct handle event (Service.voiced response), next⟩, held,
          asking⟩ := by
  have orders := voiced_orders response
  have took := Loop.takeUp_took service.conduct alive handle event (Service.voiced response)
  have ordered := Loop.carryOutAll_ordered service.conduct { loop with
    table := loop.table.insert handle { event with body := (Service.voiced response).body }
    changes := (Service.voiced response).requests.foldl Changes.request loop.changes
    world := (Service.voiced response).world } alive (Service.voiced response).orders
  have inbox := took.inbox
  rw [orders] at inbox
  have heard : Heard ⟨⟨loop, stage⟩, flushing, asking⟩
      (loop.arrivals (loop.takeUp service.conduct handle event (Service.voiced response)))
      ⟨⟨loop.takeUp service.conduct handle event (Service.voiced response), next⟩, held, asking⟩
      notice handle event connection response := by
    refine ⟨found, body, behaves, ordered.table, congrArg Premises.sessions took.world,
      (congrArg Premises.nextSession took.world).trans behaves.next, ?_, inbox, rfl,
      Loop.arrivals_append inbox, fun probe id => ?_⟩
    · simp only [Site.ahead, ahead_of_busy busy, ahead_of_busy still, List.append_nil]
      exact took.pending
    · refine (due probe id).imp_left fun less => ledger_le (Nat.le_of_eq ?_) less
      rw [Loop.waiting, Loop.waiting, takeUp_agenda]
  exact ⟨kempt.tookUp alive found still _ rfl behaves.lasts.numbered behaves.lasts.loopGone
    (by rw [orders]; exact Plea.brings_nothing _), .heard heard⟩

/-- What a listener does when it is told of something: it admits whoever it may, or nothing. -/
theorem listener_admission (service : Service M D) (notice : Notice) {event : Event (Endpoint M)}
    (body : event.body = .listener) {premises : Premises D} (numbered : premises.sessions.Numbered)
    (silent : premises.sessions.pleas = []) :
    ∃ requests late, service.Admission premises requests late ∧
      (service.notifyEndpoint notice event premises).body = .listener ∧
      (service.notifyEndpoint notice event premises).world.sessions = late.sessions ∧
      (service.notifyEndpoint notice event premises).world.nextSession = late.nextSession ∧
      (service.notifyEndpoint notice event premises).requests = requests ∧
      (service.notifyEndpoint notice event premises).orders = [] := by
  have nothing : service.Admission premises [] premises := .refl service numbered
  unfold Service.notifyEndpoint
  rw [body]
  cases notice with
  | accept =>
    have admission := welcomeAll_admission service premises.network.door numbered
    have quiet := admission.pleas.trans silent
    refine ⟨_, _, admission, rfl, Sessions.takePleas_of_silent quiet, rfl, rfl, ?_⟩
    simp only [Sessions.takePleas, quiet, List.map_nil]
  | _ =>
    refine ⟨_, _, nothing, rfl, Sessions.takePleas_of_silent silent, rfl, rfl, ?_⟩
    simp only [Sessions.takePleas, silent, List.map_nil]

/-- Whoever owns a handle hears of something. -/
theorem Kempt.notified (kempt : Kempt ⟨⟨loop, stage⟩, flushing, asking⟩)
    (discreet : service.sink.Discreet) (alive : loop.alive = true) {notice : Notice}
    {handle : Handle} {event : Event (Endpoint M)} (found : loop.lookup handle = some event)
    (busy : ¬ stage.IsQuiet) (still : ¬ next.IsQuiet)
    (due : ∀ probe id, stage.waiting probe id ≤ next.waiting probe id ∨
      notice = .timer ∧ probe = handle ∧ id = event.generation) :
    Kempt ⟨⟨loop.notify service.conduct notice handle, next⟩, held, asking⟩ ∧
      Effect service ⟨⟨loop, stage⟩, flushing, asking⟩
        (loop.arrivals (loop.notify service.conduct notice handle))
        ⟨⟨loop.notify service.conduct notice handle, next⟩, held, asking⟩ := by
  have reacts : service.conduct.notify notice event loop.outlook loop.world =
      service.notifyEndpoint notice event loop.world := rfl
  rw [Loop.notify_eq service.conduct notice found, reacts]
  cases body : event.body with
  | connection connection =>
    rw [service.notifyEndpoint_eq_voiced notice loop.world body]
    have behaves := behaves_respond discreet notice event connection kempt.numbered
    rw [kempt.filed _ _ found] at behaves
    exact kempt.hears alive found body busy still behaves due
  | listener =>
    obtain ⟨requests, late, admission, bodyToo, sessions, nextSession, asked, orders⟩ :=
      listener_admission service notice body kempt.numbered kempt.silent
    generalize service.notifyEndpoint notice event loop.world = reaction at *
    have took := Loop.takeUp_took service.conduct alive handle event reaction
    have ordered := Loop.carryOutAll_ordered service.conduct { loop with
      table := loop.table.insert handle { event with body := reaction.body }
      changes := reaction.requests.foldl Changes.request loop.changes
      world := reaction.world } alive reaction.orders
    have inbox := took.inbox
    rw [orders] at inbox
    have same : ({ event with body := reaction.body } : Event (Endpoint M)) = event := by
      rw [bodyToo, ← body]
    refine ⟨kempt.tookUp alive found still reaction ?_ ?_ ?_ (by rw [orders]; rfl), ?_⟩
    · rw [sessions, admission.pleas]
      exact kempt.silent
    · rw [sessions]
      exact admission.numbered
    · rw [sessions]
      exact admission.loopGone
    · have silent : loop.arrivals (loop.takeUp service.conduct handle event reaction) = [] :=
        Loop.arrivals_none (inbox.trans (List.append_nil _))
      have listened : Listened service ⟨⟨loop, stage⟩, flushing, asking⟩
          ⟨⟨loop.takeUp service.conduct handle event reaction, next⟩, held, asking⟩ handle event
          requests late := by
        refine ⟨found, body, admission, ?_,
          (congrArg Premises.sessions took.world).trans sessions,
          (congrArg Premises.nextSession took.world).trans nextSession, ?_,
          inbox.trans (List.append_nil _), rfl, fun probe id => ?_⟩
        · rw [← same]
          exact ordered.table
        · simp only [Site.ahead, ahead_of_busy busy, ahead_of_busy still, List.append_nil]
          rw [took.pending, asked]
        · refine (due probe id).imp (fun less => ledger_le (Nat.le_of_eq ?_) less)
            fun own => own.2.1
          rw [Loop.waiting, Loop.waiting, takeUp_agenda]
      rw [silent]
      exact .listened listened

/-! ## Applying -/

/-- Applying a change moves sessions only by the ends of objects. -/
theorem apply_parts (service : Service M D) {loop : ServerLoop M D} (filed : loop.Filed)
    (numbered : loop.world.sessions.Numbered) (change : Change (Endpoint M) Empty) :
    ∃ ended, Loop.Conserves service.conduct loop (Loop.eventsIn [change]) ended
        (loop.apply service.conduct change) ∧
      Service.Parts loop.world ended (loop.apply service.conduct change).world := by
  obtain ⟨ended, conserves⟩ := Loop.apply_conserves service.conduct filed change
  exact ⟨ended, conserves, conserves.world _ service.reckons numbered⟩

theorem Kempt.applied (kempt : Kempt ⟨⟨loop, stage⟩, flushing, asking⟩) (alive : loop.alive = true)
    (idle : loop.changes.pending = []) (service : Service M D)
    (change : Change (Endpoint M) Empty) {rest : List (Change (Endpoint M) Empty)}
    (brings : Loop.eventsIn rest = []) :
    Kempt ⟨⟨{ loop.apply service.conduct change with inbox := rest }, next⟩, held, asking⟩ := by
  obtain ⟨_, changes, lives⟩ := loop.apply_keeps service.conduct change
  obtain ⟨ended, _, parts⟩ := apply_parts service kempt.filed kempt.numbered change
  refine ⟨(Loop.accounts_apply service.conduct kempt.filed change).filed, fun _ => ?_, brings,
    parts.pleas.trans kempt.silent, parts.lasts.numbered, ?_,
    fun _ => parts.lasts.loopGone.trans (kempt.present alive), fun dead => ?_⟩
  · exact (congrArg Changes.pending changes).trans idle
  · intro handle removed
    have before := kempt.sincere handle (changes ▸ removed)
    exact changes.symm ▸ before
  · cases dead.symm.trans (lives.trans alive)

/-- A change is applied in a stage in which nobody is told anything. -/
theorem applied_of_source {site : Site (Endpoint M) Empty (Premises D)}
    {rest : List (Change (Endpoint M) Empty)} (service : Service M D) (filed : loop.Filed)
    (change : Change (Endpoint M) Empty)
    (late : site.loop = { loop.apply service.conduct change with inbox := rest })
    (due : ∀ handle id, stage.waiting handle id ≤ site.stage.waiting handle id)
    (source : (⟨loop, stage⟩ : Site _ _ _).ahead = change :: site.ahead ∧ rest = loop.inbox ∨
      (⟨loop, stage⟩ : Site _ _ _).ahead = [] ∧ site.ahead = [] ∧
        (loop.inbox = change :: rest ∨ rest = loop.inbox ∧ Loop.sourceOf change = none)) :
    Applied service ⟨⟨loop, stage⟩, flushing, asking⟩ change ⟨site, held, asking⟩ := by
  obtain ⟨kept, scheduled⟩ := apply_waiting service.conduct filed change
  obtain ⟨last, final⟩ := site
  simp only at late
  subst late
  refine ⟨rfl, rfl, source, rfl, fun handle id => ledger_le (kept handle id) (due handle id), ?_⟩
  intro handle delay id asks owned
  exact Nat.lt_of_lt_of_le (scheduled handle delay id asks owned) (Nat.le_add_right _ _)

/-! ## The end -/

theorem Kempt.dismissed (kempt : Kempt ⟨⟨loop, .resting⟩, flushing, asking⟩)
    (service : Service M D) :
    Kempt ⟨⟨service.dismiss loop, .resting⟩, held, asking⟩ ∧
      Effect service ⟨⟨loop, .resting⟩, flushing, asking⟩ []
        ⟨⟨service.dismiss loop, .resting⟩, held, asking⟩ := by
  obtain ⟨table, changes, inbox, dead⟩ := Loop.close_empty service.conduct loop
  have parts := Loop.close_ends service.conduct loop service.reckons kempt.numbered
  have objects : loop.table.values ++ Loop.eventsIn loop.changes.pending ++
      Loop.eventsIn loop.inbox =
        loop.table.values ++ (⟨loop, .resting⟩ : Site _ _ _).waiting := by
    simp only [Site.waiting, Site.ahead, Stage.ahead, List.append_nil, Loop.eventsIn_append,
      List.append_assoc]
  rw [objects] at parts
  have gone : (service.dismiss loop).alive = false := dead
  have free : (service.dismiss loop).table = {} := table
  have cleared : (service.dismiss loop).changes = {} := changes
  have dismissed : Dismissed ⟨⟨loop, .resting⟩, flushing, asking⟩
      ⟨⟨service.dismiss loop, .resting⟩, held, asking⟩ (loop.close service.conduct).world := by
    refine ⟨?_, parts, table, rfl, rfl, ?_, inbox, rfl⟩
    · rw [Site.ahead, kempt.idle trivial]
      rfl
    · simp only [Site.ahead, cleared, Stage.ahead, List.append_nil]
  refine ⟨⟨?_, fun _ => ?_, ?_, parts.pleas.trans kempt.silent, parts.lasts.numbered, ?_, ?_,
    fun _ => ⟨table, rfl, inbox⟩⟩, .dismissed dismissed⟩
  · intro handle event found
    rw [Loop.lookup, free] at found
    cases found
  · simp only [cleared]
  · exact congrArg Loop.eventsIn inbox
  · intro handle removed
    rw [cleared] at removed
    cases removed
  · intro lives
    cases gone.symm.trans lives

/-! ## Moving along -/

/-- Only the lists of changes and the alarms are touched. -/
theorem Kempt.still (kempt : Kempt ⟨⟨loop, stage⟩, flushing, asking⟩) (alive : loop.alive = true)
    (service : Service M D) {late : ServerLoop M D} {history : List Incident}
    (table : late.table = loop.table) (sessions : late.world.sessions = loop.world.sessions)
    (nextSession : late.world.nextSession = loop.world.nextSession)
    (lives : late.alive = loop.alive) (inbox : late.inbox = loop.inbox)
    (ahead : (⟨late, next⟩ : Site _ _ _).ahead = (⟨loop, stage⟩ : Site _ _ _).ahead)
    (idle : next.IsQuiet → late.changes.pending = [])
    (sincere : ∀ handle, late.changes.isRemoved handle = true →
      .remove { handle } ∈ late.changes.pending)
    (told : ∀ handle id, history.count (.queued handle id) = 0)
    (waiting : ∀ handle id, (⟨loop, stage⟩ : Site _ _ _).ledger.waiting handle id ≤
        (⟨late, next⟩ : Site _ _ _).ledger.waiting handle id ∨
      loop.owner? handle ≠ some id ∨ .remove { handle } ∈ (⟨late, next⟩ : Site _ _ _).ahead) :
    Kempt ⟨⟨late, next⟩, held, asking⟩ ∧
      Effect service ⟨⟨loop, stage⟩, flushing, asking⟩ history ⟨⟨late, next⟩, held, asking⟩ := by
  refine ⟨⟨?_, idle, ?_, ?_, ?_, sincere, ?_, fun dead => ?_⟩, .aside ⟨table, sessions, nextSession,
    ⟨[], by rw [ahead, List.append_nil], rfl⟩, ⟨[], inbox.trans (List.append_nil _).symm, rfl⟩,
    fun _ plea inside => .inl inside, ?_, waiting⟩⟩
  · intro handle event found
    rw [Loop.lookup, table] at found
    exact kempt.filed handle event found
  · rw [inbox]
    exact kempt.inbox
  · rw [sessions]
    exact kempt.silent
  · rw [sessions]
    exact kempt.numbered
  · intro _
    rw [sessions]
    exact kempt.present alive
  · cases dead.symm.trans (lives.trans alive)
  · intro handle id
    exact Nat.le_of_eq (by rw [told, Nat.zero_add])

/-- What somebody sends that brings nothing goes into the inbox, or nowhere when the loop is
gone. -/
theorem carryOut_inbox (service : Service M D) (loop : ServerLoop M D)
    {order : Order (Endpoint M) Empty} (brings : order.BringsNothing) :
    (loop.carryOut service.conduct order).table = loop.table ∧
      (loop.carryOut service.conduct order).changes = loop.changes ∧
      (loop.carryOut service.conduct order).world = loop.world ∧
      (loop.carryOut service.conduct order).alive = loop.alive ∧
      (loop.carryOut service.conduct order).agenda = loop.agenda ∧
      (loop.carryOut service.conduct order).inbox =
        loop.inbox ++ if loop.alive then order.change?.toList else [] := by
  cases order with
  | stop => cases alive : loop.alive <;> simp [Loop.carryOut, Loop.wake, Order.change?, alive]
  | wake => cases alive : loop.alive <;> simp [Loop.carryOut, Loop.wake, Order.change?, alive]
  | change change =>
    cases alive : loop.alive with
    | true => simp [Loop.carryOut, Loop.submit, Loop.wake, Order.change?, alive]
    | false =>
      have nothing := brings change rfl
      cases change with
      | add => cases nothing
      | _ => simp [Loop.carryOut, Loop.submit, alive]

omit [Message M] in
private theorem waiting_of_agenda {early late : ServerLoop M D} (same : late.agenda = early.agenda)
    (handle : Handle) (id : UInt64) :
    (⟨early, stage⟩ : Site _ _ _).ledger.waiting handle id =
      (⟨late, stage⟩ : Site _ _ _).ledger.waiting handle id := by
  simp only [Site.ledger, Loop.waiting, same]

/-- Whatever is sent that brings nothing leaves a scene in order. What is no longer to be sent
has been sent. -/
theorem Kempt.sent (kempt : Kempt ⟨⟨loop, stage⟩, flushing, asking⟩) (service : Service M D)
    {order : Order (Endpoint M) Empty} (brings : order.BringsNothing) {asks : List Plea}
    {history : List Incident}
    (kept : ∀ plea ∈ asking, plea ∈ asks ∨ order.change? = some plea.change)
    (told : ∀ handle id, history.count (.queued handle id) + asks.count (.remove handle id) ≤
      asking.count (.remove handle id)) :
    Kempt ⟨⟨loop.carryOut service.conduct order, stage⟩, flushing, asks⟩ ∧
      Effect service ⟨⟨loop, stage⟩, flushing, asking⟩ history
        ⟨⟨loop.carryOut service.conduct order, stage⟩, flushing, asks⟩ := by
  obtain ⟨table, changes, world, lives, agenda, inbox⟩ := carryOut_inbox service loop brings
  have nobody : Loop.eventsIn (if loop.alive then order.change?.toList else []) = [] := by
    refine Loop.eventsIn_eq_nil.2 fun change inside => brings change ?_
    split at inside
    · exact Option.mem_toList.1 inside
    · cases inside
  refine ⟨⟨?_, fun quiet => ?_, ?_, ?_, ?_, ?_, fun alive => ?_, fun dead => ?_⟩, .aside ⟨table,
    congrArg Premises.sessions world, congrArg Premises.nextSession world, ⟨[], ?_, rfl⟩,
    ⟨_, inbox, nobody⟩, fun alive plea inside => (kept plea inside).imp_right fun sent => ?_, told,
    fun handle id => .inl (Nat.le_of_eq (waiting_of_agenda agenda handle id))⟩⟩
  · intro handle event found
    rw [Loop.lookup, table] at found
    exact kempt.filed handle event found
  · exact (congrArg Changes.pending changes).trans (kempt.idle quiet)
  · refine (congrArg Loop.eventsIn inbox).trans ?_
    rw [Loop.eventsIn_append, kempt.inbox, List.nil_append]
    exact nobody
  · exact (congrArg (fun world => world.sessions.pleas) world).trans kempt.silent
  · rw [world]
    exact kempt.numbered
  · intro handle removed
    rw [changes] at removed ⊢
    exact kempt.sincere handle removed
  · rw [world]
    exact kempt.present (lives ▸ alive)
  · obtain ⟨free, resting, empty⟩ := kempt.ended (lives ▸ dead)
    refine ⟨table.trans free, resting, inbox.trans ?_⟩
    have gone : loop.alive = false := lives ▸ dead
    rw [empty, gone]
    rfl
  · simp only [Site.ahead, changes, List.append_nil]
  · have lives : loop.alive = true := alive
    rw [inbox, if_pos lives, sent]
    exact List.mem_append_right _ (List.mem_singleton.2 rfl)

end Scene

end EventLoop
