import EventLoop.Proofs.Server.Effects

/-! Every step of a chronicle has one of the six effects and leaves the scene in order. The steps
of the loop's own thread that apply a change, ring an alarm or hear a notice are taken one by one;
the others move things along. Scenes are in order from the eve of a chronicle on, so what every
effect keeps holds all along. -/
namespace EventLoop

variable {M D : Type}

namespace Scene

variable [Message M] {service : Service M D} {loop : ServerLoop M D}
  {stage next : Stage (Endpoint M) Empty} {flushing : Option Handle} {asking : List Plea}

/-! ## The loop's own thread -/

omit [Message M] in
/-- Nothing comes into an inbox that is left alone. -/
theorem nothing_queued (loop : ServerLoop M D) (handle : Handle) (id : UInt64) :
    (loop.arrivals loop).count (.queued handle id) = 0 := by
  rw [Loop.arrivals_none rfl]
  rfl

/-- A change is taken out of the inbox and applied. -/
theorem Kempt.takes (kempt : Kempt ⟨⟨loop, .draining⟩, none, asking⟩) (alive : loop.alive = true)
    (service : Service M D) {change : Change (Endpoint M) Empty}
    {rest : List (Change (Endpoint M) Empty)} (inbox : loop.inbox = change :: rest) :
    let late : Site (Endpoint M) Empty (Premises D) :=
      ⟨({ loop with inbox := rest }).apply service.conduct change, .draining⟩
    Kempt ⟨late, none, asking⟩ ∧ Effect service ⟨⟨loop, .draining⟩, none, asking⟩
      (Site.incidents ⟨loop, .draining⟩ late) ⟨late, none, asking⟩ := by
  have brings : Loop.eventsIn rest = [] := by
    have none := kempt.inbox
    rw [inbox, Loop.eventsIn_cons] at none
    exact (List.append_eq_nil_iff.1 none).2
  have idle : loop.changes.pending = [] := kempt.idle trivial
  have moved : ({ loop with inbox := rest }).apply service.conduct change =
      { loop.apply service.conduct change with inbox := rest } := Loop.apply_inbox rest loop change
  have shorter : loop.arrivals ({ loop with inbox := rest }.apply service.conduct change) = [] := by
    have gone : rest.drop (change :: rest).length = [] :=
      List.drop_eq_nil_of_le (Nat.le_succ rest.length)
    rw [Loop.arrivals, moved, inbox]
    exact congrArg (List.filterMap Change.incident?) gone
  have nobody : (⟨loop, .draining⟩ : Site (Endpoint M) Empty (Premises D)).ahead = [] := by
    simp only [Site.ahead, Stage.ahead, idle, List.append_nil]
  have still : (⟨{ loop.apply service.conduct change with inbox := rest }, .draining⟩ :
      Site (Endpoint M) Empty (Premises D)).ahead = [] := by
    simp only [Site.ahead, Stage.ahead, List.append_nil]
    rw [(loop.apply_keeps service.conduct change).2.1, idle]
  simp only [Site.incidents]
  rw [shorter, moved]
  exact ⟨kempt.applied alive idle service change brings, .applied change
    (applied_of_source service kempt.filed change rfl (fun _ _ => Nat.le_refl _)
      (.inr ⟨nobody, still, .inl inbox⟩))⟩

/-- A change that was handed over is applied. -/
theorem Kempt.applies {change : Change (Endpoint M) Empty}
    {pending : List (Change (Endpoint M) Empty)} {second : Bool}
    (kempt : Kempt ⟨⟨loop, .applying (change :: pending) second⟩, none, asking⟩)
    (alive : loop.alive = true) (service : Service M D) :
    let early : Site (Endpoint M) Empty (Premises D) :=
      ⟨loop, .applying (change :: pending) second⟩
    let late : Site (Endpoint M) Empty (Premises D) :=
      ⟨loop.apply service.conduct change, .applying pending second⟩
    Kempt ⟨late, none, asking⟩ ∧
      Effect service ⟨early, none, asking⟩ (early.incidents late) ⟨late, none, asking⟩ := by
  have idle : loop.changes.pending = [] := kempt.idle trivial
  obtain ⟨inbox, changes, _⟩ := loop.apply_keeps service.conduct change
  have same : loop.apply service.conduct change =
      { loop.apply service.conduct change with inbox := loop.inbox } := by rw [← inbox]
  have label : (⟨loop, .applying (change :: pending) second⟩ :
      Site (Endpoint M) Empty (Premises D)).incidents
        ⟨loop.apply service.conduct change, .applying pending second⟩ = [] :=
    Loop.arrivals_none inbox
  have front : (⟨loop, .applying (change :: pending) second⟩ :
      Site (Endpoint M) Empty (Premises D)).ahead = change :: pending := by
    simp only [Site.ahead, Stage.ahead, idle, List.nil_append]
  have rest : (⟨loop.apply service.conduct change, .applying pending second⟩ :
      Site (Endpoint M) Empty (Premises D)).ahead = pending := by
    simp only [Site.ahead, Stage.ahead, changes, idle, List.nil_append]
  simp only
  rw [label]
  refine ⟨?_, .applied change (applied_of_source service kempt.filed change same
    (fun _ _ => Nat.le_refl _) (.inl ⟨by rw [front, rest], rfl⟩))⟩
  rw [same]
  exact kempt.applied alive idle service change kempt.inbox

/-- An alarm that is due is heard by the connection it means, or by nobody. -/
theorem Kempt.serves (discreet : service.sink.Discreet) {now : Nat} {alarm : Alarm Empty}
    {due : List (Alarm Empty)} (kempt : Kempt ⟨⟨loop, .ringing now (alarm :: due)⟩, none, asking⟩)
    (alive : loop.alive = true) :
    let early : Site (Endpoint M) Empty (Premises D) := ⟨loop, .ringing now (alarm :: due)⟩
    let late : Site (Endpoint M) Empty (Premises D) :=
      ⟨loop.serve service.conduct now alarm, .ringing now due⟩
    Kempt ⟨late, none, asking⟩ ∧
      Effect service ⟨early, none, asking⟩ (early.incidents late) ⟨late, none, asking⟩ := by
  cases alarm with
  | callback callback => cases callback
  | event handle generation =>
    have fewer (probe : Handle) (id : UInt64) :
        (Stage.ringing now (.event handle generation :: due) :
            Stage (Endpoint M) Empty).waiting probe id ≤
          (Stage.ringing now due : Stage (Endpoint M) Empty).waiting probe id ∨
        probe = handle ∧ id = generation := by
      by_cases own : probe = handle ∧ id = generation
      · exact .inr own
      · refine .inl (Nat.le_of_eq ?_)
        have other : ¬ (handle = probe ∧ generation = id) :=
          fun same => own ⟨same.1.symm, same.2.symm⟩
        simp [Stage.waiting, Alarm.means, other]
    cases roused : loop.roused? handle generation with
    | some event =>
      obtain ⟨_, found, rfl⟩ := Loop.roused?_eq_some.1 roused
      rw [Loop.serve_of_roused service.conduct now roused]
      exact kempt.notified discreet alive found id id fun probe id =>
        (fewer probe id).imp_right fun own => ⟨rfl, own⟩
    | none =>
      rw [Loop.serve_of_unroused service.conduct now roused]
      refine kempt.still alive service rfl rfl rfl rfl rfl rfl (fun quiet => quiet.elim)
        kempt.sincere (nothing_queued loop) fun probe id => ?_
      rcases fewer probe id with less | ⟨rfl, rfl⟩
      · exact .inl (ledger_le (Nat.le_refl _) less)
      · right
        by_cases owned : loop.owner? probe = some id
        · obtain ⟨event, found, same⟩ := Option.map_eq_some_iff.1 owned
          have removed : loop.changes.isRemoved probe = true := by
            by_contra kept
            have heard := Loop.roused?_eq_some.2 ⟨Bool.eq_false_iff.2 kept, found, same⟩
            cases roused.symm.trans heard
          exact .inr (List.mem_append_left _ (kempt.sincere probe removed))
        · exact .inl owned

/-- Every step of the loop's own thread has one of the effects. -/
theorem Kempt.thread (discreet : service.sink.Discreet)
    {early late : Site (Endpoint M) Empty (Premises D)} {deeds : List Deed}
    (kempt : Kempt ⟨early, none, asking⟩) (alive : early.loop.alive = true)
    (step : Site.Step service.conduct early deeds late) :
    Kempt ⟨late, none, asking⟩ ∧
      Effect service ⟨early, none, asking⟩ (early.incidents late) ⟨late, none, asking⟩ := by
  cases step with
  | begin loop =>
    exact kempt.still alive service rfl rfl rfl rfl rfl rfl (fun _ => kempt.idle trivial)
      kempt.sincere (fun _ _ => rfl) fun _ _ => .inl (Nat.le_refl _)
  | take inbox => exact kempt.takes alive service inbox
  | poll inbox prompt timeout entries queue =>
    refine kempt.still alive service rfl ?_ ?_ rfl rfl rfl (fun quiet => quiet.elim) kempt.sincere
      (nothing_queued _) fun _ _ => .inl (Nat.le_refl _)
    · simp only [Service.conduct]
      split <;> rfl
    · simp only [Service.conduct]
      split <;> rfl
  | pollFails inbox =>
    exact kempt.still alive service rfl rfl rfl rfl rfl rfl (fun _ => kempt.idle trivial)
      kempt.sincere (fun _ _ => rfl) fun _ _ => .inl (Nat.le_refl _)
  | @pass loop entry entries unheard =>
    have same : loop.passOver service.conduct entry = loop := by
      unfold Loop.passOver
      split
      · rfl
      · split <;> rfl
    rw [same]
    exact kempt.still alive service rfl rfl rfl rfl rfl rfl (fun quiet => quiet.elim) kempt.sincere
      (nothing_queued loop) fun _ _ => .inl (Nat.le_refl _)
  | hear entries heard input =>
    exact kempt.notified discreet alive (Loop.lookup_of_hearer? heard) id id
      fun _ _ => .inl (Nat.le_refl _)
  | hearNothing entries heard input =>
    exact kempt.still alive service rfl rfl rfl rfl rfl rfl (fun quiet => quiet.elim) kempt.sincere
      (nothing_queued _) fun _ _ => .inl (Nat.le_refl _)
  | @answer loop handle entries kept =>
    cases found : loop.lookup handle with
    | some event =>
      exact kempt.notified discreet alive found id id fun _ _ => .inl (Nat.le_refl _)
    | none =>
      rw [Loop.notify_missing service.conduct .writable found]
      exact kempt.still alive service rfl rfl rfl rfl rfl rfl (fun quiet => quiet.elim)
        kempt.sincere (nothing_queued loop) fun _ _ => .inl (Nat.le_refl _)
  | answerNothing entries silent =>
    exact kempt.still alive service rfl rfl rfl rfl rfl rfl (fun quiet => quiet.elim) kempt.sincere
      (nothing_queued _) fun _ _ => .inl (Nat.le_refl _)
  | handOver loop =>
    exact kempt.still alive service rfl rfl rfl rfl rfl (List.append_nil _).symm (fun _ => rfl)
      (fun _ removed => by cases removed) (nothing_queued _) fun _ _ => .inl (Nat.le_refl _)
  | apply loop change pending second => exact kempt.applies alive service
  | ring loop =>
    refine kempt.still alive service rfl rfl rfl rfl rfl rfl (fun quiet => quiet.elim)
      kempt.sincere (nothing_queued _) fun handle id => .inl (Nat.le_of_eq ?_)
    have rings : Site.Accounts ⟨loop, .applying [] false⟩ []
        ⟨{ (loop.readClock service.conduct).2 with
          agenda := (loop.agenda.expired (loop.readClock service.conduct).1).2 },
          .ringing (loop.readClock service.conduct).1
            (loop.agenda.expired (loop.readClock service.conduct).1).1⟩ :=
      Site.accounts_ring kempt.filed rfl rfl
    have same := rings.follows.eq
    exact congrFun (congrFun (congrArg Ledger.waiting same) handle) id
  | serve loop now alarm due => exact kempt.serves discreet alive
  | silence loop now =>
    exact kempt.still alive service rfl rfl rfl rfl rfl (List.append_nil _).symm (fun _ => rfl)
      (fun _ removed => by cases removed) (nothing_queued _) fun _ _ => .inl (Nat.le_refl _)
  | rest loop =>
    exact kempt.still alive service rfl rfl rfl rfl rfl rfl (fun _ => kempt.idle trivial)
      kempt.sincere (fun _ _ => rfl) fun _ _ => .inl (Nat.le_refl _)

/-! ## Everybody else -/

omit [Message M] in
theorem order_brings_nothing (plea : Plea) :
    (plea.order : Order (Endpoint M) Empty).BringsNothing := by
  intro change sent
  cases sent
  cases plea <;> rfl

/-- What is told of a plea that is sent. -/
theorem told_of_plea (service : Service M D) (loop : ServerLoop M D) (plea : Plea)
    (handle : Handle) (id : UInt64) :
    (loop.arrivals (loop.carryOut service.conduct plea.order)).count (.queued handle id) ≤
      [plea].count (.remove handle id) := by
  obtain ⟨_, _, _, _, _, inbox⟩ := carryOut_inbox service loop (order_brings_nothing (M := M) plea)
  rw [Loop.arrivals_append inbox]
  cases loop.alive with
  | false => exact Nat.zero_le _
  | true =>
    cases plea with
    | rearm other generation interest => exact Nat.zero_le _
    | remove other generation =>
      by_cases same : other = handle ∧ generation = id
      · obtain ⟨rfl, rfl⟩ := same
        simp [Plea.order, Plea.change, Order.change?, Change.incident?]
      · simp [Plea.order, Plea.change, Order.change?, Change.incident?, same]

/-- A connection gathers what waits in its session, and has still to write it. -/
theorem Kempt.gathers {handle : Handle} {entries : List Ready}
    (kempt : Kempt ⟨⟨loop, .answering handle true entries⟩, none, asking⟩)
    (service : Service M D) (alive : loop.alive = true) {event : Event (Endpoint M)}
    {connection : Connection M} (found : loop.lookup handle = some event)
    (body : event.body = .connection connection) :
    let late : Scene M D :=
      ⟨⟨loop.gather handle event connection, .answering handle true entries⟩, some handle, asking⟩
    Kempt late ∧
      Effect service ⟨⟨loop, .answering handle true entries⟩, none, asking⟩ [] late := by
  have silent : (Service.gather connection loop.world).2.sessions.pleas = [] :=
    (Sessions.pleas_takeOutbound _ _).trans kempt.silent
  have behaves := behaves_gather handle connection kempt.numbered
  have heard : Heard ⟨⟨loop, .answering handle true entries⟩, none, asking⟩ []
      ⟨⟨loop.gather handle event connection, .answering handle true entries⟩, some handle, asking⟩
      .writable handle event connection
      { connection := (Service.gather connection loop.world).1
        premises := (Service.gather connection loop.world).2 } := by
    refine ⟨found, body, behaves, rfl, (Sessions.takePleas_of_silent silent).symm, rfl,
      (List.append_nil _).symm, ?_, rfl, ?_, fun _ _ => .inl (Nat.le_refl _)⟩
    · rw [silent]
      exact (List.append_nil _).symm
    · rw [silent]
      rfl
  refine ⟨⟨?_, fun quiet => quiet.elim, kempt.inbox, silent, behaves.lasts.numbered,
    kempt.sincere, fun _ => behaves.lasts.loopGone.trans (kempt.present alive),
    fun dead => ?_⟩, .heard heard⟩
  · intro probe other there
    have there := (loop.table.get?_insert handle probe _).symm.trans there
    split at there
    · next same =>
      cases there
      exact (kempt.filed _ _ found).trans same.symm
    · exact kempt.filed probe other there
  · cases alive.symm.trans dead

/-- What is asked for in the middle of a turn and brings nothing waits for its end. -/
theorem Kempt.petitioned (kempt : Kempt ⟨⟨loop, stage⟩, none, asking⟩) (service : Service M D)
    (busy : ¬ stage.IsQuiet) {requests : List (Request (Endpoint M))}
    (brings : ∀ request ∈ requests, request.BringsNothing) :
    let late : Scene M D :=
      ⟨⟨{ loop with changes := requests.foldl Changes.request loop.changes }, stage⟩, none, asking⟩
    Kempt late ∧ Effect service ⟨⟨loop, stage⟩, none, asking⟩ [] late := by
  have nobody : Loop.eventsIn (C := Empty) (requests.map Request.change) = [] := by
    refine Loop.eventsIn_eq_nil.2 fun change inside => ?_
    obtain ⟨request, isRequest, rfl⟩ := List.mem_map.1 inside
    exact brings request isRequest
  refine ⟨⟨kempt.filed, fun quiet => absurd quiet busy, kempt.inbox, kempt.silent,
    kempt.numbered, ?_, kempt.present, kempt.ended⟩, .aside ⟨rfl, rfl, rfl,
    ⟨_, ?_, nobody⟩, ⟨[], (List.append_nil _).symm, rfl⟩, fun _ _ inside => .inl inside,
    fun _ _ => Nat.le_of_eq (Nat.zero_add _), fun _ _ => .inl (Nat.le_refl _)⟩⟩
  · intro handle removed
    rw [Changes.pending_foldl]
    rcases (Changes.isRemoved_foldl _ _ _).1 removed with before | asked
    · exact List.mem_append_left _ (kempt.sincere handle before)
    · exact List.mem_append_right _ (List.mem_map.2 ⟨_, asked, rfl⟩)
  · simp only [Site.ahead, ahead_of_busy busy, Changes.pending_foldl, List.append_nil]

/-- **Every step of a chronicle has one of the effects**, and leaves the scene in order. -/
theorem Kempt.passes (discreet : service.sink.Discreet) {early late : Scene M D}
    {history : List Incident} (kempt : Kempt early) (passes : Passes service early history late) :
    Kempt late ∧ Effect service early history late := by
  cases passes with
  | thread alive step => exact kempt.thread discreet alive step
  | gather alive found body opened kept => exact kempt.gathers service alive found body
  | @flush loop handle entries asking event connection alive found body =>
    have behaves := behaves_flushOut event connection kempt.numbered
    rw [kempt.filed _ _ found] at behaves
    exact kempt.hears alive found body id id behaves fun _ _ => .inl (Nat.le_refl _)
  | @act loop stage flushing asking sessions act roster =>
    obtain ⟨lasts, asks⟩ := Sessions.lasts_of_acts (.act (.none _) act) kempt.numbered
    have acted : Acted ⟨⟨loop, stage⟩, flushing, asking⟩
        ⟨⟨{ loop with world := { loop.world with sessions := sessions.takePleas.2 } }, stage⟩,
          flushing, asking ++ sessions.takePleas.1⟩ sessions :=
      ⟨lasts, asks, roster, rfl, rfl, rfl, rfl, rfl, rfl, fun _ _ => rfl⟩
    exact ⟨⟨kempt.filed, kempt.idle, kempt.inbox, rfl, lasts.numbered, kempt.sincere,
      fun alive => lasts.loopGone.trans (kempt.present alive), kempt.ended⟩, .acted acted⟩
  | @ask loop stage flushing before plea after =>
    refine kempt.sent service (order_brings_nothing plea) (fun other inside => ?_)
      fun handle id => ?_
    · rcases List.mem_append.1 inside with early | late
      · exact .inl (List.mem_append_left _ early)
      · rcases List.mem_cons.1 late with rfl | late
        · exact .inr rfl
        · exact .inl (List.mem_append_right _ late)
    · have told := told_of_plea service loop plea handle id
      simp only [List.count_append, List.count_cons, List.count_nil] at told ⊢
      omega
  | order order brings =>
    exact kempt.sent service brings (fun _ inside => .inl inside)
      fun _ _ => Nat.le_of_eq (Nat.zero_add _)
  | @call loop asking alive change brings =>
    obtain ⟨inbox, changes, _⟩ := loop.apply_keeps service.conduct change
    have idle : loop.changes.pending = [] := kempt.idle trivial
    have same : loop.apply service.conduct change =
        { loop.apply service.conduct change with inbox := loop.inbox } := by rw [← inbox]
    have nobody : (⟨loop, .resting⟩ : Site (Endpoint M) Empty (Premises D)).ahead = [] := by
      simp only [Site.ahead, Stage.ahead, idle, List.append_nil]
    have still : (⟨loop.apply service.conduct change, .resting⟩ :
        Site (Endpoint M) Empty (Premises D)).ahead = [] := by
      simp only [Site.ahead, Stage.ahead, changes, idle, List.append_nil]
    refine ⟨?_, .applied change (applied_of_source service kempt.filed change same
      (fun _ _ => Nat.le_refl _) (.inr ⟨nobody, still, .inr ⟨rfl, brings⟩⟩))⟩
    rw [same]
    exact kempt.applied alive idle service change kempt.inbox
  | petition alive busy requests brings => exact kempt.petitioned service busy brings
  | @elsewhere loop stage flushing asking premises sessions nextSession queue =>
    refine ⟨⟨kempt.filed, kempt.idle, kempt.inbox, ?_, ?_, kempt.sincere, fun alive => ?_,
      kempt.ended⟩, .aside ⟨rfl, sessions, nextSession, ⟨[], (List.append_nil _).symm, rfl⟩,
      ⟨[], (List.append_nil _).symm, rfl⟩, fun _ _ inside => .inl inside,
      fun _ _ => Nat.le_of_eq (Nat.zero_add _), fun _ _ => .inl (Nat.le_refl _)⟩⟩
    · rw [sessions]
      exact kempt.silent
    · rw [sessions]
      exact kempt.numbered
    · rw [sessions]
      exact kempt.present alive
  | dismiss alive => exact kempt.dismissed service

/-! ## The beginning -/

/-- The scene in which the listener has still to be added. -/
def eve (handle : Handle) (loop : ServerLoop M D) : Scene M D :=
  ⟨⟨{ loop with world := { loop.world with started := true } },
    .applying [.add { handle, source := Network.doorSource, body := .listener } .accept] true⟩,
    none, []⟩

/-- A chronicle that starts when a server begins to listen goes on from the eve of that. -/
theorem Chronicle.since_eve {handle : Handle} {scene : Scene M D} {history : List Incident}
    (chronicle : Chronicle service (opening service handle loop) history scene)
    (pristine : Pristine loop) :
    Chronicle service (eve handle loop) (.rested :: history) scene := by
  have opens : opening service handle loop =
      ⟨⟨{ loop with world := { loop.world with started := true } }.apply service.conduct
        (.add { handle, source := Network.doorSource, body := .listener } .accept), .resting⟩, none,
        []⟩ := by
    unfold opening Service.start
    rw [pristine.unstarted]
    rfl
  have alive : (eve handle loop).site.loop.alive = true := pristine.alive
  have applies : Site.Step service.conduct (eve handle loop).site _ _ :=
    .apply { loop with world := { loop.world with started := true } }
      (.add { handle, source := Network.doorSource, body := .listener } .accept) [] true
  have rests : Site.Step service.conduct _ _ _ :=
    .rest ({ loop with world := { loop.world with started := true } }.apply service.conduct
      (.add { handle, source := Network.doorSource, body := .listener } .accept))
  have added : Chronicle service (eve handle loop) _ _ :=
    (Chronicle.start.step (.thread alive applies)).step (.thread (applies.lives alive) rests)
  have silent : (eve handle loop).site.incidents
      ⟨{ loop with world := { loop.world with started := true } }.apply service.conduct
        (.add { handle, source := Network.doorSource, body := .listener } .accept),
        .applying [] true⟩ = [] :=
    Loop.arrivals_none (Loop.apply_keeps service.conduct _ _).1
  rw [opens] at chronicle
  have whole := added.trans chronicle
  rw [silent] at whole
  exact whole

omit [Message M] in
theorem Pristine.kempt (pristine : Pristine loop) (handle : Handle) :
    Kempt (eve handle loop) where
  filed probe event found := by
    have free : (eve handle loop).site.loop.table = {} := pristine.table
    rw [Loop.lookup, free] at found
    cases found
  idle _ := pristine.pending
  inbox := congrArg Loop.eventsIn pristine.inbox
  silent := pristine.silent
  numbered key session found := by
    have empty : (eve handle loop).site.loop.world.sessions.book = {} := pristine.book
    rw [Sessions.get?, empty] at found
    cases found
  sincere probe removed := by
    have none : (eve handle loop).site.loop.changes.removed = [] := pristine.removed
    rw [Changes.isRemoved, none] at removed
    cases removed
  present _ := pristine.here
  ended dead := by cases dead.symm.trans pristine.alive

/-- A scene that is in order stays in order, and what every effect keeps holds all along. -/
theorem Kempt.along {motive : List Incident → Scene M D → Prop} (discreet : service.sink.Discreet)
    {start scene : Scene M D} {history : List Incident} (kempt : Kempt start)
    (chronicle : Chronicle service start history scene) (initially : motive [] start)
    (kept : ∀ before early more late, Kempt early → Kempt late → motive before early →
      Passes service early more late → Effect service early more late →
        motive (before ++ more) late) : Kempt scene ∧ motive history scene :=
  chronicle.keeps (motive := fun history scene => Kempt scene ∧ motive history scene)
    (fun before early more late sound passes => by
      obtain ⟨kempt, effect⟩ := sound.1.passes discreet passes
      exact ⟨kempt, kept before early more late sound.1 kempt sound.2 passes effect⟩)
    ⟨kempt, initially⟩

/-- **A scene is in order all along**, and what holds on the eve and is kept by every effect
holds all along. -/
theorem Chronicle.holds {motive : Scene M D → Prop} (discreet : service.sink.Discreet)
    {handle : Handle} {scene : Scene M D} {history : List Incident} (pristine : Pristine loop)
    (chronicle : Chronicle service (opening service handle loop) history scene)
    (initially : motive (eve handle loop))
    (kept : ∀ early more late, Kempt early → Kempt late → motive early →
      Effect service early more late → motive late) : Kempt scene ∧ motive scene :=
  (pristine.kempt handle).along (motive := fun _ scene => motive scene) discreet
    (chronicle.since_eve pristine) initially
    fun _ early more late kempt keptLate held _ effect =>
      kept early more late kempt keptLate held effect

end Scene

end EventLoop
