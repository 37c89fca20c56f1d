import EventLoop.Proofs.Loop.Conservation
import EventLoop.Proofs.Server.Outlets
import EventLoop.Proofs.Session.Memberships

/-! How connections come and go, and how they behave in between, as far as sessions are
concerned. Admitting gives a newcomer a session, and the end of a connection closes it and
strikes it off. In between a connection hands what it reads to the sink, which reaches
sessions by acts and leaves the roster alone; it closes no session but its own, and then
asks to be removed; and if it stops reading for want of tokens, it asks for an alarm. -/
namespace EventLoop

variable {M D : Type}

/-- The connection that an event is, as far as its session is concerned. -/
def Event.member? (event : Event (Endpoint M)) : Option Member :=
  match event.body with
  | .listener => none
  | .connection connection => some ⟨event.handle, event.generation, connection.session⟩

theorem Event.member?_idle (event : Event (Endpoint M)) : event.idle.member? = event.member? := rfl

/-! ## Ending -/

/-- What the ends of objects do to sessions. -/
structure Service.Parts (early : Premises D) (ended : List (Event (Endpoint M)))
    (late : Premises D) : Prop where
  lasts : early.sessions.Lasts late.sessions
  pleas : late.sessions.pleas = early.sessions.pleas
  count : late.sessions.count ≤ early.sessions.count
  next : late.nextSession = early.nextSession
  closed : ∀ key session later, early.sessions.get? key = some session →
    late.sessions.get? key = some later → later.closed = true →
      session.closed = true ∨ key ∈ (ended.filterMap Event.member?).map Member.key
  mirrors : ∀ members, early.sessions.Mirrors (ended.filterMap Event.member? ++ members)
    early.nextSession → late.sessions.Mirrors members late.nextSession

private theorem Service.Parts.of_same {early late : Premises D} (numbered : early.sessions.Numbered)
    (sessions : late.sessions = early.sessions) (next : late.nextSession = early.nextSession) :
    Service.Parts (M := M) early [] late where
  lasts := by rw [sessions]; exact .refl numbered
  pleas := by rw [sessions]
  count := Nat.le_of_eq (by rw [sessions])
  next := next
  closed key session later found foundLater closed := by
    rw [sessions] at foundLater
    cases found.symm.trans foundLater
    exact .inl closed
  mirrors members mirrors := by
    rw [sessions, next]
    exact mirrors

private theorem Service.Parts.trans {early middle late : Premises D}
    {ended more : List (Event (Endpoint M))} (first : Service.Parts early ended middle)
    (second : Service.Parts middle more late) : Service.Parts early (ended ++ more) late where
  lasts := first.lasts.trans second.lasts
  pleas := second.pleas.trans first.pleas
  count := Nat.le_trans second.count first.count
  next := second.next.trans first.next
  closed key session later found foundLater closed := by
    obtain ⟨between, foundBetween, _⟩ := first.lasts.kept key session found
    rw [List.filterMap_append, List.map_append, List.mem_append]
    rcases second.closed key between later foundBetween foundLater closed with before | inside
    · exact (first.closed key session between found foundBetween before).imp_right .inl
    · exact .inr (.inr inside)
  mirrors members mirrors := by
    rw [List.filterMap_append, List.append_assoc] at mirrors
    exact second.mirrors members (first.mirrors _ mirrors)

/-- The end of an object: that of a connection closes its session and strikes it off. -/
theorem endEndpoint_parts (event : Event (Endpoint M)) {premises : Premises D}
    (numbered : premises.sessions.Numbered) :
    Service.Parts premises [event] (Service.endEndpoint event premises) := by
  unfold Service.endEndpoint
  split
  · next body =>
    have outsider : [event].filterMap Event.member? = [] := by
      simp only [List.filterMap_cons, List.filterMap_nil, Event.member?, body]
    have same : Service.Parts (M := M) premises []
      { premises with network := premises.network.closeDoor } := .of_same numbered rfl rfl
    obtain ⟨lasts, pleas, count, next, closed, mirrors⟩ := same
    refine ⟨lasts, pleas, count, next, ?_, ?_⟩
    · rw [outsider]
      exact closed
    · rw [outsider]
      exact mirrors
  · next connection body =>
    have own : [event].filterMap Event.member? =
        [⟨event.handle, event.generation, connection.session⟩] := by
      simp only [List.filterMap_cons, List.filterMap_nil, Event.member?, body]
    obtain ⟨marked, asks⟩ := Sessions.lasts_markClosed connection.session numbered
    obtain ⟨struck, _⟩ := Sessions.lasts_roster
      ((premises.sessions.markClosed connection.session).roster.erase event.generation)
      marked.numbered none
    refine ⟨marked.trans struck, Sessions.pleas_markClosed _ _, ?_, rfl, ?_, ?_⟩
    · have same := Sessions.roster_markClosed connection.session premises.sessions
      exact Nat.le_trans (List.length_filter_le _ _) (Nat.le_of_eq (congrArg Keyed.size same))
    · intro key session later found foundLater closed
      rw [own]
      by_cases here : key = connection.session
      · exact .inr (List.mem_singleton.2 here)
      · have same : (premises.sessions.markClosed connection.session).get? key = some later :=
          foundLater
        rw [Sessions.get?_markClosed here] at same
        cases found.symm.trans same
        exact .inl closed
    · intro members mirrors
      rw [own] at mirrors
      exact mirrors.ends

/-- The objects of a server end so, and nothing else that a loop does to them moves sessions. -/
theorem Service.reckons [Message M] (service : Service M D) :
    service.conduct.Reckons fun early ended late =>
      early.sessions.Numbered → Service.Parts early ended late where
  still _ numbered := .of_same numbered rfl rfl
  trans first second numbered := (first numbered).trans (second (first numbered).lasts.numbered)
  call call _ world numbered := by
    cases call with
    | register token wanted => exact .of_same numbered rfl rfl
    | reregister token wanted => exact .of_same numbered rfl rfl
    | deregister => exact .of_same numbered rfl rfl
  destroy event _ numbered := endEndpoint_parts event numbered
  clock _ numbered := .of_same numbered rfl rfl

/-! ## Admitting -/

/-- What admitting visitors does. Whoever was there is as before, and who comes has a session
that is open, and a connection that waits to be added. -/
structure Service.Admission (service : Service M D) (early : Premises D)
    (requests : List (Request (Endpoint M))) (late : Premises D) : Prop where
  loopGone : late.sessions.loopGone = early.sessions.loopGone
  pleas : late.sessions.pleas = early.sessions.pleas
  numbered : late.sessions.Numbered
  given : early.sessions.given <+: late.sessions.given
  kept : ∀ key session, early.sessions.get? key = some session →
    late.sessions.get? key = some session
  opened : ∀ key session, early.sessions.get? key = none →
    late.sessions.get? key = some session → session.closed = false
  ceased : ∀ handle id, late.sessions.ceased handle id = early.sessions.ceased handle id
  count : ∀ limit, service.settings.maxConnections = some limit →
    early.sessions.count ≤ limit.toNat → late.sessions.count ≤ limit.toNat
  newcomers : ∀ request ∈ requests, ∃ event connection, request = .add event .readable ∧
    event.body = .connection connection ∧ connection.throttled = false
  fresh : ∀ member ∈ (Loop.eventsIn (C := Empty) (requests.map Request.change)).filterMap
    Event.member?, early.sessions.get? member.key = none
  mirrors : ∀ members, early.sessions.Mirrors members early.nextSession →
    late.sessions.Mirrors ((Loop.eventsIn (C := Empty) (requests.map Request.change)).filterMap
      Event.member? ++ members) late.nextSession

theorem Service.Admission.refl (service : Service M D) {premises : Premises D}
    (numbered : premises.sessions.Numbered) : service.Admission premises [] premises where
  loopGone := rfl
  pleas := rfl
  numbered := numbered
  given := List.prefix_rfl
  kept _ _ found := found
  opened _ _ missing found := by cases missing.symm.trans found
  ceased _ _ := rfl
  count _ _ within := within
  newcomers _ none := by cases none
  fresh _ none := by cases none
  mirrors _ mirrors := mirrors

private theorem Service.Admission.trans {service : Service M D} {early middle late : Premises D}
    {requests more : List (Request (Endpoint M))} (first : service.Admission early requests middle)
    (second : service.Admission middle more late) :
    service.Admission early (requests ++ more) late where
  loopGone := second.loopGone.trans first.loopGone
  pleas := second.pleas.trans first.pleas
  numbered := second.numbered
  given := first.given.trans second.given
  kept key session found := second.kept key session (first.kept key session found)
  opened key session missing found := by
    cases between : middle.sessions.get? key with
    | none => exact second.opened key session between found
    | some other =>
      cases found.symm.trans (second.kept key other between)
      exact first.opened key session missing between
  ceased handle id := (second.ceased handle id).trans (first.ceased handle id)
  count limit limited within := second.count limit limited (first.count limit limited within)
  newcomers request inside :=
    (List.mem_append.1 inside).elim (first.newcomers request) (second.newcomers request)
  fresh member inside := by
    rw [List.map_append, Loop.eventsIn, List.filterMap_append, List.filterMap_append] at inside
    rcases List.mem_append.1 inside with earlier | later
    · exact first.fresh member earlier
    · cases found : early.sessions.get? member.key with
      | none => rfl
      | some session =>
        cases (second.fresh member later).symm.trans (first.kept _ session found)
  mirrors members mirrors := by
    have both := second.mirrors _ (first.mirrors members mirrors)
    rw [List.map_append, Loop.eventsIn, List.filterMap_append, List.filterMap_append]
    refine both.perm ?_
    rw [← List.append_assoc]
    exact List.perm_append_comm.append_right members

/-- One visitor is admitted, or turned away. -/
theorem welcome_admission (service : Service M D) (visitor : Visitor) {premises : Premises D}
    (numbered : premises.sessions.Numbered) :
    service.Admission premises (service.welcome visitor premises).1.toList
      (service.welcome visitor premises).2 := by
  unfold Service.welcome
  cases full : service.isFull premises with
  | true =>
    obtain ⟨loopGone, pleas, same, given, kept, opened, ceased, count, newcomers, fresh, mirrors⟩ :=
      Service.Admission.refl service numbered
    exact ⟨loopGone, pleas, same, given, kept, opened, ceased, count, newcomers, fresh, mirrors⟩
  | false =>
    have enters := Sessions.enters_enlist numbered visitor.peer visitor.handle premises.nextSession
    simp only [Bool.false_eq_true, ↓reduceIte]
    refine ⟨enters.loopGone, enters.pleas, enters.numbered numbered, ⟨_, enters.given.symm⟩,
      fun key session found => enters.kept numbered found, ?_, enters.ceased, ?_, ?_, ?_, ?_⟩
    · intro key session missing found
      have there := (enters.found key).symm.trans found
      split at there
      · cases there
        rfl
      · cases missing.symm.trans there
    · intro limit limited within
      have room : premises.sessions.count < limit.toNat := by
        rw [Service.isFull, limited] at full
        simpa using full
      have more : (premises.sessions.roster.insert premises.nextSession
          premises.sessions.opened).size ≤ premises.sessions.count + 1 :=
        Keyed.size_insert_le _ _ _
      exact Nat.le_trans (Nat.le_of_eq (congrArg Keyed.size enters.roster))
        (Nat.le_trans more room)
    · intro request inside
      exact ⟨_, _, List.mem_singleton.1 inside, rfl, rfl⟩
    · intro member inside
      cases List.mem_singleton.1 inside
      exact Sessions.get?_opened numbered
    · intro members mirrors
      exact mirrors.admits enters

/-- **However many come at once**, each is admitted as if it had come alone. -/
theorem welcomeAll_admission (service : Service M D) (door : List Knock) {premises : Premises D}
    (numbered : premises.sessions.Numbered) :
    service.Admission premises (service.welcomeAll door premises).1
      (service.welcomeAll door premises).2.2 := by
  induction door generalizing premises with
  | nil => exact .refl service numbered
  | cons knock rest ih =>
    cases knock with
    | interrupted => exact ih numbered
    | failed => exact .refl service numbered
    | visitor visitor =>
      have first := welcome_admission service visitor numbered
      exact first.trans (ih first.numbered)

/-! ## In between -/

/-- A sink that reaches sessions by public acts only, and leaves the roster alone as these do. -/
structure Sink.Discreet [Message M] (sink : Sink M (Sessions × D)) : Prop where
  honest : sink.Honest
  roster : ∀ group task office, (sink.submit group task office).2.1.roster = office.1.roster

/-- How sessions move under what such a sink is handed. -/
def Sessions.Discreetly (before after : Sessions) : Prop :=
  before.Numbered → Sessions.Lasts before after ∧ Sessions.Asks none before after ∧
    after.roster = before.roster

private theorem Sink.Discreet.within [Message M] {sink : Sink M (Sessions × D)}
    (discreet : sink.Discreet) : sink.Within Sessions.Discreetly where
  still sessions numbered := ⟨.refl numbered, .refl none sessions, rfl⟩
  trans first second numbered := by
    obtain ⟨lasts, asks, roster⟩ := first numbered
    obtain ⟨lastsOn, asksOn, rosterOn⟩ := second lasts.numbered
    exact ⟨lasts.trans lastsOn, asks.trans asksOn lasts lastsOn, rosterOn.trans roster⟩
  submit group task office numbered := by
    obtain ⟨lasts, asks⟩ := Sessions.lasts_of_acts (discreet.honest group task office) numbered
    exact ⟨lasts, asks, discreet.roster group task office⟩

/-- How a connection behaves when it is told of something. -/
structure Service.Behaves (notice : Notice) (handle : Handle) (connection : Connection M)
    (premises : Premises D) (response : Service.Response M D) : Prop where
  session : response.connection.session = connection.session
  lasts : premises.sessions.Lasts response.premises.sessions
  asks : premises.sessions.loopGone = false → ∀ key session later link,
    premises.sessions.get? key = some session → response.premises.sessions.get? key = some later →
      later.closed = true → later.link = some link →
        session.closed = true ∨ .remove link later.id ∈ response.premises.sessions.pleas ∨
          (key = connection.session ∧ .remove handle ∈ response.requests)
  roster : response.premises.sessions.roster = premises.sessions.roster
  next : response.premises.nextSession = premises.nextSession
  requests : ∀ request ∈ response.requests,
    Loop.sourceOf (request.change : Change (Endpoint M) Empty) = none
  patient : response.connection.throttled = true → response.connection.closing = false →
    (∃ delay, .schedule handle delay ∈ response.requests) ∨
      (notice ≠ .timer ∧ connection.throttled = true ∧ connection.closing = false)

section Behaviour

variable [Message M] {service : Service M D} {notice : Notice} {handle : Handle}
  {connection : Connection M} {premises : Premises D}

/-- Reading leaves the marks of a connection alone. -/
theorem drain_flags (sink : Sink M (Sessions × D)) (incoming : List Arrival)
    (reading : Reading M D) :
    (reading.drain sink incoming).2.2.connection.throttled = reading.connection.throttled ∧
      (reading.drain sink incoming).2.2.connection.closing = reading.connection.closing := by
  have round (incoming : List Arrival) (reading : Reading M D) :
      (reading.round sink incoming).2.2.connection.throttled = reading.connection.throttled ∧
      (reading.round sink incoming).2.2.connection.closing = reading.connection.closing := by
    obtain ⟨got, case⟩ := Reading.round_cases sink incoming reading
    generalize (reading.round sink incoming).2.2 = next at case ⊢
    cases case with
    | idle stream connection office => rw [connection]; exact ⟨rfl, rfl⟩
    | read stream decoded call connection office goesOn => rw [connection]; exact ⟨rfl, rfl⟩
  induction incoming, reading using Reading.drain_induction sink with
  | stop incoming reading pause stop =>
    rw [Reading.drain_of_stop stop]
    exact round incoming reading
  | again incoming reading again ih =>
    obtain ⟨throttled, closing⟩ := round incoming reading
    rw [Reading.drain_of_again again]
    exact ⟨ih.1.trans throttled, ih.2.trans closing⟩

omit [Message M] in
/-- A connection that ends closes its own session and asks to be removed. -/
theorem behaves_close {response : Service.Response M D}
    (behaves : Service.Behaves notice handle connection premises response) :
    Service.Behaves notice handle connection premises (Service.close handle response) := by
  unfold Service.close
  split
  · exact behaves
  · obtain ⟨marked, _⟩ := Sessions.lasts_markClosed response.connection.session
      behaves.lasts.numbered
    refine ⟨behaves.session, behaves.lasts.trans marked, ?_,
      (Sessions.roster_markClosed _ _).trans behaves.roster, behaves.next, ?_,
      fun _ open' => by cases open'⟩
    · intro here key session later link found foundLater closed linked
      by_cases own : key = connection.session
      · exact .inr (.inr ⟨own, List.mem_append_right _ (List.mem_singleton.2 rfl)⟩)
      · have apart : key ≠ response.connection.session := by rw [behaves.session]; exact own
        have before : response.premises.sessions.get? key = some later := by
          rw [← Sessions.get?_markClosed apart]
          exact foundLater
        rcases behaves.asks here key session later link found before closed linked with
          early | asked | ⟨same, _⟩
        · exact .inl early
        · exact .inr (.inl (marked.pleas _ asked))
        · exact absurd same own
    · intro request inside
      rcases List.mem_append.1 inside with earlier | last
      · exact behaves.requests request earlier
      · rw [List.mem_singleton.1 last]
        rfl

private theorem behaves_read (discreet : service.sink.Discreet) (notice : Notice)
    (event : Event (Endpoint M)) (connection : Connection M) (numbered : premises.sessions.Numbered)
    (calm : connection.throttled = false) :
    Service.Behaves notice event.handle connection premises
      (service.read event connection premises) := by
  unfold Service.read
  simp only
  generalize reads : Reading.drain service.sink _ _ = done
  obtain ⟨pause, incoming, reading⟩ := done
  obtain ⟨session, _, moved⟩ := drain_moves (discreet.within.from connection.session)
    ((premises.network.sockets.get? event.source).getD {}).incoming
    { connection, office := (premises.sessions, premises.desk), shared := premises.shared,
      clock := premises.clock, scratch := (premises.pool.acquire service.makeBuffer).1 } rfl
  obtain ⟨throttled, _⟩ := drain_flags service.sink
    ((premises.network.sockets.get? event.source).getD {}).incoming
    { connection, office := (premises.sessions, premises.desk), shared := premises.shared,
      clock := premises.clock, scratch := (premises.pool.acquire service.makeBuffer).1 }
  rw [reads] at session moved throttled
  obtain ⟨lasts, asks, roster⟩ := moved numbered
  have drained (late : Premises D) (sessions : late.sessions = reading.office.1)
      (next : late.nextSession = premises.nextSession) :
      Service.Behaves notice event.handle connection premises
        { connection := reading.connection, premises := late } := by
    refine ⟨session, ?_, ?_, ?_, next, by simp, fun slow => ?_⟩
    · rw [sessions]
      exact lasts
    · intro here key session later link found foundLater closed linked
      rw [sessions] at foundLater ⊢
      exact (asks here key session later link (by simp) found foundLater closed linked).imp_right
        .inl
    · rw [sessions]
      exact roster
    · rw [calm] at throttled
      cases throttled.symm.trans slow
  cases pause with
  | drained => exact drained _ rfl rfl
  | throttled =>
    obtain ⟨_, lasts, asks, roster, next, _, _⟩ := drained { premises with
      sessions := reading.office.1
      desk := reading.office.2
      shared := reading.shared
      clock := reading.clock } rfl rfl
    refine ⟨session, lasts, ?_, roster, next, ?_, fun _ _ => .inl ⟨_, List.mem_singleton.2 rfl⟩⟩
    · intro here key session later link found foundLater closed linked
      rcases asks here key session later link found foundLater closed linked with
        early | asked | ⟨_, none⟩
      · exact .inl early
      · exact .inr (.inl asked)
      · cases none
    · intro request inside
      rw [List.mem_singleton.1 inside]
      rfl
  | ended => exact behaves_close (drained _ rfl rfl)

omit [Message M] in
/-- Who hears nothing that matters stays as it is. -/
theorem behaves_still (numbered : premises.sessions.Numbered)
    (patient : connection.throttled = true → connection.closing = false → notice ≠ .timer) :
    Service.Behaves notice handle connection premises { connection, premises } where
  session := rfl
  lasts := .refl numbered
  asks _ _ _ _ _ found foundLater closed _ := by
    cases found.symm.trans foundLater
    exact .inl closed
  roster := rfl
  next := rfl
  requests := nofun
  patient slow opened := .inr ⟨patient slow opened, slow, opened⟩

omit [Message M] in
/-- What is gathered from a session to be written. -/
theorem behaves_gather (handle : Handle) (connection : Connection M)
    (numbered : premises.sessions.Numbered) :
    Service.Behaves .writable handle connection premises
      { connection := (Service.gather connection premises).1
        premises := (Service.gather connection premises).2 } := by
  obtain ⟨lasts, asks⟩ := Sessions.lasts_takeOutbound connection.session numbered none
  refine ⟨rfl, lasts, ?_, ?_, rfl, nofun, fun slow opened => .inr ⟨nofun, slow, opened⟩⟩
  · intro here key session later link found foundLater closed linked
    exact (asks here key session later link nofun found foundLater closed linked).imp_right .inl
  · simp only [Service.gather, Sessions.takeOutbound]
    split <;> rfl

omit [Message M] in
theorem behaves_flushOut (event : Event (Endpoint M)) (connection : Connection M)
    (numbered : premises.sessions.Numbered) :
    Service.Behaves .writable event.handle connection premises
      (Service.flushOut event connection premises) := by
  have blocked (network : Network) (outbound : List UInt8) (requests : List (Request (Endpoint M)))
      (others : ∀ request ∈ requests,
        Loop.sourceOf (request.change : Change (Endpoint M) Empty) = none) :
      Service.Behaves .writable event.handle connection premises
        { connection := { connection with outbound }, premises := { premises with network },
          requests } := by
    refine ⟨rfl, .refl numbered, ?_, rfl, rfl, others,
      fun slow opened => .inr ⟨nofun, slow, opened⟩⟩
    intro _ key session later link found foundLater closed _
    cases found.symm.trans foundLater
    exact .inl closed
  unfold Service.flushOut
  simp only
  split
  · refine blocked _ _ [.rearm event.handle .readable] fun request inside => ?_
    rw [List.mem_singleton.1 inside]
    rfl
  · exact blocked _ _ [] fun _ none => by cases none
  · exact behaves_close (blocked _ _ [] fun _ none => by cases none)

/-- **A connection behaves**, whatever it is told of. -/
theorem behaves_respond (discreet : service.sink.Discreet) (notice : Notice)
    (event : Event (Endpoint M)) (connection : Connection M)
    (numbered : premises.sessions.Numbered) :
    Service.Behaves notice event.handle connection premises
      (service.respond notice event connection premises) := by
  unfold Service.respond
  split
  · next closing =>
    exact behaves_still numbered fun _ opened => by cases opened.symm.trans closing
  · cases notice with
    | readable =>
      simp only
      split
      · exact behaves_still numbered fun _ _ => nofun
      · next calm => exact behaves_read discreet _ event connection numbered (by simpa using calm)
    | timer =>
      obtain ⟨session, lasts, asks, roster, next, requests, patient⟩ :=
        behaves_read discreet .timer event { connection with throttled := false }
          numbered rfl
      refine ⟨session, lasts, asks, roster, next, requests, fun slow opened => ?_⟩
      rcases patient slow opened with asked | ⟨untimed, _⟩
      · exact .inl asked
      · exact absurd rfl untimed
    | writable =>
      have gathered := behaves_gather event.handle connection numbered
      have flushed := behaves_flushOut event (Service.gather connection premises).1
        gathered.lasts.numbered
      rw [write_eq_flush_gather]
      refine ⟨flushed.session.trans gathered.session, gathered.lasts.trans flushed.lasts, ?_,
        flushed.roster.trans gathered.roster, flushed.next.trans gathered.next, flushed.requests,
        flushed.patient⟩
      intro here key session later link found foundLater closed linked
      obtain ⟨between, foundBetween, _⟩ := gathered.lasts.kept key session found
      obtain ⟨_, foundSame, lasting⟩ := flushed.lasts.kept key between foundBetween
      cases foundLater.symm.trans foundSame
      rcases flushed.asks (gathered.lasts.loopGone.trans here) key between later link foundBetween
        foundLater closed linked with early | asked
      · rcases gathered.asks here key session between link found foundBetween early
          (lasting.link ▸ linked) with early | asked | ⟨_, none⟩
        · exact .inl early
        · rw [lasting.id]
          exact .inr (.inl (flushed.lasts.pleas _ asked))
        · cases none
      · exact .inr asked
    | accept => exact behaves_still numbered fun _ _ => nofun

end Behaviour

end EventLoop
