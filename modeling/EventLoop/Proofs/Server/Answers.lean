import EventLoop.Proofs.Server.Promises

/-! What notifications and changes do to what a loop owes to a session. A connection that has
written everything asks not to be told of room any more, and this takes effect some time
later; a session that is sent to meanwhile asks for the opposite through another queue. What
carries the proof is that the second request always waits longer. The first is applied in the
turn in which it was made, before the inbox is looked at again, so that as long as it is
ahead every waiting byte has a request of its own in the inbox or on its way there. -/
namespace EventLoop

variable {M D : Type}

namespace Scene

variable [Message M] {service : Service M D} {watched handle : Handle}
  {loop late : ServerLoop M D} {ahead : List (Change (Endpoint M) Empty)} {asking : List Plea}
  {event : Event (Endpoint M)} {connection : Connection M}

/-! ## Notifications -/

/-- A connection that does not write is left as well attended as it was. -/
theorem Sound.quiet (sound : Sound watched loop ahead asking none)
    (found : loop.lookup handle = some event) (body : event.body = .connection connection)
    {response : Service.Response M D}
    (quiet : Service.Quiet event.handle connection loop.world response) :
    Sound watched (loop.takeUp service.conduct handle event (Service.voiced response))
      (ahead ++ response.requests.map Request.change) asking none := by
  have took := Loop.takeUp_took service.conduct sound.orderly.alive handle event
    (Service.voiced response)
  generalize loop.takeUp service.conduct handle event (Service.voiced response) = late at took ⊢
  obtain ⟨orderly, onward⟩ := sound.orderly.tookUp took quiet.sessions rfl rfl
  have harmless : ∀ request ∈ response.requests,
      Loop.sourceOf (request.change : Change (Endpoint M) Empty) = none ∧
        ¬ (request.change : Change (Endpoint M) Empty).Rearms watched := by
    intro request inside
    rcases quiet.requests request inside with rfl | ⟨delay, rfl⟩
    · exact ⟨rfl, id⟩
    · exact ⟨rfl, id⟩
  have goes : Further watched late asking ahead
      (ahead ++ response.requests.map Request.change) := by
    refine .of_requests fun request inside => ⟨(harmless request inside).2, ?_⟩
    rintro newcomer mask rfl
    cases (harmless _ inside).1
  have tidy : late.Tidy (ahead ++ response.requests.map Request.change) := by
    refine sound.tidy.tookUp found took.owner ?_
    rw [Loop.eventsIn_append_others fun request inside => (harmless request inside).1]
    exact sound.tidy.strangers
  by_cases here : watched = handle
  · subst here
    refine ⟨orderly, tidy, sound.newcomers onward goes, ?_⟩
    intro owner other foundLate bodyLate
    rw [took.owner, if_pos rfl] at foundLate
    cases foundLate
    cases bodyLate
    have attended := (sound.owner event connection found body).onward
      (sound.tidy.filed _ _ found) onward (took.watching event.source)
      (fun change inside => (goes change inside).imp id And.left) id
    exact attended.carry quiet.session fun waits => quiet.outbound ▸ waits
  · refine sound.still orderly onward tidy (fun owner other foundLate bodyLate => ?_)
      (fun owner _ => took.watching owner.source) goes id
    rw [took.owner, if_neg here] at foundLate
    exact foundLate

/-- A listener admits newcomers only. -/
theorem Sound.listens (sound : Sound watched loop ahead asking none)
    (found : loop.lookup handle = some event) {reaction : Reaction (Endpoint M) Empty (Premises D)}
    {sessions : Sessions} (admits : Service.Admits loop.world sessions reaction)
    (strangers : loop.Strangers
      (Loop.eventsIn (ahead ++ reaction.requests.map Request.change))) :
    Sound watched (loop.takeUp service.conduct handle event reaction)
      (ahead ++ reaction.requests.map Request.change) asking none := by
  have took := Loop.takeUp_took service.conduct sound.orderly.alive handle event reaction
  generalize loop.takeUp service.conduct handle event reaction = late at took ⊢
  obtain ⟨orderly, onward⟩ := sound.orderly.tookUp took admits.later admits.book admits.orders
  have goes : Further watched late asking ahead
      (ahead ++ reaction.requests.map Request.change) := by
    refine .of_requests fun request inside => ?_
    obtain ⟨newcomer, rfl, awaits⟩ := admits.newcomers request inside
    refine ⟨id, ?_⟩
    rintro other mask ⟨⟩
    obtain ⟨connection, session, serves, empty, asked⟩ := awaits
    refine ⟨rfl, fun own => ⟨connection, session, ?_, empty, fun waits => .inl ?_⟩⟩
    · rw [took.world, admits.book]
      exact ⟨serves.body, serves.known, serves.numbered, serves.id, serves.link⟩
    · have plea := asked waits
      rw [own] at plea
      rw [took.inbox, admits.orders, List.filterMap_map]
      refine List.mem_append_right _ (List.mem_filterMap.2 ⟨_, plea, rfl⟩)
  have tidy := sound.tidy.tookUp found took.owner strangers
  refine sound.still orderly onward tidy (fun owner connection now body => ?_)
    (fun owner _ => took.watching owner.source) goes id
  rw [took.owner, admits.body] at now
  by_cases here : watched = handle
  · rw [if_pos here] at now
    cases now
    cases body
  · rw [if_neg here] at now
    exact now

/-- A connection that writes everything gives up being told of room, and what has come to wait
meanwhile has been asked for. -/
theorem Sound.flushes (sound : Sound watched loop ahead asking (some handle))
    (found : loop.lookup handle = some event) (body : event.body = .connection connection) :
    Sound watched (loop.flush service handle event connection)
      (ahead ++ (Service.flushOut event connection loop.world).requests.map Request.change)
      asking none := by
  have flushes := flushOut_flushes event connection loop.world
  have took := Loop.takeUp_took service.conduct sound.orderly.alive handle event
    (Service.voiced (Service.flushOut event connection loop.world))
  unfold Loop.flush
  generalize Service.flushOut event connection loop.world = response at flushes took ⊢
  generalize loop.takeUp service.conduct handle event (Service.voiced response) = late at took ⊢
  obtain ⟨orderly, onward⟩ := sound.orderly.tookUp took flushes.sessions rfl rfl
  have own := sound.tidy.filed handle event found
  have others : ∀ request ∈ response.requests,
      Loop.sourceOf (request.change : Change (Endpoint M) Empty) = none := by
    intro request inside
    rcases flushes.requested request inside with rfl | rfl
    · rfl
    · rfl
  have tidy : late.Tidy (ahead ++ response.requests.map Request.change) := by
    refine sound.tidy.tookUp found took.owner ?_
    rw [Loop.eventsIn_append_others others]
    exact sound.tidy.strangers
  by_cases here : watched = handle
  · subst here
    refine ⟨orderly, tidy, ?_, ?_⟩
    · intro newcomer mask inside
      rcases List.mem_append.1 inside with before | asked
      · exact (sound.newcomer newcomer mask before).onward onward
      · obtain ⟨request, requested, same⟩ := List.mem_map.1 asked
        have adds := others request requested
        rw [same] at adds
        cases adds
    · intro writer written now bodyNow
      rw [took.owner, if_pos rfl] at now
      cases now
      cases bodyNow
      exact (sound.owner event connection found body).flushed own onward
        (took.watching event.source) flushes
  · refine sound.still orderly onward tidy ?_
      (fun owner _ => took.watching owner.source) ?_ fun flushing => by cases flushing
    · intro writer written now bodyNow
      rw [took.owner, if_neg here] at now
      exact now
    · refine .of_requests fun request inside => ⟨?_, ?_⟩
      · rcases flushes.requested request inside with rfl | rfl
        · exact fun same => here (same.symm.trans own)
        · exact id
      · rintro newcomer mask rfl
        cases others _ inside

/-- Every notification, but that of room to a connection that would write. -/
theorem Sound.notified (honest : service.sink.Honest)
    (sound : Sound watched loop loop.changes.pending asking none) (notice : Notice)
    (silent : ∀ event connection, loop.lookup handle = some event →
      event.body = .connection connection → notice ≠ .writable ∨ connection.closing = true)
    (strangers : notice = .accept → ∀ event, loop.lookup handle = some event →
      event.body = .listener → loop.Strangers (Loop.eventsIn (loop.changes.pending ++
        (service.welcomeAll loop.world.network.door loop.world).1.map Request.change))) :
    Sound watched (loop.notify service.conduct notice handle)
      (loop.notify service.conduct notice handle).changes.pending asking none := by
  cases found : loop.lookup handle with
  | none =>
    rw [Loop.notify_missing service.conduct notice found]
    exact sound
  | some event =>
    rw [Loop.notify_eq service.conduct notice found]
    rw [(Loop.takeUp_took service.conduct sound.orderly.alive handle event _).pending]
    cases body : event.body with
    | listener =>
      obtain ⟨⟨sessions, admits⟩, admitted⟩ :=
        listener_admits service notice body loop.world sound.orderly.here
      refine sound.listens found admits ?_
      have reacts : service.conduct.notify notice event loop.outlook loop.world =
          service.notifyEndpoint notice event loop.world := rfl
      rw [reacts]
      rcases admitted with nobody | ⟨accepts, requests⟩
      · rw [nobody, List.map_nil, List.append_nil]
        exact sound.tidy.strangers
      · rw [requests]
        exact strangers accepts event found body
    | connection connection =>
      have reacts : service.conduct.notify notice event loop.outlook loop.world =
          Service.voiced (service.respond notice event connection loop.world) :=
        service.notifyEndpoint_eq_voiced notice loop.world body
      rw [reacts]
      exact sound.quiet found body
        (quiet_respond honest event loop.world (silent event connection found body))

/-! ## Changes -/

variable {change : Change (Endpoint M) Empty} {rest : List (Change (Endpoint M) Empty)}

theorem Orderly.applied (service : Service M D) (orderly : Orderly watched loop asking)
    (change : Change (Endpoint M) Empty) :
    Orderly watched (loop.apply service.conduct change) asking ∧
      Onward watched loop asking (loop.apply service.conduct change) asking := by
  obtain ⟨inbox, _, alive⟩ := loop.apply_keeps service.conduct change
  obtain ⟨later, pleas⟩ := Loop.apply_moves service.conduct service.within loop change
  have silent := pleas.trans orderly.silent
  refine ⟨⟨alive.trans orderly.alive, later.loopGone.trans orderly.here, silent, ?_,
    orderly.asking⟩, ?_⟩
  · rw [inbox]
    exact orderly.inbox
  · refine .of_later orderly.here later (Sessions.takePleas_of_silent silent).symm
      ?_ ?_
    · intro generation promised
      rw [Promised, inbox]
      exact promised
    · intro generation asked
      rw [silent] at asked
      cases asked

/-- A change to another handle does not touch what the poller watches of the owner. -/
theorem Sound.spares {change : Change (Endpoint M) Empty}
    {rest : List (Change (Endpoint M) Empty)}
    (sound : Sound watched loop (change :: rest) asking none)
    (other : Loop.handleOf change ≠ some watched) (found : loop.lookup watched = some event) :
    (loop.apply service.conduct change).watching? event.source = loop.watching? event.source := by
  have seated : loop.seat? watched = some event.source := by
    rw [Loop.seat?, found]
    rfl
  refine (Loop.apply_spares service.conduct sound.tidy.filed change other ?_ ?_).watching
  · intro concerned owner concerns owned same
    have seatedToo : loop.seat? concerned = some event.source := by
      rw [Loop.seat?, owned, same]
      rfl
    rw [← sound.tidy.apart watched concerned event.source seated seatedToo] at concerns
    exact other concerns
  · intro brought
    cases change with
    | add newcomer mask =>
      rw [← Option.some.inj brought] at seated
      exact sound.tidy.strangers.unseated newcomer List.mem_cons_self watched seated
    | rearm target mask => cases brought
    | remove target => cases brought
    | schedule target delay => cases brought
    | timer callback interval delayed repeats => cases brought

/-- A change is applied, and what is left to show is that the owner of the handle, if it is a
connection, is attended afterwards. -/
theorem Sound.goes_on (sound : Sound watched loop (change :: rest) asking none)
    (attended : ∀ event connection,
      (loop.apply service.conduct change).lookup watched = some event →
        event.body = .connection connection →
          Attended watched (loop.apply service.conduct change) rest asking none event connection) :
    Sound watched (loop.apply service.conduct change) rest asking none := by
  obtain ⟨orderly, onward⟩ := sound.orderly.applied service change
  refine ⟨orderly, sound.tidy.apply service.conduct, sound.newcomers onward fun other inside => ?_,
    attended⟩
  exact .inl (List.mem_cons_of_mem change inside)

/-- A change that leaves the owner of the handle and what is watched of it alone. -/
theorem Sound.unmoved (sound : Sound watched loop (change :: rest) asking none)
    (owner : (loop.apply service.conduct change).lookup watched = loop.lookup watched)
    (watching : ∀ event, loop.lookup watched = some event →
      (loop.apply service.conduct change).watching? event.source = loop.watching? event.source) :
    Sound watched (loop.apply service.conduct change) rest asking none := by
  obtain ⟨_, onward⟩ := sound.orderly.applied service change
  refine sound.goes_on fun event connection now body => ?_
  rw [owner] at now
  exact (sound.owner event connection now body).onward (sound.tidy.filed _ _ now) onward
    (watching event now) (fun other inside => .inl (List.mem_cons_of_mem change inside)) id

/-- A newcomer is added under the handle. It is armed for input only, and what waits for it has
been asked for. -/
theorem Sound.joined {newcomer : Event (Endpoint M)} {mask : Interest}
    (sound : Sound newcomer.handle loop (.add newcomer mask :: rest) asking none) :
    Sound newcomer.handle (loop.apply service.conduct (.add newcomer mask)) rest asking none := by
  obtain ⟨_, onward⟩ := sound.orderly.applied service (.add newcomer mask)
  obtain ⟨readable, serves⟩ :=
    (sound.newcomer newcomer mask List.mem_cons_self).onward onward
  have free := Loop.seat?_eq_none.1 (sound.tidy.strangers.unowned newcomer List.mem_cons_self)
  have io : (mask.without .timer).isEmpty = false := by
    rw [readable]
    decide
  refine sound.goes_on fun event connection now body => ?_
  rcases Loop.addEvent_registers service.conduct free io with gone | ⟨stands, allowed⟩
  · cases gone.symm.trans now
  · cases stands.symm.trans now
    obtain ⟨own, session, served, empty, asked⟩ := serves rfl
    cases served.body.symm.trans body
    refine ⟨rfl, allowed, session, ⟨body, served.known, served.numbered, served.id, served.link⟩,
      fun waits => .inl ?_, fun flushes => by cases flushes⟩
    rcases waits with waits | waits
    · exact asked waits
    · exact absurd empty waits

/-- The handle is re-armed by what was asked for in the turn. Whatever it is armed for now,
everything that waits has a request of its own. -/
theorem Sound.rearmed {target : Target} {mask : Interest}
    (sound : Sound target.handle loop (.rearm target mask :: rest) asking none) :
    Sound target.handle (loop.apply service.conduct (.rearm target mask)) rest asking none := by
  obtain ⟨_, onward⟩ := sound.orderly.applied service (.rearm target mask)
  refine sound.goes_on fun event connection now body => ?_
  obtain ⟨owner, found, same, stays⟩ :=
    Loop.apply_rearm_owner service.conduct sound.tidy.filed now
  have attended := sound.owner owner connection found (same ▸ body)
  cases stays attended.added
  obtain ⟨session, serves, covered, _⟩ := attended.serves
  obtain ⟨later, servesLater, waits⟩ :=
    onward.serves event connection session (sound.tidy.filed _ _ found) serves
  refine ⟨attended.added, attended.allowed, later, servesLater, fun waiting => .inl ?_,
    fun flushes => by cases flushes⟩
  rcases waited_or_asked waits waiting with waited | promised
  · rcases covered waited with promised | ⟨_, undisturbed⟩
    · exact onward.promised _ promised
    · exact absurd rfl (undisturbed _ List.mem_cons_self)
  · exact promised

/-- **What is ahead may be applied.** A change that may disarm the handle finds everything that
waits asked for; one that brings a connection finds it a newcomer. -/
theorem Sound.applied (sound : Sound watched loop (change :: rest) asking none) :
    Sound watched (loop.apply service.conduct change) rest asking none := by
  by_cases concerned : Loop.handleOf change = some watched
  · cases change with
    | add newcomer mask =>
      cases concerned
      exact sound.joined
    | rearm target mask =>
      cases concerned
      exact sound.rearmed
    | remove target =>
      cases concerned
      cases owned : loop.owns target with
      | true =>
        refine sound.goes_on fun event connection now body => ?_
        simp only [Loop.apply, owned, ↓reduceIte] at now
        cases (Loop.removeEvent_owner service.conduct target.handle).symm.trans now
      | false =>
        have same : loop.apply service.conduct (.remove target) = loop := by
          simp only [Loop.apply, owned, Bool.false_eq_true, ↓reduceIte]
        exact sound.unmoved (by rw [same]) fun event _ => by rw [same]
    | schedule target delay =>
      have same : (loop.apply service.conduct (.schedule target delay)).table = loop.table ∧
          (loop.apply service.conduct (.schedule target delay)).selector = loop.selector := by
        simp only [Loop.apply]
        split
        · split
          · exact ⟨rfl, rfl⟩
          · exact ⟨rfl, rfl⟩
        · exact ⟨rfl, rfl⟩
      refine sound.unmoved ?_ ?_
      · rw [Loop.lookup, same.1]
        rfl
      · intro event _
        rw [Loop.watching?, same.2]
        rfl
    | timer callback interval delayed repeats => cases concerned
  · exact sound.unmoved (Loop.apply_owner service.conduct sound.tidy.filed change concerned)
      fun event found => sound.spares concerned found

/-! ## Requests -/

/-- A request of sessions is taken from the inbox. If it is that of the owner, the handle is
armed from now on; if it is that of an earlier owner, nothing happens, and the owner's is still
to come. -/
theorem Sound.heeds {target : Target} {rest : List (Change (Endpoint M) Empty)}
    (sound : Sound target.handle loop [] asking none)
    (inbox : loop.inbox = .rearm target .both :: rest)
    (allows : loop.world.network.nextRefusal.1 = false) :
    Sound target.handle ({ loop with inbox := rest }.apply service.conduct (.rearm target .both))
      [] asking none := by
  have tidy : ({ loop with inbox := rest } : ServerLoop M D).Tidy [.rearm target .both] :=
    sound.tidy.of_seats sound.tidy.filed (fun _ => rfl) sound.tidy.strangers
  obtain ⟨orderly, onward⟩ :=
    (sound.orderly.shorter inbox).applied service (.rearm target .both)
  refine ⟨orderly, tidy.apply service.conduct,
    fun event mask inside => absurd inside List.not_mem_nil, ?_⟩
  intro event connection now body
  obtain ⟨owner, found, same, stays⟩ := Loop.apply_rearm_owner service.conduct tidy.filed now
  have attended := sound.owner owner connection found (same ▸ body)
  cases stays attended.added
  have own := tidy.filed _ _ found
  obtain ⟨session, serves, covered, _⟩ := attended.serves
  obtain ⟨later, servesLater, waits⟩ := onward.serves event connection session own serves
  refine ⟨attended.added, attended.allowed, later, servesLater, fun waiting => ?_,
    fun flushes => by cases flushes⟩
  cases owned : ({ loop with inbox := rest } : ServerLoop M D).owns target with
  | true =>
    have called (call : SourceCall) (event : Event (Endpoint M)) :
        (service.conduct.call call event loop.world).1 = none := by
      cases call with
      | register token wanted => simp [Service.conduct, Service.callEndpoint, allows]
      | reregister token wanted => simp [Service.conduct, Service.callEndpoint, allows]
      | deregister => rfl
    have armed := (Loop.rearm_watches service.conduct tidy.filed found attended.added rfl
      (show Interest.both.readiness? = some ⟨true, true⟩ by decide) attended.allowed called).2
    refine .inr ⟨⟨⟨true, true⟩, ?_, rfl⟩, fun change inside => absurd inside List.not_mem_nil⟩
    simp only [Loop.apply, owned, ↓reduceIte]
    rw [own]
    exact armed
  | false =>
    have unmoved : { loop with inbox := rest }.apply service.conduct (.rearm target .both) =
        { loop with inbox := rest } := by
      simp only [Loop.apply, owned, Bool.false_eq_true, ↓reduceIte]
    rcases waited_or_asked waits waiting with waited | promised
    · rcases covered waited with (promised | promised) | ⟨⟨wanted, armed, output⟩, _⟩
      · left
        rw [inbox] at promised
        rcases List.mem_cons.1 promised with first | later
        · have pinned := congrArg Target.generation (Change.rearm.inj first).1
          have owns : ({ loop with inbox := rest } : ServerLoop M D).owns target = true := by
            simp [Loop.owns, found, ← pinned]
          cases owned.symm.trans owns
        · rw [unmoved]
          exact .inl later
      · exact .inl (.inr promised)
      · refine .inr ⟨⟨wanted, ?_, output⟩, fun change inside => absurd inside List.not_mem_nil⟩
        rw [unmoved]
        exact armed
    · exact .inl promised

/-- A change is taken from the inbox. -/
theorem Sound.taken {change : Change (Endpoint M) Empty}
    {rest : List (Change (Endpoint M) Empty)} (sound : Sound watched loop [] asking none)
    (inbox : loop.inbox = change :: rest)
    (allows : ∀ target mask, change = .rearm target mask → target.handle = watched →
      loop.world.network.nextRefusal.1 = false) :
    Sound watched ({ loop with inbox := rest }.apply service.conduct change) [] asking none := by
  have usual := sound.orderly.inbox change (by rw [inbox]; exact List.mem_cons_self)
  have shorter := sound.orderly.shorter inbox
  have tidy : ({ loop with inbox := rest } : ServerLoop M D).Tidy [] :=
    sound.tidy.of_seats sound.tidy.filed (fun _ => rfl) sound.tidy.strangers
  by_cases rearms : change.Rearms watched
  · cases change with
    | add event mask => exact usual.elim
    | rearm target mask =>
      cases rearms
      cases usual rfl
      exact sound.heeds inbox (allows target .both rfl rfl)
    | remove target => exact rearms.elim
    | schedule target delay => exact rearms.elim
    | timer callback interval delayed repeats => exact rearms.elim
  · refine Sound.applied (Sound.faces (sound.still shorter (.of_same rfl ?_) tidy
      (fun _ _ now _ => now) (fun _ _ => rfl) (fun other inside => .inl inside) id) usual rearms)
    refine fun generation promised => promised.imp (fun inside => ?_) id
    rw [inbox] at inside
    rcases List.mem_cons.1 inside with rfl | later
    · exact absurd rfl rearms
    · exact later

theorem Sound.called {change : Change (Endpoint M) Empty}
    (sound : Sound watched loop [] asking none) (foreign : change.Foreign watched) :
    Sound watched (loop.apply service.conduct change) [] asking none :=
  (sound.faces foreign.usual foreign.spares).applied

end Scene

end EventLoop
