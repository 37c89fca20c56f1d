import EventLoop.Proofs.Server.Passages
import EventLoop.Trial.Telegram

/-! The roster against the connections that there are. A connection exists from the moment it is
admitted, when nobody owns it yet, until it is destroyed, which may be because it was refused
before it was ever owned. Its session goes on the roster with the first and off it with the
second. So the two agree at every step, whatever the step does, and the limit, which is held
against the roster, is one on connections. -/
namespace EventLoop

open scoped List

variable {M D : Type}

/-- Whether pleas are taken, or sessions have learned that the loop is gone, is all the same. -/
theorem Sessions.Mirrors.aside {members : List Member} {next : UInt64} {sessions : Sessions}
    (mirrors : sessions.Mirrors members next) (pleas : List Plea) (loopGone : Bool) :
    ({ sessions with pleas, loopGone } : Sessions).Mirrors members next :=
  ⟨mirrors.numbered, mirrors.serves, mirrors.single, mirrors.ids, mirrors.next, mirrors.gone,
    mirrors.roster⟩

/-- What is seen of members survives what `Event.idle` forgets. -/
theorem members_of_idle {events others : List (Event (Endpoint M))}
    (same : events.map Event.idle ~ others.map Event.idle) :
    events.filterMap Event.member? ~ others.filterMap Event.member? := by
  have seen (events : List (Event (Endpoint M))) :
      (events.map Event.idle).filterMap Event.member? = events.filterMap Event.member? := by
    rw [List.filterMap_map]
    exact congrArg (List.filterMap · events) (funext Event.member?_idle)
  rw [← seen events, ← seen others]
  exact same.filterMap _

namespace Scene

/-- The connections that there are: those that the loop owns and those that wait to be added. -/
def members (scene : Scene M D) : List Member :=
  (scene.site.loop.table.values ++ scene.site.waiting).filterMap Event.member?

/-- The roster agrees with the connections that there are, and the limit holds. -/
structure Tallied (service : Service M D) (scene : Scene M D) : Prop where
  mirrors : scene.site.loop.world.sessions.Mirrors scene.members scene.site.loop.world.nextSession
  room : ∀ limit, service.settings.maxConnections = some limit →
    scene.site.loop.world.sessions.count ≤ limit.toNat

/-! ## Who there is after an effect -/

/-- Who waits is ahead: nobody who is to be added comes through the inbox. -/
theorem Kempt.waiting {scene : Scene M D} (kempt : Kempt scene) :
    scene.site.waiting = Loop.eventsIn scene.site.ahead := by
  rw [Site.waiting, Loop.eventsIn_append, kempt.inbox, List.append_nil]

/-- Nothing is ahead while the inbox is looked at and between two turns. -/
theorem Kempt.nothing_ahead {scene : Scene M D} (kempt : Kempt scene)
    (quiet : scene.site.stage.IsQuiet) (empty : scene.site.stage.ahead = []) :
    scene.site.ahead = [] := by
  rw [Site.ahead, kempt.idle quiet, empty]
  rfl

section Effects

variable [Message M] {service : Service M D} {early late : Scene M D} {history : List Incident}

omit [Message M] in
theorem Aside.waited (aside : Aside early history late) (kempt : Kempt early)
    (keptLate : Kempt late) : late.site.waiting = early.site.waiting := by
  obtain ⟨more, ahead, nobody⟩ := aside.ahead
  rw [keptLate.waiting, kempt.waiting, ahead, Loop.eventsIn_append, nobody, List.append_nil]

omit [Message M] in
theorem Aside.members (aside : Aside early history late) (kempt : Kempt early)
    (keptLate : Kempt late) : late.members = early.members := by
  rw [Scene.members, Scene.members, aside.table, aside.waited kempt keptLate]

/-- Who waited is who is brought and who still waits. -/
theorem Applied.waited {change : Change (Endpoint M) Empty}
    (applied : Applied service early change late) (kempt : Kempt early) (keptLate : Kempt late) :
    early.site.waiting = Loop.eventsIn [change] ++ late.site.waiting := by
  rw [kempt.waiting, keptLate.waiting]
  rcases applied.source with ⟨ahead, _⟩ | ⟨before, after, source⟩
  · rw [ahead, Loop.eventsIn_cons]
  · have brings : Loop.eventsIn [change] = [] := by
      rcases source with inbox | ⟨_, brings⟩
      · have none := kempt.inbox
        rw [inbox, Loop.eventsIn_cons] at none
        exact (List.append_eq_nil_iff.1 none).1
      · exact Loop.eventsIn_eq_nil.2 fun other inside => List.mem_singleton.1 inside ▸ brings
    rw [before, after, brings]
    rfl

/-- Whoever there was when a change was applied is there still, or has ended. -/
theorem Applied.members {change : Change (Endpoint M) Empty}
    (applied : Applied service early change late) (kempt : Kempt early) (keptLate : Kempt late) :
    ∃ ended : List (Event (Endpoint M)),
      Service.Parts early.site.loop.world ended late.site.loop.world ∧
      early.members ~ ended.filterMap Event.member? ++ late.members := by
  obtain ⟨ended, conserves, parts⟩ := apply_parts service kempt.filed kempt.numbered change
  rw [← applied.world] at parts
  have objects := members_of_idle conserves.objects
  rw [← applied.table, List.filterMap_append, List.filterMap_append] at objects
  refine ⟨ended, parts, ?_⟩
  simp only [Scene.members, applied.waited kempt keptLate, List.filterMap_append]
  calc early.site.loop.table.values.filterMap Event.member? ++
        ((Loop.eventsIn [change]).filterMap Event.member? ++
          late.site.waiting.filterMap Event.member?)
    _ ~ late.site.loop.table.values.filterMap Event.member? ++
        ended.filterMap Event.member? ++ late.site.waiting.filterMap Event.member? := by
      rw [← List.append_assoc]
      exact objects.symm.append_right _
    _ ~ ended.filterMap Event.member? ++ (late.site.loop.table.values.filterMap Event.member? ++
        late.site.waiting.filterMap Event.member?) := by
      rw [← List.append_assoc]
      exact List.perm_append_comm.append_right _

omit [Message M] in
/-- A connection stays who it is, whatever it hears. -/
theorem Heard.member? {notice : Notice} {handle : Handle} {event : Event (Endpoint M)}
    {connection : Connection M} {response : Service.Response M D}
    (heard : Heard early history late notice handle event connection response) :
    ({ event with body := .connection response.connection } : Event (Endpoint M)).member? =
      event.member? := by
  simp only [Event.member?, heard.body, heard.behaves.session]

omit [Message M] in
theorem Heard.waited {notice : Notice} {handle : Handle} {event : Event (Endpoint M)}
    {connection : Connection M} {response : Service.Response M D}
    (heard : Heard early history late notice handle event connection response)
    (kempt : Kempt early) (keptLate : Kempt late) : late.site.waiting = early.site.waiting := by
  rw [keptLate.waiting, kempt.waiting, heard.ahead,
    Loop.eventsIn_append_others heard.behaves.requests]

omit [Message M] in
theorem Heard.members {notice : Notice} {handle : Handle} {event : Event (Endpoint M)}
    {connection : Connection M} {response : Service.Response M D}
    (heard : Heard early history late notice handle event connection response)
    (kempt : Kempt early) (keptLate : Kempt late) : late.members = early.members := by
  have seen := congrArg (List.filterMap id)
    (Keyed.map_values_insert heard.found Event.member? heard.member?)
  rw [List.filterMap_map, List.filterMap_map] at seen
  rw [Scene.members, Scene.members, heard.table, heard.waited kempt keptLate,
    List.filterMap_append, List.filterMap_append]
  exact congrArg (· ++ _) seen

omit [Message M] in
theorem Listened.waited {handle : Handle} {event : Event (Endpoint M)}
    {requests : List (Request (Endpoint M))} {premises : Premises D}
    (listened : Listened service early late handle event requests premises) (kempt : Kempt early)
    (keptLate : Kempt late) :
    late.site.waiting =
      early.site.waiting ++ Loop.eventsIn (C := Empty) (requests.map Request.change) := by
  rw [keptLate.waiting, kempt.waiting, listened.ahead, Loop.eventsIn_append]

omit [Message M] in
theorem Listened.members {handle : Handle} {event : Event (Endpoint M)}
    {requests : List (Request (Endpoint M))} {premises : Premises D}
    (listened : Listened service early late handle event requests premises) (kempt : Kempt early)
    (keptLate : Kempt late) :
    late.members ~ (Loop.eventsIn (C := Empty) (requests.map Request.change)).filterMap
      Event.member? ++ early.members := by
  have table := Keyed.map_values_insert listened.found id (rfl : id event = id event)
  rw [List.map_id, List.map_id, ← listened.table] at table
  rw [Scene.members, Scene.members, listened.waited kempt keptLate, table, ← List.append_assoc,
    List.filterMap_append]
  exact List.perm_append_comm

omit [Message M] in
theorem Acted.waited {sessions : Sessions} (acted : Acted early late sessions)
    (kempt : Kempt early) (keptLate : Kempt late) : late.site.waiting = early.site.waiting := by
  rw [keptLate.waiting, kempt.waiting, acted.ahead]

omit [Message M] in
theorem Acted.members {sessions : Sessions} (acted : Acted early late sessions)
    (kempt : Kempt early) (keptLate : Kempt late) : late.members = early.members := by
  rw [Scene.members, Scene.members, acted.table, acted.waited kempt keptLate]

omit [Message M] in
theorem Dismissed.members {premises : Premises D} (dismissed : Dismissed early late premises)
    (keptLate : Kempt late) : late.members = [] := by
  rw [Scene.members, keptLate.waiting, dismissed.table, dismissed.ahead]
  rfl

/-! ## One effect -/

/-- **Every effect keeps the tally.** -/
theorem Tallied.effect (tallied : Tallied service early) (kempt : Kempt early)
    (keptLate : Kempt late) (effect : Effect service early history late) :
    Tallied service late := by
  obtain ⟨mirrors, room⟩ := tallied
  cases effect with
  | aside aside =>
    refine ⟨?_, ?_⟩
    · rw [aside.members kempt keptLate, aside.sessions, aside.next]
      exact mirrors
    · rw [aside.sessions]
      exact room
  | applied change applied =>
    obtain ⟨_, parts, same⟩ := applied.members kempt keptLate
    exact ⟨parts.mirrors _ (mirrors.perm same),
      fun limit limited => Nat.le_trans parts.count (room limit limited)⟩
  | heard heard =>
    refine ⟨?_, fun limit limited => ?_⟩
    · rw [heard.members kempt keptLate, heard.sessions, heard.next]
      exact (mirrors.lasts heard.behaves.lasts heard.behaves.roster).aside _ _
    · rw [heard.sessions]
      exact Nat.le_trans (Nat.le_of_eq (congrArg Keyed.size heard.behaves.roster))
        (room limit limited)
  | listened listened =>
    refine ⟨?_, fun limit limited => ?_⟩
    · rw [listened.sessions, listened.next]
      exact (listened.admission.mirrors _ mirrors).perm
        (listened.members kempt keptLate).symm
    · rw [listened.sessions]
      exact listened.admission.count limit limited (room limit limited)
  | acted acted =>
    refine ⟨?_, fun limit limited => ?_⟩
    · rw [acted.members kempt keptLate, acted.sessions, acted.next]
      exact (mirrors.lasts acted.lasts acted.roster).aside _ _
    · rw [acted.sessions]
      exact Nat.le_trans (Nat.le_of_eq (congrArg Keyed.size acted.roster)) (room limit limited)
  | dismissed dismissed =>
    have everybody := mirrors
    rw [Scene.members, ← List.append_nil (List.filterMap _ _)] at everybody
    refine ⟨?_, fun limit limited => ?_⟩
    · rw [dismissed.members keptLate, dismissed.sessions, dismissed.next]
      exact (dismissed.parts.mirrors [] everybody).aside _ _
    · rw [dismissed.sessions]
      exact Nat.le_trans dismissed.parts.count (room limit limited)

/-- Sessions and the identities that were given out stay. -/
theorem Effect.onward (kempt : Kempt early) (effect : Effect service early history late) :
    Sessions.Onward early.site.loop.world.sessions late.site.loop.world.sessions := by
  cases effect with
  | aside aside =>
    rw [aside.sessions]
    exact .refl _
  | applied change applied =>
    obtain ⟨_, _, parts⟩ := apply_parts service kempt.filed kempt.numbered change
    rw [applied.world]
    exact parts.lasts.onward
  | heard heard =>
    rw [heard.sessions]
    exact ⟨heard.behaves.lasts.kept, heard.behaves.lasts.onward.given⟩
  | listened listened =>
    rw [listened.sessions]
    exact ⟨fun key session found =>
      ⟨session, listened.admission.kept key session found, .refl session⟩,
      listened.admission.given⟩
  | acted acted =>
    rw [acted.sessions]
    exact ⟨acted.lasts.kept, acted.lasts.onward.given⟩
  | dismissed dismissed =>
    rw [dismissed.sessions]
    exact ⟨dismissed.parts.lasts.kept, dismissed.parts.lasts.onward.given⟩

end Effects

/-! ## Every run -/

section Runs

variable [Message M] {service : Service M D} {loop : ServerLoop M D} {handle : Handle}
  {early scene : Scene M D} {history more : List Incident}

omit [Message M] in
/-- Before anything has happened there is nobody. -/
theorem Pristine.nobody (pristine : Pristine loop) (handle : Handle) :
    (eve handle loop).members = [] := by
  have table : (eve handle loop).site.loop.table = {} := pristine.table
  have inbox : (eve handle loop).site.loop.inbox = [] := pristine.inbox
  have pending : (eve handle loop).site.loop.changes.pending = [] := pristine.pending
  rw [members, table, Site.waiting, Site.ahead, inbox, pending]
  rfl

omit [Message M] in
theorem Pristine.tallied (pristine : Pristine loop) (service : Service M D) (handle : Handle) :
    Tallied service (eve handle loop) := by
  have empty : (eve handle loop).site.loop.world.sessions.book = {} := pristine.book
  have nobody := pristine.nobody handle
  have given : (eve handle loop).site.loop.world.sessions.given = [] := by
    rw [Sessions.given, empty]
    rfl
  have nothing (key : Nat) : (eve handle loop).site.loop.world.sessions.get? key = none := by
    rw [Sessions.get?, empty]
    rfl
  have roster : (eve handle loop).site.loop.world.sessions.roster = {} := pristine.roster
  refine ⟨⟨fun key session found => ?_, ?_, ?_, ?_, ?_, fun key session found => ?_, fun _ => ?_⟩,
    fun _ _ => ?_⟩
  · cases (nothing key).symm.trans found
  · rw [nobody]
    exact List.forall_mem_nil _
  · rw [nobody]
    exact List.nodup_nil
  · rw [given]
    rfl
  · rw [given]
    exact pristine.first
  · cases (nothing key).symm.trans found
  · rw [nobody, roster]
    exact .refl _
  · rw [Sessions.count, roster]
    exact Nat.zero_le _

/-- The roster agrees with the connections that there are wherever a chronicle has come to. -/
theorem Chronicle.tallied (discreet : service.sink.Discreet) (pristine : Pristine loop)
    (chronicle : Chronicle service (opening service handle loop) history scene) :
    Kempt scene ∧ Tallied service scene :=
  chronicle.holds discreet pristine (pristine.tallied service handle)
    fun _ _ _ kempt keptLate tallied effect => tallied.effect kempt keptLate effect

/-- Sessions and the identities that were given out stay, however a chronicle goes on. -/
theorem Chronicle.onward (discreet : service.sink.Discreet) (kempt : Kempt early)
    (chronicle : Chronicle service early more scene) :
    Sessions.Onward early.site.loop.world.sessions scene.site.loop.world.sessions :=
  (kempt.along (motive := fun _ scene =>
      Sessions.Onward early.site.loop.world.sessions scene.site.loop.world.sessions)
    discreet chronicle (.refl _)
    fun _ _ _ _ kempt _ onward _ effect => onward.trans (effect.onward kempt)).2

end Runs

end Scene

/-- **The roster is the connections that there are.** Take any run of a server, whatever its
surroundings do, that has given out fewer identities than there are words. At every moment the
roster has one entry for each connection that the loop owns or is still to own, under its own
identity, and no other; the session there knows that identity and the connection's handle.
Identities have been given out in increasing order, none of them twice. Where there is a limit,
no more sessions are on the roster than it allows, and none would be however many visitors the
listener admitted at once. And of a connection that there was at any earlier moment and that
there is no longer, the session is closed and off the roster. -/
theorem roster_is_the_connections [Message M] (service : Service M D)
    (discreet : service.sink.Discreet) {loop : ServerLoop M D} (pristine : Scene.Pristine loop)
    {listening : Handle} {early scene : Scene M D} {history more : List Incident}
    (before : Scene.Chronicle service (Scene.opening service listening loop) history early)
    (after : Scene.Chronicle service early more scene)
    (few : scene.site.loop.world.sessions.given.length < 2 ^ 64) :
    let sessions := scene.site.loop.world.sessions
    (sessions.roster.entries ~ scene.members.map (fun member => (member.id, member.key)) ∧
      ∀ member ∈ scene.members, ∃ session, sessions.get? member.key = some session ∧
        session.id = member.id ∧ session.link = some member.handle) ∧
    (sessions.given.Pairwise (· < ·) ∧ early.site.loop.world.sessions.given <+: sessions.given) ∧
    (∀ limit, service.settings.maxConnections = some limit →
      sessions.count ≤ limit.toNat ∧
      ∀ door, (service.welcomeAll door scene.site.loop.world).2.2.sessions.count ≤ limit.toNat) ∧
    ∀ member ∈ early.members, member ∉ scene.members →
      ∃ session, sessions.get? member.key = some session ∧ session.closed = true ∧
        sessions.live? member.id = none := by
  obtain ⟨keptEarly, talliedEarly⟩ := before.tallied discreet pristine
  obtain ⟨kempt, mirrors, room⟩ := (before.trans after).tallied discreet pristine
  have onward := after.onward discreet keptEarly
  refine ⟨⟨mirrors.roster few, mirrors.serves⟩, ⟨mirrors.increasing few, onward.given⟩,
    fun limit limited => ⟨room limit limited, fun door => ?_⟩, fun member inside gone => ?_⟩
  · exact (welcomeAll_admission service door kempt.numbered).count limit limited
      (room limit limited)
  · obtain ⟨session, found, id, link⟩ := talliedEarly.mirrors.serves member inside
    obtain ⟨later, foundLater, lasting⟩ := onward.kept _ _ found
    have linked : later.link.isSome = true := by rw [lasting.link, link]; rfl
    have nobody : member.key ∉ scene.members.map Member.key := by
      intro listed
      obtain ⟨other, there, same⟩ := List.mem_map.1 listed
      obtain ⟨another, foundToo, idToo, linkToo⟩ := mirrors.serves other there
      rw [same] at foundToo
      cases foundLater.symm.trans foundToo
      have handles : other.handle = member.handle :=
        Option.some.inj (linkToo.symm.trans (lasting.link.trans link))
      have ids : other.id = member.id := idToo.symm.trans (lasting.id.trans id)
      have whole : other = member := by
        cases other
        cases member
        simp_all
      exact gone (whole ▸ there)
    obtain ⟨closed, off⟩ := mirrors.struck few foundLater linked nobody
    rw [lasting.id, id] at off
    exact ⟨later, foundLater, closed, off⟩

/-- Of two visitors to a server for one the first is admitted. Its session is closed between two
turns, and with the next turn it is off the roster. -/
theorem closed_session_is_struck_off :
    let service : Service Trial.Telegram Unit :=
      { settings := { maxConnections := some 1 }, catalogue := {}
        sink := ⟨fun _ _ office => (.ok (), office)⟩ }
    let visitor : Visitor := ⟨1, 11, .v4 127 0 0 1 40001⟩
    let second : Visitor := ⟨2, 12, .v4 127 0 0 1 40002⟩
    let loop : ServerLoop Trial.Telegram Unit :=
      { world := { desk := (), pool := Pool.full 1 fun _ => []
                   network := { sockets := Keyed.ofFirst [(1, {}), (2, {})]
                                door := [.visitor visitor, .visitor second] } } }
    ∃ early scene history more,
      Scene.Chronicle service (Scene.opening service 10 loop) history early ∧
      Scene.Chronicle service early more scene ∧
      early.members = [⟨11, 1, 0⟩] ∧ scene.members = [] ∧
      (∃ session, scene.site.loop.world.sessions.get? 0 = some session ∧ session.closed = true) ∧
      scene.site.loop.world.sessions.live? 1 = none := by
  intro service visitor second loop
  let listener : Event (Endpoint Trial.Telegram) :=
    { handle := 10, source := 0, standing := .added, body := .listener }
  let newcomer := service.connect visitor 0 1 none
  let listening : ServerLoop Trial.Telegram Unit :=
    { loop with
      table := Keyed.ofFirst [(10, listener)]
      selector :=
        { poller := { watched := Keyed.ofFirst [(0, (Handle.token 10, ⟨true, false⟩))] }
          listeners := [10] }
      world := { loop.world with started := true } }
  let serving : ServerLoop Trial.Telegram Unit :=
    { listening with
      table := Keyed.ofFirst [(10, listener), (11, { newcomer with standing := .added })]
      selector :=
        { listening.selector with
          poller :=
            { watched := Keyed.ofFirst
                [(0, (Handle.token 10, ⟨true, false⟩)), (1, (Handle.token 11, ⟨true, false⟩))] } }
      world :=
        { listening.world with
          sessions :=
            { book := Keyed.ofFirst [(0, .attached 1 visitor.peer 11)]
              roster := Keyed.ofFirst [(1, 0)], opened := 1 }
          network := { sockets := Keyed.ofFirst [(1, {}), (2, { isOpen := false })] }
          nextSession := 2 } }
  have polled : Scene.Chronicle service (Scene.opening service 10 loop) _
      ⟨⟨listening, .delivering [⟨Handle.token 10, ⟨true, false⟩⟩]⟩, none, []⟩ :=
    (Scene.Chronicle.start.step (.thread rfl (.begin _))).step
      (.thread rfl (.poll rfl true none _ []))
  have admitted : Scene.Chronicle service (Scene.opening service 10 loop) _
      ⟨⟨serving, .applying [] false⟩, none, []⟩ :=
    (((polled.step (.thread rfl (.hear _ rfl rfl))).step
      (.thread rfl (.answerNothing _ (.inl rfl)))).step (.thread rfl (.handOver _))).step
      (.thread rfl (.apply _ _ _ _))
  have rested : Scene.Chronicle service (Scene.opening service 10 loop) _
      ⟨⟨serving, .resting⟩, none, []⟩ :=
    ((admitted.step (.thread rfl (.ring _))).step (.thread rfl (.silence _ _))).step
      (.thread rfl (.rest _))
  have removed : Scene.Chronicle service ⟨⟨serving, .resting⟩, none, []⟩ _ _ :=
    (((Scene.Chronicle.start.step (.act (.close 0 _) rfl)).step (.ask [] (.remove 11 1) [])).step
      (.thread rfl (.begin _))).step (.thread rfl (.take rfl))
  obtain ⟨_, _, _, struck⟩ := roster_is_the_connections service
    ⟨fun _ _ office => .none office.1, fun _ _ _ => rfl⟩
    ⟨⟨rfl, rfl, rfl, rfl, rfl, rfl, rfl⟩, rfl, rfl, rfl, rfl⟩ rested removed (by decide)
  obtain ⟨session, found, closed, off⟩ :=
    struck ⟨11, 1, 0⟩ (by decide) (by decide)
  exact ⟨_, _, _, _, rested, removed, rfl, rfl, ⟨session, found, closed⟩, off⟩

end EventLoop
