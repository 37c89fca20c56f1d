import EventLoop.Proofs.Server.Rollcall

/-! How a connection whose session is closed goes away. Whoever closes the session first sees to
that: somebody else asks the loop, in the name of that session only, and the connection itself
asks within its turn. The one who comes second does nothing, and may rely on it that the other's
request is on its way. A connection that is not yet owned when its session is closed has to be
added before the request is looked at, and it is, because whoever is still to be added is ahead
of everything in the inbox. -/
namespace EventLoop

open scoped List

variable {M D : Type}

/-- What the session of a member asks for when it is closed. -/
def Member.plea (member : Member) : Plea := .remove member.handle member.id

/-- Whether the session with number `key` is closed. -/
def Sessions.IsClosed (key : Nat) (sessions : Sessions) : Prop :=
  ∃ session, sessions.get? key = some session ∧ session.closed = true

private theorem Event.member?_eq_some {event : Event (Endpoint M)} {member : Member} :
    event.member? = some member ↔ ∃ connection, event.body = .connection connection ∧
      member = ⟨event.handle, event.generation, connection.session⟩ := by
  unfold Event.member?
  cases event.body with
  | listener => simp
  | connection connection => simp [eq_comm]

namespace Scene

/-- Whether the loop owns a connection. -/
def Owns (scene : Scene M D) (member : Member) : Prop :=
  ∃ event, scene.site.loop.lookup member.handle = some event ∧ event.member? = some member

/-- Whoever's session is closed is bound to go: its session is about to ask for that, or has
asked, or the connection is owned and has asked itself. -/
def Bound (scene : Scene M D) : Prop :=
  ∀ member ∈ scene.members, scene.site.loop.world.sessions.IsClosed member.key →
    member.plea ∈ scene.asking ∨ member.plea.change ∈ scene.site.loop.inbox ∨
      (scene.Owns member ∧ .remove { handle := member.handle } ∈ scene.site.ahead)

section Members

variable {scene : Scene M D} {member other : Member}

private theorem Kempt.mem_members (kempt : Kempt scene) :
    member ∈ scene.members ↔
      scene.Owns member ∨ ∃ event ∈ scene.site.waiting, event.member? = some member := by
  simp only [members, List.filterMap_append, List.mem_append, List.mem_filterMap]
  refine or_congr_left ⟨?_, ?_⟩
  · rintro ⟨event, inside, same⟩
    obtain ⟨⟨handle, _⟩, entry, rfl⟩ := List.mem_map.1 inside
    have found := (Keyed.get?_eq_some_iff _ _ _).2 entry
    obtain ⟨connection, _, rfl⟩ := Event.member?_eq_some.1 same
    have own := kempt.filed handle _ found
    exact ⟨_, own.symm ▸ found, same⟩
  · rintro ⟨event, found, same⟩
    exact ⟨event, Keyed.mem_values_of_get? found, same⟩

/-- No connection is owned while it waits to be added, since it has a session of its own. -/
theorem Tallied.owned_or_waiting {service : Service M D} (tallied : Tallied service scene)
    (owns : scene.Owns member) {event : Event (Endpoint M)} (inside : event ∈ scene.site.waiting)
    (same : event.member? = some member) : False := by
  obtain ⟨owner, found, own⟩ := owns
  have single := tallied.mirrors.single
  rw [members, List.filterMap_append, List.map_append, List.nodup_append] at single
  have here : member ∈ scene.site.loop.table.values.filterMap Event.member? :=
    List.mem_filterMap.2 ⟨owner, Keyed.mem_values_of_get? found, own⟩
  have there : member ∈ scene.site.waiting.filterMap Event.member? :=
    List.mem_filterMap.2 ⟨event, inside, same⟩
  exact single.2.2 _ (List.mem_map_of_mem here) _ (List.mem_map_of_mem there) rfl

/-- Nobody is there when the loop is gone. -/
theorem Kempt.alive_of_member (kempt : Kempt scene) (inside : member ∈ scene.members) :
    scene.site.loop.alive = true := by
  cases alive : scene.site.loop.alive with
  | true => rfl
  | false =>
    obtain ⟨table, resting, inbox⟩ := kempt.ended alive
    have idle : scene.site.loop.changes.pending = [] := kempt.idle (by rw [resting]; trivial)
    have nobody : scene.members = [] := by
      rw [members, kempt.waiting, table, Site.ahead, idle, resting]
      rfl
    rw [nobody] at inside
    cases inside

end Members

section Effects

variable [Message M] {service : Service M D} {early late : Scene M D} {history : List Incident}
  {member : Member}

/-! ## Who is owned after an effect -/

omit [Message M] in
private theorem Heard.owns {notice : Notice} {handle : Handle} {event : Event (Endpoint M)}
    {connection : Connection M} {response : Service.Response M D}
    (heard : Heard early history late notice handle event connection response)
    (owns : early.Owns member) : late.Owns member := by
  obtain ⟨owner, found, same⟩ := owns
  have owners := early.site.loop.table.get?_insert handle member.handle
    { event with body := .connection response.connection }
  rw [← heard.table] at owners
  split at owners
  · next here =>
    rw [here, heard.found] at found
    cases found
    exact ⟨_, owners, heard.member?.trans same⟩
  · exact ⟨owner, owners.trans found, same⟩

omit [Message M] in
private theorem Listened.owns {handle : Handle} {event : Event (Endpoint M)}
    {requests : List (Request (Endpoint M))} {premises : Premises D}
    (listened : Listened service early late handle event requests premises)
    (owns : early.Owns member) : late.Owns member := by
  obtain ⟨owner, found, same⟩ := owns
  have owners := early.site.loop.table.get?_insert handle member.handle event
  rw [← listened.table] at owners
  split at owners
  · next here =>
    rw [here, listened.found] at found
    cases found
    exact ⟨_, owners, same⟩
  · exact ⟨owner, owners.trans found, same⟩

/-- Whoever is owned when a change is applied and is there afterwards is owned afterwards. -/
theorem Applied.owns {change : Change (Endpoint M) Empty}
    (applied : Applied service early change late) (kempt : Kempt early) (keptLate : Kempt late)
    (tallied : Tallied service early) (owns : early.Owns member) (inside : member ∈ late.members) :
    late.Owns member := by
  rcases keptLate.mem_members.1 inside with still | ⟨event, waits, same⟩
  · exact still
  · have waited : event ∈ early.site.waiting := by
      rw [applied.waited kempt keptLate]
      exact List.mem_append_right _ waits
    exact (tallied.owned_or_waiting owns waited same).elim

/-- Nobody is there any more who has been removed. -/
theorem Applied.removes {target : Target} (applied : Applied service early (.remove target) late)
    (kempt : Kempt early) (keptLate : Kempt late) (tallied : Tallied service early)
    (owns : early.Owns member) (handle : target.handle = member.handle)
    (generation : ∀ id, target.generation = some id → id = member.id) :
    member ∉ late.members := by
  intro inside
  obtain ⟨owner, found, same⟩ := owns
  obtain ⟨connection, _, who⟩ := Event.member?_eq_some.1 same
  have means : early.site.loop.owns target = true := by
    rw [Loop.owns, handle, found]
    cases named : target.generation with
    | none => rfl
    | some id =>
      have own := generation id named
      rw [who] at own
      simpa using own.symm
  obtain ⟨_, stands, _⟩ := applied.owns kempt keptLate tallied ⟨owner, found, same⟩ inside
  have gone := Loop.apply_removes service.conduct means
  rw [handle, Loop.lookup, ← applied.table] at gone
  cases gone.symm.trans stands

/-! ## Bound to go -/

/-- Whoever is there when a change has been applied has been closed before, if at all. -/
theorem Applied.closed {change : Change (Endpoint M) Empty}
    (applied : Applied service early change late) (kempt : Kempt early) (keptLate : Kempt late)
    (tallied : Tallied service early) (inside : member ∈ late.members)
    (closed : late.site.loop.world.sessions.IsClosed member.key) :
    member ∈ early.members ∧ early.site.loop.world.sessions.IsClosed member.key := by
  obtain ⟨ended, parts, same⟩ := applied.members kempt keptLate
  have before : member ∈ early.members := same.mem_iff.2 (List.mem_append_right _ inside)
  obtain ⟨session, found, _⟩ := tallied.mirrors.serves member before
  obtain ⟨later, foundLater, shut⟩ := closed
  have single := (same.map Member.key).nodup_iff.1 tallied.mirrors.single
  rw [List.map_append, List.nodup_append] at single
  refine ⟨before, session, found, ?_⟩
  refine (parts.closed _ _ _ found foundLater shut).resolve_right fun gone => ?_
  exact single.2.2 _ gone _ (List.mem_map_of_mem inside) rfl

private theorem Bound.applied {change : Change (Endpoint M) Empty} (bound : Bound early)
    (applied : Applied service early change late) (kempt : Kempt early) (keptLate : Kempt late)
    (tallied : Tallied service early) : Bound late := by
  intro member inside closed
  obtain ⟨before, closedBefore⟩ := applied.closed kempt keptLate tallied inside closed
  rcases bound member before closedBefore with asking | inbox | ⟨owns, ahead⟩
  · rw [applied.asking]
    exact .inl asking
  · rcases applied.source with ⟨_, same⟩ | ⟨nothing, _, taken | ⟨same, _⟩⟩
    · rw [same]
      exact .inr (.inl inbox)
    · rw [taken] at inbox
      rcases List.mem_cons.1 inbox with here | later
      · -- It is this request that is taken, and nobody waits behind it.
        have owns : early.Owns member := by
          refine (kempt.mem_members.1 before).resolve_right ?_
          rintro ⟨event, waits, _⟩
          rw [kempt.waiting, nothing] at waits
          cases waits
        subst here
        exact absurd inside (applied.removes kempt keptLate tallied owns rfl
          fun _ named => (Option.some.inj named).symm)
      · exact .inr (.inl later)
    · rw [same]
      exact .inr (.inl inbox)
  · rcases applied.source with ⟨front, _⟩ | ⟨nothing, _⟩
    · rw [front] at ahead
      rcases List.mem_cons.1 ahead with here | later
      · subst here
        exact absurd inside (applied.removes kempt keptLate tallied owns rfl
          fun _ named => nomatch named)
      · exact .inr (.inr ⟨applied.owns kempt keptLate tallied owns inside, later⟩)
    · rw [nothing] at ahead
      cases ahead

omit [Message M] in
private theorem Bound.heard {notice : Notice} {handle : Handle} {event : Event (Endpoint M)}
    {connection : Connection M} {response : Service.Response M D} (bound : Bound early)
    (heard : Heard early history late notice handle event connection response)
    (kempt : Kempt early) (keptLate : Kempt late) (tallied : Tallied service early) :
    Bound late := by
  intro member inside closed
  rw [heard.members kempt keptLate] at inside
  obtain ⟨later, foundLater, shut⟩ := closed
  rw [heard.sessions] at foundLater
  obtain ⟨session, found, id, link⟩ := tallied.mirrors.serves member inside
  obtain ⟨_, foundSame, lasting⟩ := heard.behaves.lasts.kept _ _ found
  cases foundLater.symm.trans foundSame
  have here := kempt.present (kempt.alive_of_member inside)
  rcases heard.behaves.asks here _ _ _ _ found foundLater shut (lasting.link.trans link) with
    before | asked | ⟨own, asked⟩
  · rcases bound member inside ⟨session, found, before⟩ with asking | inbox | ⟨owns, ahead⟩
    · rw [heard.asking]
      exact .inl asking
    · rw [heard.inbox]
      exact .inr (.inl (List.mem_append_left _ inbox))
    · rw [heard.ahead]
      exact .inr (.inr ⟨heard.owns owns, List.mem_append_left _ ahead⟩)
  · rw [lasting.id, id] at asked
    rw [heard.inbox]
    exact .inr (.inl (List.mem_append_right _ (List.mem_map_of_mem asked)))
  · -- It is the connection that has heard, and it has asked to be removed itself.
    have hearer : event.member? = some ⟨event.handle, event.generation, connection.session⟩ :=
      Event.member?_eq_some.2 ⟨connection, heard.body, rfl⟩
    have filed := kempt.filed _ _ heard.found
    have owner : early.Owns ⟨event.handle, event.generation, connection.session⟩ :=
      ⟨event, filed.symm ▸ heard.found, hearer⟩
    have same := tallied.mirrors.same_of_key inside (kempt.mem_members.2 (.inl owner)) own
    subst same
    rw [heard.ahead]
    refine .inr (.inr ⟨heard.owns owner, List.mem_append_right _ (List.mem_map.2 ⟨_, asked, ?_⟩)⟩)
    rw [← filed]
    rfl

/-- **Every effect leaves those bound to go whose sessions are closed.** -/
theorem Bound.effect (bound : Bound early) (kempt : Kempt early) (keptLate : Kempt late)
    (tallied : Tallied service early) (effect : Effect service early history late) :
    Bound late := by
  cases effect with
  | aside aside =>
    intro member inside closed
    rw [aside.members kempt keptLate] at inside
    rw [aside.sessions] at closed
    obtain ⟨_, ahead, _⟩ := aside.ahead
    obtain ⟨_, inbox, _⟩ := aside.inbox
    rcases bound member inside closed with asking | asked | ⟨⟨owner, found, same⟩, asked⟩
    · exact (aside.asking (kempt.alive_of_member inside) _ asking).imp_right .inl
    · rw [inbox]
      exact .inr (.inl (List.mem_append_left _ asked))
    · rw [ahead]
      refine .inr (.inr ⟨⟨owner, ?_, same⟩, List.mem_append_left _ asked⟩)
      rw [Loop.lookup, aside.table]
      exact found
  | applied change applied => exact bound.applied applied kempt keptLate tallied
  | heard heard => exact bound.heard heard kempt keptLate tallied
  | listened listened =>
    intro member inside closed
    obtain ⟨later, foundLater, shut⟩ := closed
    rw [listened.sessions] at foundLater
    rcases List.mem_append.1 ((listened.members kempt keptLate).mem_iff.1 inside) with new | old
    · have missing := listened.admission.fresh member new
      cases shut.symm.trans (listened.admission.opened _ _ missing foundLater)
    · obtain ⟨session, found, _⟩ := tallied.mirrors.serves member old
      cases foundLater.symm.trans (listened.admission.kept _ _ found)
      rcases bound member old ⟨later, found, shut⟩ with asking | inbox | ⟨owns, ahead⟩
      · rw [listened.asking]
        exact .inl asking
      · rw [listened.inbox]
        exact .inr (.inl inbox)
      · rw [listened.ahead]
        exact .inr (.inr ⟨listened.owns owns, List.mem_append_left _ ahead⟩)
  | acted acted =>
    intro member inside closed
    rw [acted.members kempt keptLate] at inside
    obtain ⟨later, foundLater, shut⟩ := closed
    rw [acted.sessions] at foundLater
    obtain ⟨session, found, id, link⟩ := tallied.mirrors.serves member inside
    obtain ⟨_, foundSame, lasting⟩ := acted.lasts.kept _ _ found
    cases foundLater.symm.trans foundSame
    have here := kempt.present (kempt.alive_of_member inside)
    rw [acted.asking, acted.inbox, acted.ahead]
    rcases acted.asks here _ _ _ _ (by simp) found foundLater shut (lasting.link.trans link) with
      before | asked
    · rcases bound member inside ⟨session, found, before⟩ with asking | inbox | ⟨owns, ahead⟩
      · exact .inl (List.mem_append_left _ asking)
      · exact .inr (.inl inbox)
      · obtain ⟨owner, stands, same⟩ := owns
        refine .inr (.inr ⟨⟨owner, ?_, same⟩, ahead⟩)
        rw [Loop.lookup, acted.table]
        exact stands
    · rw [lasting.id, id] at asked
      exact .inl (List.mem_append_right _ asked)
  | dismissed dismissed =>
    intro member inside
    rw [dismissed.members keptLate] at inside
    cases inside

/-! ## Asking once -/

omit [Message M] in
/-- What comes into the inbox on behalf of sessions that ask to be removed. -/
theorem count_queued (pleas : List Plea) (handle : Handle) (id : UInt64) :
    ((pleas.map (Plea.change (B := Endpoint M) (C := Empty))).filterMap Change.incident?).count
      (.queued handle id) = pleas.count (.remove handle id) := by
  induction pleas with
  | nil => rfl
  | cons plea pleas ih =>
    cases plea with
    | rearm other generation interest =>
      rw [List.count_cons_of_ne (by simp), ← ih]
      rfl
    | remove other generation =>
      have first : (Plea.remove other generation).change.incident? (B := Endpoint M) (C := Empty) =
          some (.queued other generation) := rfl
      rw [List.map_cons, List.filterMap_cons_some first, List.count_cons, List.count_cons, ih]
      simp

/-- Whatever is asked for is made good by a session that has closed. -/
theorem Effect.balance (kempt : Kempt early) (effect : Effect service early history late)
    (handle : Handle) (id : UInt64) :
    history.count (.queued handle id) + late.asking.count (.remove handle id) +
        early.site.loop.world.sessions.ceased handle id ≤
      early.asking.count (.remove handle id) + late.site.loop.world.sessions.ceased handle id := by
  cases effect with
  | aside aside =>
    rw [aside.sessions]
    exact Nat.add_le_add_right (aside.told handle id) _
  | applied change applied =>
    obtain ⟨_, _, parts⟩ := apply_parts service kempt.filed kempt.numbered change
    rw [← applied.world] at parts
    have balance := parts.lasts.balance handle id
    rw [parts.pleas] at balance
    rw [applied.asking, List.count_nil]
    omega
  | @heard _ _ _ _ _ _ response heard =>
    have balance := heard.behaves.lasts.balance handle id
    have same : late.site.loop.world.sessions.ceased handle id =
        response.premises.sessions.ceased handle id := by
      rw [heard.sessions]
      rfl
    rw [kempt.silent, List.count_nil, Nat.zero_add] at balance
    rw [heard.asking, heard.told, count_queued, same]
    omega
  | listened listened =>
    exact Nat.le_of_eq (by rw [listened.asking, listened.sessions, listened.admission.ceased,
      List.count_nil, Nat.zero_add])
  | @acted _ sessions acted =>
    have balance := acted.lasts.balance handle id
    have same : late.site.loop.world.sessions.ceased handle id = sessions.ceased handle id := by
      rw [acted.sessions]
      rfl
    rw [kempt.silent, List.count_nil, Nat.zero_add] at balance
    rw [acted.asking, same, List.count_append, List.count_nil]
    omega
  | @dismissed _ premises dismissed =>
    have balance := dismissed.parts.lasts.balance handle id
    have same : late.site.loop.world.sessions.ceased handle id =
        premises.sessions.ceased handle id := by
      rw [dismissed.sessions]
      rfl
    rw [dismissed.parts.pleas] at balance
    rw [dismissed.asking, same, List.count_nil]
    omega

/-! ## Gone for good -/

/-- Whoever comes has a session that nobody has had. -/
theorem Effect.newcomers (kempt : Kempt early) (keptLate : Kempt late)
    (effect : Effect service early history late) (inside : member ∈ late.members) :
    member ∈ early.members ∨ early.site.loop.world.sessions.get? member.key = none := by
  cases effect with
  | aside aside => exact .inl (aside.members kempt keptLate ▸ inside)
  | applied change applied =>
    obtain ⟨_, _, same⟩ := applied.members kempt keptLate
    exact .inl (same.mem_iff.2 (List.mem_append_right _ inside))
  | heard heard => exact .inl (heard.members kempt keptLate ▸ inside)
  | listened listened =>
    exact (List.mem_append.1 ((listened.members kempt keptLate).mem_iff.1 inside)).symm.imp_right
      (listened.admission.fresh member)
  | acted acted => exact .inl (acted.members kempt keptLate ▸ inside)
  | dismissed dismissed =>
    rw [dismissed.members keptLate] at inside
    cases inside

end Effects

/-! ## The course of a departure -/

/-- A session that is closed, with nobody about to ask for anything on that account. -/
structure Departing (key : Nat) (session : Session) (scene : Scene M D) : Prop where
  found : ∃ later, scene.site.loop.world.sessions.get? key = some later ∧
    Session.Lasting session later ∧ later.closed = true
  silent : ∀ handle, session.link = some handle → .remove handle session.id ∉ scene.asking

/-- Whether no connection has the session with number `key`. -/
def Gone (key : Nat) (scene : Scene M D) : Prop := ∀ member ∈ scene.members, member.key ≠ key

end Scene

private theorem Sessions.over_pos {sessions : Sessions} {key : Nat} {session : Session}
    {handle : Handle} (found : sessions.get? key = some session) (closed : session.closed = true)
    (linked : session.link = some handle) : 0 < sessions.ceased handle session.id := by
  refine List.countP_pos_iff.2 ⟨session, Keyed.mem_values_of_get? found, ?_⟩
  simp [Session.isOver, closed, linked]

namespace Scene

section Runs

variable [Message M] {service : Service M D} {early late : Scene M D} {more : List Incident}
  {key : Nat} {session : Session}

/-- Nobody asks a second time. -/
theorem Departing.effect (departing : Departing key session early) (kempt : Kempt early)
    (tallied : Tallied service late) (few : late.site.loop.world.sessions.given.length < 2 ^ 64)
    (effect : Effect service early more late) : Departing key session late := by
  obtain ⟨between, found, lasting, closed⟩ := departing.found
  obtain ⟨later, foundLater, onward⟩ := (effect.onward kempt).kept _ _ found
  refine ⟨⟨later, foundLater, lasting.trans onward, onward.closed closed⟩, fun handle linked => ?_⟩
  have once := effect.balance kempt handle session.id
  have silent := List.count_eq_zero.2 (departing.silent handle linked)
  have before := Sessions.over_pos found closed (lasting.link.trans linked)
  have after := tallied.mirrors.over_le_one few handle session.id
  rw [lasting.id] at before
  refine List.count_eq_zero.1 ?_
  omega

omit [Message M] in
/-- While the inbox is looked at, whoever is departing has a request in it. -/
theorem Departing.gone (departing : Departing key session early) (bound : Bound early)
    (kempt : Kempt early) (tallied : Tallied service early)
    (draining : early.site.stage = .draining) (empty : early.site.loop.inbox = []) :
    Gone key early := by
  intro member inside own
  obtain ⟨later, found, lasting, closed⟩ := departing.found
  obtain ⟨_, foundSame, id, link⟩ := tallied.mirrors.serves member inside
  rw [own] at foundSame
  cases found.symm.trans foundSame
  have ahead := kempt.nothing_ahead (by rw [draining]; trivial) (by rw [draining]; rfl)
  rcases bound member inside ⟨later, own ▸ found, closed⟩ with asking | inbox | ⟨_, asked⟩
  · rw [Member.plea, ← id, lasting.id] at asking
    exact departing.silent _ (lasting.link.symm.trans link) asking
  · rw [empty] at inbox
    cases inbox
  · rw [ahead] at asked
    cases asked

private theorem Gone.effect (gone : Gone key early) (departing : Departing key session early)
    (kempt : Kempt early) (keptLate : Kempt late) (effect : Effect service early more late) :
    Gone key late := by
  intro member inside own
  rcases effect.newcomers kempt keptLate inside with before | missing
  · exact gone member before own
  · obtain ⟨_, found, _⟩ := departing.found
    rw [own, found] at missing
    cases missing

/-! ## Turns -/

omit [Message M] in
private theorem arrivals_queued {loop next : ServerLoop M D} {incident : Incident}
    (told : incident ∈ loop.arrivals next) : ∃ handle id, incident = .queued handle id := by
  obtain ⟨change, _, same⟩ := List.mem_filterMap.1 told
  cases change with
  | remove target =>
    obtain ⟨handle, generation⟩ := target
    cases generation with
    | none => cases same
    | some id => exact ⟨handle, id, (Option.some.inj same).symm⟩
  | _ => cases same

/-- A turn begins with the inbox. -/
theorem Passes.begins (passes : Passes service early more late) (began : .began ∈ more) :
    more = [.began] ∧ late.site.stage = .draining := by
  have never {loop next : ServerLoop M D} (told : .began ∈ loop.arrivals next) : False := by
    obtain ⟨_, _, same⟩ := arrivals_queued told
    cases same
  cases passes with
  | thread alive step =>
    cases step with
    | begin => exact ⟨rfl, rfl⟩
    | pollFails => cases List.mem_singleton.1 began
    | rest => cases List.mem_singleton.1 began
    | _ => exact (never began).elim
  | flush => exact (never began).elim
  | ask => exact (never began).elim
  | _ => cases began

/-- The inbox is looked at until it is empty. -/
theorem Passes.drains (passes : Passes service early more late)
    (draining : early.site.stage = .draining) :
    early.site.loop.inbox = [] ∨ (late.site.stage = .draining ∧ .rested ∉ more) := by
  have never {loop next : ServerLoop M D} : .rested ∉ loop.arrivals next := by
    intro told
    obtain ⟨_, _, same⟩ := arrivals_queued told
    cases same
  cases passes with
  | thread alive step =>
    cases step with
    | take => exact .inr ⟨rfl, never⟩
    | poll inbox => exact .inl inbox
    | pollFails inbox => exact .inl inbox
    | _ => cases draining
  | gather => cases draining
  | flush => cases draining
  | act => exact .inr ⟨draining, List.not_mem_nil⟩
  | ask => exact .inr ⟨draining, never⟩
  | order => exact .inr ⟨draining, List.not_mem_nil⟩
  | call => cases draining
  | petition => exact .inr ⟨draining, List.not_mem_nil⟩
  | elsewhere => exact .inr ⟨draining, List.not_mem_nil⟩
  | dismiss => cases draining

/-! ## Every run -/

private theorem pair_of_append {first second : Incident} {before after : List Incident}
    (pair : [first, second].Sublist (before ++ after)) :
    [first, second].Sublist before ∨ second ∈ after := by
  obtain ⟨left, right, split, early, late⟩ := List.sublist_append_iff.1 pair
  rcases left with _ | ⟨one, _ | ⟨two, rest⟩⟩
  · cases split
    exact .inr (late.subset (List.mem_cons_of_mem _ List.mem_cons_self))
  · cases split
    exact .inr (late.subset List.mem_cons_self)
  · obtain ⟨rfl, rfl, rfl, rfl⟩ : first = one ∧ second = two ∧ rest = [] ∧ right = [] := by
      simpa using split
    exact .inl early

/-- How far a departure has come since a session was closed. -/
inductive Course (key : Nat) (history : List Incident) (scene : Scene M D) : Prop where
  /-- No turn has begun. -/
  | early (before : .began ∉ history)
  /-- The inbox is looked at in the first turn that has begun. -/
  | under (draining : scene.site.stage = .draining)
      (unfinished : ¬ [.began, .rested].Sublist history)
  | departed (gone : Gone key scene)

private theorem Course.passes {before : List Incident} (course : Course key before early)
    (departing : Departing key session early) (bound : Bound early) (kempt : Kempt early)
    (keptLate : Kempt late) (tallied : Tallied service early)
    (passes : Passes service early more late) (effect : Effect service early more late) :
    Course key (before ++ more) late := by
  have still (gone : Gone key early) : Course key (before ++ more) late :=
    .departed (gone.effect departing kempt keptLate effect)
  cases course with
  | early unbegun =>
    by_cases began : .began ∈ more
    · obtain ⟨only, draining⟩ := passes.begins began
      refine .under draining fun pair => ?_
      rcases pair_of_append pair with earlier | rested
      · exact unbegun (earlier.subset List.mem_cons_self)
      · rw [only] at rested
        cases List.mem_singleton.1 rested
    · exact .early fun inside => (List.mem_append.1 inside).elim unbegun began
  | under draining unfinished =>
    rcases passes.drains draining with empty | ⟨drains, unrested⟩
    · exact still (departing.gone bound kempt tallied draining empty)
    · exact .under drains fun pair => (pair_of_append pair).elim unfinished unrested
  | departed gone => exact still gone

/-- Everybody whose session is closed is bound to go, wherever a chronicle has come to. -/
theorem Chronicle.bound (discreet : service.sink.Discreet) {loop : ServerLoop M D}
    (pristine : Pristine loop) {handle : Handle} {history : List Incident} {scene : Scene M D}
    (chronicle : Chronicle service (opening service handle loop) history scene) :
    Kempt scene ∧ Tallied service scene ∧ Bound scene := by
  refine chronicle.holds (motive := fun scene => Tallied service scene ∧ Bound scene) discreet
    pristine ?_ ?_
  · refine ⟨pristine.tallied service handle, fun member inside => ?_⟩
    rw [pristine.nobody handle] at inside
    cases inside
  · rintro early more late kempt keptLate ⟨tallied, bound⟩ effect
    exact ⟨tallied.effect kempt keptLate effect, bound.effect kempt keptLate tallied effect⟩

/-- What was asked for and what is about to be is made good by sessions that have closed. -/
theorem Chronicle.accounted (discreet : service.sink.Discreet) {loop : ServerLoop M D}
    (pristine : Pristine loop) {listening : Handle} {history : List Incident} {scene : Scene M D}
    (chronicle : Chronicle service (opening service listening loop) history scene)
    (handle : Handle) (id : UInt64) :
    history.count (.queued handle id) + scene.asking.count (.remove handle id) ≤
      scene.site.loop.world.sessions.ceased handle id := by
  have sum := ((pristine.kempt listening).along (motive := fun told scene =>
      told.count (.queued handle id) + scene.asking.count (.remove handle id) ≤
        scene.site.loop.world.sessions.ceased handle id) discreet (chronicle.since_eve pristine)
    (Nat.zero_le _) fun told early more late kempt _ sum _ effect => by
      have balance := effect.balance kempt handle id
      rw [List.count_append]
      omega).2
  rwa [List.count_cons_of_ne (by simp)] at sum

/-- **Whoever departs is gone with the first turn.** -/
theorem Chronicle.departs (discreet : service.sink.Discreet) {scene : Scene M D}
    (kempt : Kempt early) (tallied : Tallied service early) (bound : Bound early)
    (departing : Departing key session early) (chronicle : Chronicle service early more scene)
    (few : scene.site.loop.world.sessions.given.length < 2 ^ 64) :
    Course key more scene := by
  have along := kempt.along (motive := fun told scene =>
      (Tallied service scene ∧ Bound scene) ∧
        (scene.site.loop.world.sessions.given.length < 2 ^ 64 →
          Departing key session scene ∧ Course key told scene)) discreet chronicle
    ⟨⟨tallied, bound⟩, fun _ => ⟨departing, .early List.not_mem_nil⟩⟩
    fun told early more late kempt keptLate sound passes effect => by
      obtain ⟨⟨tallied, bound⟩, course⟩ := sound
      have talliedLate := tallied.effect kempt keptLate effect
      refine ⟨⟨talliedLate, bound.effect kempt keptLate tallied effect⟩, fun few => ?_⟩
      have fewer := Nat.lt_of_le_of_lt (effect.onward kempt).given.length_le few
      obtain ⟨departing, course⟩ := course fewer
      exact ⟨departing.effect kempt talliedLate few effect,
        course.passes departing bound kempt keptLate tallied passes effect⟩
  exact (along.2.2 few).2

end Runs

end Scene

/-- The request of a session to be removed leaves every other connection where it is, whoever
owns the handle by then. -/
theorem removal_spares_others [Message M] (service : Service M D) {scene : Scene M D}
    (kempt : scene.Kempt) (tallied : scene.Tallied service)
    (few : scene.site.loop.world.sessions.given.length < 2 ^ 64) {key : Nat} {session : Session}
    {handle other : Handle} {event : Event (Endpoint M)} {connection : Connection M}
    (known : scene.site.loop.world.sessions.get? key = some session)
    (linked : session.link = some handle) (owns : scene.site.loop.lookup other = some event)
    (body : event.body = .connection connection) (apart : connection.session ≠ key) :
    (scene.site.loop.apply service.conduct
      (.remove { handle, generation := some session.id })).lookup other = some event := by
  by_cases here : other = handle
  · subst here
    have member : event.member? = some ⟨event.handle, event.generation, connection.session⟩ :=
      Event.member?_eq_some.2 ⟨connection, body, rfl⟩
    have own : scene.Owns ⟨event.handle, event.generation, connection.session⟩ :=
      ⟨event, (kempt.filed _ _ owns).symm ▸ owns, member⟩
    obtain ⟨served, found, id, link⟩ :=
      tallied.mirrors.serves _ (kempt.mem_members.2 (.inl own))
    have means :
        scene.site.loop.owns { handle := other, generation := some session.id } = false := by
      simp only [Loop.owns, owns, decide_eq_false_iff_not]
      intro same
      exact apart (tallied.mirrors.key_of_id few found known (by rw [link]; rfl)
        (by rw [linked]; rfl) (id.trans same))
    simp only [Loop.apply, means, Bool.false_eq_true, ↓reduceIte]
    exact owns
  · have same := Loop.apply_owner service.conduct kempt.filed
      (.remove { handle, generation := some session.id })
      fun concerned => here (Option.some.inj concerned).symm
    exact same.trans owns

/-- **A connection whose session is closed goes away, and goes away once.** Take any run of a
server, whatever its surroundings do, that has given out fewer identities than there are words.
Between two turns, if the session of a connection that is owned is closed and nobody is still
about to ask for anything on that account, the inbox has a request to remove the handle from that
session only. Over the whole run at most one such request of any session has come into the inbox.
If a session has been closed and nobody is about to ask any more, then when one turn has begun
and ended since, there is no connection with that session, be it that it was owned or that it
was still to be added. And such a request, whenever it is applied, leaves every connection with
another session where it is, also one that owns the handle by then. -/
theorem closed_connection_goes_once [Message M] (service : Service M D)
    (discreet : service.sink.Discreet) {loop : ServerLoop M D} (pristine : Scene.Pristine loop)
    {listening : Handle} {early scene : Scene M D} {history more : List Incident}
    (before : Scene.Chronicle service (Scene.opening service listening loop) history early)
    (after : Scene.Chronicle service early more scene)
    (few : scene.site.loop.world.sessions.given.length < 2 ^ 64) :
    let sessions := scene.site.loop.world.sessions
    (∀ handle event connection session, scene.site.stage = .resting →
      scene.site.loop.lookup handle = some event → event.body = .connection connection →
      sessions.get? connection.session = some session → session.closed = true →
      .remove handle session.id ∉ scene.asking →
        .remove { handle, generation := some session.id } ∈ scene.site.loop.inbox) ∧
    (∀ handle id, (history ++ more).count (.queued handle id) ≤ 1) ∧
    (∀ key session, early.site.loop.world.sessions.get? key = some session →
      session.closed = true →
      (∀ handle, session.link = some handle → .remove handle session.id ∉ early.asking) →
      [.began, .rested].Sublist more → ∀ member ∈ scene.members, member.key ≠ key) ∧
    ∀ key session handle, sessions.get? key = some session → session.link = some handle →
      ∀ other event connection, scene.site.loop.lookup other = some event →
      event.body = .connection connection → connection.session ≠ key →
        (scene.site.loop.apply service.conduct
          (.remove { handle, generation := some session.id })).lookup other = some event := by
  obtain ⟨keptEarly, talliedEarly, boundEarly⟩ := before.bound discreet pristine
  obtain ⟨kempt, tallied, bound⟩ := (before.trans after).bound discreet pristine
  refine ⟨?_, fun handle id => ?_, fun key session found closed silent pair => ?_, ?_⟩
  · intro handle event connection session resting found body known closed silent
    have same : event.member? = some ⟨event.handle, event.generation, connection.session⟩ :=
      Event.member?_eq_some.2 ⟨connection, body, rfl⟩
    have filed := kempt.filed _ _ found
    have inside := kempt.mem_members.2 (.inl ⟨event, filed.symm ▸ found, same⟩)
    obtain ⟨_, foundSame, id, _⟩ := tallied.mirrors.serves _ inside
    cases known.symm.trans foundSame
    have ahead := kempt.nothing_ahead (by rw [resting]; trivial) (by rw [resting]; rfl)
    rw [id] at silent ⊢
    rw [← filed] at silent ⊢
    rcases bound _ inside ⟨session, known, closed⟩ with asking | inbox | ⟨_, asked⟩
    · exact absurd asking silent
    · exact inbox
    · rw [ahead] at asked
      cases asked
  · have sum := (before.trans after).accounted discreet pristine handle id
    have once := tallied.mirrors.over_le_one few handle id
    omega
  · have departing : Scene.Departing key session early :=
      ⟨⟨session, found, .refl session, closed⟩, silent⟩
    rcases after.departs discreet keptEarly talliedEarly boundEarly departing few with
      unbegun | ⟨_, unfinished⟩ | gone
    · exact absurd (pair.subset List.mem_cons_self) unbegun
    · exact absurd pair unfinished
    · exact gone
  · intro key session handle known linked other event connection owns body apart
    exact removal_spares_others service kempt tallied few known linked owns body apart

/-- A session is closed in the turn in which its connection is admitted, before anybody owns that
connection. It is added all the same, its request stands in the inbox between the turns, and with
the next turn it is gone. -/
theorem closed_before_it_is_owned :
    let service : Service Trial.Telegram Unit :=
      { settings := {}, catalogue := {}, sink := ⟨fun _ _ office => (.ok (), office)⟩ }
    let visitor : Visitor := ⟨1, 11, .v4 127 0 0 1 40001⟩
    let loop : ServerLoop Trial.Telegram Unit :=
      { world := { desk := (), pool := Pool.full 1 fun _ => []
                   network := { sockets := Keyed.ofFirst [(1, {})], door := [.visitor visitor] } } }
    ∃ early middle scene history more rest,
      Scene.Chronicle service (Scene.opening service 10 loop) history early ∧
      Scene.Chronicle service early more middle ∧ Scene.Chronicle service middle rest scene ∧
      early.site.loop.owner? 11 = none ∧ middle.site.loop.owner? 11 = some 1 ∧
      .remove { handle := 11, generation := some 1 } ∈ middle.site.loop.inbox ∧
      ∀ member ∈ scene.members, member.key ≠ 0 := by
  intro service visitor loop
  let listener : Event (Endpoint Trial.Telegram) :=
    { handle := 10, source := 0, standing := .added, body := .listener }
  let listening : ServerLoop Trial.Telegram Unit :=
    { loop with
      table := Keyed.ofFirst [(10, listener)]
      selector :=
        { poller := { watched := Keyed.ofFirst [(0, (Handle.token 10, ⟨true, false⟩))] }
          listeners := [10] }
      world := { loop.world with started := true } }
  let newcomer := service.connect visitor 0 1 none
  -- The connection waits to be added, and the request of its session stands in the inbox.
  let closing : ServerLoop Trial.Telegram Unit :=
    { listening with
      changes := { pending := [.add newcomer .readable] }
      inbox := [.remove { handle := 11, generation := some 1 }]
      selector :=
        { listening.selector with
          poller := { listening.selector.poller with queue := [.waker] } }
      world :=
        { listening.world with
          sessions :=
            { book := Keyed.ofFirst [(0, (Session.attached 1 visitor.peer 11).markClosed)]
              roster := Keyed.ofFirst [(1, 0)], opened := 1 }
          network := { sockets := Keyed.ofFirst [(1, {})] }
          nextSession := 2 } }
  let owned : ServerLoop Trial.Telegram Unit :=
    { closing with
      changes := {}
      table := Keyed.ofFirst [(10, listener), (11, { newcomer with standing := .added })]
      selector :=
        { closing.selector with
          poller :=
            { watched := Keyed.ofFirst
                [(0, (Handle.token 10, ⟨true, false⟩)), (1, (Handle.token 11, ⟨true, false⟩))]
              queue := [.waker] } } }
  let left : ServerLoop Trial.Telegram Unit :=
    { listening with
      selector :=
        { closing.selector with
          poller := { listening.selector.poller with queue := [.waker] } }
      world :=
        { closing.world with
          sessions := { closing.world.sessions with roster := {} }
          network := { sockets := Keyed.ofFirst [(1, { isOpen := false })] } } }
  have discreet : service.sink.Discreet := ⟨fun _ _ office => .none office.1, fun _ _ _ => rfl⟩
  have pristine : Scene.Pristine loop :=
    ⟨⟨rfl, rfl, rfl, rfl, rfl, rfl, rfl⟩, rfl, rfl, rfl, rfl⟩
  have polled : Scene.Chronicle service (Scene.opening service 10 loop) _
      ⟨⟨listening, .delivering [⟨Handle.token 10, ⟨true, false⟩⟩]⟩, none, []⟩ :=
    (Scene.Chronicle.start.step (.thread rfl (.begin _))).step
      (.thread rfl (.poll rfl true none _ []))
  have closed : Scene.Chronicle service (Scene.opening service 10 loop) _
      ⟨⟨closing, .answering 10 false []⟩, none, []⟩ :=
    ((polled.step (.thread rfl (.hear _ rfl rfl))).step (.act (.close 0 _) rfl)).step
      (.ask [] (.remove 11 1) [])
  have applied : Scene.Chronicle service ⟨⟨closing, .answering 10 false []⟩, none, []⟩ _
      ⟨⟨owned, .applying [] false⟩, none, []⟩ :=
    ((Scene.Chronicle.start.step (.thread rfl (.answerNothing _ (.inl rfl)))).step
      (.thread rfl (.handOver _))).step (.thread rfl (.apply _ _ _ _))
  have added : Scene.Chronicle service ⟨⟨closing, .answering 10 false []⟩, none, []⟩ _
      ⟨⟨owned, .resting⟩, none, []⟩ :=
    ((applied.step (.thread rfl (.ring _))).step (.thread rfl (.silence _ _))).step
      (.thread rfl (.rest _))
  have inbox : owned.inbox = [.remove { handle := 11, generation := some 1 }] := rfl
  have taken : Scene.Chronicle service ⟨⟨owned, .resting⟩, none, []⟩ _
      ⟨⟨left, .draining⟩, none, []⟩ :=
    (Scene.Chronicle.start.step (.thread rfl (.begin _))).step (.thread rfl (.take inbox))
  have rested : Scene.Chronicle service ⟨⟨owned, .resting⟩, none, []⟩ _
      ⟨⟨{ left with changes := {} }, .resting⟩, none, []⟩ :=
    ((((taken.step (.thread rfl (.poll rfl true none [] [.waker]))).step
      (.thread rfl (.handOver _))).step (.thread rfl (.ring _))).step
      (.thread rfl (.silence _ _))).step (.thread rfl (.rest _))
  obtain ⟨asked, _⟩ := closed_connection_goes_once service discreet pristine closed added
    (by decide)
  obtain ⟨_, _, gone, _⟩ := closed_connection_goes_once service discreet pristine closed
    (added.trans rested) (by decide)
  have stands := asked 11 { newcomer with standing := .added } _ _ rfl rfl rfl rfl rfl
    List.not_mem_nil
  exact ⟨_, _, _, _, _, _, closed, added, rested, rfl, rfl, stands,
    gone 0 _ rfl rfl (fun _ _ => List.not_mem_nil) (by decide)⟩

end EventLoop
