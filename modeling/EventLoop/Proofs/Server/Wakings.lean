import EventLoop.Proofs.Server.Rollcall

/-! What wakes a throttled connection. It reads nothing until an alarm comes, so it has to have
one. It asks for it in the turn in which it stops reading, and from then on the alarm is ahead,
or stands on the agenda, or has fallen due and is about to be served; when it is served the
connection reads again, and asks anew if it has to stop again. Nobody else can take the alarm
away: others may add to the agenda, but nothing leaves it except by falling due. -/
namespace EventLoop

variable {M D : Type}

namespace Scene

/-- What throttled connections can rely on: an alarm that waits, or that is asked for, unless
the connection is about to be removed. -/
structure Roused (scene : Scene M D) : Prop where
  owners : ∀ handle event connection, scene.site.loop.lookup handle = some event →
    event.body = .connection connection → connection.throttled = true →
    connection.closing = false →
      0 < scene.site.ledger.waiting handle event.generation ∨
        (∃ delay, .schedule { handle } delay ∈ scene.site.ahead) ∨
        .remove { handle } ∈ scene.site.ahead
  newcomers : ∀ event ∈ scene.site.waiting, ∀ connection, event.body = .connection connection →
    connection.throttled = false

section Effects

variable [Message M] {service : Service M D} {early late : Scene M D} {history : List Incident}

omit [Message M] in
private theorem Roused.aside (roused : Roused early) (aside : Aside early history late)
    (kempt : Kempt early) (keptLate : Kempt late) : Roused late := by
  refine ⟨fun handle event connection found body slow opened => ?_, ?_⟩
  · obtain ⟨_, ahead, _⟩ := aside.ahead
    rw [Loop.lookup, aside.table] at found
    rcases aside.waiting handle event.generation with kept | other | removed
    · rcases roused.owners _ _ _ found body slow opened with waits | ⟨delay, asked⟩ | asked
      · exact .inl (Nat.lt_of_lt_of_le waits kept)
      · rw [ahead]
        exact .inr (.inl ⟨delay, List.mem_append_left _ asked⟩)
      · rw [ahead]
        exact .inr (.inr (List.mem_append_left _ asked))
    · exact absurd (congrArg (Option.map Event.generation) found) other
    · exact .inr (.inr removed)
  · rw [aside.waited kempt keptLate]
    exact roused.newcomers

private theorem Roused.applied {change : Change (Endpoint M) Empty} (roused : Roused early)
    (applied : Applied service early change late) (kempt : Kempt early) (keptLate : Kempt late) :
    Roused late := by
  refine ⟨fun handle event connection found body slow opened => ?_, ?_⟩
  · obtain ⟨ended, conserves, _⟩ := apply_parts service kempt.filed kempt.numbered change
    rw [Loop.lookup, applied.table] at found
    have filedLate : (early.site.loop.apply service.conduct change).Filed :=
      (Loop.accounts_apply service.conduct kempt.filed change).filed
    obtain ⟨owner, same, stood | brought⟩ := conserves.came kempt.filed filedLate found
    · have bodies : owner.idle.body = event.idle.body := congrArg Event.body same
      have generations : owner.idle.generation = event.idle.generation :=
        congrArg Event.generation same
      have own : early.site.loop.owner? handle = some event.generation := by
        rw [Loop.owner?, stood]
        exact congrArg some generations
      rcases roused.owners _ _ _ stood (bodies.trans body) slow opened with
        waits | ⟨delay, asked⟩ | asked
      · have same : owner.generation = event.generation := generations
        rw [same] at waits
        exact .inl (Nat.lt_of_lt_of_le waits (applied.waiting _ _))
      · rcases applied.source with ⟨front, _⟩ | ⟨nothing, _⟩
        · rw [front] at asked
          rcases List.mem_cons.1 asked with here | later
          · exact .inl (applied.scheduled handle delay _ here.symm own)
          · exact .inr (.inl ⟨delay, later⟩)
        · rw [nothing] at asked
          cases asked
      · rcases applied.source with ⟨front, _⟩ | ⟨nothing, _⟩
        · rw [front] at asked
          rcases List.mem_cons.1 asked with here | later
          · subst here
            have means : early.site.loop.owns { handle } = true := by rw [Loop.owns, stood]
            cases (Loop.apply_removes service.conduct means).symm.trans found
          · exact .inr (.inr later)
        · rw [nothing] at asked
          cases asked
    · -- Whoever the change has brought has not read anything yet.
      have waited : owner ∈ early.site.waiting := by
        rw [applied.waited kempt keptLate]
        exact List.mem_append_left _ brought
      have bodies : owner.idle.body = event.idle.body := congrArg Event.body same
      have calm := roused.newcomers owner waited connection (bodies.trans body)
      cases calm.symm.trans slow
  · intro event inside
    refine roused.newcomers event ?_
    rw [applied.waited kempt keptLate]
    exact List.mem_append_right _ inside

omit [Message M] in
private theorem Roused.heard {notice : Notice} {handle : Handle} {event : Event (Endpoint M)}
    {connection : Connection M} {response : Service.Response M D} (roused : Roused early)
    (heard : Heard early history late notice handle event connection response)
    (kempt : Kempt early) (keptLate : Kempt late) : Roused late := by
  refine ⟨fun probe owner other found body slow opened => ?_, ?_⟩
  · have still (waits : 0 < early.site.ledger.waiting probe owner.generation ∨
          (∃ delay, .schedule { handle := probe } delay ∈ early.site.ahead) ∨
          .remove { handle := probe } ∈ early.site.ahead)
        (untimed : ¬ (notice = .timer ∧ probe = handle ∧ owner.generation = event.generation)) :
        0 < late.site.ledger.waiting probe owner.generation ∨
          (∃ delay, .schedule { handle := probe } delay ∈ late.site.ahead) ∨
          .remove { handle := probe } ∈ late.site.ahead := by
      rw [heard.ahead]
      rcases waits with waits | ⟨delay, asked⟩ | asked
      · exact .inl (Nat.lt_of_lt_of_le waits
          ((heard.waiting probe owner.generation).resolve_right untimed))
      · exact .inr (.inl ⟨delay, List.mem_append_left _ asked⟩)
      · exact .inr (.inr (List.mem_append_left _ asked))
    have owners := early.site.loop.table.get?_insert handle probe
      { event with body := .connection response.connection }
    rw [← heard.table] at owners
    have same := owners.symm.trans found
    split at same
    · next here =>
      subst here
      cases same
      cases body
      rcases heard.behaves.patient slow opened with ⟨delay, asked⟩ | ⟨untimed, before, openBefore⟩
      · rw [heard.ahead]
        exact .inr (.inl ⟨delay, List.mem_append_right _ (List.mem_map.2 ⟨_, asked, rfl⟩)⟩)
      · exact still (roused.owners _ event connection heard.found heard.body before openBefore)
          fun timed => untimed timed.1
    · next apart =>
      exact still (roused.owners _ _ _ same body slow opened) fun timed => apart timed.2.1
  · rw [heard.waited kempt keptLate]
    exact roused.newcomers

omit [Message M] in
private theorem Roused.listened {handle : Handle} {event : Event (Endpoint M)}
    {requests : List (Request (Endpoint M))} {premises : Premises D} (roused : Roused early)
    (listened : Listened service early late handle event requests premises)
    (kempt : Kempt early) (keptLate : Kempt late) : Roused late := by
  refine ⟨fun probe owner other found body slow opened => ?_, ?_⟩
  · have owners := early.site.loop.table.get?_insert handle probe event
    rw [← listened.table] at owners
    have same := owners.symm.trans found
    split at same
    · cases same
      cases listened.body.symm.trans body
    · next apart =>
      rw [listened.ahead]
      rcases roused.owners _ _ _ same body slow opened with waits | ⟨delay, asked⟩ | asked
      · exact .inl (Nat.lt_of_lt_of_le waits ((listened.waiting _ _).resolve_right apart))
      · exact .inr (.inl ⟨delay, List.mem_append_left _ asked⟩)
      · exact .inr (.inr (List.mem_append_left _ asked))
  · intro newcomer inside connection body
    rw [listened.waited kempt keptLate] at inside
    rcases List.mem_append.1 inside with before | new
    · exact roused.newcomers newcomer before connection body
    · obtain ⟨change, listed, brings⟩ := List.mem_filterMap.1 new
      obtain ⟨request, asked, rfl⟩ := List.mem_map.1 listed
      obtain ⟨_, _, rfl, own, calm⟩ := listened.admission.newcomers request asked
      cases brings
      cases own.symm.trans body
      exact calm

/-- **Every effect leaves every throttled connection an alarm.** -/
theorem Roused.effect (roused : Roused early) (kempt : Kempt early) (keptLate : Kempt late)
    (effect : Effect service early history late) : Roused late := by
  cases effect with
  | aside aside => exact roused.aside aside kempt keptLate
  | applied change applied => exact roused.applied applied kempt keptLate
  | heard heard => exact roused.heard heard kempt keptLate
  | listened listened => exact roused.listened listened kempt keptLate
  | acted acted =>
    refine ⟨fun handle event connection found body slow opened => ?_, ?_⟩
    · rw [Loop.lookup, acted.table] at found
      rw [acted.ahead, ← acted.waiting]
      exact roused.owners _ _ _ found body slow opened
    · rw [acted.waited kempt keptLate]
      exact roused.newcomers
  | dismissed dismissed =>
    refine ⟨fun handle event connection found => ?_, fun event inside => ?_⟩
    · rw [Loop.lookup, dismissed.table] at found
      cases found
    · rw [keptLate.waiting, dismissed.ahead] at inside
      cases inside

end Effects

/-- Every throttled connection has an alarm, wherever a chronicle has come to. -/
theorem Chronicle.roused [Message M] {service : Service M D} (discreet : service.sink.Discreet)
    {loop : ServerLoop M D} (pristine : Pristine loop) {handle : Handle}
    {history : List Incident} {scene : Scene M D}
    (chronicle : Chronicle service (opening service handle loop) history scene) :
    Kempt scene ∧ Roused scene := by
  refine chronicle.holds discreet pristine ⟨fun probe event connection found => ?_, ?_⟩
    fun _ _ _ kempt keptLate roused effect => roused.effect kempt keptLate effect
  · have table : (eve handle loop).site.loop.table = {} := pristine.table
    rw [Loop.lookup, table] at found
    cases found
  · intro event inside connection body
    have inbox : (eve handle loop).site.loop.inbox = [] := pristine.inbox
    have pending : (eve handle loop).site.loop.changes.pending = [] := pristine.pending
    rw [Site.waiting, Site.ahead, inbox, pending] at inside
    cases List.mem_singleton.1 inside
    cases body

end Scene

/-- An alarm that a loop counts stands on its agenda. -/
theorem entry_of_waiting {B C W : Type} {loop : Loop B C W} {handle : Handle} {id : UInt64}
    (waits : 0 < loop.waiting handle id) :
    ∃ due, (due, .event handle id) ∈ loop.agenda.entries := by
  obtain ⟨⟨due, alarm⟩, inside, means⟩ := List.countP_pos_iff.1 waits
  cases alarm with
  | callback => cases means
  | event other generation =>
    simp only [Alarm.means, Bool.and_eq_true, decide_eq_true_eq] at means
    obtain ⟨rfl, rfl⟩ := means
    exact ⟨due, inside⟩

/-- **A throttled connection is never stuck.** Take any run of a server, with any limits on
reading and whatever its surroundings do. Between two turns every connection that the loop owns,
and that is throttled and not about to end, has an alarm on the agenda, which names its handle
and the identity of its session. -/
theorem throttled_connection_is_woken [Message M] (service : Service M D)
    (discreet : service.sink.Discreet) {loop : ServerLoop M D} (pristine : Scene.Pristine loop)
    {listening : Handle} {scene : Scene M D} {history : List Incident}
    (chronicle : Scene.Chronicle service (Scene.opening service listening loop) history scene)
    (resting : scene.site.stage = .resting) {handle : Handle} {event : Event (Endpoint M)}
    {connection : Connection M} (owns : scene.site.loop.lookup handle = some event)
    (body : event.body = .connection connection) (throttled : connection.throttled = true)
    (opened : connection.closing = false) :
    ∃ session due, scene.site.loop.world.sessions.get? connection.session = some session ∧
      (due, .event handle session.id) ∈ scene.site.loop.agenda.entries := by
  obtain ⟨kempt, roused⟩ := chronicle.roused discreet pristine
  obtain ⟨_, tallied⟩ := chronicle.tallied discreet pristine
  have member : event.member? = some ⟨event.handle, event.generation, connection.session⟩ := by
    rw [Event.member?, body]
  have inside : ⟨event.handle, event.generation, connection.session⟩ ∈ scene.members :=
    List.mem_filterMap.2
      ⟨event, List.mem_append_left _ (Keyed.mem_values_of_get? owns), member⟩
  obtain ⟨session, found, id, _⟩ := tallied.mirrors.serves _ inside
  have ahead := kempt.nothing_ahead (by rw [resting]; trivial) (by rw [resting]; rfl)
  rcases roused.owners _ _ _ owns body throttled opened with waits | ⟨_, asked⟩ | asked
  · rw [Site.ledger, resting] at waits
    obtain ⟨due, entry⟩ := entry_of_waiting waits
    exact ⟨session, due, found, id ▸ entry⟩
  · rw [ahead] at asked
    cases asked
  · rw [ahead] at asked
    cases asked

/-- A visitor brings two bytes to a server that reads one byte a second. When the first is read
its connection is throttled, and an alarm for it stands on the agenda. -/
theorem slow_reader_has_an_alarm :
    let service : Service Trial.Telegram Unit :=
      { settings := { readRate := some 1 }, catalogue := {}
        sink := ⟨fun _ _ office => (.ok (), office)⟩ }
    let visitor : Visitor := ⟨1, 11, .v4 127 0 0 1 40001⟩
    let loop : ServerLoop Trial.Telegram Unit :=
      { world := { desk := (), pool := Pool.full 1 service.makeBuffer
                   network := { sockets := Keyed.ofFirst [(1, { incoming := [.bytes [1, 2]] })]
                                door := [.visitor visitor] } } }
    ∃ scene history, Scene.Chronicle service (Scene.opening service 10 loop) history scene ∧
      scene.site.stage = .resting ∧
      ∃ due, (due, .event 11 1) ∈ scene.site.loop.agenda.entries := by
  intro service visitor loop
  let admitting := (service.start 10 loop).2
  let reading := (admitting.turn service.conduct).2
  let slow := (reading.turn service.conduct).2
  have lives : admitting.alive = true := by decide +kernel
  have livesOn : reading.alive = true := by decide +kernel
  have begins : Scene.Chronicle service (Scene.opening service 10 loop) []
      ⟨⟨admitting, .resting⟩, none, []⟩ := .start
  obtain ⟨_, admitted⟩ := begins.turn lives
  obtain ⟨_, read⟩ := admitted.turn livesOn
  have read : Scene.Chronicle service (Scene.opening service 10 loop) _
      ⟨⟨slow, .resting⟩, none, []⟩ := read
  have throttled : (slow.lookup 11).any (fun event => match event.body with
      | .listener => false
      | .connection connection =>
        connection.throttled && !connection.closing && connection.session = 0) = true := by
    decide +kernel
  have known : (slow.world.sessions.get? 0).map Session.id = some 1 := by decide +kernel
  have pristine : Scene.Pristine loop :=
    ⟨⟨rfl, rfl, rfl, rfl, rfl, rfl, rfl⟩, rfl, rfl, rfl, rfl⟩
  clear_value slow
  obtain ⟨event, owns, looks⟩ := (Option.any_eq_true _ _).1 throttled
  cases body : event.body with
  | listener =>
    rw [body] at looks
    cases looks
  | connection connection =>
    rw [body] at looks
    simp only [Bool.and_eq_true, decide_eq_true_eq, Bool.not_eq_true'] at looks
    obtain ⟨⟨isSlow, opened⟩, number⟩ := looks
    obtain ⟨session, due, found, entry⟩ := throttled_connection_is_woken service
      ⟨fun _ _ office => .none office.1, fun _ _ _ => rfl⟩ pristine read rfl owns body isSlow
      opened
    have id : session.id = 1 := by
      rw [number] at found
      have seen := (congrArg (Option.map Session.id) found).symm.trans known
      exact Option.some.inj seen
    exact ⟨_, _, read, rfl, due, id ▸ entry⟩

end EventLoop
