import EventLoop.Proofs.Server.Answers
import EventLoop.Trial.Telegram

/-! No reply is stranded: every step of a scene keeps what the loop owes to the session of the
handle that is looked at, whoever takes it and wherever the loop's thread has come to. -/
namespace EventLoop

variable {M D : Type}

/-- The stages in which nobody is notified, so that nothing new is asked for. -/
def Stage.IsQuiet {B C : Type} : Stage B C → Prop
  | .resting => True
  | .draining => True
  | .applying .. => True
  | _ => False

namespace Scene

/-- The invariant of a scene. What was asked for in a turn is all handed over before it is
applied, and the inbox is looked at only when all of it is. -/
structure Steady (watched : Handle) (scene : Scene M D) : Prop where
  idle : scene.site.stage.IsQuiet → scene.site.loop.changes.pending = []
  sound : Sound watched scene.site.loop scene.site.ahead scene.asking scene.flushing

variable {watched : Handle} {loop : ServerLoop M D} {stage : Stage (Endpoint M) Empty}
  {asking : List Plea} {flushing : Option Handle}

private theorem Steady.pending (steady : Steady watched ⟨⟨loop, stage⟩, flushing, asking⟩)
    (empty : stage.ahead = []) : Sound watched loop loop.changes.pending asking flushing := by
  have sound := steady.sound
  rw [Site.ahead, empty, List.append_nil] at sound
  exact sound

private theorem Steady.quiet (steady : Steady watched ⟨⟨loop, stage⟩, flushing, asking⟩)
    (quiet : stage.IsQuiet) : Sound watched loop stage.ahead asking flushing := by
  have sound := steady.sound
  rw [Site.ahead, steady.idle quiet, List.nil_append] at sound
  exact sound

private theorem Steady.of_pending (busy : ¬ stage.IsQuiet) (empty : stage.ahead = [])
    (sound : Sound watched loop loop.changes.pending asking flushing) :
    Steady watched ⟨⟨loop, stage⟩, flushing, asking⟩ := by
  refine ⟨fun quiet => absurd quiet busy, ?_⟩
  rw [Site.ahead, empty, List.append_nil]
  exact sound

private theorem Steady.of_quiet (idle : loop.changes.pending = [])
    (sound : Sound watched loop stage.ahead asking flushing) :
    Steady watched ⟨⟨loop, stage⟩, flushing, asking⟩ := by
  refine ⟨fun _ => idle, ?_⟩
  rw [Site.ahead, idle, List.nil_append]
  exact sound

/-! ## Every step -/

variable [Message M] {service : Service M D}

/-- An open connection is told of room, with nobody coming in between. -/
theorem Sound.writes {handle : Handle} {event : Event (Endpoint M)} {connection : Connection M}
    (sound : Sound watched loop loop.changes.pending asking none)
    (found : loop.lookup handle = some event) (body : event.body = .connection connection)
    (opened : connection.closing = false) :
    Sound watched (loop.notify service.conduct .writable handle)
      (loop.notify service.conduct .writable handle).changes.pending asking none := by
  have gathered := sound.gathers found body
  have foundStill : (loop.gather handle event connection).lookup handle =
      some { event with body := .connection (Service.gather connection loop.world).1 } :=
    (loop.table.get?_insert handle handle _).trans (if_pos rfl)
  have flushed : Sound watched ((loop.gather handle event connection).flush service handle _ _)
    (loop.changes.pending ++ _) asking none := gathered.flushes foundStill rfl
  rw [Loop.notify_writable_eq service found body opened, Loop.flush,
    (Loop.takeUp_took service.conduct gathered.orderly.alive handle _ _).pending]
  exact flushed

private theorem Steady.thread (honest : service.sink.Honest)
    {site next : Site (Endpoint M) Empty (Premises D)} {deeds : List Deed}
    (steady : Steady watched ⟨site, none, asking⟩) (favours : service.Favours watched site)
    (step : Site.Step service.conduct site deeds next) : Steady watched ⟨next, none, asking⟩ := by
  cases step with
  | begin loop => exact ⟨fun _ => steady.idle trivial, steady.sound⟩
  | @take loop change rest inbox =>
    obtain ⟨_, same, _⟩ := { loop with inbox := rest }.apply_keeps service.conduct change
    refine .of_quiet (by rw [same]; exact steady.idle trivial) ?_
    refine (steady.quiet trivial).taken inbox fun target mask same own => ?_
    exact favours.allows target mask rest rfl (same ▸ inbox) own
  | poll inbox prompt timeout entries queue =>
    refine .of_pending id rfl ((steady.pending rfl).aside rfl rfl rfl rfl ?_)
    simp only [Service.conduct]
    split <;> rfl
  | pollFails inbox =>
    exact .of_quiet (steady.idle trivial) ((steady.quiet trivial).aside rfl rfl rfl rfl rfl)
  | @pass loop entry entries unheard =>
    have same : loop.passOver service.conduct entry = loop := by
      unfold Loop.passOver
      split
      · rfl
      · split
        · rfl
        · rfl
    rw [same]
    exact .of_pending id rfl (steady.pending rfl)
  | @hear loop entry entries event heard input =>
    have told := Loop.lookup_of_hearer? heard
    refine .of_pending id rfl ((steady.pending rfl).notified honest _ (fun _ _ _ _ => .inl ?_) ?_)
    · unfold Loop.inputNotice
      split
      · exact fun same => by cases same
      · exact fun same => by cases same
    · intro accepts listener found listens
      cases told.symm.trans found
      have strangers := favours.strangers entry entries event rfl heard input listens
      have ahead : Site.ahead ⟨loop, .delivering (entry :: entries)⟩ = loop.changes.pending :=
        List.append_nil _
      rw [ahead] at strangers
      exact strangers
  | hearNothing entries heard input => exact .of_pending id rfl (steady.pending rfl)
  | @answer loop handle entries kept =>
    have sound := steady.pending rfl
    refine .of_pending id rfl ?_
    by_cases writes : ∃ event connection, loop.lookup handle = some event ∧
      event.body = .connection connection ∧ connection.closing = false
    · obtain ⟨event, connection, found, body, opened⟩ := writes
      exact sound.writes found body opened
    · refine sound.notified honest .writable (fun event connection found body => .inr ?_)
        fun accepts => by cases accepts
      cases closing : connection.closing with
      | true => rfl
      | false => exact absurd ⟨event, connection, found, body, closing⟩ writes
  | answerNothing entries silent => exact .of_pending id rfl (steady.pending rfl)
  | handOver loop =>
    refine .of_quiet rfl ((steady.pending rfl).aside rfl rfl rfl rfl rfl)
  | apply loop change pending second =>
    obtain ⟨_, same, _⟩ := loop.apply_keeps service.conduct change
    refine .of_quiet (by rw [same]; exact steady.idle trivial) ?_
    exact (steady.quiet trivial).applied
  | ring loop =>
    exact .of_pending id rfl ((steady.pending rfl).aside rfl rfl rfl rfl rfl)
  | serve loop now alarm due =>
    refine .of_pending id rfl ?_
    cases alarm with
    | callback callback interval remaining => cases callback
    | event handle generation =>
      simp only [Loop.serve]
      split
      · refine (steady.pending rfl).notified honest .timer (fun _ _ _ _ => .inl ?_)
          fun accepts => by cases accepts
        exact fun same => by cases same
      · exact steady.pending rfl
  | silence loop now =>
    refine .of_quiet rfl ((steady.pending rfl).aside rfl rfl rfl rfl rfl)
  | rest loop => exact ⟨fun _ => steady.idle trivial, steady.sound⟩

/-- **Every step of a scene keeps its invariant.** -/
theorem Steady.step (honest : service.sink.Honest) {scene next : Scene M D}
    (steady : Steady watched scene) (step : Step service watched scene next) :
    Steady watched next := by
  cases step with
  | thread favours step => exact steady.thread honest favours step
  | gather found body opened kept =>
    exact .of_pending id rfl ((steady.pending rfl).gathers found body)
  | @flush loop handle entries asking event connection found body =>
    refine .of_pending id rfl ?_
    have sound := steady.pending rfl
    rw [Loop.flush, (Loop.takeUp_took service.conduct sound.orderly.alive handle event _).pending]
    exact sound.flushes found body
  | act act => exact ⟨steady.idle, steady.sound.acted act⟩
  | @ask loop stage flushing before plea after =>
    have ordered := Loop.carryOut_ordered service.conduct steady.sound.orderly.alive plea.order
    have usual := steady.sound.orderly.asking plea
      (List.mem_append_right before List.mem_cons_self)
    constructor
    · rw [ordered.changes]
      exact steady.idle
    · rw [Site.ahead, ordered.changes]
      refine steady.sound.ordered ordered ?_ ?_ ?_
      · intro change sent
        rw [List.mem_singleton.1 sent]
        exact usual.change watched
      · intro other inside
        rcases List.mem_append.1 inside with first | last
        · exact List.mem_append_left _ first
        · exact List.mem_append_right _ (List.mem_cons_of_mem plea last)
      · intro other inside
        rcases List.mem_append.1 inside with first | last
        · exact .inl (List.mem_append_left _ first)
        · rcases List.mem_cons.1 last with rfl | last
          · exact .inr List.mem_cons_self
          · exact .inl (List.mem_append_right _ last)
  | @order loop stage flushing asking order foreign =>
    have ordered := Loop.carryOut_ordered service.conduct steady.sound.orderly.alive order
    constructor
    · rw [ordered.changes]
      exact steady.idle
    · rw [Site.ahead, ordered.changes]
      refine steady.sound.ordered ordered (fun change sent => ?_) (fun other inside => inside)
        fun other inside => .inl inside
      cases order with
      | change sentAlone =>
        rw [List.mem_singleton.1 sent]
        exact foreign.usual
      | stop => cases sent
      | wake => cases sent
  | @call loop asking change foreign =>
    obtain ⟨_, same, _⟩ := loop.apply_keeps service.conduct change
    refine .of_quiet (by rw [same]; exact steady.idle trivial) ?_
    exact (steady.quiet trivial).called foreign
  | elsewhere premises same queue =>
    exact ⟨steady.idle, steady.sound.aside rfl rfl rfl rfl same⟩

/-! ## Every run -/

/-- A listener that is added to a loop without owners leaves it without connections. -/
theorem Sound.begins {event : Event (Endpoint M)} (orderly : Orderly watched loop asking)
    (vacant : ∀ handle, loop.lookup handle = none) (listens : event.body = .listener)
    (mask : Interest) :
    Sound watched (loop.apply service.conduct (.add event mask)) [] asking none := by
  have unseated (handle : Handle) : loop.seat? handle = none :=
    Loop.seat?_eq_none.2 (vacant handle)
  have tidy : loop.Tidy [.add event mask] := by
    refine ⟨fun handle owner found => ?_, fun handle other source here => ?_, ?_, ?_, ?_⟩
    · cases (vacant handle).symm.trans found
    · cases (unseated handle).symm.trans here
    · exact List.pairwise_singleton _ event
    · exact fun newcomer _ => unseated newcomer.handle
    · intro newcomer _ handle seated
      cases (unseated handle).symm.trans seated
  obtain ⟨later, _⟩ := orderly.applied service (.add event mask)
  refine ⟨later, tidy.apply service.conduct,
    fun _ _ inside => absurd inside List.not_mem_nil, ?_⟩
  intro owner connection found body
  by_cases here : event.handle = watched
  · subst here
    rcases Loop.addEvent_owner service.conduct tidy.filed event mask with
      ⟨before, _, owned, _⟩ | ⟨_, gone | ⟨standing, stands⟩⟩
    · cases (vacant event.handle).symm.trans owned
    · cases gone.symm.trans found
    · cases stands.symm.trans found
      cases listens.symm.trans body
  · have same := Loop.apply_owner service.conduct tidy.filed (.add event mask)
      fun concerned => here (Option.some.inj concerned)
    cases (vacant watched).symm.trans (same.symm.trans found)

/-- A server that has just begun to listen has no connection at all. -/
theorem Fresh.steady (fresh : Fresh loop) (handle : Handle) :
    Steady watched (opening service handle loop) := by
  have vacant (handle : Handle) : loop.lookup handle = none := by
    rw [Loop.lookup, fresh.table]
    rfl
  have orderly : Orderly watched
      { loop with world := { loop.world with started := true } } [] := by
    refine ⟨fresh.alive, fresh.here, fresh.silent, fun change inside => ?_,
      fun plea inside => absurd inside List.not_mem_nil⟩
    rw [fresh.inbox] at inside
    cases inside
  have begun : (service.start handle loop).2 =
      { loop with world := { loop.world with started := true } }.apply service.conduct
        (.add { handle, source := Network.doorSource, body := .listener } .accept) := by
    unfold Service.start
    rw [fresh.unstarted]
    rfl
  refine .of_quiet ?_ ?_
  · rw [begun, (Loop.apply_keeps service.conduct _ _).2.1]
    exact fresh.pending
  · rw [begun]
    exact .begins orderly vacant rfl .accept

/-- The invariant holds in every run. -/
theorem Run.steady (honest : service.sink.Honest) {handle : Handle} {scene : Scene M D}
    (fresh : Fresh loop) (run : Run service watched (opening service handle loop) scene) :
    Steady watched scene := by
  induction run with
  | start => exact fresh.steady handle
  | step run step ih => exact ih.step honest step

end Scene

/-- **No reply is stranded.** Take any run of a server among threads that send and close as they
like, in which nobody else re-arms a handle, the session's own re-arms are not refused, and
who is admitted has a descriptor of its own. At every moment, between two turns and within
one, whenever a connection owns that handle, nobody is still about to ask for its session, and
bytes wait in the session or in the connection: then the poller watches its socket for room in
the name of the handle, or the inbox has a request of that session for it. -/
theorem no_reply_is_stranded [Message M] (service : Service M D) (honest : service.sink.Honest)
    {loop : ServerLoop M D} (fresh : Scene.Fresh loop) {listening watched : Handle}
    {scene : Scene M D}
    (run : Scene.Run service watched (Scene.opening service listening loop) scene)
    {event : Event (Endpoint M)} {connection : Connection M} {session : Session}
    (owns : scene.site.loop.lookup watched = some event)
    (body : event.body = .connection connection)
    (known : scene.site.loop.world.sessions.get? connection.session = some session)
    (sent : .rearm watched session.id .both ∉ scene.asking)
    (waits : session.outbound ≠ [] ∨ connection.outbound ≠ []) :
    (∃ readiness, scene.site.loop.watching? event.source = some (watched.token, readiness) ∧
      readiness.output = true) ∨
    .rearm { handle := watched, generation := some session.id } .both ∈ scene.site.loop.inbox := by
  have sound := (run.steady honest fresh).sound
  have attended := sound.owner event connection owns body
  obtain ⟨served, serves, covered, _⟩ := attended.serves
  cases serves.known.symm.trans known
  rcases covered waits with (inbox | asking) | ⟨⟨wanted, armed, output⟩, _⟩
  · rw [serves.id]
    exact .inr inbox
  · rw [serves.id] at sent
    exact absurd asking sent
  · rw [sound.tidy.filed watched event owns] at armed
    exact .inl ⟨wanted, armed, output⟩

/-- A visitor is admitted, and somebody answers it between two turns. Its connection is not
armed for room yet, and the request that it be is in the inbox. -/
theorem first_answer_is_asked_for :
    let service : Service Trial.Telegram Unit :=
      { settings := {}, catalogue := {}, sink := ⟨fun _ _ office => (.ok (), office)⟩ }
    let visitor : Visitor := ⟨1, 11, .v4 127 0 0 1 40001⟩
    let loop : ServerLoop Trial.Telegram Unit :=
      { world := { desk := (), pool := Pool.full 1 fun _ => []
                   network := { sockets := Keyed.ofFirst [(1, {})], door := [.visitor visitor] } } }
    ∃ scene, Scene.Run service 11 (Scene.opening service 10 loop) scene ∧
      scene.site.loop.watching? 1 = some (Handle.token 11, ⟨true, false⟩) ∧
      .rearm { handle := 11, generation := some 1 } .both ∈ scene.site.loop.inbox := by
  intro service visitor loop
  let listener : Event (Endpoint Trial.Telegram) :=
    { handle := 10, source := 0, standing := .added, body := .listener }
  let newcomer := service.connect visitor 0 1 none
  let listening : ServerLoop Trial.Telegram Unit :=
    { loop with
      table := Keyed.ofFirst [(10, listener)]
      selector :=
        { poller := { watched := Keyed.ofFirst [(0, (Handle.token 10, ⟨true, false⟩))] }
          listeners := [10] }
      world := { loop.world with started := true } }
  let serving : ServerLoop Trial.Telegram Unit :=
    { listening with
      table := Keyed.ofFirst [(10, listener), (11, { newcomer with standing := .added })]
      selector :=
        { listening.selector with
          poller :=
            { watched := Keyed.ofFirst
                [(0, (Handle.token 10, ⟨true, false⟩)), (1, (Handle.token 11, ⟨true, false⟩))] } }
      world :=
        { listening.world with
          sessions :=
            { book := Keyed.ofFirst [(0, .attached 1 visitor.peer 11)]
              roster := Keyed.ofFirst [(1, 0)], opened := 1 }
          network := { sockets := Keyed.ofFirst [(1, {})] }
          nextSession := 2 } }
  have quiet {loop : ServerLoop Trial.Telegram Unit}
      {stage : Stage (Endpoint Trial.Telegram) Empty}
      (idle : stage ≠ .draining ∧ ∀ entry entries, stage ≠ .delivering (entry :: entries)) :
      service.Favours 11 ⟨loop, stage⟩ :=
    ⟨fun _ _ _ drains => absurd drains idle.1,
      fun entry entries _ delivers => absurd delivers (idle.2 entry entries)⟩
  have nobody : service.Favours 11 ⟨(service.start 10 loop).2, .draining⟩ :=
    ⟨fun _ _ _ _ _ _ => rfl, fun _ _ _ delivers => absurd delivers (by simp)⟩
  have strangers : listening.Strangers [newcomer] := by
    refine ⟨List.pairwise_singleton _ _, ?_, ?_⟩
    · intro event inside
      cases List.mem_singleton.1 inside
      rfl
    · intro event inside handle seated
      cases List.mem_singleton.1 inside
      have table : listening.table.get? handle = if handle = 10 then some listener else none :=
        Keyed.get?_insert Keyed.empty 10 handle listener
      rw [Loop.seat?, Loop.lookup, table] at seated
      split at seated
      · cases seated
      · cases seated
  have welcomes : service.Favours 11
      ⟨listening, .delivering [⟨Handle.token 10, ⟨true, false⟩⟩]⟩ :=
    ⟨fun _ _ _ drains => absurd drains (by simp), fun _ _ _ _ _ _ _ => strangers⟩
  have polled : Scene.Run service 11 (Scene.opening service 10 loop)
      ⟨⟨listening, .delivering [⟨Handle.token 10, ⟨true, false⟩⟩]⟩, none, []⟩ :=
    ((Scene.Run.start).step (.thread (quiet (by simp)) (.begin _))).step
      (.thread nobody (.poll rfl true none _ []))
  have admitted : Scene.Run service 11 (Scene.opening service 10 loop)
      ⟨⟨serving, .applying [] false⟩, none, []⟩ :=
    (((polled.step (.thread welcomes (.hear _ rfl rfl))).step
      (.thread (quiet (by simp)) (.answerNothing _ (.inl rfl)))).step
      (.thread (quiet (by simp)) (.handOver _))).step
      (.thread (quiet (by simp)) (.apply _ _ _ _))
  have rested : Scene.Run service 11 (Scene.opening service 10 loop)
      ⟨⟨serving, .resting⟩, none, []⟩ :=
    ((admitted.step (.thread (quiet (by simp)) (.ring _))).step
      (.thread (quiet (by simp)) (.silence _ _))).step
      (.thread (quiet (by simp)) (.rest _))
  have answered : Scene.Run service 11 (Scene.opening service 10 loop) _ :=
    (rested.step (.act (.send (Trial.Telegram.pong 1) 0 _))).step (.ask [] (.rearm 11 1 .both) [])
  have stranded := no_reply_is_stranded service (fun _ _ office => .none office.1)
    ⟨rfl, rfl, rfl, rfl, rfl, rfl, rfl⟩ answered rfl rfl rfl List.not_mem_nil (.inl (by decide))
  refine ⟨_, answered, rfl, ?_⟩
  rcases stranded with ⟨readiness, watched, output⟩ | asked
  · cases watched
    cases output
  · exact asked

end EventLoop
