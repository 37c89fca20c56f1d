import EventLoop.Proofs.Frame.Ceilings
import EventLoop.Proofs.Loop.Upkeep
import EventLoop.Proofs.Server.Passages

/-! How much of a stream a connection can be made to hold. Reading goes on only when the intake
has kept back less than a header and the largest payload that policy allows, and one read adds no
more than the borrowed buffer holds; a connection for which decoding has failed reads no more. So
what is held is bounded by the settings, whatever the far end promises and however its bytes come
in. The borrowed buffers are as long as they were made, as long as nobody else puts one back. -/
namespace EventLoop

variable {M D : Type}

/-! ## What is held -/

namespace Service

/-- A header and the largest payload that may be promised. -/
def largestFrame (service : Service M D) : Nat := Frame.headerLength + service.intake.ceiling

/-- All buffers that wait to be borrowed are as long as they were made. -/
def Stocked (service : Service M D) (premises : Premises D) : Prop :=
  ∀ buffer ∈ premises.pool.idle, buffer.length = service.bufferSize

/-- A connection that listens to the policy of its server and holds less than it might. While it
is not closing it holds less than a frame. -/
structure Modest (service : Service M D) (connection : Connection M) : Prop where
  policy : connection.intake = { service.intake with poisoned := connection.intake.poisoned }
  held : connection.inbound.length < service.largestFrame + service.bufferSize
  opened : connection.closing = false → connection.inbound.length < service.largestFrame

/-- The same of an object, if it is a connection. -/
def ModestEvent (service : Service M D) (event : Event (Endpoint M)) : Prop :=
  match event.body with
  | .listener => True
  | .connection connection => service.Modest connection

variable {service : Service M D} {premises : Premises D}

private theorem largestFrame_pos (service : Service M D) : 0 < service.largestFrame :=
  Nat.lt_of_lt_of_le (by decide) (Nat.le_add_right _ _)

private theorem ceiling_policy {intake : Intake M}
    (policy : intake = { service.intake with poisoned := intake.poisoned }) :
    Frame.headerLength + intake.ceiling = service.largestFrame := by
  rw [policy]
  rfl

/-! ## Borrowed buffers -/

/-- A pool that nobody has borrowed from yet has buffers as long as they were made. -/
theorem stocked_of_full {count : Nat} (full : premises.pool = Pool.full count service.makeBuffer) :
    service.Stocked premises := by
  intro buffer inside
  rw [full] at inside
  obtain ⟨_, _, rfl⟩ := List.mem_map.1 inside
  exact List.length_replicate

theorem Stocked.acquire (stocked : service.Stocked premises) :
    (premises.pool.acquire service.makeBuffer).1.length = service.bufferSize := by
  rcases premises.pool.acquire_source service.makeBuffer with waited | made
  · exact stocked _ waited
  · rw [made]
    exact List.length_replicate

/-- A buffer that is put back as long as it was made belongs there. -/
theorem Stocked.release (stocked : service.Stocked premises) {buffer : List UInt8}
    (whole : buffer.length = service.bufferSize) :
    ∀ other ∈ ((premises.pool.acquire service.makeBuffer).2.release buffer).2.idle,
      other.length = service.bufferSize := by
  intro other inside
  rw [Pool.idle_release, Pool.idle_acquire] at inside
  split at inside
  · rcases List.mem_append.1 inside with kept | back
    · exact stocked other (List.mem_of_mem_tail kept)
    · rwa [List.mem_singleton.1 back]
  · exact stocked other (List.mem_of_mem_tail inside)

end Service

/-! ## Reading -/

namespace Reading

variable [Message M] {service : Service M D} {reading : Reading M D}

/-- Reading that may go on: less than a frame is held, and the buffer is a whole one. -/
structure Holds (service : Service M D) (reading : Reading M D) : Prop where
  scratch : reading.scratch.length = service.bufferSize
  policy : reading.connection.intake =
    { service.intake with poisoned := reading.connection.intake.poisoned }
  held : reading.connection.inbound.length < service.largestFrame

/-- Reading that has stopped: no more than one read more is held, and that only if the connection
is to end. -/
structure Stopped (service : Service M D) (pause : Pause) (reading : Reading M D) : Prop where
  scratch : reading.scratch.length = service.bufferSize
  policy : reading.connection.intake =
    { service.intake with poisoned := reading.connection.intake.poisoned }
  held : reading.connection.inbound.length < service.largestFrame + service.bufferSize
  goesOn : pause ≠ .ended → reading.connection.inbound.length < service.largestFrame

/-- **One read and what is kept back of it.** -/
theorem Holds.round (holds : reading.Holds service) (incoming : List Arrival) :
    let done := reading.round service.sink incoming
    done.2.2.scratch.length = service.bufferSize ∧
      done.2.2.connection.intake =
        { service.intake with poisoned := done.2.2.connection.intake.poisoned } ∧
      done.2.2.connection.inbound.length < service.largestFrame + service.bufferSize ∧
      (done.1 ≠ some .ended → done.2.2.connection.inbound.length < service.largestFrame) := by
  obtain ⟨kept, got, fits, case⟩ := round_fits service.sink incoming reading
  simp only
  generalize reading.round service.sink incoming = done at kept case ⊢
  obtain ⟨pause, left, next⟩ := done
  simp only at kept case ⊢
  refine ⟨kept.trans holds.scratch, ?_⟩
  cases case with
  | idle stream connection office =>
    rw [connection]
    exact ⟨holds.policy, Nat.lt_add_right _ holds.held, fun _ => holds.held⟩
  | read stream decoded call connection office goesOn =>
    obtain ⟨suffix, same⟩ := reading.connection.intake.decode_leaves service.sink
      reading.connection.session (reading.connection.inbound ++ got) reading.office
    have little : ∀ taken, (reading.connection.intake.decode service.sink
        reading.connection.session (reading.connection.inbound ++ got)
        reading.office).outcome = .ok taken → _ :=
      fun _ => Intake.decode_leaves_little
    rw [call] at suffix same little
    have shorter := suffix.length_le
    rw [List.length_append] at shorter
    have held := holds.held
    rw [holds.scratch] at fits
    rw [connection]
    refine ⟨?_, by simp only; omega, fun lasting => ?_⟩
    · simp only
      rw [same, holds.policy]
    · cases outcome : decoded.outcome with
      | error fault => exact absurd (by rw [goesOn, outcome]; rfl) lasting
      | ok taken =>
        have left := little taken outcome
        rwa [Service.ceiling_policy holds.policy] at left

private theorem Holds.drain (holds : reading.Holds service) (incoming : List Arrival) :
    (reading.drain service.sink incoming).2.2.Stopped service
      (reading.drain service.sink incoming).1 := by
  induction incoming, reading using Reading.drain_induction service.sink with
  | stop incoming reading pause stop =>
    obtain ⟨scratch, policy, held, goesOn⟩ := holds.round incoming
    rw [Reading.drain_of_stop stop]
    exact ⟨scratch, policy, held, fun lasting => goesOn fun ended =>
      lasting (Option.some.inj (stop.symm.trans ended))⟩
  | again incoming reading again ih =>
    obtain ⟨scratch, policy, _, goesOn⟩ := holds.round incoming
    rw [Reading.drain_of_again again]
    exact ih ⟨scratch, policy, goesOn fun ended => by cases again.symm.trans ended⟩

end Reading

/-! ## Notifications -/

namespace Service

variable {service : Service M D} {premises : Premises D} {connection : Connection M}

/-- A response of a modest connection that leaves whole buffers behind. -/
structure Frugal (service : Service M D) (response : Response M D) : Prop where
  modest : service.Modest response.connection
  stocked : service.Stocked response.premises

/-- A connection that ends may hold what it has just read. -/
theorem frugal_close {handle : Handle} {response : Response M D}
    (policy : response.connection.intake =
      { service.intake with poisoned := response.connection.intake.poisoned })
    (held : response.connection.inbound.length < service.largestFrame + service.bufferSize)
    (stocked : service.Stocked response.premises) : service.Frugal (close handle response) := by
  unfold Service.close
  split
  · next closing =>
    exact ⟨⟨policy, held, fun opened => by cases closing.symm.trans opened⟩, stocked⟩
  · exact ⟨⟨policy, held, fun opened => by cases opened⟩, stocked⟩

private theorem Modest.begins (modest : service.Modest connection)
    (stocked : service.Stocked premises) (opened : connection.closing = false) :
    (service.beginReading connection premises).Holds service where
  scratch := stocked.acquire
  policy := modest.policy
  held := modest.opened opened

private theorem Modest.read [Message M] (modest : service.Modest connection)
    (stocked : service.Stocked premises) (event : Event (Endpoint M))
    (opened : connection.closing = false) :
    service.Frugal (service.read event { connection with throttled := false } premises) := by
  obtain ⟨scratch, policy, held, goesOn⟩ := (modest.begins stocked opened).drain
    ((premises.network.sockets.get? event.source).getD {}).incoming
  have back := stocked.release scratch
  unfold Service.read
  unfold beginReading at scratch policy held goesOn back
  simp only at scratch policy held goesOn back ⊢
  split
  · next pause =>
    exact ⟨⟨policy, held, fun _ => goesOn (by rw [pause]; exact Pause.noConfusion)⟩, back⟩
  · next pause =>
    exact ⟨⟨policy, held, fun _ => goesOn (by rw [pause]; exact Pause.noConfusion)⟩, back⟩
  · exact frugal_close policy held back

private theorem Modest.flushOut (modest : service.Modest connection)
    (stocked : service.Stocked premises)
    (event : Event (Endpoint M)) : service.Frugal (flushOut event connection premises) := by
  unfold Service.flushOut
  simp only
  split
  · exact ⟨⟨modest.policy, modest.held, modest.opened⟩, stocked⟩
  · exact ⟨⟨modest.policy, modest.held, modest.opened⟩, stocked⟩
  · exact frugal_close modest.policy modest.held stocked

private theorem Modest.gather (modest : service.Modest connection) (premises : Premises D) :
    service.Modest (gather connection premises).1 :=
  ⟨modest.policy, modest.held, modest.opened⟩

/-- **A connection stays modest**, whatever it is told of. -/
theorem Modest.respond [Message M] (modest : service.Modest connection)
    (stocked : service.Stocked premises) (notice : Notice) (event : Event (Endpoint M)) :
    service.Frugal (service.respond notice event connection premises) := by
  have same : service.Frugal { connection, premises } := ⟨modest, stocked⟩
  cases reads : connection.reads notice with
  | true =>
    rw [respond_reads service event premises reads]
    exact modest.read stocked event (reads_open reads)
  | false =>
    rw [respond_unread service event premises reads]
    split
    · have kept : service.Stocked (Service.gather connection premises).2 := stocked
      exact (modest.gather premises).flushOut kept event
    · exact same

/-- Whoever is admitted holds nothing yet. -/
theorem modest_connect (service : Service M D) (visitor : Visitor) (session : Nat) (id : UInt64)
    (bucket : Option Bucket) :
    service.ModestEvent (service.connect visitor session id bucket) where
  policy := rfl
  held := Nat.lt_add_right _ service.largestFrame_pos
  opened _ := service.largestFrame_pos

private theorem welcome_modest (service : Service M D) (visitor : Visitor) (premises : Premises D) :
    (∀ event ∈ Loop.eventsIn (C := Empty)
        ((service.welcome visitor premises).1.toList.map Request.change),
      service.ModestEvent event) ∧
    (service.welcome visitor premises).2.pool = premises.pool := by
  unfold Service.welcome
  split
  · exact ⟨List.forall_mem_nil _, rfl⟩
  · exact ⟨List.forall_mem_singleton.2 (modest_connect service visitor _ _ _), rfl⟩

private theorem welcomeAll_modest (service : Service M D) (door : List Knock)
    (premises : Premises D) :
    (∀ event ∈ Loop.eventsIn (C := Empty)
        ((service.welcomeAll door premises).1.map Request.change),
      service.ModestEvent event) ∧
    (service.welcomeAll door premises).2.2.pool = premises.pool := by
  induction door generalizing premises with
  | nil => exact ⟨List.forall_mem_nil _, rfl⟩
  | cons knock rest ih =>
    cases knock with
    | interrupted => exact ih premises
    | failed => exact ⟨List.forall_mem_nil _, rfl⟩
    | visitor visitor =>
      obtain ⟨newcomer, pool⟩ := welcome_modest service visitor premises
      obtain ⟨others, pools⟩ := ih (service.welcome visitor premises).2
      refine ⟨?_, pools.trans pool⟩
      simp only [Service.welcomeAll, List.map_append, Loop.eventsIn_append]
      exact List.forall_mem_append.2 ⟨newcomer, others⟩

/-- What sessions ask brings nobody. -/
theorem orders_of_pleas (pleas : List Plea) :
    Loop.ordersBring (pleas.map Plea.order : List (Order (Endpoint M) Empty)) = [] := by
  have sent : (pleas.map Plea.order : List (Order (Endpoint M) Empty)).filterMap Order.change? =
      pleas.map Plea.change := by
    rw [List.filterMap_map, ← List.filterMap_eq_map]
    rfl
  rw [Loop.ordersBring, sent]
  exact Plea.brings_nothing pleas

/-- What a connection asks for brings nobody. -/
theorem Response.About.brings_nothing {handle : Handle} {response : Response M D}
    (about : response.About handle) :
    Loop.eventsIn (C := Empty) (response.requests.map Request.change) = [] := by
  refine Loop.eventsIn_eq_nil.2 fun change inside => ?_
  obtain ⟨request, asked, rfl⟩ := List.mem_map.1 inside
  have named := about request asked
  cases request with
  | add => cases named
  | _ => rfl

/-- A connection and its session hand over nobody. -/
theorem Response.About.brings {handle : Handle} {response : Response M D}
    (about : response.About handle) {good : Event (Endpoint M) → Prop} :
    ∀ event ∈ Loop.eventsIn (C := Empty) ((voiced response).requests.map Request.change) ++
      Loop.ordersBring (voiced response).orders, good event := by
  simp only [voiced, orders_of_pleas, about.brings_nothing]
  exact List.forall_mem_nil _

/-- **Objects of a server keep to this among themselves.** -/
theorem upholds [Message M] (service : Service M D) :
    service.conduct.Upholds service.Stocked service.ModestEvent where
  idle _ := Iff.rfl
  call call event world stocked := by
    cases call <;> exact stocked
  clock world stocked := stocked
  wait prompt timeout world stocked := by
    simp only [conduct]
    split <;> exact stocked
  unresolved handle world stocked := stocked
  destroy event world stocked := by
    simp only [conduct, endEndpoint]
    split <;> exact stocked
  notify notice event outlook world stocked modest := by
    simp only [conduct]
    cases body : event.body with
    | connection connection =>
      rw [ModestEvent, body] at modest
      rw [service.notifyEndpoint_eq_voiced notice world body]
      obtain ⟨still, back⟩ := modest.respond stocked notice event
      exact ⟨back, still, (respond_about service notice event connection world).brings⟩
    | listener =>
      unfold notifyEndpoint
      rw [body]
      cases notice with
      | accept =>
        obtain ⟨newcomers, pool⟩ := welcomeAll_modest service world.network.door world
        refine ⟨?_, trivial, List.forall_mem_append.2 ⟨newcomers, ?_⟩⟩
        · intro buffer inside
          exact stocked buffer (pool ▸ inside)
        · simp only
          rw [orders_of_pleas]
          exact List.forall_mem_nil _
      | _ =>
        refine ⟨stocked, trivial, List.forall_mem_append.2 ⟨List.forall_mem_nil _, ?_⟩⟩
        simp only
        rw [orders_of_pleas]
        exact List.forall_mem_nil _
  fire callback := nomatch callback

end Service

/-! ## Runs -/

private theorem Order.BringsNothing.nobody {B C : Type} {order : Order B C}
    (brings : order.BringsNothing) :
    Loop.ordersBring [order] = [] := by
  refine Loop.eventsIn_eq_nil.2 fun change inside => ?_
  obtain ⟨sent, here, asks⟩ := List.mem_filterMap.1 inside
  rw [List.mem_singleton.1 here] at asks
  exact brings change asks

namespace Scene

variable [Message M] {service : Service M D} {start scene next : Scene M D}

/-- A run in any surroundings that leave the borrowed buffers to the server. -/
inductive Tended (service : Service M D) (start : Scene M D) : Scene M D → Prop where
  | start : Tended service start start
  | step {scene next : Scene M D} {more : List Incident} (tended : Tended service start scene)
      (passes : Passes service scene more next)
      (pool : next.site.loop.world.pool = scene.site.loop.world.pool ∨
        ∃ deeds, Site.Step service.conduct scene.site deeds next.site) :
      Tended service start next

/-- Everybody but the loop's own thread leaves connections as they are, or at the most gathers or
writes for one of them. -/
theorem Passes.upheld {more : List Incident} (passes : Passes service scene more next)
    (pool : next.site.loop.world.pool = scene.site.loop.world.pool)
    (upheld : scene.site.Upheld service.Stocked service.ModestEvent) :
    next.site.Upheld service.Stocked service.ModestEvent := by
  have upholds := service.upholds
  obtain ⟨held, ahead⟩ := upheld
  cases passes with
  | thread alive step => exact step.upholds upholds ⟨held, ahead⟩
  | @gather loop handle entries asking event connection alive found body opened kept =>
    have modest := held.owners handle event found
    rw [Service.ModestEvent, body] at modest
    exact ⟨held.rewritten found held.world (modest.gather loop.world), ahead⟩
  | @flush loop handle entries asking event connection alive found body =>
    have modest := held.owners handle event found
    rw [Service.ModestEvent, body] at modest
    obtain ⟨still, back⟩ := modest.flushOut held.world event
    exact ⟨held.tookUp upholds found back still
      (flushOut_about event connection loop.world).brings, List.forall_mem_nil _⟩
  | act act roster => exact ⟨⟨held.filed, held.world, held.owners, held.asked, held.sent⟩, ahead⟩
  | ask before plea after =>
    refine ⟨held.ordered upholds plea.order ?_, ahead⟩
    rw [(order_brings_nothing plea).nobody]
    exact List.forall_mem_nil _
  | order order brings =>
    refine ⟨held.ordered upholds order ?_, ahead⟩
    rw [brings.nobody]
    exact List.forall_mem_nil _
  | call alive change brings =>
    refine ⟨held.applied upholds change ?_, List.forall_mem_nil _⟩
    rw [Loop.eventsIn_cons_other brings]
    exact List.forall_mem_nil _
  | petition alive busy requests brings =>
    refine ⟨held.petitioned requests ?_, ahead⟩
    rw [Loop.eventsIn_eq_nil.2 (List.forall_mem_map.2 brings)]
    exact List.forall_mem_nil _
  | elsewhere premises sessions next queue =>
    refine ⟨⟨held.filed, ?_, held.owners, held.asked, held.sent⟩, ahead⟩
    intro buffer inside
    exact held.world buffer (pool ▸ inside)
  | @dismiss loop asking alive =>
    obtain ⟨table, changes, inbox, _⟩ := loop.close_empty service.conduct
    have pending := congrArg Changes.pending changes
    refine ⟨.vacant ?_ table pending inbox, List.forall_mem_nil _⟩
    intro buffer inside
    exact held.world buffer (pool ▸ inside)

omit [Message M] in
private theorem Pristine.vacant {loop : ServerLoop M D} (pristine : Pristine loop)
    (stocked : service.Stocked loop.world) : loop.Upheld service.Stocked service.ModestEvent :=
  .vacant stocked pristine.table pristine.pending pristine.inbox

/-- **All along connections are modest** and buffers whole. -/
theorem Tended.upheld {loop : ServerLoop M D} {listening : Handle} (pristine : Pristine loop)
    (stocked : service.Stocked loop.world)
    (tended : Tended service (opening service listening loop) scene) :
    scene.site.Upheld service.Stocked service.ModestEvent := by
  induction tended with
  | start =>
    have before := pristine.vacant stocked
    have started : Loop.Upheld service.Stocked service.ModestEvent
        { loop with world := { loop.world with started := true } } :=
      ⟨before.filed, before.world, before.owners, before.asked, before.sent⟩
    refine ⟨?_, List.forall_mem_nil _⟩
    have begins : (service.start listening loop).2 =
        { loop with world := { loop.world with started := true } }.apply service.conduct
          (.add { handle := listening, source := Network.doorSource, body := .listener }
            .accept) := by
      unfold Service.start
      rw [pristine.unstarted]
      rfl
    simp only [opening, begins]
    exact started.applied service.upholds _ (List.forall_mem_singleton.2 trivial)
  | step tended passes pool ih =>
    rcases pool with same | ⟨deeds, step⟩
    · exact passes.upheld same ih
    · exact step.upholds service.upholds ih

/-- What the loop's thread does with nobody coming in between is part of such runs. -/
theorem Tended.steps {early late : Site (Endpoint M) Empty (Premises D)} {deeds : List Deed}
    {asking : List Plea} (tended : Tended service start ⟨early, none, asking⟩)
    (alive : early.loop.alive = true) (steps : Site.Steps service.conduct early deeds late) :
    Tended service start ⟨late, none, asking⟩ := by
  induction steps with
  | here => exact tended
  | step first steps ih =>
    exact ih (tended.step (.thread alive first) (.inr ⟨_, first⟩)) (first.lives alive)

/-- Whole turns are part of such runs. -/
theorem Tended.turn {loop : ServerLoop M D} {asking : List Plea}
    (tended : Tended service start ⟨⟨loop, .resting⟩, none, asking⟩) (alive : loop.alive = true) :
    Tended service start ⟨⟨(loop.turn service.conduct).2, .resting⟩, none, asking⟩ := by
  obtain ⟨deeds, steps⟩ := Site.turn_steps service.conduct loop
  exact tended.steps alive steps

end Scene

/-- Between two rounds of reading less than a frame is held. -/
theorem Amid.holds [Message M] {service : Service M D} {event : Event (Endpoint M)}
    {moment : Moment M D} {reading : Reading M D} {incoming : List Arrival} {got : List UInt8}
    (amid : Amid service event moment reading incoming got)
    (modest : service.Modest moment.connection) (stocked : service.Stocked moment.premises)
    (opened : moment.connection.closing = false) : reading.Holds service := by
  induction amid with
  | begun => exact modest.begins stocked opened
  | @round reading incoming got amid again ih =>
    obtain ⟨scratch, policy, _, goesOn⟩ := ih.round incoming
    exact ⟨scratch, policy, goesOn fun ended => by cases again.symm.trans ended⟩

/-- **Nobody makes a server buffer without bound by what it promises.** Whenever a call of any
intake ends without a fault, it leaves less than a header and the largest payload that the intake
accepts, whatever the buffer held. And at every moment of a run of a server, whatever its
surroundings do, a connection that there is holds less than that and one read: between two
notifications; between two rounds of reading, where it is less by the read; and when the bytes of
one more read, which are no more than the budget allows, have just come in, of which decoding
then leaves only the end. -/
theorem connections_hold_little [Message M] (service : Service M D) {loop : ServerLoop M D}
    (pristine : Scene.Pristine loop) (stocked : service.Stocked loop.world) {listening : Handle}
    {scene : Scene M D}
    (tended : Scene.Tended service (Scene.opening service listening loop) scene) :
    (∀ (S : Type) (intake : Intake M) (sink : Sink M S) (session : Nat) (buffer : List UInt8)
      (state : S) (taken : Nat),
      (intake.decode sink session buffer state).outcome = .ok taken →
        (intake.decode sink session buffer state).buffer.length <
          Frame.headerLength + intake.ceiling) ∧
    ∀ event ∈ scene.site.loop.table.values ++ scene.site.waiting, ∀ connection,
      event.body = .connection connection →
      connection.inbound.length < service.largestFrame + service.bufferSize ∧
      (connection.closing = false → connection.inbound.length < service.largestFrame) ∧
      ∀ notice reading incoming got, connection.reads notice = true →
        Amid service event ⟨connection, scene.site.loop.world, []⟩ reading incoming got →
          reading.connection.inbound.length < service.largestFrame ∧
          ∀ bytes, bytes.length ≤ reading.budget.1 →
            let received := (reading.budget.2.pay bytes.length).receive bytes
            received.connection.inbound = reading.connection.inbound ++ bytes ∧
            received.connection.inbound.length < service.largestFrame + service.bufferSize ∧
            (received.decode service.sink).2.connection.inbound <:+ received.connection.inbound := by
  refine ⟨fun S intake sink session buffer state taken => Intake.decode_leaves_little, ?_⟩
  have upheld := tended.upheld pristine stocked
  intro event present connection body
  have modest : service.ModestEvent event := by
    rcases List.mem_append.1 present with owned | waits
    · obtain ⟨⟨handle, _⟩, entry, rfl⟩ := List.mem_map.1 owned
      exact upheld.loop.owners handle _ ((Keyed.get?_eq_some_iff _ _ _).2 entry)
    · exact upheld.waits event waits
  rw [Service.ModestEvent, body] at modest
  refine ⟨modest.held, modest.opened, ?_⟩
  intro notice reading incoming got reads amid
  have holds := amid.holds modest upheld.loop.world (reads_open reads)
  refine ⟨holds.held, fun bytes fits => ?_⟩
  have whole : bytes.length ≤ service.bufferSize :=
    holds.scratch ▸ Nat.le_trans fits reading.budget_le
  have received : ((reading.budget.2.pay bytes.length).receive bytes).connection.inbound =
      reading.connection.inbound ++ bytes := by
    simp only [Reading.receive, Reading.pay, List.take_left']
    rfl
  refine ⟨received, ?_, ?_⟩
  · have held := holds.held
    rw [received, List.length_append]
    omega
  · exact (Intake.decode_leaves _ _ _ _ _).1

/-- A server for tallies reads five bytes at once. A header that promises all that a tally may hold
comes in with three bytes behind it, and what waits for the fourth is fifteen bytes. -/
theorem promised_tally_is_held :
    let service : Service Trial.Telegram Unit :=
      { settings := { bufferSize := 5 }, sink := ⟨fun _ _ office => (.ok (), office)⟩
        catalogue :=
          { listings := Keyed.ofFirst (Trial.Telegram.listings.filter fun entry => entry.1 = 20) } }
    let loop : ServerLoop Trial.Telegram Unit :=
      { world :=
          { desk := (), pool := Pool.full 1 service.makeBuffer
            network :=
              { sockets := Keyed.ofFirst
                  [(1, { incoming := [.bytes [0, 0, 0, 20, 0, 0, 0, 0, 0, 0, 0, 4, 1, 2, 3]] })]
                door := [.visitor ⟨1, 11, .v4 127 0 0 1 40001⟩] } } }
    service.largestFrame = 16 ∧ service.bufferSize = 5 ∧
      ∃ scene, Scene.Tended service (Scene.opening service 10 loop) scene ∧
        ∃ event ∈ scene.site.loop.table.values, ∃ connection,
          event.body = .connection connection ∧ connection.inbound.length = 15 ∧
          (connection.closing = false → connection.inbound.length < service.largestFrame) := by
  intro service loop
  let admitting := (service.start 10 loop).2
  let reading := (admitting.turn service.conduct).2
  let waiting := (reading.turn service.conduct).2
  have lives : admitting.alive = true := by decide +kernel
  have livesOn : reading.alive = true := by decide +kernel
  have begins : Scene.Tended service (Scene.opening service 10 loop)
      ⟨⟨admitting, .resting⟩, none, []⟩ := .start
  have tended : Scene.Tended service (Scene.opening service 10 loop)
      ⟨⟨waiting, .resting⟩, none, []⟩ := (begins.turn lives).turn livesOn
  have pristine : Scene.Pristine loop :=
    ⟨⟨rfl, rfl, rfl, rfl, rfl, rfl, rfl⟩, rfl, rfl, rfl, rfl⟩
  have stocked : service.Stocked loop.world := Service.stocked_of_full rfl
  have held : waiting.table.values.any (fun event => match event.body with
      | .listener => false
      | .connection connection => connection.inbound.length = 15) = true := by
    decide +kernel
  clear_value waiting
  obtain ⟨_, little⟩ := connections_hold_little service pristine stocked tended
  refine ⟨by decide +kernel, by decide +kernel, _, tended, ?_⟩
  obtain ⟨event, owned, looks⟩ := List.any_eq_true.1 held
  cases body : event.body with
  | listener =>
    rw [body] at looks
    cases looks
  | connection connection =>
    rw [body] at looks
    obtain ⟨_, opened, _⟩ := little event (List.mem_append_left _ owned) connection body
    exact ⟨event, owned, connection, body, by simpa using looks, opened⟩

end EventLoop
