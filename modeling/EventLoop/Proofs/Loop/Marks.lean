import EventLoop.Proofs.Loop.Courses
import Mathlib.Data.List.Induction

/-! Which handles count as listening. The registrations that went through are signatures, each
under a mask. A handle is marked as soon as one of its owner's signatures wants connections, and
it stays marked until the owner is removed: a later signature takes nothing back. So input is
delivered as a connection to accept if any signature since then says so, whatever the last one
says (`rearmed_listener_still_accepts`). Only while nobody takes back that it listens do the two
come to the same. -/
namespace EventLoop

variable {B C W : Type}

/-! ## Signatures -/

/-- What is put on file about a handle: a `Multiplexer::register` under a mask has gone through,
or the owner of the handle has been removed. -/
inductive Filing where
  | signed (handle : Handle) (mask : Interest)
  | struck (handle : Handle)
deriving DecidableEq, Repr

/-- The signatures of a handle after one more filing. -/
def Filing.onto (handle : Handle) (masks : List Interest) : Filing → List Interest
  | .signed signer mask => if signer = handle then masks ++ [mask] else masks
  | .struck gone => if gone = handle then [] else masks

/-- The mask of a signature of this handle. -/
def Filing.mask? (handle : Handle) : Filing → Option Interest
  | .signed signer mask => if signer = handle then some mask else none
  | .struck _ => none

/-- The masks that a handle has been registered under since its last owner was removed. -/
def signatures (handle : Handle) (history : List Filing) : List Interest :=
  history.foldl (Filing.onto handle) []

/-- The mask of the last registration of a handle that went through, whoever owned it. -/
def lastSignature (handle : Handle) (history : List Filing) : Option Interest :=
  (history.filterMap (Filing.mask? handle)).getLast?

/-- Some registration was for the sake of connections. -/
def Listening (masks : List Interest) : Prop := ∃ mask ∈ masks, mask.includes .accept = true

/-- Nobody takes back that it listens: once a mask wants connections, all later ones do. -/
def KeepsRole (masks : List Interest) : Prop :=
  masks.Pairwise fun earlier later =>
    earlier.includes .accept = true → later.includes .accept = true

variable {handle : Handle} {history : List Filing}

private theorem signatures_append (handle : Handle) (history : List Filing) (filing : Filing) :
    signatures handle (history ++ [filing]) = filing.onto handle (signatures handle history) := by
  rw [signatures, List.foldl_append]
  rfl

private theorem lastSignature_append (handle : Handle) (history : List Filing) (filing : Filing) :
    lastSignature handle (history ++ [filing]) =
      (filing.mask? handle).or (lastSignature handle history) := by
  unfold lastSignature
  rw [List.filterMap_append]
  cases mask : filing.mask? handle with
  | none => simp [mask]
  | some mask => simp [mask]

/-- Where somebody has signed since the last removal, the last signature is the last of all. -/
theorem lastSignature_of_signed (signed : signatures handle history ≠ []) :
    lastSignature handle history = (signatures handle history).getLast? := by
  induction history using List.reverseRecOn with
  | nil => exact absurd rfl signed
  | append_singleton history filing ih =>
    rw [signatures_append] at signed
    rw [lastSignature_append, signatures_append]
    cases filing with
    | signed signer mask =>
      by_cases same : signer = handle
      · simp [Filing.mask?, Filing.onto, same]
      · simp only [Filing.onto, if_neg same] at signed
        simpa [Filing.mask?, Filing.onto, same] using ih signed
    | struck gone =>
      by_cases same : gone = handle
      · simp [Filing.onto, same] at signed
      · simp only [Filing.onto, if_neg same] at signed
        simpa [Filing.mask?, Filing.onto, same] using ih signed

/-- While everybody keeps to its role, the last mask speaks for all. -/
theorem KeepsRole.last {masks : List Interest} {last : Interest} (keeps : KeepsRole masks)
    (ends : masks.getLast? = some last) : Listening masks ↔ last.includes .accept = true := by
  obtain ⟨before, rfl⟩ := List.getLast?_eq_some_iff.1 ends
  constructor
  · rintro ⟨mask, inside, listens⟩
    rcases List.mem_append.1 inside with earlier | here
    · exact (List.pairwise_append.1 keeps).2.2 mask earlier last (List.mem_singleton_self _) listens
    · rwa [← List.mem_singleton.1 here]
  · intro listens
    exact ⟨last, List.mem_append_right _ (List.mem_singleton_self _), listens⟩

/-! ## What a change puts on file -/

namespace Loop

/-- A registration goes on file if it goes through. -/
def signing (conduct : Conduct B C W) (event : Event B) (mask : Interest) (loop : Loop B C W) :
    List Filing :=
  match (loop.selector.register conduct mask event loop.world).outcome with
  | .ok () => [.signed event.handle mask]
  | .error _ => []

/-- What goes on file when a registration is a part of adding: nothing if there is nothing that a
poller could watch for. -/
def settling (conduct : Conduct B C W) (event : Event B) (mask : Interest) (loop : Loop B C W) :
    List Filing :=
  if (mask.without .timer).isEmpty then [] else loop.signing conduct event (mask.without .timer)

/-- What goes on file when an object is added: whoever owns its handle then has signed. -/
def adding (conduct : Conduct B C W) (event : Event B) (mask : Interest) (loop : Loop B C W) :
    List Filing :=
  if mask.isEmpty then [] else loop.settling conduct ((loop.lookup event.handle).getD event) mask

/-- What goes on file when a change is applied. -/
def filings (conduct : Conduct B C W) (loop : Loop B C W) : Change B C → List Filing
  | .add event mask => loop.adding conduct event mask
  | .rearm target mask =>
    if loop.owns target then
      (loop.lookup target.handle).toList.flatMap (loop.signing conduct · mask)
    else []
  | .remove target => if loop.owns target then [.struck target.handle] else []
  | .schedule .. => []
  | .timer .. => []

/-! ## Marks follow the signatures -/

/-- A handle is marked if a signature wants connections, and who is watched has signed. -/
structure Marked (history : List Filing) (loop : Loop B C W) : Prop where
  marks : ∀ handle, loop.selector.isListener handle = true ↔ Listening (signatures handle history)
  signed : ∀ handle owner, loop.lookup handle = some owner → owner.standing = .added →
    signatures handle history ≠ []

variable {early late loop : Loop B C W} {owner event : Event B}

/-- Where the same stand and the same are marked, nothing has to be put on file. -/
theorem Marked.alike (marked : early.Marked history)
    (owners : ∀ handle, late.bare? handle = early.bare? handle)
    (listeners : late.selector.listeners = early.selector.listeners) : late.Marked history := by
  refine ⟨?_, ?_⟩
  · intro handle
    rw [Selector.isListener, listeners]
    exact marked.marks handle
  · intro handle owner found added
    have same := owners handle
    rw [bare?, found, Option.map_some] at same
    obtain ⟨resident, resides, bare⟩ := Option.map_eq_some_iff.1 same.symm
    have standings : resident.bare.standing = owner.bare.standing := by rw [bare]
    exact marked.signed handle resident resides (standings.trans added)

private theorem Marked.still (marked : early.Marked history) (still : Still early late) :
    late.Marked history :=
  marked.alike still.owners still.listeners

theorem isListener_watch_self (conduct : Conduct B C W) (event : Event B) (mask : Interest)
    (wanted : Readiness) (world : W) (selector : Selector) :
    (selector.watch conduct event mask wanted world).isListener event.handle =
      (selector.isListener event.handle || mask.includes .accept) := by
  cases listens : mask.includes .accept <;>
    cases before : selector.isListener event.handle <;>
      simp_all [Selector.watch, Selector.mark, Selector.isListener]

private theorem listening_append (masks : List Interest) (mask : Interest) :
    Listening (masks ++ [mask]) ↔ Listening masks ∨ mask.includes .accept = true := by
  simp [Listening, or_and_right, exists_or]

variable (conduct : Conduct B C W)

/-- **A registration is marked as it is signed**, and one that fails is neither. -/
theorem Marked.registerOwned (marked : loop.Marked history)
    (found : loop.lookup event.handle = some event) (mask : Interest) :
    (loop.registerOwned conduct event mask).2.Marked
      (history ++ loop.signing conduct event mask) := by
  have outcome := Selector.register_outcome conduct mask event loop.world loop.selector
  unfold Loop.registerOwned signing
  generalize loop.selector.register conduct mask event loop.world = registered at outcome ⊢
  cases outcome with
  | refused fault world =>
    rw [List.append_nil]
    exact marked.alike (bare?_insert found event.body) rfl
  | done wanted world seen allowed =>
    refine ⟨?_, ?_⟩
    · intro handle
      rw [signatures_append]
      by_cases here : handle = event.handle
      · subst here
        simp only [Filing.onto, ↓reduceIte]
        rw [listening_append, ← marked.marks, isListener_watch_self, Bool.or_eq_true]
      · simp only [Filing.onto, if_neg (Ne.symm here)]
        rw [← marked.marks, isListener_watch conduct event mask wanted world _ here]
    · intro handle owner stands added
      rw [signatures_append]
      by_cases here : handle = event.handle
      · simp [Filing.onto, here]
      · simp only [Filing.onto, if_neg (Ne.symm here)]
        have before := (loop.table.get?_insert event.handle handle _).symm.trans stands
        rw [if_neg here] at before
        exact marked.signed handle owner before added

private theorem Marked.settle (marked : loop.Marked history)
    (found : loop.lookup event.handle = some event) (mask : Interest) :
    (loop.settle conduct event mask).2.Marked (history ++ loop.settling conduct event mask) := by
  refine settle_induction conduct (fun alone => ?_) (fun served => ?_)
    fun late registered => registered.still (schedule_still conduct late _ _)
  · rwa [settling, if_pos alone, List.append_nil]
  · rw [settling, if_neg served]
    exact marked.registerOwned conduct found _

private theorem settling_refused (mask : Interest) {fault : Fault}
    (refused : (loop.settle conduct event mask).1 = .error fault) :
    loop.settling conduct event mask = [] := by
  obtain ⟨_, refuses⟩ := settle_error_iff.1 refused
  unfold settling signing
  rw [(Selector.register_refused_iff loop.selector).2 refuses]
  exact ite_self []

private theorem adding_refused {fault : Fault}
    (failed : (loop.addEvent conduct event mask).1 = .error fault) :
    loop.adding conduct event mask = [] := by
  unfold adding
  split
  · rfl
  · next wishes => exact settling_refused conduct mask ((addEvent_refused_iff wishes).1 failed)

/-- **Adding marks as it is signed**: whoever owns the handle then. An object whose registration
fails leaves neither a mark nor a signature. -/
theorem Marked.addEvent (marked : loop.Marked history) (filed : loop.Filed)
    (absent : event.standing = .absent) (mask : Interest) :
    (loop.addEvent conduct event mask).2.Marked (history ++ loop.adding conduct event mask) := by
  cases outcome : (loop.addEvent conduct event mask).1 with
  | error fault =>
    obtain ⟨halted, halts, left⟩ := addEvent_failed filed outcome
    rw [left, halts.same, adding_refused conduct outcome, List.append_nil]
    exact marked.alike (fun _ => rfl) rfl
  | ok _ =>
    obtain ⟨wishes, ⟨owner, found, done⟩ | ⟨free, done⟩⟩ := addEvent_done outcome
    · have own : loop.lookup owner.handle = some owner := by
        rw [filed _ _ found]
        exact found
      rw [done, adding, if_neg wishes, found]
      exact (marked.settle conduct own mask).alike (fun _ => rfl) rfl
    · have entered : (loop.enter event).Marked history := by
        refine ⟨marked.marks, ?_⟩
        intro handle owner stands added
        rw [lookup_enter] at stands
        split at stands
        · cases stands
          cases absent.symm.trans added
        · exact marked.signed handle owner stands added
      rw [done, adding, if_neg wishes, free]
      exact entered.settle conduct (lookup_entered event loop) mask

/-- **A removal strikes the mark off with the signatures.** -/
theorem Marked.removeEvent (marked : loop.Marked history) (handle : Handle)
    (found : loop.lookup handle = some owner) :
    (loop.removeEvent conduct handle).2.Marked (history ++ [.struck handle]) := by
  have marks := unregister_listeners conduct owner loop.world loop.selector
  unfold Loop.removeEvent
  rw [found]
  simp only
  generalize loop.selector.unregister conduct owner loop.world = gone at marks ⊢
  obtain ⟨left, selector, world⟩ := gone
  simp only at marks ⊢
  refine ⟨?_, ?_⟩
  · intro other
    refine (Bool.eq_iff_iff.1 (isListener_forgetListener handle other selector)).trans ?_
    rw [signatures_append]
    by_cases here : other = handle
    · simp [Filing.onto, here, Listening]
    · have same : selector.isListener other = loop.selector.isListener other := by
        rw [Selector.isListener, marks]
        rfl
      simp only [Filing.onto, if_neg (Ne.symm here), ne_eq, here, not_false_eq_true, decide_true,
        Bool.true_and, same]
      exact marked.marks other
  · intro other owner stands added
    have before := (loop.table.get?_erase handle other).symm.trans stands
    split at before
    · cases before
    · next apart =>
      rw [signatures_append]
      simp only [Filing.onto, if_neg (Ne.symm apart)]
      exact marked.signed other owner before added

/-- **Whatever change is applied, marks follow the signatures.** -/
theorem Marked.apply (marked : loop.Marked history) (filed : loop.Filed) (change : Change B C)
    (absent : ∀ event ∈ eventsIn [change], event.standing = .absent) :
    (loop.apply conduct change).Marked (history ++ loop.filings conduct change) := by
  cases change with
  | add event mask =>
    exact marked.addEvent conduct filed (absent event (List.mem_singleton_self _)) mask
  | rearm target mask =>
    simp only [Loop.apply, filings]
    split
    · unfold Loop.rearm
      cases found : loop.lookup target.handle with
      | none =>
        rw [Option.toList_none, List.flatMap_nil, List.append_nil]
        exact marked
      | some owner =>
        rw [Option.toList_some, List.flatMap_singleton]
        refine marked.registerOwned conduct ?_ mask
        rw [filed _ _ found]
        exact found
    · rwa [List.append_nil]
  | remove target =>
    simp only [Loop.apply, filings]
    split
    · next owned =>
      cases found : loop.lookup target.handle with
      | none => simp [owns, found] at owned
      | some owner => exact marked.removeEvent conduct target.handle found
    · rwa [List.append_nil]
  | schedule target delay =>
    rw [filings, List.append_nil]
    simp only [Loop.apply]
    split
    · split
      · exact marked.still (schedule_still conduct loop delay _)
      · exact marked
    · exact marked
  | timer callback interval delayed repeats =>
    rw [filings, List.append_nil]
    exact marked.still (schedule_still conduct loop _ _)

end Loop

/-! ## Courses on file -/

namespace Site

/-- What goes on file with the next step of a thread. -/
def filings (conduct : Conduct B C W) (site : Site B C W) : List Filing :=
  site.due?.toList.flatMap (site.loop.filings conduct)

/-- A course, and all that went on file in it, from the beginning. -/
inductive Registry (conduct : Conduct B C W) (start : Site B C W) :
    List Filing → Site B C W → Prop where
  | start : Registry conduct start [] start
  | step {history : List Filing} {site next : Site B C W} {deeds : List Deed}
      (registry : Registry conduct start history site) (step : Step conduct site deeds next)
      (handed : site.HandsOver next.waiting) :
      Registry conduct start (history ++ site.filings conduct) next
  | order {history : List Filing} {site : Site B C W}
      (registry : Registry conduct start history site) (order : Order B C)
      (handed : site.HandsOver
        (waiting { site with loop := site.loop.carryOut conduct order })) :
      Registry conduct start history { site with loop := site.loop.carryOut conduct order }
  | call {history : List Filing} {loop : Loop B C W}
      (registry : Registry conduct start history ⟨loop, .resting⟩) (change : Change B C)
      (handed : HandsOver ⟨loop, .resting⟩
        (Loop.eventsIn [change] ++ waiting ⟨loop, .resting⟩)) :
      Registry conduct start (history ++ loop.filings conduct change)
        ⟨loop.apply conduct change, .resting⟩
  | elsewhere {history : List Filing} {site : Site B C W}
      (registry : Registry conduct start history site) (world : W) (queue : List Mark) :
      Registry conduct start history
        { site with loop := { site.loop with
            world
            selector := { site.loop.selector with
              poller := { site.loop.selector.poller with queue } } } }

variable {conduct : Conduct B C W} {start site next : Site B C W}

/-- What is on file belongs to a course. -/
theorem Registry.course (registry : Registry conduct start history site) :
    Course conduct start site := by
  induction registry with
  | start => exact .start
  | step registry step handed ih => exact ih.step step handed
  | order registry order handed ih => exact ih.order order handed
  | call registry change handed ih => exact ih.call change handed
  | elsewhere registry world queue ih => exact ih.elsewhere world queue

/-- Every course can be put on file. -/
theorem Course.registry (course : Course conduct start site) :
    ∃ history, Registry conduct start history site := by
  induction course with
  | start => exact ⟨[], .start⟩
  | step course step handed ih => exact ⟨_, ih.choose_spec.step step handed⟩
  | order course order handed ih => exact ⟨_, ih.choose_spec.order order handed⟩
  | call course change handed ih => exact ⟨_, ih.choose_spec.call change handed⟩
  | elsewhere course world queue ih => exact ⟨_, ih.choose_spec.elsewhere world queue⟩

/-- A step marks what it puts on file, and nothing else. -/
theorem Step.marks {deeds : List Deed} (step : Step conduct site deeds next)
    (order : site.InOrder) (marked : site.loop.Marked history) :
    next.loop.Marked (history ++ site.filings conduct) := by
  unfold filings
  cases due : site.due? with
  | none =>
    rw [Option.toList_none, List.flatMap_nil, List.append_nil]
    exact marked.still (step.rests order.alive due).1
  | some change =>
    rw [Option.toList_some, List.flatMap_singleton]
    have filed := order.coherent.filed
    have absent (listed : change ∈ site.ahead ++ site.loop.inbox) :
        ∀ event ∈ Loop.eventsIn [change], event.standing = .absent := by
      intro event inside
      refine order.awaited.absent event ?_
      obtain ⟨other, here, brings⟩ := List.mem_filterMap.1 inside
      rw [List.mem_singleton.1 here] at brings
      exact List.mem_filterMap.2 ⟨change, listed, brings⟩
    obtain ⟨rest, stage, inbox, rfl⟩ | ⟨pending, second, stage, rfl⟩ := step.applies due
    · have taken : ({ site.loop with inbox := rest } : Loop B C W).Marked history :=
        marked.alike (fun _ => rfl) rfl
      have same : ({ site.loop with inbox := rest } : Loop B C W).filings conduct change =
          site.loop.filings conduct change := by
        cases change <;> rfl
      exact same ▸ taken.apply conduct filed change (absent (by simp [inbox]))
    · exact marked.apply conduct filed change (absent (by simp [ahead, stage, Stage.ahead]))

/-- **On every course marks follow the signatures.** -/
theorem Registry.marked (registry : Registry conduct start history site)
    (unused : start.Unused) : site.loop.Marked history := by
  induction registry with
  | start =>
    refine ⟨?_, ?_⟩
    · intro handle
      simp [Selector.isListener, unused.listeners, signatures, Listening]
    · intro handle owner found
      cases (unused.free handle).symm.trans found
  | step registry step handed ih => exact step.marks (registry.course.in_order unused.in_order) ih
  | order registry order handed ih =>
    have alive := (registry.course.in_order unused.in_order).alive
    exact ih.still (Loop.carryOut_still conduct alive order).1
  | @call history loop registry change handed ih =>
    have order := registry.course.in_order unused.in_order
    refine ih.apply conduct order.coherent.filed change ?_
    intro event inside
    exact (order.awaited.handed handed).absent event (List.mem_append_left _ inside)
  | elsewhere registry world queue ih => exact ih.alike (fun _ => rfl) rfl

/-- Whoever hears of input is told of it at once, and hears nothing else. -/
theorem Step.tells_of_input {deeds : List Deed} {entry : Ready} {entries : List Ready}
    {owner : Event B} (step : Step conduct site deeds next)
    (stage : site.stage = .delivering (entry :: entries))
    (heard : site.loop.hearer? entry = some owner) (input : entry.readiness.input = true) :
    deeds = [.told (site.loop.inputNotice entry.token.handle) entry.token.handle
        owner.generation] ∧
      next.loop = site.loop.notify conduct (site.loop.inputNotice entry.token.handle)
        entry.token.handle := by
  cases step with
  | pass entries unheard =>
    cases stage
    cases unheard.symm.trans heard
  | hear entries heardToo =>
    cases stage
    refine ⟨?_, rfl⟩
    rw [Loop.noticeDeeds, Loop.owner?, Loop.lookup_of_hearer? heard]
    rfl
  | hearNothing entries heardToo silent =>
    cases stage
    cases silent.symm.trans input
  | _ => cases stage

end Site

/-- **Input is a connection to accept if the owner ever signed for that.** On every course of a
loop, when an entry with input comes to an owner that hears of it: its handle has been registered,
and the owner is told at once, of one thing, and that is a connection to accept exactly if some
registration since the last removal was for the sake of connections. So it is what the last
registration wants if no registration took back what an earlier one wanted. -/
theorem input_is_told_as_signed (conduct : Conduct B C W) {start site : Site B C W}
    {history : List Filing} (unused : start.Unused)
    (registry : Site.Registry conduct start history site) {entry : Ready} {entries : List Ready}
    (stage : site.stage = .delivering (entry :: entries)) {owner : Event B}
    (heard : site.loop.hearer? entry = some owner) (input : entry.readiness.input = true) :
    ∃ last notice, lastSignature entry.token.handle history = some last ∧
      (∃ deeds next, Site.Step conduct site deeds next) ∧
      (∀ deeds next, Site.Step conduct site deeds next →
        deeds = [.told notice entry.token.handle owner.generation] ∧
        next.loop = site.loop.notify conduct notice entry.token.handle) ∧
      (notice = .accept ∨ notice = .readable) ∧
      (notice = .accept ↔ Listening (signatures entry.token.handle history)) ∧
      (KeepsRole (signatures entry.token.handle history) →
        (notice = .accept ↔ last.includes .accept = true)) := by
  have marked := registry.marked unused
  have found := Loop.lookup_of_hearer? heard
  have added : owner.standing = .added := by
    unfold Loop.hearer? at heard
    split at heard
    · cases heard
    · simpa using (Option.filter_eq_some_iff.1 heard).2
  have signed := marked.signed _ _ found added
  obtain ⟨last, ends⟩ := Option.ne_none_iff_exists'.1 (mt List.getLast?_eq_none_iff.1 signed)
  have classified : site.loop.inputNotice entry.token.handle = .accept ↔
      Listening (signatures entry.token.handle history) := by
    rw [← marked.marks, Loop.inputNotice]
    split <;> simp_all
  refine ⟨last, site.loop.inputNotice entry.token.handle,
    (lastSignature_of_signed signed).trans ends, ?_, ?_, ?_, classified, ?_⟩
  · obtain ⟨loop, reached⟩ := site
    cases stage
    exact ⟨_, _, .hear entries heard input⟩
  · intro deeds next step
    exact step.tells_of_input stage heard input
  · unfold Loop.inputNotice
    split
    · exact .inl rfl
    · exact .inr rfl
  · intro keeps
    exact classified.trans (keeps.last ends)

/-! ## A listener that turns to reading -/

/-- Objects and callbacks that do nothing, in a world in which nothing fails. -/
def idle : Conduct Unit Unit Unit where
  call _ _ world := (none, world)
  notify _ _ _ world := ⟨(), world, [], []⟩
  fire callback _ world := { again := false, callback, world }
  level _ _ := {}
  clock world := (0, world)
  wait _ _ world := world
  unresolved _ world := world
  destroy _ world := world

namespace Site

/-- A loop that nobody has used yet. -/
def fresh : Site Unit Unit Unit := ⟨{ world := () }, .resting⟩

theorem fresh_unused : fresh.Unused := ⟨rfl, rfl, rfl, rfl, rfl, rfl, rfl⟩

/-- A loop with one object, which listens. -/
def listening : Loop Unit Unit Unit :=
  fresh.loop.apply idle (.add { handle := 3, source := 7, body := () } .accept)

/-- The object has been re-armed under another mask, and a poll has found input for it. -/
def rearmed (mask : Interest) : Site Unit Unit Unit :=
  let loop := listening.apply idle (.rearm { handle := 3 } mask)
  ⟨{ loop with
      selector := { loop.selector with poller := { loop.selector.poller with queue := [] } } },
    .delivering [⟨3, ⟨true, false⟩⟩]⟩

private theorem rearmed_registry (mask : Interest) :
    Registry idle fresh
      ([.signed 3 .accept] ++ listening.filings idle (.rearm { handle := 3 } mask))
      (rearmed mask) := by
  have added : Registry idle fresh [.signed 3 .accept] ⟨listening, .resting⟩ := by
    refine .call .start (.add { handle := 3, source := 7, body := () } .accept)
      ⟨[], [_], List.nil_sublist _, ⟨?_, ?_, ?_, ?_⟩, .refl _⟩
    · exact List.forall_mem_singleton.2 rfl
    · exact List.forall_mem_singleton.2 (Loop.unseated_of_entries (by decide))
    · intro event _ other waits
      cases waits
    · exact List.pairwise_singleton _ _
  have polled : Registry idle fresh
      ([.signed 3 .accept] ++ listening.filings idle (.rearm { handle := 3 } mask) ++ [] ++ [])
      (rearmed mask) := ((added.call (.rearm { handle := 3 } mask) (.of_sublist (.refl _))).step
    (.begin _) (.of_sublist (.refl _))).step (.poll rfl false none [⟨3, ⟨true, false⟩⟩] [])
    (.of_sublist (.refl _))
  rwa [List.append_nil, List.append_nil] at polled

/-- An object that listens is re-armed to listen and to read; it goes on accepting. -/
theorem listener_goes_on_accepting :
    ∃ history, Registry idle fresh history (rearmed (.union .accept .readable)) ∧
      lastSignature 3 history = some (.union .accept .readable) ∧
      ∀ deeds next, Step idle (rearmed (.union .accept .readable)) deeds next →
        deeds = [.told .accept 3 0] := by
  have registry := rearmed_registry (.union .accept .readable)
  have heard : (rearmed (.union .accept .readable)).loop.hearer? ⟨3, ⟨true, false⟩⟩ =
      some { handle := 3, source := 7, standing := .added, body := () } := rfl
  obtain ⟨last, notice, signed, _, told, _, _, kept⟩ :=
    input_is_told_as_signed idle fresh_unused registry rfl heard rfl
  have keeps : KeepsRole (signatures 3 ([.signed 3 .accept] ++
      listening.filings idle (.rearm { handle := 3 } (.union .accept .readable)))) := by
    unfold KeepsRole
    decide
  obtain rfl : Interest.union .accept .readable = last := Option.some.inj signed
  obtain rfl : notice = .accept := (kept keeps).2 (by decide)
  exact ⟨_, registry, signed, fun deeds next step => (told deeds next step).1⟩

/-- An object that listens is re-armed to read alone. The last registration does not want
connections any more, and yet the next input is told as one. -/
theorem rearmed_listener_still_accepts :
    ∃ history, Registry idle fresh history (rearmed .readable) ∧
      lastSignature 3 history = some .readable ∧
      (∃ deeds next, Step idle (rearmed .readable) deeds next) ∧
      ∀ deeds next, Step idle (rearmed .readable) deeds next → deeds = [.told .accept 3 0] := by
  refine ⟨_, rearmed_registry .readable, by decide, ⟨_, _, .hear [] rfl rfl⟩, ?_⟩
  intro deeds next step
  exact (step.tells_of_input rfl rfl rfl).1

end Site

end EventLoop
