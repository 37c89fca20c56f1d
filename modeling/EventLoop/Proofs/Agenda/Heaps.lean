import EventLoop.Proofs.Agenda.Dockets
import Mathlib.Algebra.GroupWithZero.Nat

/-! The other way to build such a queue: a heap that gives its greatest entry first. Every entry
is stamped with a number that counts up, and entries are compared the wrong way round, so that
the greatest is the one due first and, of those due at one moment, the one with the least
number. Of the heap no more is assumed than what any priority queue promises. As long as the
numbers do not come round again, the queue answers as an agenda does. -/
namespace EventLoop

variable {α : Type}

/-! ## Heaps -/

/-- `BinaryHeap`, as far as it is used: it holds entries, gives and removes a greatest one by
`compare`, and says which that is and how many there are. `contents` is only there to say so. -/
structure Heap (E : Type) (compare : E → E → Ordering) where
  State : Type
  empty : State
  push : E → State → State
  peek? : State → Option E
  pop? : State → Option (E × State)
  length : State → Nat
  contents : State → List E
  contents_empty : contents empty = []
  contents_push (entry : E) (state : State) :
    (contents (push entry state)).Perm (entry :: contents state)
  contents_none (state : State) : pop? state = none → contents state = []
  contents_pop (state rest : State) (entry : E) : pop? state = some (entry, rest) →
    (contents state).Perm (entry :: contents rest) ∧
      ∀ other ∈ contents state, compare entry other ≠ .lt
  peek?_eq (state : State) : peek? state = (pop? state).map Prod.fst
  length_eq (state : State) : length state = (contents state).length

/-- `TimerEntry`: what is put in a heap, an item, when it falls due and the number it was stamped
with. -/
structure Stamped (α : Type) where
  due : Nat
  sequence : UInt64
  item : α
deriving DecidableEq, Repr

namespace Stamped

/-- `TimerEntry::cmp`: which entry is greater, the one due earlier, or else the one with the
lesser number. -/
def compare (one other : Stamped α) : Ordering :=
  match Ord.compare other.due one.due with
  | .eq => Ord.compare other.sequence one.sequence
  | order => order

/-- What an entry stands for. -/
def ticket (entry : Stamped α) : Ticket α := ⟨entry.due, entry.sequence.toNat, entry.item⟩

/-- An entry is the lesser one exactly if the other comes first. -/
theorem compare_lt_iff {one other : Stamped α} :
    one.compare other = .lt ↔ other.ticket.Before one.ticket := by
  unfold compare Ticket.Before ticket
  rcases Nat.lt_trichotomy other.due one.due with earlier | same | later
  · simp [Nat.compare_eq_lt.2 earlier, earlier]
  · simp only [same, Nat.compare_eq_eq.2, Nat.lt_irrefl, false_or, true_and]
    exact compareOfLessAndEq_eq_lt.trans UInt64.lt_iff_toNat_lt
  · simp [Nat.compare_eq_gt.2 later, Nat.lt_asymm later, Nat.ne_of_gt later]

end Stamped

/-! ## A queue on a heap -/

variable {heap : Heap (Stamped α) Stamped.compare}

/-- `TimerQueue` as it is built: a queue on a heap, with the number for the next entry. -/
structure HeapQueue (heap : Heap (Stamped α) Stamped.compare) where
  state : heap.State
  sequence : UInt64 := 0

namespace HeapQueue

/-- `TimerQueue::schedule`: stamps an item with the next number and puts it in the heap. -/
def schedule (due : Nat) (item : α) (queue : HeapQueue heap) : HeapQueue heap :=
  ⟨heap.push ⟨due, queue.sequence, item⟩ queue.state, queue.sequence + 1⟩

private theorem length_pop {state rest : heap.State} {entry : Stamped α}
    (popped : heap.pop? state = some (entry, rest)) : heap.length rest < heap.length state := by
  rw [heap.length_eq, heap.length_eq, (heap.contents_pop _ _ _ popped).1.length_eq]
  exact Nat.lt_succ_self _

/-- `TimerQueue::expired`, its loop: takes entries off the heap as long as the greatest has
fallen due. -/
def drain (now : Nat) (state : heap.State) : List (Stamped α) × heap.State :=
  if (heap.peek? state).any (·.due ≤ now) then
    match _popped : heap.pop? state with
    | some (entry, rest) => (entry :: (drain now rest).1, (drain now rest).2)
    | none => ([], state)
  else ([], state)
termination_by heap.length state
decreasing_by all_goals exact length_pop ‹_›

/-- `TimerQueue::expired`: the items that have fallen due by `now`, and the queue of the
others. -/
def expired (now : Nat) (queue : HeapQueue heap) : List α × HeapQueue heap :=
  ((drain now queue.state).1.map Stamped.item, { queue with state := (drain now queue.state).2 })

/-- `TimerQueue::next_deadline`: when the next entry falls due. -/
def next? (queue : HeapQueue heap) : Option Nat := (heap.peek? queue.state).map Stamped.due

/-- `TimerQueue::poll_timeout`: how long to wait, no longer than until the next entry falls
due. -/
def patience (now : Nat) (limit : Option Nat) (queue : HeapQueue heap) : Option Nat :=
  match queue.next?, limit with
  | some due, some limit => some (min (due - now) limit)
  | some due, none => some (due - now)
  | none, limit => limit

/-- The same queue, as others use it. -/
def queue (heap : Heap (Stamped α) Stamped.compare) : Queue (HeapQueue heap) α where
  empty := { state := heap.empty }
  schedule := schedule
  expired := expired
  size queue := heap.length queue.state
  next? := next?
  patience := patience

/-! ## It follows a docket -/

/-- What the heap holds. -/
def tickets (state : heap.State) : List (Ticket α) := (heap.contents state).map Stamped.ticket

/-- Popping takes out a ticket that no other comes before. -/
theorem tickets_pop {state rest : heap.State} {entry : Stamped α}
    (popped : heap.pop? state = some (entry, rest)) :
    (tickets state).Perm (entry.ticket :: tickets rest) ∧
      ∀ other ∈ tickets state, ¬ other.Before entry.ticket := by
  obtain ⟨complete, greatest⟩ := heap.contents_pop _ _ _ popped
  refine ⟨complete.map _, fun other present before => ?_⟩
  obtain ⟨held, holds, rfl⟩ := List.mem_map.1 present
  exact greatest held holds (Stamped.compare_lt_iff.2 before)

/-- Draining takes out what has fallen due, in order, if no number is there twice. -/
theorem drain_cut (now : Nat) (state : heap.State)
    (distinct : ((tickets state).map Ticket.serial).Nodup) :
    Ticket.Cut now (tickets state) ((drain now state).1.map Stamped.ticket)
      (tickets (drain now state).2) := by
  induction state using drain.induct now with
  | case1 state due entry rest popped ih =>
    obtain ⟨complete, first⟩ := tickets_pop popped
    have numbers := (complete.map Ticket.serial).nodup_iff.1 distinct
    obtain ⟨new, others⟩ := List.nodup_cons.1 numbers
    have cut := ih others
    have come : entry.due ≤ now := by
      simpa [heap.peek?_eq, popped] using due
    rw [drain, if_pos due]
    split
    · rename_i entry' rest' popped'
      obtain ⟨rfl, rfl⟩ := Prod.mk.inj (Option.some.inj (popped.symm.trans popped'))
      refine ⟨complete.trans (cut.all.cons _),
        List.pairwise_cons.2 ⟨fun later out => ?_, cut.inOrder⟩, ?_, cut.future⟩
      · have held : later ∈ tickets rest := cut.all.mem_iff.2 (List.mem_append_left _ out)
        refine Ticket.Before.total (fun same => new ?_)
          (first later (complete.mem_iff.2 (List.mem_cons_of_mem _ held)))
        rw [same]
        exact List.mem_map_of_mem held
      · intro ticket out
        rcases List.mem_cons.1 out with rfl | out
        · exact come
        · exact cut.come ticket out
    · rename_i none
      rw [popped] at none
      cases none
  | case2 state due popped =>
    rw [heap.peek?_eq, popped] at due
    cases due
  | case3 state future =>
    rw [drain, if_neg future]
    refine ⟨.refl _, .nil, fun _ out => (nomatch out), fun ticket held => ?_⟩
    cases popped : heap.pop? state with
    | none =>
      rw [tickets, heap.contents_none _ popped] at held
      cases held
    | some taken =>
      have beyond : now < taken.1.due := by
        simpa [heap.peek?_eq, popped] using future
      have behind := (tickets_pop popped).2 ticket held
      have due : taken.1.ticket.due = taken.1.due := rfl
      unfold Ticket.Before at behind
      omega

/-- The heap holds what is pending, under the same numbers. -/
structure Holds (queue : HeapQueue heap) (docket : Docket α) : Prop where
  all : (tickets queue.state).Perm docket.pending
  next : queue.sequence = UInt64.ofNat docket.count

private theorem Holds.schedule {queue : HeapQueue heap} {docket : Docket α}
    (holds : queue.Holds docket) (room : docket.count < 2 ^ 64) (due : Nat) (item : α) :
    (queue.schedule due item).Holds (docket.enter due item) where
  all := by
    have stamp : Stamped.ticket ⟨due, queue.sequence, item⟩ = ⟨due, docket.count, item⟩ := by
      rw [holds.next]
      exact congrArg (Ticket.mk due · item) (UInt64.toNat_ofNat_of_lt' room)
    have pushed := (heap.contents_push ⟨due, queue.sequence, item⟩ queue.state).map Stamped.ticket
    rw [List.map_cons, stamp] at pushed
    exact (pushed.trans (holds.all.cons _)).trans (List.perm_append_singleton ..).symm
  next := by
    simp [HeapQueue.schedule, Docket.enter, holds.next]

private theorem Holds.expired {queue : HeapQueue heap} {docket : Docket α}
    (holds : queue.Holds docket) (numbered : docket.Numbered) (now : Nat) :
    (queue.expired now).1 = (docket.due now).map Ticket.item ∧
      (queue.expired now).2.Holds (docket.giveOut now) := by
  have cut := drain_cut now queue.state ((holds.all.map _).nodup_iff.2 numbered.distinct)
  refine ⟨?_, ?_, holds.next⟩
  · rw [← cut.unique holds.all (numbered.cut now), List.map_map]
    rfl
  · exact cut.left_perm.trans (holds.all.filter _)

private theorem Holds.next? {queue : HeapQueue heap} {docket : Docket α}
    (holds : queue.Holds docket) :
    queue.next? = docket.next? := by
  unfold HeapQueue.next?
  rw [heap.peek?_eq]
  cases popped : heap.pop? queue.state with
  | none =>
    have nothing := holds.all
    rw [tickets, heap.contents_none _ popped] at nothing
    rw [Docket.next?, ← nothing.nil_eq]
    rfl
  | some taken =>
    obtain ⟨complete, first⟩ := tickets_pop popped
    refine (Docket.next?_eq (holds.all.mem_iff.1 (complete.mem_iff.2 List.mem_cons_self))
      fun ticket present => ?_).symm
    have behind := first ticket (holds.all.mem_iff.2 present)
    unfold Ticket.Before at behind
    omega

/-- A queue on a heap follows a docket as long as its numbers do not come round. -/
theorem follows : (queue heap).Follows (some (2 ^ 64)) Holds where
  empty := ⟨by simp [queue, tickets, heap.contents_empty], rfl⟩
  schedule due item held _ room := held.schedule (room _ rfl) due item
  expired now held numbered := held.expired numbered now
  tells {state docket} held _ := by
    refine ⟨?_, held.next?, fun now limit => ?_⟩
    · rw [← held.all.length_eq, tickets, List.length_map]
      exact heap.length_eq _
    · show patience now limit state = _
      unfold patience
      rw [held.next?]
      cases docket.next? with
      | none => rfl
      | some due =>
        cases limit with
        | none => rfl
        | some limit => exact congrArg some (Nat.min_comm ..)

end HeapQueue

/-! ## Stable priority queues -/

/-- What a docket promises of what was entered: a call gives out what has fallen due, in order,
and leaves the rest; everything that was entered was given out once or is pending; and what is
pending will be given out by the first call that finds it due. -/
structure Docket.Accounts (docket : Docket α) (deals : List (Deal α)) : Prop where
  cut (now : Nat) :
    Ticket.Cut now docket.pending (docket.due now) (docket.giveOut now).pending
  once : (docket.returned.flatten ++ docket.pending).Perm (Docket.entered deals)
  later {ticket : Ticket α} (pending : ticket ∈ docket.pending) (more : List (Deal α)) :
    (∃ given, (Docket.after (deals ++ more)).returned = docket.returned ++ given ∧
        ticket ∈ given.flatten ∧ ∃ now, .expired now ∈ more ∧ ticket.due ≤ now) ∨
      ((∀ now, .expired now ∈ more → now < ticket.due) ∧
        ticket ∈ (Docket.after (deals ++ more)).pending)

private theorem Docket.accounts (deals : List (Deal α)) : (Docket.after deals).Accounts deals where
  cut now := (Docket.numbered_after deals).cut now
  once := Docket.after_conserves deals
  later pending more := by
    have further : Docket.after (deals ++ more) = more.foldl Docket.take (Docket.after deals) :=
      List.foldl_append
    rw [further]
    exact (Docket.numbered_after deals).given_out pending more

/-! ## The plainest heap -/

namespace Stamped

/-- Looks through all entries for a greatest one. -/
def greatest? : List (Stamped α) → Option (Stamped α × List (Stamped α))
  | [] => none
  | entry :: rest =>
    match greatest? rest with
    | none => some (entry, [])
    | some (best, others) =>
      if entry.compare best = .lt then some (best, entry :: others) else some (entry, rest)

private theorem greatest?_none {entries : List (Stamped α)} (none : greatest? entries = none) :
    entries = [] := by
  cases entries with
  | nil => rfl
  | cons entry rest =>
    unfold greatest? at none
    split at none
    · cases none
    · split at none <;> cases none

private theorem greatest?_some {entries others : List (Stamped α)} {best : Stamped α}
    (found : greatest? entries = some (best, others)) :
    entries.Perm (best :: others) ∧ ∀ other ∈ entries, best.compare other ≠ .lt := by
  induction entries generalizing best others with
  | nil => cases found
  | cons entry rest ih =>
    unfold greatest? at found
    split at found
    · rename_i nothing
      obtain ⟨rfl, rfl⟩ := Prod.mk.inj (Option.some.inj found)
      rw [greatest?_none nothing]
      refine ⟨.refl _, fun other present => ?_⟩
      rw [List.mem_singleton.1 present, Ne, compare_lt_iff]
      exact fun before => before.asymm before
    · rename_i next remaining first
      obtain ⟨complete, least⟩ := ih first
      split at found <;> rename_i ahead <;>
        obtain ⟨rfl, rfl⟩ := Prod.mk.inj (Option.some.inj found)
      · refine ⟨(complete.cons _).trans (.swap ..), fun other present => ?_⟩
        rcases List.mem_cons.1 present with rfl | present
        · rw [compare_lt_iff] at ahead
          rw [Ne, compare_lt_iff]
          exact ahead.asymm
        · exact least other present
      · refine ⟨.refl _, fun other present => ?_⟩
        rcases List.mem_cons.1 present with rfl | present
        · rw [Ne, compare_lt_iff]
          exact fun before => before.asymm before
        · have behind := least other present
          rw [Ne, compare_lt_iff] at behind ⊢
          rw [compare_lt_iff] at ahead
          unfold Ticket.Before at *
          omega

/-- A list of entries as a heap. -/
def listed (α : Type) : Heap (Stamped α) compare where
  State := List (Stamped α)
  empty := []
  push := List.cons
  peek? entries := (greatest? entries).map Prod.fst
  pop? := greatest?
  length := List.length
  contents := id
  contents_empty := rfl
  contents_push _ _ := .refl _
  contents_none _ none := greatest?_none none
  contents_pop _ _ _ found := greatest?_some found
  peek?_eq _ := rfl
  length_eq _ := rfl

end Stamped

/-! ## The theorem -/

/-- **Timed items are kept in a stable priority queue.** Whatever is entered and whatever the
clock reads at each call, a docket accounts for everything, and an agenda answers as the docket
does; so does a queue on a heap, whichever heap it is, as long as its numbers last. -/
theorem queues_answer_as_dockets (heap : Heap (Stamped α) Stamped.compare)
    (deals : List (Deal α)) (few : (Docket.entered deals).length < 2 ^ 64) :
    (Docket.after deals).Accounts deals ∧ (Agenda.queue α).Answers deals ∧
      (HeapQueue.queue heap).Answers deals := by
  refine ⟨Docket.accounts deals, Agenda.follows.answers deals fun _ none => (nomatch none),
    HeapQueue.follows.answers deals fun most bounded => ?_⟩
  rw [← Option.some.inj bounded]
  exact Nat.le_of_lt few

/-- Items for one moment come in the order of entering, and one that is entered for a moment that
has passed comes with the next call, although the clock went back between. -/
theorem equal_moments_come_in_order :
    let deals : List (Deal Nat) :=
      [.schedule 5 0, .schedule 3 1, .schedule 5 2, .schedule 9 3, .expired 5, .schedule 5 4,
        .expired 4, .expired 5]
    let queue := HeapQueue.queue (Stamped.listed Nat)
    let late := (queue.after deals).1
    (queue.after deals).2 = [[1, 0, 2], [], [4]] ∧ queue.size late = 1 ∧
      queue.next? late = some 9 ∧ queue.patience 4 (some 100) late = some 5 := by
  intro deals queue late
  have few : (Docket.entered deals).length < 2 ^ 64 := by decide
  obtain ⟨_, agenda, heap⟩ := queues_answer_as_dockets (Stamped.listed Nat) deals few
  refine ⟨?_, ?_, ?_, ?_⟩
  · rw [heap.expired, ← agenda.expired]
    decide
  · rw [heap.tells.size, ← agenda.tells.size]
    decide
  · rw [heap.tells.next, ← agenda.tells.next]
    decide
  · rw [heap.tells.patience, ← agenda.tells.patience]
    decide

end EventLoop
