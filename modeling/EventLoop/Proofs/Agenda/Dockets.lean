import EventLoop.Agenda
import Mathlib.Data.List.Induction
import Mathlib.Data.List.Perm.Basic
import Mathlib.Data.List.TakeWhile

/-! What an agenda is for, said without one. A docket keeps what was entered in the order of
entering, each under a number of its own. To find what has fallen due it goes through all of
it, and puts what it found in the order of the moments and, where these are the same, of the
numbers. It also remembers what it has ever given out, so that nothing can be lost or given
out twice unseen. Whatever serves as a queue of timed items has to answer as a docket does,
and an agenda does so, whatever is entered and whichever way the clock goes. -/
namespace EventLoop

variable {α Q : Type}

/-! ## Tickets -/

/-- Something to do, the moment it falls due and the number under which it was entered. -/
structure Ticket (α : Type) where
  due : Nat
  serial : Nat
  item : α
deriving DecidableEq, Repr

namespace Ticket

/-- Due earlier, or due at the same moment and entered earlier. -/
def Before (one other : Ticket α) : Prop :=
  one.due < other.due ∨ one.due = other.due ∧ one.serial < other.serial

instance : DecidableRel (Before (α := α)) := fun _ _ => inferInstanceAs (Decidable (_ ∨ _))

/-- Not behind another ticket. -/
def leads (one other : Ticket α) : Bool := !decide (other.Before one)

private theorem Before.trans {one other third : Ticket α} (first : one.Before other)
    (second : other.Before third) : one.Before third := by
  unfold Before at *
  omega

private theorem leads_iff {one other : Ticket α} : one.leads other = true ↔ ¬ other.Before one := by
  simp [leads]

private theorem leads_trans (one other third : Ticket α) (first : one.leads other = true)
    (second : other.leads third = true) : one.leads third = true := by
  rw [leads_iff] at *
  unfold Before at *
  omega

private theorem leads_total (one other : Ticket α) :
    (one.leads other || other.leads one) = true := by
  rw [Bool.or_eq_true, leads_iff, leads_iff]
  unfold Before
  omega

theorem Before.asymm {one other : Ticket α} (first : one.Before other) : ¬ other.Before one := by
  unfold Before at *
  omega

private theorem Before.due_le {one other : Ticket α} (first : one.Before other) :
    one.due ≤ other.due := by
  unfold Before at first
  omega

/-- Of two tickets with different numbers one comes first. -/
theorem Before.total {one other : Ticket α} (distinct : one.serial ≠ other.serial)
    (behind : ¬ other.Before one) : one.Before other := by
  unfold Before at *
  omega

/-- `out` are the tickets that have fallen due by `now`, in their order, and `left` the
others, in any order. -/
structure Cut (now : Nat) (tickets out left : List (Ticket α)) : Prop where
  all : tickets.Perm (out ++ left)
  inOrder : out.Pairwise Before
  come : ∀ ticket ∈ out, ticket.due ≤ now
  future : ∀ ticket ∈ left, now < ticket.due

variable {now : Nat} {tickets others out left out' left' : List (Ticket α)}

private theorem Cut.out_perm (cut : Cut now tickets out left) :
    out.Perm (tickets.filter (·.due ≤ now)) := by
  have found : (out ++ left).filter (·.due ≤ now) = out := by
    rw [List.filter_append, List.filter_eq_self.2 (by simpa using cut.come),
      List.filter_eq_nil_iff.2 (by simpa using cut.future), List.append_nil]
  exact ((cut.all.filter _).trans (.of_eq found)).symm

theorem Cut.left_perm (cut : Cut now tickets out left) :
    left.Perm (tickets.filter (now < ·.due)) := by
  have found : (out ++ left).filter (now < ·.due) = left := by
    have none_out : out.filter (now < ·.due) = [] :=
      List.filter_eq_nil_iff.2 (by simpa using cut.come)
    rw [List.filter_append, none_out, List.filter_eq_self.2 (by simpa using cut.future),
      List.nil_append]
  exact ((cut.all.filter _).trans (.of_eq found)).symm

/-- There is one way to cut the same tickets. -/
theorem Cut.unique (same : tickets.Perm others) (cut : Cut now tickets out left)
    (other : Cut now others out' left') : out = out' :=
  ((cut.out_perm.trans (same.filter _)).trans other.out_perm.symm).eq_of_pairwise
    (fun _ _ _ _ before after => (before.asymm after).elim) cut.inOrder other.inOrder

end Ticket

/-! ## Dockets -/

/-- Everything that was entered: what is still to be given out, in the order of entering, and
what was given out, call by call. `count` is the number that the next ticket gets. -/
structure Docket (α : Type) where
  count : Nat := 0
  pending : List (Ticket α) := []
  returned : List (List (Ticket α)) := []

/-- What can be asked of a queue of timed items. -/
inductive Deal (α : Type) where
  | schedule (due : Nat) (item : α)
  | expired (now : Nat)
deriving DecidableEq, Repr

/-- What a deal enters, and for when. -/
def Deal.entry? : Deal α → Option (Nat × α)
  | .schedule due item => some (due, item)
  | .expired _ => none

namespace Docket

/-- Enters an item under the next number. -/
def enter (due : Nat) (item : α) (docket : Docket α) : Docket α :=
  { docket with
    count := docket.count + 1
    pending := docket.pending ++ [⟨due, docket.count, item⟩] }

/-- What has fallen due by `now`, sorted. -/
def due (now : Nat) (docket : Docket α) : List (Ticket α) :=
  (docket.pending.filter (·.due ≤ now)).mergeSort Ticket.leads

/-- Gives out what has fallen due by `now`. -/
def giveOut (now : Nat) (docket : Docket α) : Docket α :=
  { docket with
    pending := docket.pending.filter (now < ·.due)
    returned := docket.returned ++ [docket.due now] }

/-- Enters some items, one after the other. -/
def enterAll (docket : Docket α) (entries : List (Nat × α)) : Docket α :=
  entries.foldl (fun docket entry => docket.enter entry.1 entry.2) docket

/-- Makes a deal. -/
def take (docket : Docket α) : Deal α → Docket α
  | .schedule due item => docket.enter due item
  | .expired now => docket.giveOut now

/-- The docket after some deals. -/
def after (deals : List (Deal α)) : Docket α := deals.foldl take {}

/-- The moment at which the next item falls due. -/
def next? (docket : Docket α) : Option Nat := (docket.pending.map Ticket.due).min?

/-- The numbers tell the order of entering, and the next number is new. -/
structure Numbered (docket : Docket α) : Prop where
  rising : docket.pending.Pairwise (fun one other => one.serial < other.serial)
  fresh : ∀ ticket ∈ docket.pending, ticket.serial < docket.count

variable {docket : Docket α} {now : Nat}

private theorem Numbered.enter (numbered : docket.Numbered) (due : Nat) (item : α) :
    (docket.enter due item).Numbered where
  rising := by
    refine List.pairwise_append.2 ⟨numbered.rising, List.pairwise_singleton .., ?_⟩
    simpa using numbered.fresh
  fresh ticket present := by
    rcases List.mem_append.1 present with earlier | new
    · exact Nat.lt_succ_of_lt (numbered.fresh ticket earlier)
    · rw [List.mem_singleton.1 new]
      exact Nat.lt_succ_self _

theorem Numbered.giveOut (numbered : docket.Numbered) (now : Nat) :
    (docket.giveOut now).Numbered where
  rising := numbered.rising.sublist List.filter_sublist
  fresh ticket present := numbered.fresh ticket (List.mem_of_mem_filter present)

private theorem Numbered.take (numbered : docket.Numbered) (deal : Deal α) :
    (docket.take deal).Numbered := by
  cases deal with
  | schedule due item => exact numbered.enter due item
  | expired now => exact numbered.giveOut now

theorem Numbered.distinct (numbered : docket.Numbered) :
    (docket.pending.map Ticket.serial).Nodup :=
  List.pairwise_map.2 (numbered.rising.imp Nat.ne_of_lt)

/-- Giving out cuts what is pending. -/
theorem Numbered.cut (numbered : docket.Numbered) (now : Nat) :
    Ticket.Cut now docket.pending (docket.due now) (docket.giveOut now).pending where
  all := by
    have split := (List.filter_append_perm (fun ticket : Ticket α => ticket.due ≤ now)
      docket.pending).symm
    have others : docket.pending.filter (fun ticket => !decide (ticket.due ≤ now)) =
        (docket.giveOut now).pending :=
      List.filter_congr fun ticket _ => by
        rw [← decide_not]
        exact decide_eq_decide.2 Nat.not_le
    rw [others] at split
    exact split.trans ((List.mergeSort_perm _ _).symm.append_right _)
  inOrder := by
    have sorted : (docket.due now).Pairwise (Ticket.leads · ·) :=
      List.pairwise_mergeSort Ticket.leads_trans Ticket.leads_total _
    have distinct : (docket.due now).Pairwise (fun one other => one.serial ≠ other.serial) :=
      ((List.mergeSort_perm _ _).pairwise_iff (fun differ => Ne.symm differ)).2
        ((numbered.rising.sublist List.filter_sublist).imp Nat.ne_of_lt)
    refine (sorted.and distinct).imp fun both => ?_
    exact Ticket.Before.total both.2 (Ticket.leads_iff.1 both.1)
  come ticket present := by
    simpa using (List.mem_filter.1 ((List.mergeSort_perm _ _).mem_iff.1 present)).2
  future ticket present := by simpa using (List.mem_filter.1 present).2

/-- The first of the tickets tells when the next one falls due. -/
theorem next?_eq {first : Ticket α} (present : first ∈ docket.pending)
    (least : ∀ ticket ∈ docket.pending, first.due ≤ ticket.due) :
    docket.next? = some first.due :=
  List.min?_eq_some_iff.2
    ⟨List.mem_map_of_mem present, by simpa using least⟩

/-! ## What a docket gives out -/

/-- Everything that was ever entered, under the numbers in which it came. -/
def entered (deals : List (Deal α)) : List (Ticket α) :=
  (deals.filterMap Deal.entry?).zipIdx.map fun entry => ⟨entry.1.1, entry.2, entry.1.2⟩

private theorem entered_append (deals : List (Deal α)) (deal : Deal α) :
    entered (deals ++ [deal]) = entered deals ++
      (deal.entry?.map fun entry => ⟨entry.1, (entered deals).length, entry.2⟩).toList := by
  unfold entered
  rw [List.filterMap_append, List.zipIdx_append, List.map_append, List.length_map,
    List.length_zipIdx]
  cases deal with
  | schedule due item => simp [Deal.entry?]
  | expired now => rfl

private theorem after_append (deals : List (Deal α)) (deal : Deal α) :
    after (deals ++ [deal]) = (after deals).take deal := by
  simp [after]

private theorem count_after (deals : List (Deal α)) :
    (after deals).count = (entered deals).length := by
  induction deals using List.reverseRecOn with
  | nil => rfl
  | append_singleton deals deal ih =>
    rw [after_append, entered_append, List.length_append]
    cases deal with
    | schedule due item => exact congrArg (· + 1) ih
    | expired now => exact ih

theorem numbered_after (deals : List (Deal α)) : (after deals).Numbered := by
  induction deals using List.reverseRecOn with
  | nil => exact ⟨.nil, fun _ none => nomatch none⟩
  | append_singleton deals deal ih =>
    rw [after_append]
    exact ih.take deal

/-- What was given out and what is pending is everything that was entered. -/
theorem after_conserves (deals : List (Deal α)) :
    ((after deals).returned.flatten ++ (after deals).pending).Perm (entered deals) := by
  induction deals using List.reverseRecOn with
  | nil => exact .nil
  | append_singleton deals deal ih =>
    rw [after_append, entered_append]
    cases deal with
    | schedule due item =>
      rw [← count_after]
      simp only [take, enter, ← List.append_assoc]
      exact ih.append_right _
    | expired now =>
      have moved : ((after deals).returned.flatten ++ (after deals).pending).Perm
          (((after deals).giveOut now).returned.flatten ++
            ((after deals).giveOut now).pending) := by
        simp only [giveOut, List.flatten_append, List.flatten_singleton, List.append_assoc]
        exact ((numbered_after deals).cut now).all.append_left _
      exact (moved.symm.trans ih).trans (.of_eq (List.append_nil _).symm)

/-- A deal either gives out what is pending, or leaves it pending. -/
theorem Numbered.take_pending {ticket : Ticket α} (numbered : docket.Numbered)
    (pending : ticket ∈ docket.pending) (deal : Deal α) :
    (∃ now, deal = .expired now ∧ ticket.due ≤ now ∧ ticket ∈ docket.due now) ∨
      ((∀ now, deal = .expired now → now < ticket.due) ∧
        ticket ∈ (docket.take deal).pending) := by
  cases deal with
  | schedule due item =>
    exact .inr ⟨fun _ other => (nomatch other), List.mem_append_left _ pending⟩
  | expired now =>
    rcases Nat.lt_or_ge now ticket.due with future | come
    · refine .inr ⟨fun reading same => ?_, List.mem_filter.2 ⟨pending, by simpa using future⟩⟩
      rwa [← Deal.expired.inj same]
    · refine .inl ⟨now, rfl, come, ?_⟩
      exact (numbered.cut now).out_perm.mem_iff.2
        (List.mem_filter.2 ⟨pending, by simpa using come⟩)

/-- What has been given out is never taken back. -/
theorem returned_grows (deals : List (Deal α)) (docket : Docket α) :
    ∃ later, (deals.foldl take docket).returned = docket.returned ++ later := by
  induction deals generalizing docket with
  | nil => exact ⟨[], (List.append_nil _).symm⟩
  | cons deal deals ih =>
    obtain ⟨later, grown⟩ := ih (docket.take deal)
    cases deal with
    | schedule due item => exact ⟨later, grown⟩
    | expired now =>
      refine ⟨docket.due now :: later, grown.trans ?_⟩
      simp [take, giveOut]

/-- What is pending is given out by the first later call that finds it due, and stays pending
as long as there is none. -/
theorem Numbered.given_out {ticket : Ticket α} (numbered : docket.Numbered)
    (pending : ticket ∈ docket.pending) (deals : List (Deal α)) :
    (∃ later, (deals.foldl Docket.take docket).returned = docket.returned ++ later ∧
        ticket ∈ later.flatten ∧ ∃ now, .expired now ∈ deals ∧ ticket.due ≤ now) ∨
      ((∀ now, .expired now ∈ deals → now < ticket.due) ∧
        ticket ∈ (deals.foldl Docket.take docket).pending) := by
  induction deals generalizing docket with
  | nil => exact .inr ⟨fun _ asked => (nomatch asked), pending⟩
  | cons deal deals ih =>
    rcases numbered.take_pending pending deal with ⟨now, rfl, come, out⟩ | ⟨early, stays⟩
    · obtain ⟨later, grown⟩ := returned_grows deals (docket.take (.expired now))
      refine .inl ⟨docket.due now :: later, grown.trans ?_, ?_, now, List.mem_cons_self, come⟩
      · simp [Docket.take, Docket.giveOut]
      · rw [List.flatten_cons]
        exact List.mem_append_left _ out
    · rcases ih (numbered.take deal) stays with
        ⟨later, grown, out, now, asked, come⟩ | ⟨late, still⟩
      · obtain ⟨first, begun⟩ := returned_grows [deal] docket
        refine .inl ⟨first ++ later, ?_, ?_, now, List.mem_cons_of_mem _ asked, come⟩
        · rw [List.foldl_cons, grown, ← List.append_assoc]
          exact congrArg (· ++ later) begun
        · rw [List.flatten_append]
          exact List.mem_append_right _ out
      · refine .inr ⟨fun now asked => ?_, still⟩
        rcases List.mem_cons.1 asked with same | asked
        · exact early now same.symm
        · exact late now asked

end Docket

/-! ## Queues that answer as a docket -/

/-- A queue of timed items, as others use it. -/
structure Queue (Q α : Type) where
  empty : Q
  schedule : Nat → α → Q → Q
  expired : Nat → Q → List α × Q
  size : Q → Nat
  next? : Q → Option Nat
  patience : Nat → Option Nat → Q → Option Nat

namespace Queue

/-- Makes a deal with a queue, and keeps what it gives out. -/
def take (queue : Queue Q α) (state : Q × List (List α)) : Deal α → Q × List (List α)
  | .schedule due item => (queue.schedule due item state.1, state.2)
  | .expired now =>
    ((queue.expired now state.1).2, state.2 ++ [(queue.expired now state.1).1])

/-- A queue after some deals, and what it gave out at each call. -/
def after (queue : Queue Q α) (deals : List (Deal α)) : Q × List (List α) :=
  deals.foldl queue.take (queue.empty, [])

/-- A queue tells of itself what a docket tells: how many items it has, when the next one falls
due, and how long that is from now if less than a limit. -/
structure Tells (queue : Queue Q α) (state : Q) (docket : Docket α) : Prop where
  size : queue.size state = docket.pending.length
  next : queue.next? state = docket.next?
  patience (now : Nat) (limit : Option Nat) : queue.patience now limit state =
    match docket.next?, limit with
    | none, limit => limit
    | some due, none => some (due - now)
    | some due, some limit => some (min limit (due - now))

/-- A relation between the states of a queue and of a docket that every deal keeps, as long as
no more than `bound` items have been entered. -/
structure Follows (queue : Queue Q α) (bound : Option Nat) (fits : Q → Docket α → Prop) :
    Prop where
  empty : fits queue.empty {}
  schedule {state : Q} {docket : Docket α} (due : Nat) (item : α) (held : fits state docket)
    (numbered : docket.Numbered) (room : ∀ most ∈ bound, docket.count < most) :
    fits (queue.schedule due item state) (docket.enter due item)
  expired {state : Q} {docket : Docket α} (now : Nat) (held : fits state docket)
    (numbered : docket.Numbered) :
    (queue.expired now state).1 = (docket.due now).map Ticket.item ∧
      fits (queue.expired now state).2 (docket.giveOut now)
  tells {state : Q} {docket : Docket α} (held : fits state docket) (numbered : docket.Numbered) :
    queue.Tells state docket

/-- A queue gives out what a docket gives out, call by call, and then tells the same. -/
structure Answers (queue : Queue Q α) (deals : List (Deal α)) : Prop where
  expired : (queue.after deals).2 = (Docket.after deals).returned.map (·.map Ticket.item)
  tells : queue.Tells (queue.after deals).1 (Docket.after deals)

/-- Whatever the deals are, a queue that follows a docket answers as one. -/
theorem Follows.answers {queue : Queue Q α} {bound : Option Nat} {fits : Q → Docket α → Prop}
    (follows : queue.Follows bound fits) (deals : List (Deal α))
    (few : ∀ most ∈ bound, (Docket.entered deals).length ≤ most) : queue.Answers deals := by
  have reached : fits (queue.after deals).1 (Docket.after deals) ∧
      (queue.after deals).2 = (Docket.after deals).returned.map (·.map Ticket.item) := by
    induction deals using List.reverseRecOn with
    | nil => exact ⟨follows.empty, rfl⟩
    | append_singleton deals deal ih =>
      have last : queue.after (deals ++ [deal]) = queue.take (queue.after deals) deal := by
        simp [Queue.after]
      have numbered := Docket.numbered_after deals
      rw [Docket.after_append, last]
      rw [Docket.entered_append] at few
      obtain ⟨held, given⟩ := ih fun most bounded =>
        Nat.le_trans (List.length_append ▸ Nat.le_add_right _ _) (few most bounded)
      cases deal with
      | schedule due item =>
        refine ⟨follows.schedule due item held numbered fun most bounded => ?_, given⟩
        rw [Docket.count_after]
        exact Nat.lt_of_succ_le (by simpa [Deal.entry?] using few most bounded)
      | expired now =>
        obtain ⟨gives, held⟩ := follows.expired now held numbered
        exact ⟨held, by simp [Docket.take, Docket.giveOut, Queue.take, given, gives]⟩
  exact ⟨reached.2, follows.tells reached.1 (Docket.numbered_after deals)⟩

end Queue

/-! ## Agendas -/

namespace Agenda

/-- What an agenda keeps of a ticket. -/
def entry (ticket : Ticket α) : Nat × α := (ticket.due, ticket.item)

/-- An agenda holds what is pending, in the order in which it falls due. -/
structure Holds (agenda : Agenda α) (docket : Docket α) (held : List (Ticket α)) : Prop where
  all : held.Perm docket.pending
  inOrder : held.Pairwise Ticket.Before
  entries : agenda.entries = held.map entry

/-- An item is placed behind the tickets that come before its own. -/
theorem place_tickets {held : List (Ticket α)} (new : Ticket α)
    (inOrder : held.Pairwise Ticket.Before) (last : ∀ ticket ∈ held, ticket.serial < new.serial) :
    ∃ placed : List (Ticket α), placed.Perm (new :: held) ∧ placed.Pairwise Ticket.Before ∧
      placed.map entry = place new.due new.item (held.map entry) := by
  induction held with
  | nil => exact ⟨[new], .refl _, List.pairwise_singleton .., rfl⟩
  | cons ticket held ih =>
    obtain ⟨first, later⟩ := List.pairwise_cons.1 inOrder
    rcases Nat.lt_or_ge new.due ticket.due with early | late
    · have ahead : new.Before ticket := .inl early
      refine ⟨new :: ticket :: held, .refl _, List.pairwise_cons.2 ⟨?_, inOrder⟩, ?_⟩
      · intro other present
        rcases List.mem_cons.1 present with rfl | present
        · exact ahead
        · exact ahead.trans (first other present)
      · simp [place, entry, Nat.not_le.2 early]
    · obtain ⟨placed, complete, ordered, entered⟩ :=
        ih later fun other present => last other (List.mem_cons_of_mem _ present)
      have behind : ticket.Before new := by
        have := last ticket List.mem_cons_self
        unfold Ticket.Before
        omega
      refine ⟨ticket :: placed, (complete.cons ticket).trans (.swap ..),
        List.pairwise_cons.2 ⟨fun other present => ?_, ordered⟩, ?_⟩
      · rcases List.mem_cons.1 (complete.mem_iff.1 present) with rfl | present
        · exact behind
        · exact first other present
      · simp [place, entry, late, ← entered]

/-- Tickets in their order are cut where the first lies in the future. -/
theorem cut_tickets {held : List (Ticket α)} (inOrder : held.Pairwise Ticket.Before)
    (now : Nat) :
    Ticket.Cut now held (held.takeWhile (·.due ≤ now)) (held.dropWhile (·.due ≤ now)) where
  all := .of_eq List.takeWhile_append_dropWhile.symm
  inOrder := inOrder.sublist (List.takeWhile_sublist _)
  come ticket present := by simpa using List.mem_takeWhile_imp present
  future ticket present := by
    induction held with
    | nil => cases present
    | cons first held ih =>
      obtain ⟨ahead, later⟩ := List.pairwise_cons.1 inOrder
      rw [List.dropWhile_cons] at present
      split at present
      · exact ih later present
      · rename_i future
        have beyond : now < first.due := by simpa using future
        rcases List.mem_cons.1 present with rfl | present
        · exact beyond
        · exact Nat.lt_of_lt_of_le beyond (ahead ticket present).due_le

/-- An agenda as a queue. -/
def queue (α : Type) : Queue (Agenda α) α where
  empty := empty
  schedule due item agenda := agenda.schedule due item
  expired now agenda := agenda.expired now
  size := size
  next? := next?
  patience now limit agenda := agenda.patience now limit

private theorem Holds.schedule {agenda : Agenda α} {docket : Docket α} {held : List (Ticket α)}
    (holds : agenda.Holds docket held) (numbered : docket.Numbered) (due : Nat) (item : α) :
    ∃ placed, (agenda.schedule due item).Holds (docket.enter due item) placed := by
  obtain ⟨placed, complete, inOrder, entered⟩ :=
    place_tickets ⟨due, docket.count, item⟩ holds.inOrder fun ticket present =>
      numbered.fresh ticket (holds.all.mem_iff.1 present)
  refine ⟨placed, ?_, inOrder, ?_⟩
  · exact (complete.trans (holds.all.cons _)).trans (List.perm_append_singleton ..).symm
  · rw [entered, ← holds.entries]
    rfl

/-- Schedules some items, one after the other. -/
def scheduleAll (agenda : Agenda α) (entries : List (Nat × α)) : Agenda α :=
  entries.foldl (fun agenda entry => agenda.schedule entry.1 entry.2) agenda

theorem Holds.scheduleAll {agenda : Agenda α} {docket : Docket α} {held : List (Ticket α)}
    (holds : agenda.Holds docket held) (numbered : docket.Numbered) (entries : List (Nat × α)) :
    ∃ placed, (agenda.scheduleAll entries).Holds (docket.enterAll entries) placed := by
  induction entries generalizing agenda docket held with
  | nil => exact ⟨held, holds⟩
  | cons entry entries ih =>
    obtain ⟨placed, holds⟩ := holds.schedule numbered entry.1 entry.2
    exact ih holds (numbered.enter entry.1 entry.2)

private theorem sublist_place (due : Nat) (item : α) (entries : List (Nat × α)) :
    entries.Sublist (place due item entries) := by
  induction entries with
  | nil => exact List.nil_sublist _
  | cons entry entries ih =>
    simp only [place]
    split
    · exact ih.cons_cons entry
    · exact List.sublist_cons_self _ _

/-- What is scheduled comes between what is there, and leaves that as it is. -/
theorem scheduleAll_entries (agenda : Agenda α) (entries : List (Nat × α)) :
    agenda.entries.Sublist (agenda.scheduleAll entries).entries ∧
      (agenda.scheduleAll entries).entries.Perm (agenda.entries ++ entries) := by
  induction entries generalizing agenda with
  | nil => exact ⟨.refl _, .of_eq (List.append_nil _).symm⟩
  | cons entry entries ih =>
    obtain ⟨kept, complete⟩ := ih (agenda.schedule entry.1 entry.2)
    refine ⟨(sublist_place entry.1 entry.2 agenda.entries).trans kept, complete.trans ?_⟩
    exact ((place_perm entry.1 entry.2 agenda.entries).append_right entries).trans
      List.perm_middle.symm

theorem Holds.expired {agenda : Agenda α} {docket : Docket α} {held : List (Ticket α)}
    (holds : agenda.Holds docket held) (numbered : docket.Numbered) (now : Nat) :
    (agenda.expired now).1 = (docket.due now).map Ticket.item ∧
      (agenda.expired now).2.Holds (docket.giveOut now) (held.dropWhile (·.due ≤ now)) := by
  have cut := cut_tickets holds.inOrder now
  have looks : (fun entry : Nat × α => decide (entry.1 ≤ now)) ∘ entry =
      fun ticket : Ticket α => decide (ticket.due ≤ now) := rfl
  refine ⟨?_, ?_, holds.inOrder.sublist (List.dropWhile_sublist _), ?_⟩
  · rw [← cut.unique holds.all (numbered.cut now)]
    simp only [Agenda.expired, holds.entries, List.takeWhile_map, looks, List.map_map]
    rfl
  · exact cut.left_perm.trans (holds.all.filter _)
  · simp only [Agenda.expired, holds.entries, List.dropWhile_map, looks]

private theorem Holds.next? {agenda : Agenda α} {docket : Docket α} {held : List (Ticket α)}
    (holds : agenda.Holds docket held) : agenda.next? = docket.next? := by
  unfold Agenda.next?
  rw [holds.entries]
  cases held with
  | nil => rw [Docket.next?, ← holds.all.nil_eq]; rfl
  | cons first held =>
    obtain ⟨ahead, _⟩ := List.pairwise_cons.1 holds.inOrder
    refine (Docket.next?_eq (holds.all.mem_iff.1 List.mem_cons_self) fun ticket present => ?_).symm
    rcases List.mem_cons.1 (holds.all.mem_iff.2 present) with rfl | present
    · exact Nat.le_refl _
    · exact (ahead ticket present).due_le

/-- An agenda follows a docket, however many items are entered. -/
theorem follows :
    (queue α).Follows none fun agenda docket => ∃ held, agenda.Holds docket held where
  empty := ⟨[], .refl _, .nil, rfl⟩
  schedule due item held numbered _ := held.elim fun _ holds => holds.schedule numbered due item
  expired now held numbered := by
    obtain ⟨held, holds⟩ := held
    exact ⟨(holds.expired numbered now).1, _, (holds.expired numbered now).2⟩
  tells held numbered := by
    obtain ⟨held, holds⟩ := held
    refine ⟨?_, holds.next?, fun now limit => ?_⟩
    · rw [← holds.all.length_eq]
      show List.length _ = _
      rw [holds.entries, List.length_map]
    · show Agenda.patience _ now limit = _
      unfold Agenda.patience
      rw [holds.next?]
      cases Docket.next? _ with
      | none => rfl
      | some due =>
        cases limit with
        | none => rfl
        | some limit => exact congrArg some (Nat.min_comm ..)

end Agenda

end EventLoop
