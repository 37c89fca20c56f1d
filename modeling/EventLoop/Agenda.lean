import EventLoop.Readiness
import EventLoop.Span

/-!
Things to do at given times. An agenda keeps its entries in the order in which they fall due, and
entries for one moment in the order in which they were entered; that order is part of the type.
Taking what is due is therefore a cut of the list at the first entry that lies in the future.
-/
namespace EventLoop

/-- `TimerQueue`: entries with the moment each falls due, earliest first. -/
structure Agenda (α : Type) where
  entries : List (Nat × α) := []
  ordered : entries.Pairwise (fun a b => a.1 ≤ b.1) := by exact List.Pairwise.nil

namespace Agenda

variable {α : Type}

/-- The agenda without entries. -/
def empty : Agenda α := {}

/-- Puts an entry behind all those that fall due no later than it, where the order of `TimerEntry`
by deadline and sequence number has it. -/
def place (due : Nat) (item : α) : List (Nat × α) → List (Nat × α)
  | [] => [(due, item)]
  | entry :: rest =>
    if entry.1 ≤ due then entry :: place due item rest else (due, item) :: entry :: rest

theorem mem_place {due : Nat} {item : α} {entries : List (Nat × α)} {x : Nat × α} :
    x ∈ place due item entries ↔ x = (due, item) ∨ x ∈ entries := by
  induction entries with
  | nil => simp [place]
  | cons entry rest ih =>
    simp only [place]
    split
    · simp only [List.mem_cons, ih]
      constructor
      · rintro (h | h | h) <;> simp [h]
      · rintro (h | h | h) <;> simp [h]
    · simp only [List.mem_cons]

/-- Placing an entry adds it to the others. -/
theorem place_perm (due : Nat) (item : α) (entries : List (Nat × α)) :
    (place due item entries).Perm ((due, item) :: entries) := by
  induction entries with
  | nil => exact .refl _
  | cons entry rest ih =>
    simp only [place]
    split
    · exact (ih.cons entry).trans (.swap ..)
    · exact .refl _

theorem ordered_place {due : Nat} {item : α} {entries : List (Nat × α)}
    (ordered : entries.Pairwise (fun a b => a.1 ≤ b.1)) :
    (place due item entries).Pairwise (fun a b => a.1 ≤ b.1) := by
  induction entries with
  | nil => simp [place]
  | cons entry rest ih =>
    have tail := List.pairwise_cons.1 ordered
    simp only [place]
    split
    · rename_i before
      refine List.pairwise_cons.2 ⟨fun x hx => ?_, ih tail.2⟩
      rcases mem_place.1 hx with rfl | hx
      · exact before
      · exact tail.1 x hx
    · rename_i after
      refine List.pairwise_cons.2 ⟨fun x hx => ?_, ordered⟩
      rcases List.mem_cons.1 hx with rfl | hx
      · exact Nat.le_of_lt (Nat.lt_of_not_le after)
      · exact Nat.le_trans (Nat.le_of_lt (Nat.lt_of_not_le after)) (tail.1 x hx)

/-- `TimerQueue::schedule`: enters `item` for the moment `due`. -/
def schedule (agenda : Agenda α) (due : Nat) (item : α) : Agenda α :=
  ⟨place due item agenda.entries, ordered_place agenda.ordered⟩

/-- `TimerQueue::expired`: the items that have fallen due by `now`, in order, and the agenda of the
others. -/
def expired (agenda : Agenda α) (now : Nat) : List α × Agenda α :=
  ((agenda.entries.takeWhile (fun entry => entry.1 ≤ now)).map Prod.snd,
    ⟨agenda.entries.dropWhile (fun entry => entry.1 ≤ now),
      agenda.ordered.sublist (List.dropWhile_sublist _)⟩)

/-- What has fallen due is all that has, and not only what comes first. -/
theorem expired_eq (agenda : Agenda α) (now : Nat) :
    (agenda.expired now).1 = (agenda.entries.filter (·.1 ≤ now)).map Prod.snd ∧
      (agenda.expired now).2.entries = agenda.entries.filter (now < ·.1) := by
  obtain ⟨entries, ordered⟩ := agenda
  simp only [expired]
  induction entries with
  | nil => exact ⟨rfl, rfl⟩
  | cons entry rest ih =>
    obtain ⟨first, later⟩ := List.pairwise_cons.1 ordered
    by_cases come : entry.1 ≤ now
    · simpa [come, Nat.not_lt.2 come] using ih later
    · have late (other : Nat × α) (present : other ∈ rest) : now < other.1 :=
        Nat.lt_of_lt_of_le (Nat.lt_of_not_le come) (first other present)
      have nobody : rest.filter (·.1 ≤ now) = [] :=
        List.filter_eq_nil_iff.2 fun other present => by
          simpa using late other present
      have everybody : rest.filter (now < ·.1) = rest :=
        List.filter_eq_self.2 fun other present => by simpa using late other present
      simp [come, Nat.lt_of_not_le come, nobody, everybody]

/-- `TimerQueue::next_deadline`: the moment at which the next entry falls due. -/
def next? (agenda : Agenda α) : Option Nat := agenda.entries.head?.map Prod.fst

/-- `TimerQueue::len`: how many entries the agenda has. -/
def size (agenda : Agenda α) : Nat := agenda.entries.length

/-- `TimerQueue::poll_timeout`: how long to wait at `now` so as not to sleep past the next entry,
which is the time left until then, no more than `limit`. Without an entry it is `limit` itself,
which may be no limit at all. -/
def patience (agenda : Agenda α) (now : Nat) (limit : Option Nat) : Option Nat :=
  match agenda.next?, limit with
  | some due, some limit => some (min (due - now) limit)
  | some due, none => some (due - now)
  | none, limit => limit

end Agenda

/-- `TimerTarget`: what is to be done when a moment has come. -/
inductive Alarm (C : Type) where
  /-- Notify the object registered under `handle`, if it is still the one of this generation. -/
  | event (handle : Handle) (generation : UInt64)
  /-- Run a callback, and again every `interval` while it says so and runs remain. -/
  | callback (callback : C) (interval : Nat) (remaining : Option Nat)

/-- The text that `TimerTarget::fmt` gives an alarm. A callback shows its interval and the runs that
remain. -/
def Alarm.text {C : Type} : Alarm C → String
  | .event handle generation =>
    "Event \x7b handle: " ++ toString handle ++ ", generation: " ++ toString generation ++ " \x7d"
  | .callback _ interval remaining =>
    "Callback \x7b interval: " ++ Span.text interval ++ ", remaining: " ++
      (match remaining with
        | none => "None"
        | some left => "Some(" ++ toString left ++ ")") ++ " \x7d"

end EventLoop
