import EventLoop.Proofs.Frame.Grammar
import EventLoop.Trial.Telegram
import Mathlib.Data.List.Dedup

/-! How a catalogue comes about, and what it says afterwards. Types are listed one after the other,
as kinds or each by itself, and a call that comes too late for its type is refused and leaves the
catalogue as it was. So the catalogue holds, for every type, the first listing that was asked for,
and everything that can be asked of it is answered from there. Its limits are looked up in two
places, by whoever asks whether a size is allowed and by the policy on headers; they agree, and a
header that passes has a listing to be read by. -/
namespace EventLoop

/-- A call that lists something. -/
inductive Enrolment (M : Type) : Type 1 where
  | ofKind {K : Type} (kind : Kind K M)
  | ofType (type : UInt32) (listing : Listing M)

namespace Enrolment

variable {M : Type}

/-- The type that is to be listed. -/
def typeOf : Enrolment M → UInt32
  | .ofKind kind => kind.type
  | .ofType type _ => type

/-- What it is to be listed as. -/
def listing : Enrolment M → Listing M
  | .ofKind kind => kind.listing
  | .ofType _ listing => listing

/-- Makes the call. -/
def call (catalogue : Catalogue M) : Enrolment M → Except Fault (Catalogue M)
  | .ofKind kind => catalogue.registerKind kind
  | .ofType type listing => catalogue.register type listing

end Enrolment

namespace Catalogue

variable {M : Type} {catalogue : Catalogue M} {enrolment : Enrolment M} {type : UInt32}

/-- Makes a call and goes on with what there is then. -/
def enrol (catalogue : Catalogue M) (enrolment : Enrolment M) : Except Fault Unit × Catalogue M :=
  match enrolment.call catalogue with
  | .ok grown => (.ok (), grown)
  | .error fault => (.error fault, catalogue)

/-- Makes calls one after the other. -/
def enrolAll (calls : List (Enrolment M)) (catalogue : Catalogue M) : Catalogue M :=
  calls.foldl (fun catalogue call => (catalogue.enrol call).2) catalogue

/-- The calls that are accepted when they are made one after the other. -/
def accepted : List (Enrolment M) → Catalogue M → List (Enrolment M)
  | [], _ => []
  | call :: rest, catalogue =>
    match catalogue.enrol call with
    | (.ok (), grown) => call :: accepted rest grown
    | (.error _, same) => accepted rest same

/-! ## One call -/

/-- What can come of a call: its type is new and is listed, or nothing happens. -/
inductive Enrols (catalogue : Catalogue M) (enrolment : Enrolment M) :
    Except Fault Unit × Catalogue M → Prop where
  | accepted (new : catalogue.listings.get? enrolment.typeOf = none) :
      Enrols catalogue enrolment
        (.ok (), ⟨catalogue.listings.insert enrolment.typeOf enrolment.listing⟩)
  | refused (known : (catalogue.listings.get? enrolment.typeOf).isSome) :
      Enrols catalogue enrolment (.error (.duplicateType enrolment.typeOf), catalogue)

/-- **A call does one of the two**, whether it lists a kind or a type by itself. -/
theorem enrol_enrols (catalogue : Catalogue M) (enrolment : Enrolment M) :
    Enrols catalogue enrolment (catalogue.enrol enrolment) := by
  have called : enrolment.call catalogue =
      catalogue.register enrolment.typeOf enrolment.listing := by
    cases enrolment <;> rfl
  rw [enrol, called, register, Keyed.contains_eq_isSome]
  cases found : catalogue.listings.get? enrolment.typeOf with
  | none => exact .accepted found
  | some listing => exact .refused (by rw [found]; rfl)

private theorem enrol_ok_iff :
    (catalogue.enrol enrolment).1 = .ok () ↔
      catalogue.listings.get? enrolment.typeOf = none := by
  have enrols := enrol_enrols catalogue enrolment
  generalize catalogue.enrol enrolment = told at enrols ⊢
  cases enrols with
  | accepted new => exact iff_of_true rfl new
  | refused known =>
    refine iff_of_false nofun fun new => ?_
    rw [new] at known
    cases known

/-- After a call a type is listed as before, or else as the call has it. -/
theorem get?_enrol (catalogue : Catalogue M) (enrolment : Enrolment M) (type : UInt32) :
    (catalogue.enrol enrolment).2.listings.get? type =
      (catalogue.listings.get? type).or
        (if enrolment.typeOf = type then some enrolment.listing else none) := by
  have enrols := enrol_enrols catalogue enrolment
  generalize catalogue.enrol enrolment = told at enrols ⊢
  cases enrols with
  | accepted new =>
    refine (catalogue.listings.get?_insert enrolment.typeOf type enrolment.listing).trans ?_
    by_cases own : enrolment.typeOf = type
    · rw [if_pos own.symm, if_pos own, ← own, new, Option.none_or]
    · rw [if_neg (Ne.symm own), if_neg own, Option.or_none]
  | refused known =>
    by_cases own : enrolment.typeOf = type
    · obtain ⟨listing, found⟩ := Option.isSome_iff_exists.1 known
      rw [← own, found, Option.some_or]
    · rw [if_neg own, Option.or_none]

/-! ## Calls in a row -/

/-- **The first listing of a type stands**, whatever is asked for later. -/
theorem get?_enrolAll (calls : List (Enrolment M)) (catalogue : Catalogue M) (type : UInt32) :
    (catalogue.enrolAll calls).listings.get? type =
      (catalogue.listings.get? type).or
        ((calls.find? fun call => call.typeOf = type).map Enrolment.listing) := by
  induction calls generalizing catalogue with
  | nil => exact Option.or_none.symm
  | cons call rest ih =>
    refine (ih _).trans ?_
    rw [get?_enrol, Option.or_assoc, List.find?_cons]
    by_cases own : call.typeOf = type
    · simp only [own, ↓reduceIte, decide_true, Option.some_or, Option.map_some]
    · simp only [own, ↓reduceIte, decide_false, Option.none_or]

/-- What is listed in the end was there at the start or has been accepted on the way. -/
theorem listed_iff_accepted (calls : List (Enrolment M)) (catalogue : Catalogue M)
    (type : UInt32) :
    ((catalogue.enrolAll calls).listings.get? type).isSome ↔
      (catalogue.listings.get? type).isSome ∨
        ∃ earlier ∈ catalogue.accepted calls, earlier.typeOf = type := by
  induction calls generalizing catalogue with
  | nil => simp [enrolAll, accepted]
  | cons call rest ih =>
    have after := get?_enrol catalogue call type
    have enrols := enrol_enrols catalogue call
    have later := ih (catalogue.enrol call).2
    simp only [enrolAll, List.foldl_cons, accepted] at later ⊢
    generalize catalogue.enrol call = told at after enrols later ⊢
    rw [later, after]
    cases enrols with
    | accepted new =>
      by_cases own : call.typeOf = type
      · simp [own]
      · simp [own]
    | refused known =>
      by_cases own : call.typeOf = type
      · simp [own, own ▸ known]
      · simp [own]

/-- Calls that are refused might as well not have been made. -/
theorem enrolAll_accepted (calls : List (Enrolment M)) (catalogue : Catalogue M) :
    catalogue.enrolAll (catalogue.accepted calls) = catalogue.enrolAll calls := by
  induction calls generalizing catalogue with
  | nil => rfl
  | cons call rest ih =>
    have enrols := enrol_enrols catalogue call
    have again : (catalogue.enrol call).2.enrolAll ((catalogue.enrol call).2.accepted rest) =
        (catalogue.enrol call).2.enrolAll rest := ih _
    unfold accepted
    rw [enrolAll, enrolAll, List.foldl_cons, ← enrolAll, ← enrolAll]
    generalize told : catalogue.enrol call = outcome at enrols again ⊢
    cases enrols with
    | accepted new =>
      refine Eq.trans ?_ again
      rw [enrolAll, List.foldl_cons, told]
      rfl
    | refused known => exact again

/-- A catalogue has as many entries as different types were asked for. -/
theorem size_enrolAll (calls : List (Enrolment M)) :
    (({} : Catalogue M).enrolAll calls).size = (calls.map Enrolment.typeOf).dedup.length := by
  have same (type : UInt32) : type ∈ (({} : Catalogue M).enrolAll calls).listings.keys ↔
      type ∈ (calls.map Enrolment.typeOf).dedup := by
    have listed := (({} : Catalogue M).enrolAll calls).listings.mem_keys_iff_contains type
    rw [Keyed.contains_eq_isSome, get?_enrolAll] at listed
    refine listed.trans ?_
    rw [List.mem_dedup, List.mem_map]
    simp [Keyed.get?]
  have perm := (List.perm_ext_iff_of_nodup (({} : Catalogue M).enrolAll calls).listings.distinct
    (List.nodup_dedup _)).2 same
  exact (List.length_map _).symm.trans perm.length_eq

/-! ## What passes -/

/-- A size is allowed for a type if the type is listed with a limit that is not below. -/
theorem allows_iff {size : UInt64} :
    catalogue.allows type size = true ↔
      ∃ listing, catalogue.listings.get? type = some listing ∧ size ≤ listing.limit := by
  unfold allows limit?
  cases catalogue.listings.get? type with
  | none => simp
  | some listing => simp

end Catalogue

namespace Intake

variable {M : Type} {intake : Intake M} {header : Frame.Header}

/-- **The policy on headers is the policy of the catalogue**, but for what is forbidden. -/
theorem check_ok_iff :
    intake.check header = .ok () ↔
      intake.catalogue.allows header.type header.size = true ∧
        header.type ∉ intake.forbidden := by
  rw [Catalogue.allows_iff]
  constructor
  · intro passed
    rcases intake.admits_or_breaks header with ⟨listing, admits⟩ | ⟨breach, breaks⟩
    · exact ⟨⟨listing, admits.listed, UInt64.le_iff_toNat_le.2 admits.within⟩, admits.allowed⟩
    · cases passed.symm.trans breaks.check
  · rintro ⟨⟨listing, listed, within⟩, allowed⟩
    exact Admits.check ⟨listed, allowed, UInt64.le_iff_toNat_le.1 within⟩

/-- A frame is seen whole only behind a header that passes. -/
theorem passed_of_look {buffer payload rest : List UInt8}
    (seen : intake.look buffer = .whole header payload rest) : intake.check header = .ok () := by
  unfold look at seen
  split at seen
  · cases seen
  · split at seen
    · cases seen
    · next passed =>
      simp only at seen
      split at seen
      · cases seen
      · cases seen
        exact passed

/-- Whatever passes can be read, as a message or as none. -/
theorem unpack_of_passed (passed : intake.check header = .ok ()) (payload : List UInt8) :
    ∃ read, intake.catalogue.unpack? header.type payload = some read := by
  rcases intake.admits_or_breaks header with ⟨listing, admits⟩ | ⟨breach, breaks⟩
  · exact ⟨_, admits.unpack? payload⟩
  · cases passed.symm.trans breaks.check

end Intake

/-- **The first listing of a type stands, and all policy goes by it.** Whatever calls have been
made to list kinds and types, those included that were refused: the next call is accepted exactly
if none for its type was accepted before, and is refused as a duplicate else, which changes nothing;
and the catalogue is the one that the accepted calls alone would have made. Whatever is asked of a
type, its limit, its name, whether it is listed, or what a payload of it says, is answered from the
first listing that was asked for, and there are as many entries as different types. With whatever
types forbidden, a header passes exactly if its size is allowed for its type and the type is not
forbidden; what has passed is listed, so that no frame that is taken off a buffer is without a
listing to be read by. -/
theorem first_listing_stands {M : Type} (calls : List (Enrolment M)) :
    let catalogue := ({} : Catalogue M).enrolAll calls
    let accepted := ({} : Catalogue M).accepted calls
    (∀ next : Enrolment M,
      ((catalogue.enrol next).1 = .ok () ↔ ∀ earlier ∈ accepted, earlier.typeOf ≠ next.typeOf) ∧
      ((catalogue.enrol next).1 ≠ .ok () →
        catalogue.enrol next = (.error (.duplicateType next.typeOf), catalogue))) ∧
    ({} : Catalogue M).enrolAll accepted = catalogue ∧
    (∀ type,
      let first := calls.find? fun call => call.typeOf = type
      catalogue.limit? type = first.map (·.listing.limit) ∧
      catalogue.name? type = first.map (·.listing.name) ∧
      catalogue.contains type = first.isSome ∧
      ∀ payload, catalogue.unpack? type payload = first.map (·.listing.unpack payload)) ∧
    catalogue.size = (calls.map Enrolment.typeOf).dedup.length ∧
    ∀ forbidden poisoned,
      let intake : Intake M := { catalogue, forbidden, poisoned }
      (∀ type size, intake.check ⟨type, size⟩ = .ok () ↔
        catalogue.allows type size = true ∧ type ∉ forbidden) ∧
      (∀ type size, intake.check ⟨type, size⟩ = .ok () →
        ∀ payload, ∃ read, catalogue.unpack? type payload = some read) ∧
      ∀ buffer header payload rest, intake.look buffer = .whole header payload rest →
        ∃ read, catalogue.unpack? header.type payload = some read := by
  intro catalogue accepted
  have listings (type : UInt32) : catalogue.listings.get? type =
      (calls.find? fun call => call.typeOf = type).map Enrolment.listing :=
    Catalogue.get?_enrolAll calls {} type
  refine ⟨fun next => ⟨?_, fun refused => ?_⟩, Catalogue.enrolAll_accepted calls {},
    fun type => ⟨?_, ?_, ?_, fun payload => ?_⟩, Catalogue.size_enrolAll calls,
    fun forbidden poisoned => ⟨fun type size => Intake.check_ok_iff,
      fun type size passed => Intake.unpack_of_passed passed, ?_⟩⟩
  · have known := Catalogue.listed_iff_accepted calls {} next.typeOf
    rw [Catalogue.enrol_ok_iff, ← Option.not_isSome_iff_eq_none, known]
    constructor
    · intro new earlier inside same
      exact new (.inr ⟨earlier, inside, same⟩)
    · rintro new (there | ⟨earlier, inside, same⟩)
      · cases there
      · exact new earlier inside same
  · have enrols := Catalogue.enrol_enrols catalogue next
    generalize catalogue.enrol next = told at enrols refused ⊢
    cases enrols with
    | accepted new => exact (refused rfl).elim
    | refused known => rfl
  · rw [Catalogue.limit?, listings, Option.map_map]
    rfl
  · rw [Catalogue.name?, listings, Option.map_map]
    rfl
  · rw [Catalogue.contains, Keyed.contains_eq_isSome, listings, Option.isSome_map]
  · rw [Catalogue.unpack?, listings, Option.map_map]
    rfl
  · intro buffer header payload rest seen
    exact Intake.unpack_of_passed (Intake.passed_of_look seen) payload

open Trial in
/-- A kind and a type of the same number: the kind comes first, so the type is refused, and what the
kind has said goes on to hold. -/
theorem second_pong_is_refused :
    let pong : Kind UInt32 Telegram :=
      { type := 8, name := "pong", limit := 16, asMessage := .pong
        unpack := fun payload => .ok (UInt32.ofNat (ofBigEndian payload), []) }
    let other : Enrolment Telegram := .ofType 8 ⟨"other", 1024, fun _ => .error .sinkClosed⟩
    let catalogue := ({} : Catalogue Telegram).enrolAll [.ofKind pong, other]
    (catalogue.enrol other).1 = .error (.duplicateType 8) ∧ catalogue.size = 1 ∧
      catalogue.limit? 8 = some 16 ∧ catalogue.name? 8 = some "pong" ∧
      ({ catalogue } : Intake Telegram).check ⟨8, 17⟩ ≠ .ok () ∧
      ∃ read, catalogue.unpack? 8 [0, 0, 0, 1] = some read := by
  intro pong other catalogue
  obtain ⟨next, _, asked, size, policy⟩ := first_listing_stands [.ofKind pong, other]
  obtain ⟨limit, name, _⟩ := asked 8
  obtain ⟨passes, read, _⟩ := policy [] false
  have refused : (catalogue.enrol other).1 ≠ .ok () := nofun
  have passed : ({ catalogue } : Intake Telegram).check ⟨8, 16⟩ = .ok () :=
    (passes 8 16).2 ⟨rfl, List.not_mem_nil⟩
  refine ⟨congrArg Prod.fst ((next other).2 refused), size, limit, name, fun fits => ?_,
    read 8 16 passed _⟩
  exact absurd ((passes 8 17).1 fits).1 (by decide)

end EventLoop
