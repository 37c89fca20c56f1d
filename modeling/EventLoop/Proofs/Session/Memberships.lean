import EventLoop.Proofs.Session.Closings

/-! The roster as a mirror of connections. Every connection has a session of its own, which
knows its handle and its identity; identities are given out one after the other; and as long
as they have not run through all words, the roster holds one entry for every connection there
is and none for any other. A connection that ends closes its session and strikes it off, and
one that is admitted is enlisted under the next identity. -/
namespace EventLoop

open scoped List

/-- A connection as far as its session is concerned: its handle, its identity, and the number
of its session. -/
structure Member where
  handle : Handle
  id : UInt64
  key : Nat
deriving DecidableEq, Repr

namespace Sessions

/-- What sessions have to do with the connections that there are. `next` is the identity that
the next connection will have. -/
structure Mirrors (members : List Member) (next : UInt64) (sessions : Sessions) : Prop where
  numbered : sessions.Numbered
  serves : ∀ member ∈ members, ∃ session, sessions.get? member.key = some session ∧
    session.id = member.id ∧ session.link = some member.handle
  single : (members.map Member.key).Nodup
  ids : sessions.given = (List.range sessions.given.length).map fun n => UInt64.ofNat (n + 1)
  next : next = UInt64.ofNat (sessions.given.length + 1)
  gone : ∀ key session, sessions.get? key = some session → session.link.isSome = true →
    key ∈ members.map Member.key ∨ session.closed = true
  roster : sessions.given.length < 2 ^ 64 →
    sessions.roster.entries ~ members.map fun member => (member.id, member.key)

variable {members others : List Member} {next : UInt64} {sessions before after : Sessions}

theorem Mirrors.perm (mirrors : Mirrors members next sessions) (same : members ~ others) :
    Mirrors others next sessions where
  numbered := mirrors.numbered
  serves member inside := mirrors.serves member (same.mem_iff.2 inside)
  single := (same.map Member.key).nodup_iff.1 mirrors.single
  ids := mirrors.ids
  next := mirrors.next
  gone key session found linked :=
    (mirrors.gone key session found linked).imp_left (same.map Member.key).mem_iff.1
  roster few := (mirrors.roster few).trans (same.map _)

/-- Whatever sessions do that last, with the roster left alone. -/
theorem Mirrors.lasts (mirrors : Mirrors members next before) (lasts : Lasts before after)
    (roster : after.roster = before.roster) : Mirrors members next after where
  numbered := lasts.numbered
  serves member inside := by
    obtain ⟨session, found, id, link⟩ := mirrors.serves member inside
    obtain ⟨later, foundLater, lasting⟩ := lasts.kept _ _ found
    exact ⟨later, foundLater, lasting.id.trans id, lasting.link.trans link⟩
  single := mirrors.single
  ids := lasts.given ▸ mirrors.ids
  next := lasts.given ▸ mirrors.next
  gone key later found linked := by
    cases earlier : before.get? key with
    | none =>
      rw [lasts.unlinked key later earlier found] at linked
      cases linked
    | some session =>
      obtain ⟨same, foundSame, lasting⟩ := lasts.kept key session earlier
      cases found.symm.trans foundSame
      exact (mirrors.gone key session earlier (lasting.link ▸ linked)).imp_right lasting.closed
  roster few := by
    rw [roster]
    exact mirrors.roster (lasts.given ▸ few)

/-! ## Identities -/

private theorem toNat_ordinal {n : Nat} (small : n + 1 < 2 ^ 64) :
    (UInt64.ofNat (n + 1)).toNat = n + 1 :=
  UInt64.toNat_ofNat_of_lt' (by simpa [UInt64.size] using small)

/-- Identities are given out in increasing order, as long as there are any left. -/
theorem Mirrors.increasing (mirrors : Mirrors members next sessions)
    (few : sessions.given.length < 2 ^ 64) : sessions.given.Pairwise (· < ·) := by
  rw [mirrors.ids, List.pairwise_map]
  refine List.Pairwise.imp_of_mem ?_ List.pairwise_lt_range
  intro n m inside insideToo less
  have small := List.mem_range.1 inside
  have smallToo := List.mem_range.1 insideToo
  rw [UInt64.lt_iff_toNat_lt, toNat_ordinal (by omega), toNat_ordinal (by omega)]
  omega

private theorem Mirrors.before_next (mirrors : Mirrors members next sessions)
    (few : sessions.given.length + 1 < 2 ^ 64) {id : UInt64} (inside : id ∈ sessions.given) :
    id ≠ next := by
  rw [mirrors.ids] at inside
  obtain ⟨n, small, rfl⟩ := List.mem_map.1 inside
  have less := List.mem_range.1 small
  intro same
  have numbers := congrArg UInt64.toNat (same.trans mirrors.next)
  rw [toNat_ordinal (by omega), toNat_ordinal few] at numbers
  omega

private theorem Mirrors.distinct (mirrors : Mirrors members next sessions)
    (few : sessions.given.length < 2 ^ 64) : sessions.given.Nodup :=
  (mirrors.increasing few).imp fun less same => by
    rw [same] at less
    exact UInt64.lt_irrefl _ less

private theorem eq_of_filterMap_nodup {α β : Type} {look : α → Option β} {list : List α}
    (distinct : (list.filterMap look).Nodup) {x y : α} {seen : β} (there : x ∈ list)
    (thereToo : y ∈ list) (looks : look x = some seen) (looksToo : look y = some seen) : x = y := by
  induction list with
  | nil => cases there
  | cons first rest ih =>
    have inRest {z : α} (inside : z ∈ rest) (same : look z = some seen) :
        seen ∈ rest.filterMap look := List.mem_filterMap.2 ⟨z, inside, same⟩
    rcases List.mem_cons.1 there with rfl | later
    · rcases List.mem_cons.1 thereToo with rfl | laterToo
      · rfl
      · rw [List.filterMap_cons, looks] at distinct
        exact absurd (inRest laterToo looksToo) (List.nodup_cons.1 distinct).1
    · rcases List.mem_cons.1 thereToo with rfl | laterToo
      · rw [List.filterMap_cons, looksToo] at distinct
        exact absurd (inRest later looks) (List.nodup_cons.1 distinct).1
      · refine ih ?_ later laterToo
        rw [List.filterMap_cons] at distinct
        split at distinct
        · exact distinct
        · exact (List.nodup_cons.1 distinct).2

/-- No two connections have the same session. -/
theorem Mirrors.same_of_key (mirrors : Mirrors members next sessions) {member other : Member}
    (inside : member ∈ members) (insideToo : other ∈ members) (same : member.key = other.key) :
    member = other := by
  have single := mirrors.single
  rw [← List.filterMap_eq_map] at single
  exact eq_of_filterMap_nodup single inside insideToo rfl (congrArg some same.symm)

private theorem given?_of_linked {session : Session} (linked : session.link.isSome = true) :
    session.given? = some session.id := by
  obtain ⟨handle, link⟩ := Option.isSome_iff_exists.1 linked
  rw [Session.given?, link]
  rfl

/-- No two connections have had the same identity. -/
theorem Mirrors.key_of_id (mirrors : Mirrors members next sessions)
    (few : sessions.given.length < 2 ^ 64) {key other : Nat} {session another : Session}
    (found : sessions.get? key = some session) (foundToo : sessions.get? other = some another)
    (linked : session.link.isSome = true) (linkedToo : another.link.isSome = true)
    (same : session.id = another.id) : key = other := by
  have distinct : (sessions.book.entries.filterMap fun entry => entry.2.given?).Nodup := by
    have distinct := mirrors.distinct few
    rwa [given, Keyed.values, List.filterMap_map] at distinct
  have inside := (Keyed.get?_eq_some_iff sessions.book key session).1 found
  have insideToo := (Keyed.get?_eq_some_iff sessions.book other another).1 foundToo
  have entries := eq_of_filterMap_nodup distinct inside insideToo (given?_of_linked linked)
    (same ▸ given?_of_linked linkedToo)
  exact congrArg Prod.fst entries

/-- At most one session is closed that a connection of this handle and identity was behind. -/
theorem Mirrors.over_le_one (mirrors : Mirrors members next sessions)
    (few : sessions.given.length < 2 ^ 64) (handle : Handle) (id : UInt64) :
    sessions.ceased handle id ≤ 1 := by
  have once := List.nodup_iff_count.1 (mirrors.distinct few) id
  rw [given, List.count_filterMap] at once
  refine Nat.le_trans (List.countP_mono_left fun session _ isOver => ?_) once
  simp only [Session.isOver, Bool.and_eq_true, decide_eq_true_eq] at isOver
  obtain ⟨⟨_, same⟩, link⟩ := isOver
  simp [Session.given?, link, same]

/-! ## On the roster and off it -/

/-- A member's session is on the roster under its identity. -/
theorem Mirrors.listed (mirrors : Mirrors members next sessions)
    (few : sessions.given.length < 2 ^ 64) {member : Member} (inside : member ∈ members) :
    sessions.live? member.id = some member.key :=
  (Keyed.get?_eq_some_iff _ _ _).2
    ((mirrors.roster few).mem_iff.2 (List.mem_map.2 ⟨member, inside, rfl⟩))

/-- The session of a connection that is gone is closed, and its identity is off the roster. -/
theorem Mirrors.struck (mirrors : Mirrors members next sessions)
    (few : sessions.given.length < 2 ^ 64) {key : Nat} {session : Session}
    (found : sessions.get? key = some session) (linked : session.link.isSome = true)
    (gone : key ∉ members.map Member.key) :
    session.closed = true ∧ sessions.live? session.id = none := by
  refine ⟨(mirrors.gone key session found linked).resolve_left gone, ?_⟩
  cases live : sessions.live? session.id with
  | none => rfl
  | some other =>
    have entry := (Keyed.get?_eq_some_iff sessions.roster session.id other).1 live
    obtain ⟨member, inside, same⟩ := List.mem_map.1 ((mirrors.roster few).mem_iff.1 entry)
    simp only [Prod.mk.injEq] at same
    obtain ⟨another, foundToo, id, link⟩ := mirrors.serves member inside
    have sameKey := mirrors.key_of_id few found foundToo linked (by rw [link]; rfl)
      (same.1.symm.trans id.symm)
    exact absurd (List.mem_map.2 ⟨member, inside, sameKey.symm⟩) gone

/-! ## Ending -/

/-- **A connection that ends closes its session and strikes it off.** -/
theorem Mirrors.ends {member : Member} (mirrors : Mirrors (member :: members) next sessions) :
    Mirrors members next ((sessions.markClosed member.key).strike member.id).2 := by
  obtain ⟨lasts, _⟩ := lasts_markClosed member.key mirrors.numbered
  obtain ⟨session, found, _, _⟩ := mirrors.serves member List.mem_cons_self
  have marked : sessions.markClosed member.key =
      sessions.record member.key session.markClosed [] := by
    unfold markClosed
    rw [found]
  have still := mirrors.lasts lasts (roster_markClosed member.key sessions)
  refine ⟨still.numbered, fun other inside => still.serves other (List.mem_cons_of_mem _ inside),
    (List.nodup_cons.1 still.single).2, still.ids, still.next, ?_, ?_⟩
  · intro key other foundOther linked
    rcases still.gone key other foundOther linked with inside | closed
    · rcases List.mem_cons.1 inside with own | inside
      · have here : (sessions.markClosed member.key).get? key = some session.markClosed := by
          rw [marked, get?_record, if_pos own]
        cases here.symm.trans foundOther
        exact .inr rfl
      · exact .inl inside
    · exact .inr closed
  · intro few
    have listed := still.listed few List.mem_cons_self
    have split := (Keyed.entries_perm_erase listed).symm.trans (still.roster few)
    exact split.cons_inv

/-! ## Admitting -/

/-- What admitting does to sessions. -/
structure Enters (peer : Address) (handle : Handle) (next : UInt64) (before after : Sessions) :
    Prop where
  loopGone : after.loopGone = before.loopGone
  pleas : after.pleas = before.pleas
  opened : after.opened = before.opened + 1
  roster : after.roster = before.roster.insert next before.opened
  values : after.book.values = before.book.values ++ [Session.attached next peer handle]
  found : ∀ key, after.get? key = if key = before.opened
    then some (Session.attached next peer handle) else before.get? key

theorem enters_enlist (numbered : before.Numbered) (peer : Address) (handle : Handle)
    (next : UInt64) :
    Enters peer handle next before
      ((before.openSession (Session.attached next peer handle)).2.enlist before.opened) := by
  have found := get?_openSession (Session.attached next peer handle) before.opened before
  rw [if_pos rfl] at found
  unfold enlist
  rw [found]
  exact ⟨rfl, rfl, rfl, rfl, values_openSession numbered _, fun key => get?_openSession _ key _⟩

theorem Enters.kept {peer : Address} {handle : Handle}
    (enters : Enters peer handle next before after) (numbered : before.Numbered) {key : Nat}
    {session : Session} (found : before.get? key = some session) :
    after.get? key = some session := by
  rw [enters.found, if_neg (Nat.ne_of_lt (numbered key session found))]
  exact found

theorem Enters.numbered {peer : Address} {handle : Handle}
    (enters : Enters peer handle next before after) (numbered : before.Numbered) :
    after.Numbered := by
  intro key session there
  rw [enters.found] at there
  rw [enters.opened]
  split at there
  · next own => exact own ▸ Nat.lt_succ_self _
  · exact Nat.lt_succ_of_lt (numbered key session there)

theorem Enters.ceased {peer : Address} {handle : Handle}
    (enters : Enters peer handle next before after) (probe : Handle) (id : UInt64) :
    after.ceased probe id = before.ceased probe id := by
  rw [Sessions.ceased, enters.values, List.countP_append]
  rfl

theorem Enters.given {peer : Address} {handle : Handle}
    (enters : Enters peer handle next before after) : after.given = before.given ++ [next] := by
  rw [Sessions.given, enters.values, List.filterMap_append]
  rfl

/-- **A connection that is admitted has a session of its own**, under the next identity. -/
theorem Mirrors.admits {peer : Address} {handle : Handle} (mirrors : Mirrors members next before)
    (enters : Enters peer handle next before after) :
    Mirrors (⟨handle, next, before.opened⟩ :: members) (next + 1) after := by
  have length : after.given.length = before.given.length + 1 := by
    rw [enters.given, List.length_append, List.length_singleton]
  refine ⟨enters.numbered mirrors.numbered, ?_, ?_, ?_, ?_, ?_, ?_⟩
  · intro member inside
    rcases List.mem_cons.1 inside with rfl | inside
    · exact ⟨_, (enters.found _).trans (if_pos rfl), rfl, rfl⟩
    · obtain ⟨session, there, id, link⟩ := mirrors.serves member inside
      exact ⟨session, enters.kept mirrors.numbered there, id, link⟩
  · refine List.nodup_cons.2 ⟨fun inside => ?_, mirrors.single⟩
    obtain ⟨member, isMember, same⟩ := List.mem_map.1 inside
    obtain ⟨session, there, _⟩ := mirrors.serves member isMember
    exact Nat.ne_of_lt (mirrors.numbered _ _ there) same
  · rw [length, enters.given, List.range_succ, List.map_append, ← mirrors.ids, mirrors.next]
    rfl
  · rw [length, mirrors.next, UInt64.ofNat_add (before.given.length + 1) 1]
    rfl
  · intro key other there linked
    rw [enters.found] at there
    split at there
    · next own => exact .inl (own ▸ List.mem_cons_self)
    · exact (mirrors.gone key other there linked).imp_left (List.mem_cons_of_mem _)
  · intro few
    rw [length] at few
    have fewer : before.given.length < 2 ^ 64 := Nat.lt_of_succ_lt few
    have missing : before.roster.get? next = none := by
      cases live : before.roster.get? next with
      | none => rfl
      | some key =>
        have entry := (Keyed.get?_eq_some_iff before.roster next key).1 live
        obtain ⟨member, inside, same⟩ := List.mem_map.1 ((mirrors.roster fewer).mem_iff.1 entry)
        obtain ⟨session, there, id, link⟩ := mirrors.serves member inside
        have own : session.id = next := id.trans (congrArg Prod.fst same)
        have isGiven : session.id ∈ before.given :=
          List.mem_filterMap.2 ⟨session, Keyed.mem_values_of_get? there,
            given?_of_linked (by rw [link]; rfl)⟩
        exact absurd own (mirrors.before_next few isGiven)
    have stored := Keyed.entries_insert_perm before.roster next before.opened
    rw [Keyed.erase_of_missing missing] at stored
    rw [enters.roster]
    exact stored.trans ((mirrors.roster fewer).cons _)

end Sessions

end EventLoop
