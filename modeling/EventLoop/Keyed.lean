/-!
A finite table from keys to values. Entries keep the order in which their keys first came, a key
never stands twice, and writing to a key that is present changes its value in place. The view of a
table is `get?`: each operation below has one lemma that says what it does to that view.
-/
namespace EventLoop

/-- A finite table. That no key stands twice is part of the type, so every table that can be built
has it. -/
structure Keyed (κ α : Type) where
  entries : List (κ × α) := []
  distinct : (entries.map Prod.fst).Nodup := by exact List.nodup_nil

namespace Keyed

variable {κ α β : Type} [DecidableEq κ]

/-- The table without entries. -/
def empty : Keyed κ α := {}

/-- The keys, in the order in which they first came. -/
def keys (t : Keyed κ α) : List κ := t.entries.map Prod.fst

/-- The values, in the order of their keys. -/
def values (t : Keyed κ α) : List α := t.entries.map Prod.snd

/-- How many entries the table has. -/
def size (t : Keyed κ α) : Nat := t.entries.length

/-- The value stored under `key`, if there is one. -/
def get? (t : Keyed κ α) (key : κ) : Option α :=
  (t.entries.find? (fun entry => entry.1 = key)).map Prod.snd

/-- Whether `key` has a value. -/
def contains (t : Keyed κ α) (key : κ) : Bool := t.entries.any (fun entry => entry.1 = key)

/-- Writes `value` wherever `key` stands; it adds nothing. -/
def overwrite (key : κ) (value : α) (entries : List (κ × α)) : List (κ × α) :=
  entries.map fun entry => if entry.1 = key then (entry.1, value) else entry

theorem keys_overwrite (key : κ) (value : α) (entries : List (κ × α)) :
    (overwrite key value entries).map Prod.fst = entries.map Prod.fst := by
  induction entries with
  | nil => rfl
  | cons entry rest ih =>
    simp only [overwrite, List.map_cons] at ih ⊢
    rw [ih]
    split <;> rfl

theorem mem_keys_iff_contains (t : Keyed κ α) (key : κ) :
    key ∈ t.entries.map Prod.fst ↔ t.contains key = true := by
  simp [contains]

theorem nodup_overwrite {key : κ} {value : α} {entries : List (κ × α)}
    (distinct : (entries.map Prod.fst).Nodup) :
    ((overwrite key value entries).map Prod.fst).Nodup := by
  rw [keys_overwrite]
  exact distinct

theorem nodup_append (t : Keyed κ α) {key : κ} (value : α) (missing : ¬ t.contains key = true) :
    ((t.entries ++ [(key, value)]).map Prod.fst).Nodup := by
  rw [List.map_append, List.nodup_append]
  refine ⟨t.distinct, by simp, ?_⟩
  intro a ha b hb same
  simp only [List.map_cons, List.map_nil, List.mem_singleton] at hb
  exact missing ((mem_keys_iff_contains t key).1 (hb ▸ same ▸ ha))

/-- Stores `value` under `key`: in place if the key is present, else as the last entry. -/
def insert (t : Keyed κ α) (key : κ) (value : α) : Keyed κ α :=
  if present : t.contains key then ⟨overwrite key value t.entries, nodup_overwrite t.distinct⟩
  else ⟨t.entries ++ [(key, value)], nodup_append t value present⟩

/-- Drops the entry of `key`. -/
def erase (t : Keyed κ α) (key : κ) : Keyed κ α :=
  ⟨t.entries.filter (fun entry => entry.1 ≠ key),
    t.distinct.sublist (List.Sublist.map _ List.filter_sublist)⟩

/-- Changes the value of `key` by `f` if it has one. -/
def modify (t : Keyed κ α) (key : κ) (f : α → α) : Keyed κ α :=
  match t.get? key with
  | none => t
  | some value => t.insert key (f value)

/-- The table that holds the first value given for each key. -/
def ofFirst (entries : List (κ × α)) : Keyed κ α :=
  entries.foldl (fun t entry => if t.contains entry.1 then t else t.insert entry.1 entry.2) empty

/-! ## The view of each operation -/

@[simp] theorem get?_empty (key : κ) : (empty : Keyed κ α).get? key = none := rfl

omit [DecidableEq κ] in
@[simp] theorem size_empty : (empty : Keyed κ α).size = 0 := rfl

theorem find?_overwrite (key probe : κ) (value : α) (entries : List (κ × α)) :
    ((overwrite key value entries).find? (fun entry => entry.1 = probe)).map Prod.snd =
      if probe = key ∧ entries.any (fun entry => entry.1 = key) then some value
      else (entries.find? (fun entry => entry.1 = probe)).map Prod.snd := by
  induction entries with
  | nil => simp [overwrite]
  | cons entry rest ih =>
    simp only [overwrite, List.map_cons] at ih ⊢
    by_cases here : entry.1 = key
    · by_cases same : probe = key
      · subst same; simp [here]
      · simp only [here, ↓reduceIte, same, false_and, List.find?_cons]
        have other : ¬ key = probe := fun e => same e.symm
        simp only [other, decide_false]
        rw [ih]; simp [same]
    · simp only [here, ↓reduceIte, List.find?_cons, List.any_cons, decide_false, Bool.false_or]
      by_cases hit : entry.1 = probe
      · have other : ¬ probe = key := fun e => here (hit.trans e)
        simp [hit, other]
      · simp only [hit, decide_false]
        exact ih

theorem get?_insert (t : Keyed κ α) (key probe : κ) (value : α) :
    (t.insert key value).get? probe = if probe = key then some value else t.get? probe := by
  unfold insert
  split
  · rename_i present
    simp only [get?]
    rw [find?_overwrite]
    have found : t.entries.any (fun entry => entry.1 = key) = true := present
    simp [found]
  · rename_i missing
    simp only [get?, List.find?_append]
    by_cases same : probe = key
    · subst same
      have none_found : t.entries.find? (fun entry => entry.1 = probe) = none := by
        rw [List.find?_eq_none]
        intro entry hentry
        have := missing
        simp only [contains, List.any_eq_true, not_exists, not_and] at this
        exact this entry hentry
      simp [none_found]
    · have other : ¬ key = probe := fun e => same e.symm
      simp [same, other]

theorem get?_erase (t : Keyed κ α) (key probe : κ) :
    (t.erase key).get? probe = if probe = key then none else t.get? probe := by
  simp only [get?, erase, List.find?_filter]
  by_cases same : probe = key
  · subst same
    rw [if_pos rfl, List.find?_eq_none.2]
    · rfl
    · intro entry _; simp
  · rw [if_neg same]
    congr 2
    funext entry
    by_cases hit : entry.1 = probe
    · have other : ¬ probe = key := same
      simp [hit, other]
    · simp [hit]

theorem contains_eq_isSome (t : Keyed κ α) (key : κ) :
    t.contains key = (t.get? key).isSome := by
  simp only [contains, get?, Option.isSome_map]
  rw [Bool.eq_iff_iff]
  simp [List.find?_isSome]

theorem get?_modify (t : Keyed κ α) (key probe : κ) (f : α → α) :
    (t.modify key f).get? probe =
      if probe = key then (t.get? probe).map f else t.get? probe := by
  unfold modify
  split
  · rename_i missing
    by_cases same : probe = key
    · subst same; simp [missing]
    · simp [same]
  · rename_i value present
    rw [get?_insert]
    by_cases same : probe = key
    · subst same; simp [present]
    · simp [same]

/-! ## The entries of each operation -/

theorem get?_eq_some_iff (t : Keyed κ α) (key : κ) (value : α) :
    t.get? key = some value ↔ (key, value) ∈ t.entries := by
  obtain ⟨entries, distinct⟩ := t
  simp only [get?]
  induction entries with
  | nil => simp
  | cons entry rest ih =>
    obtain ⟨unseen, distinctRest⟩ := List.nodup_cons.1 distinct
    by_cases here : entry.1 = key
    · have absent : (key, value) ∉ rest := fun inside =>
        unseen (here ▸ List.mem_map.2 ⟨_, inside, rfl⟩)
      simp only [List.find?_cons, here, decide_true, Option.map_some, Option.some.injEq,
        List.mem_cons, absent, or_false]
      constructor
      · rintro rfl
        rw [← here]
      · rintro rfl
        rfl
    · have apart : (key, value) ≠ entry := fun same => here (same ▸ rfl)
      simpa [List.find?_cons, here, apart] using ih distinctRest

/-- A value that is found stands apart from what is left when its key is dropped. -/
theorem entries_perm_erase {t : Keyed κ α} {key : κ} {value : α}
    (found : t.get? key = some value) :
    t.entries.Perm ((key, value) :: (t.erase key).entries) := by
  obtain ⟨entries, distinct⟩ := t
  have inside := (get?_eq_some_iff _ key value).1 found
  simp only [erase] at inside ⊢
  clear found
  induction entries with
  | nil => cases inside
  | cons entry rest ih =>
    obtain ⟨unseen, distinctRest⟩ := List.nodup_cons.1 distinct
    rcases List.mem_cons.1 inside with here | later
    · subst here
      have kept : rest.filter (fun entry => entry.1 ≠ key) = rest := by
        refine List.filter_eq_self.2 fun other there => ?_
        have apart : other.1 ≠ key := fun same => unseen (List.mem_map.2 ⟨other, there, same⟩)
        simpa using apart
      rw [List.filter_cons_of_neg (by simp), kept]
    · have apart : entry.1 ≠ key := fun same =>
        unseen (List.mem_map.2 ⟨_, later, same.symm⟩)
      rw [List.filter_cons_of_pos (by simpa using apart)]
      exact ((ih distinctRest later).cons entry).trans (.swap _ _ _)

theorem filter_overwrite (key : κ) (value : α) (entries : List (κ × α)) :
    (overwrite key value entries).filter (fun entry => entry.1 ≠ key) =
      entries.filter (fun entry => entry.1 ≠ key) := by
  induction entries with
  | nil => rfl
  | cons entry rest ih =>
    simp only [overwrite, List.map_cons] at ih ⊢
    by_cases here : entry.1 = key
    · simpa [here] using ih
    · simpa [here] using ih

theorem erase_insert (t : Keyed κ α) (key : κ) (value : α) :
    ((t.insert key value).erase key).entries = (t.erase key).entries := by
  simp only [erase, insert]
  split
  · exact filter_overwrite key value t.entries
  · simp

/-- A value that is stored stands apart from what is left when its key is dropped. -/
theorem entries_insert_perm (t : Keyed κ α) (key : κ) (value : α) :
    (t.insert key value).entries.Perm ((key, value) :: (t.erase key).entries) := by
  have stored : (t.insert key value).get? key = some value := by rw [get?_insert, if_pos rfl]
  have split := entries_perm_erase stored
  rwa [erase_insert] at split

theorem erase_of_missing {t : Keyed κ α} {key : κ} (missing : t.get? key = none) :
    (t.erase key).entries = t.entries := by
  refine List.filter_eq_self.2 fun entry inside => ?_
  have apart : entry.1 ≠ key := fun same => by
    have found := (get?_eq_some_iff t entry.1 entry.2).2 inside
    rw [same, missing] at found
    cases found
  simpa using apart

theorem values_perm_erase {t : Keyed κ α} {key : κ} {value : α}
    (found : t.get? key = some value) : t.values.Perm (value :: (t.erase key).values) :=
  (entries_perm_erase found).map Prod.snd

theorem values_insert_perm (t : Keyed κ α) (key : κ) (value : α) :
    (t.insert key value).values.Perm (value :: (t.erase key).values) :=
  (entries_insert_perm t key value).map Prod.snd

theorem size_insert_le (t : Keyed κ α) (key : κ) (value : α) :
    (t.insert key value).size ≤ t.size + 1 := by
  have length := (entries_insert_perm t key value).length_eq
  have fewer : (t.erase key).entries.length ≤ t.entries.length := List.length_filter_le _ _
  exact Nat.le_trans (Nat.le_of_eq length) (Nat.succ_le_succ fewer)

theorem mem_values_of_get? {t : Keyed κ α} {key : κ} {value : α}
    (found : t.get? key = some value) : value ∈ t.values :=
  List.mem_map.2 ⟨_, (get?_eq_some_iff t key value).1 found, rfl⟩

/-- The values are what is found under the keys. -/
theorem filterMap_keys (t : Keyed κ α) : t.keys.filterMap t.get? = t.values := by
  have found : t.entries.map (t.get? ∘ Prod.fst) = t.entries.map (some ∘ Prod.snd) :=
    List.map_congr_left fun entry inside => (get?_eq_some_iff t entry.1 entry.2).2 inside
  calc t.keys.filterMap t.get?
      _ = (t.entries.map (t.get? ∘ Prod.fst)).filterMap id := by
        rw [keys, List.filterMap_map, List.filterMap_map]
        rfl
      _ = t.entries.filterMap (some ∘ Prod.snd) := by rw [found, List.filterMap_map]; rfl
      _ = t.values := by rw [values, List.filterMap_eq_map]

/-- What is stored under a new key comes last. -/
theorem values_insert_of_missing {t : Keyed κ α} {key : κ} (missing : t.get? key = none)
    (value : α) : (t.insert key value).values = t.values ++ [value] := by
  have absent : ¬ t.contains key = true := by rw [contains_eq_isSome, missing]; simp
  unfold insert
  rw [dif_neg absent]
  simp [values]

omit [DecidableEq κ] in
theorem eq_of_entries {t other : Keyed κ α} (same : t.entries = other.entries) : t = other := by
  cases t
  cases other
  simpa using same

/-- To store what is stored changes nothing. -/
theorem insert_of_get? {t : Keyed κ α} {key : κ} {value : α} (found : t.get? key = some value) :
    t.insert key value = t := by
  have present : t.contains key = true := by rw [contains_eq_isSome, found]; rfl
  refine eq_of_entries ?_
  unfold insert
  rw [dif_pos present]
  refine (List.map_congr_left fun entry inside => ?_).trans (List.map_id _)
  split
  · next here =>
    have stored := (get?_eq_some_iff t entry.1 entry.2).2 inside
    rw [here, found] at stored
    rw [Option.some.inj stored]
    rfl
  · rfl

/-- What is stored under a new key and dropped again leaves no trace. -/
theorem erase_insert_of_missing {t : Keyed κ α} {key : κ} (missing : t.get? key = none)
    (value : α) : (t.insert key value).erase key = t :=
  eq_of_entries ((erase_insert t key value).trans (erase_of_missing missing))

/-- What is stored in the place of a value that looks the same changes nothing that can be seen. -/
theorem map_values_insert {t : Keyed κ α} {key : κ} {before after : α}
    (found : t.get? key = some before) (look : α → β) (same : look after = look before) :
    (t.insert key after).values.map look = t.values.map look := by
  have present : t.contains key = true := by rw [contains_eq_isSome, found]; rfl
  unfold insert
  rw [dif_pos present]
  simp only [values, overwrite, List.map_map]
  refine List.map_congr_left fun entry inside => ?_
  simp only [Function.comp_apply]
  split
  · next here =>
    have stored := (get?_eq_some_iff t entry.1 entry.2).2 inside
    rw [here, found] at stored
    rw [same, Option.some.inj stored]
  · rfl

/-! ## Writing twice -/

theorem overwrite_overwrite (key : κ) (first second : α)
    (entries : List (κ × α)) :
    overwrite key second (overwrite key first entries) = overwrite key second entries := by
  simp only [overwrite, List.map_map]
  refine List.map_congr_left fun entry _ => ?_
  simp only [Function.comp_apply]
  by_cases here : entry.1 = key
  · simp only [here, ↓reduceIte]
  · simp only [here, ↓reduceIte]

/-- Of two values written to a key that is present, the second stays. -/
theorem insert_insert (t : Keyed κ α) {key : κ} (present : t.contains key = true)
    (first second : α) : (t.insert key first).insert key second = t.insert key second := by
  have still : (t.insert key first).contains key = true := by
    rw [contains_eq_isSome, get?_insert, if_pos rfl]
    rfl
  have once (value : α) : (t.insert key value).entries = overwrite key value t.entries := by
    unfold insert
    rw [dif_pos present]
  have twice : ((t.insert key first).insert key second).entries =
      overwrite key second (t.insert key first).entries := by
    rw [insert, dif_pos still]
  refine eq_of_entries ?_
  rw [twice, once, once, overwrite_overwrite]

end Keyed

end EventLoop
