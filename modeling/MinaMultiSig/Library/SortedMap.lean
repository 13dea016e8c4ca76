import Mathlib

/-!
# Ordered maps

A map is the list of its entries in ascending order of their keys, so that two
maps with the same entries are equal, and looking for a value finds the one with
the least key. Operations are described by their entries.
-/

/-- A map from `κ` to `α`. -/
@[ext]
structure SortedMap (κ α : Type) [LinearOrder κ] where
  entries : List (κ × α)
  sorted : entries.Pairwise fun first second => first.1 < second.1

namespace SortedMap

variable {κ α : Type} [LinearOrder κ]

instance [DecidableEq α] : DecidableEq (SortedMap κ α) :=
  fun _ _ => decidable_of_iff _ SortedMap.ext_iff.symm

/-- The map without entries. -/
def empty : SortedMap κ α :=
  { entries := [], sorted := .nil }

instance : EmptyCollection (SortedMap κ α) :=
  ⟨empty⟩

/-- Put an entry at its place, in place of another one with the key. -/
def insertEntry (key : κ) (value : α) : List (κ × α) → List (κ × α)
  | [] => [(key, value)]
  | first :: rest =>
      if key < first.1 then (key, value) :: first :: rest
      else if key = first.1 then (key, value) :: rest
      else first :: insertEntry key value rest

section Entries

variable {key : κ} {value : α} {entries : List (κ × α)}

theorem mem_insertEntry
    (sorted : entries.Pairwise fun first second => first.1 < second.1)
    {entry : κ × α} :
    entry ∈ insertEntry key value entries ↔
      entry = (key, value) ∨ entry ∈ entries ∧ entry.1 ≠ key := by
  induction entries with
  | nil => simp [insertEntry]
  | cons first rest ih =>
      obtain ⟨least, sortedRest⟩ := List.pairwise_cons.mp sorted
      rw [insertEntry]
      split_ifs with less same
      · -- the keys behind are greater
        have others : ∀ other ∈ first :: rest, other.1 ≠ key := by
          intro other member
          rcases List.mem_cons.mp member with rfl | behind
          · exact less.ne'
          · exact (less.trans (least other behind)).ne'
        rw [List.mem_cons]
        apply or_congr_right
        exact ⟨fun member => ⟨member, others entry member⟩, And.left⟩
      · have others : ∀ other ∈ rest, other.1 ≠ key := by
          rintro other behind rfl
          exact (least other behind).ne same.symm
        rw [List.mem_cons, List.mem_cons]
        apply or_congr_right
        constructor
        · exact fun behind => ⟨Or.inr behind, others entry behind⟩
        · rintro ⟨rfl | behind, different⟩
          · exact absurd same.symm different
          · exact behind
      · rw [List.mem_cons, List.mem_cons, ih sortedRest]
        constructor
        · rintro (rfl | rfl | ⟨behind, different⟩)
          · exact Or.inr ⟨Or.inl rfl, Ne.symm same⟩
          · exact Or.inl rfl
          · exact Or.inr ⟨Or.inr behind, different⟩
        · rintro (rfl | ⟨rfl | behind, different⟩)
          · exact Or.inr (Or.inl rfl)
          · exact Or.inl rfl
          · exact Or.inr (Or.inr ⟨behind, different⟩)

theorem sorted_insertEntry
    (key : κ)
    (value : α)
    (sorted : entries.Pairwise fun first second => first.1 < second.1) :
    (insertEntry key value entries).Pairwise
      fun first second => first.1 < second.1 := by
  induction entries with
  | nil => exact List.pairwise_singleton _ _
  | cons first rest ih =>
      obtain ⟨least, sortedRest⟩ := List.pairwise_cons.mp sorted
      rw [insertEntry]
      split_ifs with less same
      · refine List.pairwise_cons.mpr ⟨?_, sorted⟩
        intro other member
        rcases List.mem_cons.mp member with rfl | behind
        · exact less
        · exact less.trans (least other behind)
      · refine List.pairwise_cons.mpr ⟨?_, sortedRest⟩
        intro other behind
        exact same ▸ least other behind
      · refine List.pairwise_cons.mpr ⟨?_, ih sortedRest⟩
        intro other member
        rcases (mem_insertEntry sortedRest).mp member with
          rfl | ⟨behind, -⟩
        · exact lt_of_le_of_ne (not_lt.mp less) (Ne.symm same)
        · exact least other behind

end Entries

/-- Insert an entry, in place of another one with the key. -/
def insert (map : SortedMap κ α) (key : κ) (value : α) : SortedMap κ α :=
  { entries := insertEntry key value map.entries
    sorted := sorted_insertEntry key value map.sorted }

/-- Remove the entry with the key. -/
def erase (map : SortedMap κ α) (key : κ) : SortedMap κ α :=
  { entries := map.entries.filter fun entry => entry.1 ≠ key
    sorted := map.sorted.filter _ }

/-- The value of the entry with the key. -/
def lookup (map : SortedMap κ α) (key : κ) : Option α :=
  (map.entries.find? fun entry => entry.1 = key).map Prod.snd

/-- Whether there is an entry with the key. -/
def contains (map : SortedMap κ α) (key : κ) : Bool :=
  (map.lookup key).isSome

/-- The values in the order of their keys. -/
def values (map : SortedMap κ α) : List α :=
  map.entries.map Prod.snd

section Lookup

variable {map : SortedMap κ α} {key other : κ} {value content : α}

@[simp] theorem mem_entries_insert {entry : κ × α} :
    entry ∈ (map.insert key value).entries ↔
      entry = (key, value) ∨ entry ∈ map.entries ∧ entry.1 ≠ key :=
  mem_insertEntry map.sorted

@[simp] theorem mem_entries_erase {entry : κ × α} :
    entry ∈ (map.erase key).entries ↔
      entry ∈ map.entries ∧ entry.1 ≠ key := by
  rw [erase, List.mem_filter, decide_eq_true_eq]

theorem nodup_keys (map : SortedMap κ α) :
    (map.entries.map Prod.fst).Nodup :=
  List.pairwise_map.mpr (map.sorted.imp ne_of_lt)

/-- A key has one value. -/
theorem value_unique
    (first : (key, value) ∈ map.entries)
    (second : (key, content) ∈ map.entries) :
    value = content :=
  (Prod.mk.inj
    (List.inj_on_of_nodup_map map.nodup_keys first second rfl)).2

theorem lookup_eq_some_iff :
    map.lookup key = some value ↔ (key, value) ∈ map.entries := by
  rw [lookup, Option.map_eq_some_iff]
  constructor
  · rintro ⟨⟨other, content⟩, found, rfl⟩
    obtain rfl : other = key := by simpa using List.find?_some found
    exact List.mem_of_find?_eq_some found
  · intro member
    have isSome : (map.entries.find? fun entry => entry.1 = key).isSome :=
      List.find?_isSome.mpr ⟨_, member, decide_eq_true rfl⟩
    obtain ⟨⟨other, content⟩, found⟩ := Option.isSome_iff_exists.mp isSome
    obtain rfl : other = key := by simpa using List.find?_some found
    exact ⟨_, found, value_unique (List.mem_of_find?_eq_some found) member⟩

theorem lookup_eq_none_iff :
    map.lookup key = none ↔ ∀ value, (key, value) ∉ map.entries := by
  rw [Option.eq_none_iff_forall_ne_some]
  exact forall_congr' fun _ => lookup_eq_some_iff.not

theorem mem_values :
    value ∈ map.values ↔ ∃ key, map.lookup key = some value := by
  rw [values, List.mem_map]
  constructor
  · rintro ⟨⟨key, content⟩, member, rfl⟩
    exact ⟨key, lookup_eq_some_iff.mpr member⟩
  · rintro ⟨key, found⟩
    exact ⟨_, lookup_eq_some_iff.mp found, rfl⟩

@[simp] theorem lookup_empty : (∅ : SortedMap κ α).lookup key = none :=
  rfl

@[simp] theorem lookup_insert :
    (map.insert key value).lookup other =
      if other = key then some value else map.lookup other := by
  apply Option.ext
  intro content
  rw [lookup_eq_some_iff, mem_entries_insert]
  split_ifs with same
  · subst same
    simp [eq_comm]
  · rw [lookup_eq_some_iff]
    simp [same]

@[simp] theorem lookup_erase :
    (map.erase key).lookup other =
      if other = key then none else map.lookup other := by
  apply Option.ext
  intro content
  rw [lookup_eq_some_iff, mem_entries_erase]
  split_ifs with same
  · simp [same]
  · rw [lookup_eq_some_iff]
    simp [same]

/-- What holds of the entries of a map and of the values that are inserted one
after the other, each behind its own key. -/
theorem forall_foldl_insert
    {property : κ → α → Prop}
    {keyOf : α → κ}
    {values : List α}
    (added : ∀ value ∈ values, property (keyOf value) value)
    (held : ∀ key value, map.lookup key = some value → property key value) :
    ∀ key value, (values.foldl
        (fun map value => map.insert (keyOf value) value) map).lookup key =
          some value →
      property key value := by
  induction values generalizing map with
  | nil => exact held
  | cons first rest ih =>
      rw [List.foldl_cons]
      apply ih fun value member =>
        added value (List.mem_cons_of_mem first member)
      intro key value found
      rw [lookup_insert] at found
      split_ifs at found with same
      · obtain rfl := Option.some.inj found
        rw [same]
        exact added _ List.mem_cons_self
      · exact held key value found

end Lookup

end SortedMap
