import MinaMultiSig.Library.Outcome
import Mathlib.Data.List.Nodup

/-!
# Maps as lists of entries

A map is the list of its entries with distinct keys, in the order they were
inserted. Collecting the results of a function that may fail in a map is
processing a list, as long as the keys are new.
-/

/-- A map from `κ` to `α`. -/
@[ext]
structure EntryMap (κ α : Type) where
  entries : List (κ × α)
  distinct : (entries.map Prod.fst).Nodup

namespace EntryMap

variable {ε κ α β : Type}

/-- The map without entries. -/
def empty : EntryMap κ α :=
  { entries := [], distinct := List.nodup_nil }

/-- The keys in the order of the entries. -/
def keys (map : EntryMap κ α) : List κ :=
  map.entries.map Prod.fst

variable [DecidableEq κ]

/-- The value of the entry with the key. -/
def lookup (map : EntryMap κ α) (key : κ) : Option α :=
  (map.entries.find? fun entry => entry.1 = key).map Prod.snd

theorem key_notMem_filter
    (entries : List (κ × α))
    (key : κ) :
    key ∉ (entries.filter fun entry => entry.1 ≠ key).map Prod.fst := by
  intro member
  obtain ⟨entry, kept, isKey⟩ := List.mem_map.mp member
  exact of_decide_eq_true (List.mem_filter.mp kept).2 isKey

/-- Put an entry at the end, in place of another one with the key. -/
def insert (map : EntryMap κ α) (key : κ) (value : α) : EntryMap κ α :=
  { entries := (map.entries.filter fun entry => entry.1 ≠ key) ++ [(key, value)]
    distinct := by
      rw [List.map_append]
      apply (map.distinct.sublist (List.filter_sublist.map Prod.fst)).append
        (List.nodup_singleton key)
      rw [List.disjoint_singleton]
      exact key_notMem_filter map.entries key }

theorem entries_insert_of_new
    {map : EntryMap κ α}
    {key : κ}
    (new : key ∉ map.keys)
    (value : α) :
    (map.insert key value).entries = map.entries ++ [(key, value)] := by
  have kept :
      (map.entries.filter fun entry => entry.1 ≠ key) = map.entries := by
    apply List.filter_eq_self.mpr
    intro entry member
    apply decide_eq_true
    rintro rfl
    exact new (List.mem_map_of_mem member)
  exact congrArg (· ++ [(key, value)]) kept

theorem keys_insert_of_new
    {map : EntryMap κ α}
    {key : κ}
    (new : key ∉ map.keys)
    (value : α) :
    (map.insert key value).keys = map.keys ++ [key] := by
  rw [keys, entries_insert_of_new new, List.map_append]
  rfl

theorem lookup_eq_none_iff
    {map : EntryMap κ α}
    {key : κ} :
    map.lookup key = none ↔ key ∉ map.keys := by
  rw [lookup, Option.map_eq_none_iff, List.find?_eq_none, keys, List.mem_map]
  constructor
  · rintro absent ⟨entry, member, isKey⟩
    exact absent entry member (decide_eq_true isKey)
  · intro absent entry member isKey
    exact absent ⟨entry, member, of_decide_eq_true isKey⟩

/-- The keys are distinct, so that each entry is the one of its key. -/
theorem lookup_of_mem
    {map : EntryMap κ α}
    {key : κ}
    {value : α}
    (member : (key, value) ∈ map.entries) :
    map.lookup key = some value := by
  obtain ⟨entries, distinct⟩ := map
  change (key, value) ∈ entries at member
  induction entries with
  | nil => exact absurd member List.not_mem_nil
  | cons first rest ih =>
      rw [List.map_cons, List.nodup_cons] at distinct
      rcases List.mem_cons.mp member with rfl | behind
      · simp [lookup]
      · have other : ¬first.1 = key := by
          rintro rfl
          exact distinct.1 (List.mem_map.mpr ⟨_, behind, rfl⟩)
        have found := ih distinct.2 behind
        rw [lookup] at found ⊢
        rwa [List.find?_cons_of_neg (by simpa using other)]

section Collect

/-- Insert the results for a list of items, one after the other. -/
def collect
    (key : β → κ)
    (function : β → Outcome ε α) :
    List β → EntryMap κ α → Outcome ε (EntryMap κ α)
  | [], map => .ok map
  | item :: rest, map => do
      let value ← function item
      collect key function rest (map.insert (key item) value)

/-- Collecting under new keys is processing the list. -/
theorem collect_entries
    (key : β → κ)
    (function : β → Outcome ε α)
    {items : List β}
    {map : EntryMap κ α}
    (distinct : (items.map key).Nodup)
    (new : ∀ item ∈ items, key item ∉ map.keys) :
    (collect key function items map).map EntryMap.entries =
      (items.mapM fun item => do
        let value ← function item
        return (key item, value)).map (map.entries ++ ·) := by
  induction items generalizing map with
  | nil => simp [collect, Except.map, pure, Except.pure]
  | cons first rest ih =>
      rw [List.map_cons, List.nodup_cons] at distinct
      rw [collect, List.mapM_cons]
      cases function first with
      | error failure => rfl
      | ok value =>
          have inserted := entries_insert_of_new
            (new first List.mem_cons_self) value
          have newBehind : ∀ item ∈ rest,
              key item ∉ (map.insert (key first) value).keys := by
            intro item member isKey
            rw [keys_insert_of_new (new first List.mem_cons_self),
              List.mem_append, List.mem_singleton] at isKey
            rcases isKey with old | isFirst
            · exact new item (List.mem_cons_of_mem first member) old
            · exact distinct.1 (List.mem_map.mpr ⟨item, member, isFirst⟩)
          have behind := ih distinct.2 newBehind
          rw [inserted] at behind
          simp only [Outcome.ok_bind, behind]
          cases rest.mapM fun item => do
              let value ← function item
              return (key item, value) with
          | error failure => rfl
          | ok results =>
              simp [Except.map, pure, Except.pure, bind, Except.bind]

/-- Collecting known results. -/
theorem collect_eq_ok
    {key : β → κ}
    {function : β → Outcome ε α}
    {value : β → α}
    {items : List β}
    (distinct : (items.map key).Nodup)
    (succeeds : ∀ item ∈ items, function item = .ok (value item)) :
    ∃ map, collect key function items empty = .ok map ∧
      map.entries = items.map fun item => (key item, value item) := by
  have processed : (items.mapM fun item => do
      let value ← function item
      return (key item, value)) =
        .ok (items.map fun item => (key item, value item)) := by
    apply Outcome.mapM_eq_ok
    intro item member
    rw [succeeds item member]
    rfl
  have collected := @collect_entries ε κ α β _ key function items empty distinct
    fun _ _ => List.not_mem_nil
  rw [processed] at collected
  cases result : collect key function items empty with
  | error failure =>
      rw [result] at collected
      exact absurd collected (by simp [Except.map])
  | ok map =>
      rw [result] at collected
      exact ⟨map, rfl, Except.ok.inj collected⟩

end Collect

end EntryMap
