import Mathlib.Data.Finmap
import Mathlib.Data.Finset.Image
import Mathlib.Data.Finset.Card

/-!
# Non-dependent finite maps

Key sets, value sets and injectivity of finite maps with a constant value type.
The key set of an insertion and the value set of an injective map are the two
facts that completion tests by counting or by set equality rest on.
-/

/-- A finite map from `κ` to `α`. -/
abbrev FiniteMap (κ α : Type) :=
  Finmap fun _ : κ => α

namespace FiniteMap

variable {κ α : Type} [DecidableEq κ]

@[simp] theorem keys_insert
    (key : κ)
    (value : α)
    (map : FiniteMap κ α) :
    (map.insert key value).keys = insert key map.keys := by
  ext other
  simp [Finmap.mem_keys, Finmap.mem_insert]

/-- Reading an insertion back, with the two cases in one equation. -/
theorem lookup_insert_eq
    (key other : κ)
    (value : α)
    (map : FiniteMap κ α) :
    (map.insert key value).lookup other =
      if other = key then some value else map.lookup other := by
  by_cases same : other = key
  · subst same
    simp [Finmap.lookup_insert]
  · rw [Finmap.lookup_insert_of_ne map same, if_neg same]

/-- Storing what is stored changes nothing. -/
theorem insert_of_lookup
    {key : κ}
    {value : α}
    {map : FiniteMap κ α}
    (stored : map.lookup key = some value) :
    map.insert key value = map := by
  apply Finmap.ext_lookup
  intro other
  rw [lookup_insert_eq]
  split_ifs with same
  · rw [same, stored]
  · rfl

theorem mem_keys_iff_lookup
    {key : κ}
    {map : FiniteMap κ α} :
    key ∈ map.keys ↔ ∃ value, map.lookup key = some value := by
  rw [Finmap.mem_keys, Finmap.mem_iff]

/-- A key outside the map reads as absent. -/
theorem lookup_eq_none_of_notMem
    {key : κ}
    {map : FiniteMap κ α}
    (absent : key ∉ map.keys) :
    map.lookup key = none := by
  rw [Finmap.lookup_eq_none]
  rwa [Finmap.mem_keys] at absent

omit [DecidableEq κ] in
/-- The keys of a finite map are counted by its entries. -/
theorem card_keys (map : FiniteMap κ α) :
    map.keys.card = map.entries.card := by
  change (Multiset.keys map.entries).card = map.entries.card
  simp [Multiset.keys]

/-- A property of all entries is one of everything that can be looked up. -/
theorem forall_entries_iff
    (map : FiniteMap κ α)
    (property : κ → α → Prop) :
    (∀ entry ∈ map.entries, property entry.1 entry.2) ↔
      ∀ key value, map.lookup key = some value → property key value := by
  constructor
  · intro holds key value found
    exact holds ⟨key, value⟩ (Finmap.lookup_eq_some_iff.mp found)
  · intro holds entry member
    exact holds entry.1 entry.2 (Finmap.lookup_eq_some_iff.mpr member)

/-- The map that takes a value at each of the keys. -/
def ofKeys (value : κ → α) : List κ → FiniteMap κ α
  | [] => ∅
  | key :: keys => (ofKeys value keys).insert key (value key)

theorem lookup_ofKeys
    (value : κ → α)
    (keys : List κ)
    (key : κ) :
    (ofKeys value keys).lookup key =
      if key ∈ keys then some (value key) else none := by
  induction keys with
  | nil => rfl
  | cons first rest ih =>
      rw [ofKeys, lookup_insert_eq, ih]
      by_cases same : key = first
      · simp [same]
      · simp [same]

/-- The map of a list of entries, the later ones first. -/
def ofEntries (entries : List (κ × α)) : FiniteMap κ α :=
  entries.foldl (fun map entry => map.insert entry.1 entry.2) ∅

theorem ofEntries_append
    (entries : List (κ × α))
    (entry : κ × α) :
    ofEntries (entries ++ [entry]) =
      (ofEntries entries).insert entry.1 entry.2 := by
  simp [ofEntries]

theorem mem_keys_ofEntries
    {entries : List (κ × α)}
    {key : κ} :
    key ∈ (ofEntries entries).keys ↔ key ∈ entries.map Prod.fst := by
  induction entries using List.reverseRecOn with
  | nil => simp [ofEntries]
  | append_singleton entries entry ih =>
      rw [ofEntries_append, keys_insert, Finset.mem_insert, ih]
      simp [or_comm]

theorem mem_of_lookup_ofEntries
    {entries : List (κ × α)}
    {key : κ}
    {value : α}
    (found : (ofEntries entries).lookup key = some value) :
    (key, value) ∈ entries := by
  induction entries using List.reverseRecOn with
  | nil => exact absurd found (by simp [ofEntries])
  | append_singleton entries entry ih =>
      rw [ofEntries_append, lookup_insert_eq] at found
      apply List.mem_append.mpr
      split_ifs at found with same
      · obtain rfl := Option.some.inj found
        exact Or.inr (by simp [same])
      · exact Or.inl (ih found)

/-- The key of a map with one entry. -/
def onlyKey (map : FiniteMap κ α) : Option κ :=
  if one : map.keys.card = 1 then
    some (map.keys.choose (fun _ => True) (by
      obtain ⟨key, isKey⟩ := Finset.card_eq_one.mp one
      exact ⟨key, by simp [isKey], by simp [isKey]⟩))
  else none

omit [DecidableEq κ] in
theorem onlyKey_eq_some
    {map : FiniteMap κ α}
    {key : κ}
    (isOnly : onlyKey map = some key) :
    key ∈ map.keys := by
  unfold onlyKey at isOnly
  split_ifs at isOnly with one
  rw [← Option.some.inj isOnly]
  exact Finset.choose_mem _ _ _

omit [DecidableEq κ] in
theorem onlyKey_eq_none
    {map : FiniteMap κ α} :
    onlyKey map = none ↔ map.keys.card ≠ 1 := by
  unfold onlyKey
  split_ifs with one
  · simp [one]
  · simp [one]

section EntriesIn

variable {order : Finset κ → List κ} {map : FiniteMap κ α}

/-- The entries in an order of their keys. -/
def entriesIn
    (order : Finset κ → List κ)
    (map : FiniteMap κ α) : List (κ × α) :=
  (order map.keys).filterMap fun key => (map.lookup key).map (key, ·)

theorem entriesIn_eq_map
    (ordered : ∀ key ∈ order map.keys, key ∈ map.keys)
    {value : κ → α}
    (found : ∀ key ∈ map.keys, map.lookup key = some (value key)) :
    entriesIn order map = (order map.keys).map fun key => (key, value key) := by
  rw [entriesIn, ← List.filterMap_eq_map']
  apply List.filterMap_congr
  intro key member
  rw [found key (ordered key member)]
  rfl

theorem map_fst_entriesIn
    (ordered : ∀ key ∈ order map.keys, key ∈ map.keys) :
    (entriesIn order map).map Prod.fst = order map.keys := by
  rw [entriesIn, List.map_filterMap]
  conv_rhs => rw [← @List.filterMap_some κ (order map.keys)]
  apply List.filterMap_congr
  intro key member
  obtain ⟨value, found⟩ := mem_keys_iff_lookup.mp (ordered key member)
  rw [found]
  rfl

end EntriesIn

section FilterMap

variable {β : Type}

omit [DecidableEq κ] in
theorem nodupKeys_filterMap
    (change : α → Option β)
    {entries : Multiset (Sigma fun _ : κ => α)}
    (nodup : entries.NodupKeys) :
    (entries.filterMap fun entry =>
      (change entry.2).map (Sigma.mk (β := fun _ : κ => β) entry.1)).NodupKeys := by
  induction entries using Quotient.inductionOn with
  | _ list =>
    have distinct := List.nodupKeys_iff_pairwise.mp nodup
    apply List.nodupKeys_iff_pairwise.mpr
    apply List.Pairwise.filterMap _ _ distinct
    intro first second differ firstOut firstEq secondOut secondEq
    obtain ⟨_, -, rfl⟩ := Option.map_eq_some_iff.mp firstEq
    obtain ⟨_, -, rfl⟩ := Option.map_eq_some_iff.mp secondEq
    exact differ

/-- The entries whose value is changed into one. -/
def filterMap (change : α → Option β) (map : FiniteMap κ α) : FiniteMap κ β :=
  { entries := map.entries.filterMap fun entry =>
      (change entry.2).map (Sigma.mk entry.1)
    nodupKeys := nodupKeys_filterMap change map.nodupKeys }

theorem lookup_filterMap
    (change : α → Option β)
    (map : FiniteMap κ α)
    (key : κ) :
    (filterMap change map).lookup key = (map.lookup key).bind change := by
  apply Option.ext
  intro value
  rw [Finmap.lookup_eq_some_iff, Option.bind_eq_some_iff]
  unfold filterMap
  rw [Multiset.mem_filterMap]
  constructor
  · rintro ⟨entry, member, isOut⟩
    obtain ⟨changed, changedEq, same⟩ := Option.map_eq_some_iff.mp isOut
    cases same
    exact ⟨entry.2, Finmap.lookup_eq_some_iff.mpr member, changedEq⟩
  · rintro ⟨old, isOld, changedEq⟩
    refine ⟨⟨key, old⟩, Finmap.lookup_eq_some_iff.mp isOld, ?_⟩
    rw [changedEq]
    rfl

/-- A change of every value keeps the keys. -/
theorem keys_filterMap
    {change : α → Option β}
    {map : FiniteMap κ α}
    (changed : ∀ key value,
      map.lookup key = some value → ∃ other, change value = some other) :
    (filterMap change map).keys = map.keys := by
  ext key
  rw [mem_keys_iff_lookup, mem_keys_iff_lookup, lookup_filterMap]
  constructor
  · rintro ⟨other, isOther⟩
    obtain ⟨value, isValue, -⟩ := Option.bind_eq_some_iff.mp isOther
    exact ⟨value, isValue⟩
  · rintro ⟨value, isValue⟩
    obtain ⟨other, isOther⟩ := changed key value isValue
    exact ⟨other, Option.bind_eq_some_iff.mpr ⟨value, isValue, isOther⟩⟩

end FilterMap

section Values

variable [DecidableEq α]

/-- The set of values a map takes. -/
def values (map : FiniteMap κ α) : Finset α :=
  (map.entries.map Sigma.snd).toFinset

theorem mem_values
    {value : α}
    {map : FiniteMap κ α} :
    value ∈ values map ↔ ∃ key, map.lookup key = some value := by
  simp only [values, Multiset.mem_toFinset, Multiset.mem_map,
    Finmap.lookup_eq_some_iff]
  constructor
  · rintro ⟨⟨key, stored⟩, member, rfl⟩
    exact ⟨key, member⟩
  · rintro ⟨key, member⟩
    exact ⟨⟨key, value⟩, member, rfl⟩

/-- No two keys share a value. -/
def Injective (map : FiniteMap κ α) : Prop :=
  ∀ first second value,
    map.lookup first = some value → map.lookup second = some value →
      first = second

/-- An injective map takes as many values as it has keys. -/
theorem card_values
    {map : FiniteMap κ α}
    (injective : Injective map) :
    (values map).card = map.keys.card := by
  have distinct : (map.entries.map Sigma.snd).Nodup := by
    refine (Multiset.nodup_map_iff_of_inj_on ?_).mpr map.nodup_entries
    rintro ⟨first, value⟩ firstMember ⟨second, _⟩ secondMember rfl
    have same : first = second :=
      injective first second value
        (Finmap.lookup_eq_some_iff.mpr firstMember)
        (Finmap.lookup_eq_some_iff.mpr secondMember)
    subst same
    rfl
  rw [values, Multiset.toFinset_card_of_nodup distinct, Multiset.card_map,
    card_keys]

end Values

end FiniteMap
