import MinaMultiSig.Library.Json
import MinaMultiSig.Library.Outcome
import Mathlib.Algebra.Group.Nat.Defs
import Mathlib.Data.List.Basic

/-!
# Codecs for JSON values

A codec writes values as JSON and reads them back. Codecs are built the way a
compiler derives them: from the fields of a record, the variants of an
enumeration, options, lists and arrays. A reader goes through a document in its
order and stops at the first failure, so that the order of the entries of an
object decides which one of several failures is seen.

A codec is faithful if each value it reads is written without a failure and read
again from what is written.
-/

/-- Who reads a value: the parser of the document, or the reader of a part that
was kept until a later part was known. -/
inductive Origin
  | parser
  | buffer
  deriving DecidableEq

/-- Why a value is not written or not read. -/
inductive SerdeError
  | custom (message : String)
  | mismatch
  | malformed
  deriving DecidableEq

/-- How a type is written as JSON and read from it, and how deep its JSON is
nested. -/
structure Codec (α : Type) where
  serialize : α → Outcome SerdeError Json
  deserialize : Origin → Json → Outcome SerdeError α
  nesting : Nat

namespace Codec

variable {α β : Type}

/-- What is written for the value is read as the value. -/
def Transmits (codec : Codec α) (value : α) : Prop :=
  ∃ json, codec.serialize value = .ok json ∧ json.Fits codec.nesting ∧
    ∀ origin, codec.deserialize origin json = .ok value

/-- What is read can be written and read again. -/
def Faithful (codec : Codec α) : Prop :=
  ∀ origin json value, codec.deserialize origin json = .ok value →
    codec.Transmits value

/-- A failure of the given kind. -/
def fail (reason : SerdeError) : Outcome SerdeError α :=
  .error (.error reason)

section Atoms

/-- A flag. -/
def bool : Codec Bool :=
  { serialize := fun value => .ok (.bool value)
    deserialize := fun _ json =>
      match json with
      | .bool value => .ok value
      | _ => fail .mismatch
    nesting := 0 }

/-- A number of 64 bits. -/
def u64 : Codec UInt64 :=
  { serialize := fun value => .ok (.natural value)
    deserialize := fun _ json =>
      match json with
      | .natural value => .ok value
      | _ => fail .mismatch
    nesting := 0 }

/-- A number of 32 bits. -/
def u32 : Codec UInt32 :=
  { serialize := fun value => .ok (.natural value.toUInt64)
    deserialize := fun _ json =>
      match json with
      | .natural value =>
          if value.toNat < 2 ^ 32 then .ok value.toUInt32 else fail .mismatch
      | _ => fail .mismatch
    nesting := 0 }

/-- A text. -/
def string : Codec String :=
  { serialize := fun text => .ok (.string text)
    deserialize := fun _ json =>
      match json with
      | .string text => .ok text
      | _ => fail .mismatch
    nesting := 0 }

theorem bool_faithful : bool.Faithful := by
  intro _ _ value _
  exact ⟨.bool value, rfl, trivial, fun _ => rfl⟩

theorem u64_faithful : u64.Faithful := by
  intro _ _ value _
  exact ⟨.natural value, rfl, trivial, fun _ => rfl⟩

theorem u32_faithful : u32.Faithful := by
  intro _ _ value _
  refine ⟨.natural value.toUInt64, rfl, trivial, fun _ => ?_⟩
  have below : value.toUInt64.toNat < 2 ^ 32 := value.toNat_lt
  simp only [u32, if_pos below, UInt32.toUInt32_toUInt64]

theorem string_faithful : string.Faithful := by
  intro _ _ text _
  exact ⟨.string text, rfl, trivial, fun _ => rfl⟩

/-- Values that are written as texts. -/
def viaString
    (print : α → Outcome SerdeError String)
    (parse : String → Outcome SerdeError α) : Codec α :=
  { serialize := fun value => do
      let text ← print value
      string.serialize text
    deserialize := fun origin json => do
      let text ← string.deserialize origin json
      parse text
    nesting := 0 }

theorem viaString_faithful
    {print : α → Outcome SerdeError String}
    {parse : String → Outcome SerdeError α}
    (again : ∀ text value, parse text = .ok value →
      ∃ printed, print value = .ok printed ∧ parse printed = .ok value) :
    (viaString print parse).Faithful := by
  intro origin json value read
  obtain ⟨text, -, parsed⟩ := Outcome.bind_eq_ok.mp read
  obtain ⟨printed, printedEq, parsedAgain⟩ := again text value parsed
  refine ⟨.string printed, ?_, trivial, fun _ => parsedAgain⟩
  exact Outcome.bind_eq_ok.mpr ⟨printed, printedEq, rfl⟩

end Atoms

section Composites

/-- A record of one field that is written as the field. -/
def transparent
    (codec : Codec α)
    (build : α → β)
    (part : β → α) : Codec β :=
  { serialize := fun value => codec.serialize (part value)
    deserialize := fun origin json => (codec.deserialize origin json).map build
    nesting := codec.nesting }

/-- No value is written as `null`. -/
def option (codec : Codec α) : Codec (Option α) :=
  { serialize := fun value =>
      match value with
      | some value => codec.serialize value
      | none => .ok .null
    deserialize := fun origin json =>
      match json with
      | .null => .ok none
      | json => (codec.deserialize origin json).map some
    nesting := codec.nesting }

/-- A list, item by item. -/
def list (codec : Codec α) : Codec (List α) :=
  { serialize := fun values => do
      let items ← values.mapM codec.serialize
      return .array items
    deserialize := fun origin json =>
      match json with
      | .array items => items.mapM (codec.deserialize origin)
      | _ => fail .mismatch
    nesting := codec.nesting + 1 }

/-- An array of a fixed length. -/
def vector (codec : Codec α) (length : Nat) : Codec (Vector α length) :=
  { serialize := fun values => codec.list.serialize values.toList
    deserialize := fun origin json => do
      let values ← codec.list.deserialize origin json
      if full : values.length = length then return ⟨values.toArray, full⟩
      else fail .mismatch
    nesting := codec.list.nesting }

theorem map_eq_ok
    {function : α → β}
    {result : Outcome SerdeError α}
    {value : β} :
    result.map function = .ok value ↔
      ∃ part, result = .ok part ∧ function part = value := by
  cases result with
  | ok part => simp [Except.map]
  | error failure => simp [Except.map]

theorem transparent_faithful
    {codec : Codec α}
    {build : α → β}
    {part : β → α}
    (faithful : codec.Faithful)
    (part_build : ∀ value, part (build value) = value) :
    (codec.transparent build part).Faithful := by
  intro origin json value read
  obtain ⟨inner, innerRead, rfl⟩ := map_eq_ok.mp read
  obtain ⟨out, written, fits, again⟩ := faithful origin json inner innerRead
  refine ⟨out, ?_, fits, fun other => map_eq_ok.mpr ⟨inner, again other, rfl⟩⟩
  simp only [transparent, part_build, written]

/-- No value of the codec is written as `null`. -/
def RejectsNull (codec : Codec α) : Prop :=
  ∀ origin value, codec.deserialize origin .null ≠ .ok value

theorem viaString_rejectsNull
    {print : α → Outcome SerdeError String}
    {parse : String → Outcome SerdeError α} :
    (viaString print parse).RejectsNull := by
  intro _ _ read
  exact absurd read (by simp [viaString, string, fail, Outcome.bind_eq_ok])

theorem bool_rejectsNull : bool.RejectsNull := by
  intro _ _ read
  exact absurd read (by simp [Codec.bool, fail])

theorem string_rejectsNull : string.RejectsNull := by
  intro _ _ read
  exact absurd read (by simp [string, fail])

theorem transparent_rejectsNull
    {codec : Codec α}
    {build : α → β}
    {part : β → α}
    (rejects : codec.RejectsNull) :
    (codec.transparent build part).RejectsNull := by
  intro origin _ read
  obtain ⟨inner, innerRead, -⟩ := map_eq_ok.mp read
  exact rejects origin inner innerRead

theorem option_some_eq_ok
    {codec : Codec α}
    (rejects : codec.RejectsNull)
    {origin : Origin}
    {json : Json}
    {value : α}
    (read : codec.deserialize origin json = .ok value) :
    codec.option.deserialize origin json = .ok (some value) := by
  rw [option]
  simp only
  split
  · exact absurd read (rejects origin value)
  · rw [read]
    rfl

theorem option_faithful
    {codec : Codec α}
    (faithful : codec.Faithful)
    (rejects : codec.RejectsNull) :
    codec.option.Faithful := by
  intro origin json value read
  cases value with
  | none =>
      have fits : Json.null.Fits codec.option.nesting :=
        Json.Fits.mono (Nat.zero_le _) trivial
      exact ⟨.null, rfl, fits, fun _ => rfl⟩
  | some value =>
      have inner : codec.deserialize origin json = .ok value := by
        rw [option] at read
        simp only at read
        split at read
        · exact absurd read (by simp)
        · obtain ⟨part, partRead, same⟩ := map_eq_ok.mp read
          rw [← Option.some.inj same]
          exact partRead
      obtain ⟨out, written, fits, again⟩ := faithful origin json value inner
      exact ⟨out, written, fits,
        fun other => option_some_eq_ok rejects (again other)⟩

/-- A list is transmitted if its elements are. -/
theorem list_transmits
    {codec : Codec α}
    {values : List α}
    (transmits : ∀ value ∈ values, codec.Transmits value) :
    codec.list.Transmits values := by
  suffices parts : ∃ items, values.mapM codec.serialize = .ok items ∧
      (∀ item ∈ items, item.Fits codec.nesting) ∧
      ∀ origin, items.mapM (codec.deserialize origin) = .ok values by
    obtain ⟨items, written, fits, again⟩ := parts
    refine ⟨.array items, ?_, fits, again⟩
    simp only [list, written]
    rfl
  induction values with
  | nil =>
      exact ⟨[], rfl, fun _ member => absurd member List.not_mem_nil,
        fun _ => rfl⟩
  | cons value values ih =>
      obtain ⟨item, itemWritten, itemFits, itemAgain⟩ :=
        transmits value List.mem_cons_self
      obtain ⟨items, written, fits, again⟩ := ih fun other member =>
        transmits other (List.mem_cons_of_mem value member)
      refine ⟨item :: items, ?_, ?_, ?_⟩
      · rw [List.mapM_cons, itemWritten, written]
        rfl
      · intro other member
        cases List.mem_cons.mp member with
        | inl isFirst => exact isFirst ▸ itemFits
        | inr inRest => exact fits other inRest
      · intro origin
        rw [List.mapM_cons, itemAgain origin, again origin]
        rfl

theorem list_faithful
    {codec : Codec α}
    (faithful : codec.Faithful) :
    codec.list.Faithful := by
  intro origin json values read
  apply list_transmits
  intro value member
  cases json with
  | array items =>
      obtain ⟨item, -, itemRead⟩ := Outcome.mem_of_mapM_eq_ok read value member
      exact faithful origin item value itemRead
  | _ => exact absurd read (by simp [list, fail])

theorem vector_faithful
    {codec : Codec α}
    {length : Nat}
    (faithful : codec.Faithful) :
    (codec.vector length).Faithful := by
  intro origin json values read
  obtain ⟨items, itemsRead, built⟩ := Outcome.bind_eq_ok.mp read
  obtain ⟨out, written, fits, again⟩ :=
    list_faithful faithful origin json items itemsRead
  split at built
  next full =>
    obtain rfl := Except.ok.inj built
    refine ⟨out, written, fits, fun other => ?_⟩
    apply Outcome.bind_eq_ok.mpr
    refine ⟨items, again other, ?_⟩
    rw [dif_pos full]
    rfl
  next => exact absurd built (by simp [fail])

end Composites

/-- With distinct names an entry is found by its name. -/
theorem find?_name
    {entries : List (String × β)}
    (distinct : (entries.map Prod.fst).Nodup)
    {name : String}
    {value : β}
    (member : (name, value) ∈ entries) :
    entries.find? (fun entry => entry.1 = name) = some (name, value) := by
  induction entries with
  | nil => exact absurd member List.not_mem_nil
  | cons first rest ih =>
      rw [List.map_cons, List.nodup_cons] at distinct
      cases List.mem_cons.mp member with
      | inl isFirst =>
          rw [← isFirst, List.find?_cons_of_pos (by simp)]
      | inr inRest =>
          have otherName : first.1 ≠ name := by
            intro same
            apply distinct.1
            rw [same]
            exact List.mem_map.mpr ⟨_, inRest, rfl⟩
          rw [List.find?_cons_of_neg (by simp [otherName])]
          exact ih distinct.2 inRest

section Variants

/-- The payload of a variant without fields. -/
def isUnit (origin : Origin) : Json → Bool
  | .null => true
  | .object [] => decide (origin = .buffer)
  | _ => false

/-- The name of a variant without fields: a text, or the only name of an
object. -/
def variantName (origin : Origin) : Json → Outcome SerdeError String
  | .string name => .ok name
  | .object [(name, payload)] =>
      if isUnit origin payload then .ok name else fail .mismatch
  | _ => fail .mismatch

/-- An enumeration of variants without fields, by their names. -/
def unitVariants [DecidableEq α] (variants : List (String × α)) : Codec α :=
  { serialize := fun value =>
      match variants.find? fun variant => variant.2 = value with
      | some (name, _) => string.serialize name
      | none => fail .mismatch
    deserialize := fun origin json => do
      let name ← variantName origin json
      match variants.find? fun variant => variant.1 = name with
      | some (_, value) => return value
      | none => fail .mismatch
    nesting := 0 }

theorem unitVariants_faithful
    [DecidableEq α]
    {variants : List (String × α)}
    (distinct : (variants.map Prod.fst).Nodup) :
    (unitVariants variants).Faithful := by
  intro origin json value read
  obtain ⟨readName, -, found⟩ := Outcome.bind_eq_ok.mp read
  have isVariant : ∃ variant ∈ variants, variant.2 = value := by
    split at found
    next name other isFound =>
      exact ⟨_, List.mem_of_find?_eq_some isFound, Except.ok.inj found⟩
    next => exact absurd found (by simp [fail])
  obtain ⟨variant, member, isValue⟩ := isVariant
  obtain ⟨⟨name, other⟩, written⟩ : ∃ first, variants.find?
      (fun variant => variant.2 = value) = some first :=
    Option.isSome_iff_exists.mp (List.find?_isSome.mpr
      ⟨variant, member, by simp [isValue]⟩)
  obtain rfl : other = value := by
    simpa using List.find?_some written
  have again : variants.find? (fun variant => variant.1 = name) =
      some (name, other) :=
    find?_name distinct (List.mem_of_find?_eq_some written)
  refine ⟨.string name, ?_, trivial, fun _ => ?_⟩
  · simp only [unitVariants, written]
    rfl
  · simp only [unitVariants, variantName, Outcome.bind_eq_ok]
    exact ⟨name, rfl, by rw [again]; rfl⟩

end Variants

section Nesting

@[simp] theorem nesting_bool : Codec.bool.nesting = 0 := rfl

@[simp] theorem nesting_u32 : u32.nesting = 0 := rfl

@[simp] theorem nesting_u64 : u64.nesting = 0 := rfl

@[simp] theorem nesting_string : string.nesting = 0 := rfl

@[simp] theorem nesting_viaString
    (print : α → Outcome SerdeError String)
    (parse : String → Outcome SerdeError α) :
    (viaString print parse).nesting = 0 := rfl

@[simp] theorem nesting_transparent
    (codec : Codec α)
    (build : α → β)
    (part : β → α) :
    (codec.transparent build part).nesting = codec.nesting := rfl

@[simp] theorem nesting_option (codec : Codec α) :
    codec.option.nesting = codec.nesting := rfl

@[simp] theorem nesting_list (codec : Codec α) :
    codec.list.nesting = codec.nesting + 1 := rfl

@[simp] theorem nesting_vector (codec : Codec α) (length : Nat) :
    (codec.vector length).nesting = codec.nesting + 1 := rfl

@[simp] theorem nesting_unitVariants
    [DecidableEq α]
    (variants : List (String × α)) :
    (unitVariants variants).nesting = 0 := rfl

end Nesting

end Codec
