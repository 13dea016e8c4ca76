import MinaMultiSig.Library.Serde

/-!
# Codecs for records and for variants with a content

A record is written as an object with an entry for each field. It is read from
an object, whose entries may come in any order and along with other entries, or
from an array with an item for each field. A variant is written as an object
with its name and its content; a content that comes before the name is kept
until the name is known.
-/

open Codec

variable {α β γ : Type}

/-- The fields of a record in the order of their declaration. A reader of an
object probes each entry in turn, and then assembles the record. -/
structure Fields (α : Type) where
  names : List String
  serialize : α → Outcome SerdeError (List (String × Json))
  probe : Origin → String → Json → Outcome SerdeError Unit
  assemble : Origin → (String → Option Json) → Outcome SerdeError α
  nesting : Nat

namespace Fields

section Construction

/-- No more fields: any other entry only has to be a value. -/
def done : Fields Unit :=
  { names := []
    serialize := fun _ => .ok []
    probe := fun _ _ json => if json.isValid then .ok () else fail .malformed
    assemble := fun _ _ => .ok ()
    nesting := 0 }

/-- The value of an entry, if there is one. -/
def readEntry
    (codec : Codec α)
    (missing : Outcome SerdeError α)
    (origin : Origin) : Option Json → Outcome SerdeError α
  | some json => codec.deserialize origin json
  | none => missing

/-- A field in front of others, with what is read where it is missing. -/
def field
    (name : String)
    (codec : Codec α)
    (missing : Outcome SerdeError α)
    (rest : Fields β) : Fields (α × β) :=
  { names := name :: rest.names
    serialize := fun values => do
      let json ← codec.serialize values.1
      let entries ← rest.serialize values.2
      return (name, json) :: entries
    probe := fun origin entry json =>
      if entry = name then (codec.deserialize origin json).map fun _ => ()
      else rest.probe origin entry json
    assemble := fun origin lookup => do
      let value ← readEntry codec missing origin (lookup name)
      let values ← rest.assemble origin lookup
      return (value, values)
    nesting := max codec.nesting rest.nesting }

/-- A field that must be there. -/
def required
    (name : String)
    (codec : Codec α)
    (rest : Fields β) : Fields (α × β) :=
  field name codec (fail .mismatch) rest

/-- A field that may be missing. -/
def optional
    (name : String)
    (codec : Codec α)
    (rest : Fields β) : Fields (Option α × β) :=
  field name codec.option (.ok none) rest

@[simp] theorem names_done : done.names = [] := rfl

@[simp] theorem names_required
    (name : String)
    (codec : Codec α)
    (rest : Fields β) :
    (required name codec rest).names = name :: rest.names := rfl

@[simp] theorem names_optional
    (name : String)
    (codec : Codec α)
    (rest : Fields β) :
    (optional name codec rest).names = name :: rest.names := rfl

@[simp] theorem nesting_done : done.nesting = 0 := rfl

@[simp] theorem nesting_required
    (name : String)
    (codec : Codec α)
    (rest : Fields β) :
    (required name codec rest).nesting = max codec.nesting rest.nesting := rfl

@[simp] theorem nesting_optional
    (name : String)
    (codec : Codec α)
    (rest : Fields β) :
    (optional name codec rest).nesting = max codec.nesting rest.nesting := rfl

end Construction

section Reading

variable (fields : Fields α)

/-- The value of the first entry with a name. -/
def lookup (entries : List (String × Json)) (name : String) : Option Json :=
  (entries.find? fun entry => entry.1 = name).map Prod.snd

/-- Go through the entries; no field may have two of them. -/
def scan (origin : Origin) :
    List String → List (String × Json) → Outcome SerdeError Unit
  | _, [] => .ok ()
  | seen, (name, json) :: rest =>
      if name ∈ fields.names ∧ name ∈ seen then fail .mismatch
      else do
        fields.probe origin name json
        scan origin (name :: seen) rest

/-- Read the fields of an object, or of a list in their order. -/
def deserialize (origin : Origin) : Json → Outcome SerdeError α
  | .object entries => do
      fields.scan origin [] entries
      fields.assemble origin (lookup entries)
  | .array items => do
      let entries := fields.names.zip items
      fields.scan origin [] entries
      if items.length = fields.names.length then
        fields.assemble origin (lookup entries)
      else fail .mismatch
  | _ => fail .mismatch

end Reading

/-- What is written for the values is read as the values. -/
structure TransmitsAs
    (fields : Fields α)
    (values : α)
    (entries : List (String × Json)) : Prop where
  written : fields.serialize values = .ok entries
  named : entries.map Prod.fst = fields.names
  fits : ∀ entry ∈ entries, entry.2.Fits fields.nesting
  probed : ∀ origin, ∀ entry ∈ entries,
    fields.probe origin entry.1 entry.2 = .ok ()
  assembled : ∀ origin lookup,
    (∀ entry ∈ entries, lookup entry.1 = some entry.2) →
      fields.assemble origin lookup = .ok values

/-- Fields with distinct names transmit all values they read. -/
def Faithful (fields : Fields α) : Prop :=
  fields.names.Nodup → ∀ origin lookup values,
    fields.assemble origin lookup = .ok values →
      ∃ entries, fields.TransmitsAs values entries

/-- The entries that are written are named as the fields. -/
def Named (fields : Fields α) : Prop :=
  ∀ values entries, fields.serialize values = .ok entries →
    entries.map Prod.fst = fields.names

theorem done_named : done.Named := by
  intro values entries written
  obtain rfl := Except.ok.inj written
  rfl

theorem field_named
    {name : String}
    {codec : Codec α}
    {missing : Outcome SerdeError α}
    {rest : Fields β}
    (named : rest.Named) :
    (field name codec missing rest).Named := by
  intro values entries written
  obtain ⟨json, -, behind⟩ := Outcome.bind_eq_ok.mp written
  obtain ⟨others, isOthers, built⟩ := Outcome.bind_eq_ok.mp behind
  obtain rfl := Except.ok.inj built
  rw [List.map_cons, named values.2 others isOthers]
  rfl

theorem done_faithful : done.Faithful := by
  intro _ _ _ values _
  refine ⟨[], rfl, rfl, ?_, ?_, fun _ _ _ => rfl⟩
  · exact fun _ member => absurd member List.not_mem_nil
  · exact fun _ _ member => absurd member List.not_mem_nil

theorem field_faithful
    {name : String}
    {codec : Codec α}
    {missing : Outcome SerdeError α}
    {rest : Fields β}
    (faithful : codec.Faithful)
    (missingTransmits : ∀ value, missing = .ok value → codec.Transmits value)
    (restFaithful : rest.Faithful) :
    (field name codec missing rest).Faithful := by
  intro distinct origin lookup values read
  obtain ⟨otherName, restDistinct⟩ := List.nodup_cons.mp distinct
  simp only [field, Outcome.bind_eq_ok] at read
  obtain ⟨value, valueRead, others, othersRead, built⟩ := read
  obtain rfl := Except.ok.inj built
  have transmits : codec.Transmits value := by
    cases entry : lookup name with
    | some json =>
        rw [entry] at valueRead
        exact faithful origin json value valueRead
    | none =>
        rw [entry] at valueRead
        exact missingTransmits value valueRead
  obtain ⟨json, valueWritten, valueFits, valueAgain⟩ := transmits
  obtain ⟨entries, restTransmits⟩ :=
    restFaithful restDistinct origin lookup others othersRead
  refine ⟨(name, json) :: entries, ?_, ?_, ?_, ?_, ?_⟩
  · apply Outcome.bind_eq_ok.mpr
    refine ⟨json, valueWritten, Outcome.bind_eq_ok.mpr ?_⟩
    exact ⟨entries, restTransmits.written, rfl⟩
  · rw [List.map_cons, restTransmits.named]
    rfl
  · intro entry member
    cases List.mem_cons.mp member with
    | inl isFirst =>
        rw [isFirst]
        exact valueFits.mono (Nat.le_max_left _ _)
    | inr inRest =>
        exact (restTransmits.fits entry inRest).mono (Nat.le_max_right _ _)
  · intro other entry member
    cases List.mem_cons.mp member with
    | inl isFirst =>
        rw [isFirst]
        simp only [field, if_pos, valueAgain other]
        rfl
    | inr inRest =>
        have differs : entry.1 ≠ name := by
          intro same
          apply otherName
          rw [← same, ← restTransmits.named]
          exact List.mem_map.mpr ⟨entry, inRest, rfl⟩
        simp only [field, if_neg differs]
        exact restTransmits.probed other entry inRest
  · intro other find found
    apply Outcome.bind_eq_ok.mpr
    refine ⟨value, ?_, Outcome.bind_eq_ok.mpr ⟨others, ?_, rfl⟩⟩
    · rw [found (name, json) List.mem_cons_self]
      exact valueAgain other
    · exact restTransmits.assembled other find fun entry inRest =>
        found entry (List.mem_cons_of_mem _ inRest)

theorem required_faithful
    {name : String}
    {codec : Codec α}
    {rest : Fields β}
    (faithful : codec.Faithful)
    (restFaithful : rest.Faithful) :
    (required name codec rest).Faithful :=
  field_faithful faithful (fun _ missing => absurd missing (by simp [fail]))
    restFaithful

theorem optional_faithful
    {name : String}
    {codec : Codec α}
    {rest : Fields β}
    (faithful : codec.Faithful)
    (rejects : codec.RejectsNull)
    (restFaithful : rest.Faithful) :
    (optional name codec rest).Faithful := by
  apply field_faithful (option_faithful faithful rejects) _ restFaithful
  intro value missing
  exact option_faithful faithful rejects .parser .null value missing

end Fields

namespace Codec

/-- A record by its fields. -/
def record
    (fields : Fields α)
    (build : α → β)
    (parts : β → α) : Codec β :=
  { serialize := fun value => do
      let entries ← fields.serialize (parts value)
      return .object entries
    deserialize := fun origin json =>
      (fields.deserialize origin json).map build
    nesting := fields.nesting + 1 }

@[simp] theorem nesting_record
    (fields : Fields α)
    (build : α → β)
    (parts : β → α) :
    (record fields build parts).nesting = fields.nesting + 1 := rfl

theorem record_rejectsNull
    {fields : Fields α}
    {build : α → β}
    {parts : β → α} :
    (record fields build parts).RejectsNull := by
  intro origin value read
  exact absurd read (by simp [record, Fields.deserialize, fail, Except.map])

/-- Entries with distinct names that can be read are gone through. -/
theorem scan_eq_ok
    {fields : Fields α}
    {origin : Origin}
    {entries : List (String × Json)}
    (probed : ∀ entry ∈ entries,
      fields.probe origin entry.1 entry.2 = .ok ())
    (distinct : (entries.map Prod.fst).Nodup)
    {seen : List String}
    (unseen : ∀ entry ∈ entries, entry.1 ∉ seen) :
    fields.scan origin seen entries = .ok () := by
  induction entries generalizing seen with
  | nil => rfl
  | cons entry rest ih =>
      rw [List.map_cons, List.nodup_cons] at distinct
      have firstUnseen := unseen entry List.mem_cons_self
      rw [Fields.scan, if_neg fun repeated => firstUnseen repeated.2,
        probed entry List.mem_cons_self]
      apply ih (fun other member => probed other (List.mem_cons_of_mem _ member))
        distinct.2
      intro other member
      rw [List.mem_cons, not_or]
      refine ⟨?_, unseen other (List.mem_cons_of_mem _ member)⟩
      intro same
      apply distinct.1
      rw [← same]
      exact List.mem_map.mpr ⟨other, member, rfl⟩

/-- A record is read from entries for its fields. -/
theorem record_reads
    {fields : Fields α}
    {build : α → β}
    {parts : β → α}
    {origin : Origin}
    {entries : List (String × Json)}
    {values : α}
    (distinct : (entries.map Prod.fst).Nodup)
    (probed : ∀ entry ∈ entries,
      fields.probe origin entry.1 entry.2 = .ok ())
    (assembled : fields.assemble origin (Fields.lookup entries) =
      .ok values) :
    (record fields build parts).deserialize origin (.object entries) =
      .ok (build values) := by
  refine map_eq_ok.mpr ⟨values, Outcome.bind_eq_ok.mpr ⟨(), ?_, assembled⟩,
    rfl⟩
  exact scan_eq_ok probed distinct fun _ _ => List.not_mem_nil

theorem exists_assemble
    {fields : Fields α}
    {origin : Origin}
    {json : Json}
    {values : α}
    (read : fields.deserialize origin json = .ok values) :
    ∃ lookup, fields.assemble origin lookup = .ok values := by
  cases json with
  | object entries =>
      obtain ⟨_, -, assembled⟩ := Outcome.bind_eq_ok.mp read
      exact ⟨_, assembled⟩
  | array items =>
      obtain ⟨_, -, assembled⟩ := Outcome.bind_eq_ok.mp read
      split at assembled
      · exact ⟨_, assembled⟩
      · exact absurd assembled (by simp [fail])
  | _ => exact absurd read (by simp [Fields.deserialize, fail])

theorem record_faithful
    {fields : Fields α}
    {build : α → β}
    {parts : β → α}
    (faithful : fields.Faithful)
    (distinct : fields.names.Nodup)
    (parts_build : ∀ values, parts (build values) = values) :
    (record fields build parts).Faithful := by
  intro origin json value read
  obtain ⟨values, valuesRead, rfl⟩ := map_eq_ok.mp read
  obtain ⟨lookup, assembled⟩ := exists_assemble valuesRead
  obtain ⟨entries, transmits⟩ :=
    faithful distinct origin lookup values assembled
  have entriesDistinct : (entries.map Prod.fst).Nodup := by
    rw [transmits.named]
    exact distinct
  refine ⟨.object entries, ?_, transmits.fits, fun other => ?_⟩
  · simp only [record, parts_build, transmits.written]
    rfl
  · apply record_reads entriesDistinct (transmits.probed other)
    apply transmits.assembled other
    rintro ⟨name, value⟩ member
    rw [Fields.lookup, find?_name entriesDistinct member]
    rfl

/-- A record is written as an object. -/
theorem exists_entries_of_record
    {fields : Fields α}
    {build : α → β}
    {parts : β → α}
    {value : β}
    {json : Json}
    (written : (record fields build parts).serialize value = .ok json) :
    ∃ entries, fields.serialize (parts value) = .ok entries ∧
      json = .object entries := by
  obtain ⟨entries, isWritten, same⟩ := Outcome.bind_eq_ok.mp written
  exact ⟨entries, isWritten, (Except.ok.inj same).symm⟩

section Tagged

variable (tag content : String)

/-- The entries from the next tag or content on. -/
def nextRelevant :
    List (String × Json) → Outcome SerdeError (List (String × Json))
  | [] => .ok []
  | (name, json) :: rest =>
      if name = tag ∨ name = content then .ok ((name, json) :: rest)
      else if json.isValid then nextRelevant rest
      else fail .malformed

/-- A value, if neither a tag nor a content comes behind it. -/
def endTagged
    (value : α)
    (rest : List (String × Json)) : Outcome SerdeError α := do
  match ← nextRelevant tag content rest with
  | [] => return value
  | _ => fail .mismatch

/-- A tag and a content in either order. -/
def readTagged
    (read : String → Origin → Json → Outcome SerdeError α)
    (origin : Origin) : Json → Outcome SerdeError α
  | .object entries => do
      match ← nextRelevant tag content entries with
      | (first, firstJson) :: rest =>
          if first = tag then do
            let name ← variantName origin firstJson
            match ← nextRelevant tag content rest with
            | (second, secondJson) :: rest =>
                if second = tag then fail .mismatch
                else do
                  let value ← read name origin secondJson
                  endTagged tag content value rest
            | [] => fail .mismatch
          else if firstJson.isValid then do
            match ← nextRelevant tag content rest with
            | (second, secondJson) :: rest =>
                if second = content then fail .mismatch
                else do
                  let name ← variantName origin secondJson
                  let value ← read name .buffer firstJson
                  endTagged tag content value rest
            | [] => fail .mismatch
          else fail .malformed
      | [] => fail .mismatch
  | .array (tagJson :: contentJson :: more) => do
      let name ← variantName origin tagJson
      let value ← read name origin contentJson
      if more.isEmpty then return value else fail .mismatch
  | _ => fail .mismatch

/-- Variants with their name in one entry and their content in another. -/
def tagged
    (write : α → Outcome SerdeError (String × Json))
    (read : String → Origin → Json → Outcome SerdeError α)
    (nesting : Nat) : Codec α :=
  { serialize := fun value => do
      let (name, json) ← write value
      return .object [(tag, .string name), (content, json)]
    deserialize := readTagged tag content read
    nesting := nesting + 1 }

@[simp] theorem nesting_tagged
    (write : α → Outcome SerdeError (String × Json))
    (read : String → Origin → Json → Outcome SerdeError α)
    (nesting : Nat) :
    (tagged tag content write read nesting).nesting = nesting + 1 := rfl

variable {tag content}

/-- What is read is the content of some variant. -/
theorem exists_read
    {read : String → Origin → Json → Outcome SerdeError α}
    {origin : Origin}
    {json : Json}
    {value : α}
    (succeeds : readTagged tag content read origin json = .ok value) :
    ∃ name contentOrigin contentJson,
      read name contentOrigin contentJson = .ok value := by
  have ended : ∀ {result : α} {rest : List (String × Json)},
      endTagged tag content result rest = .ok value → result = value := by
    intro result rest ends
    obtain ⟨others, -, isResult⟩ := Outcome.bind_eq_ok.mp ends
    cases others with
    | nil => exact Except.ok.inj isResult
    | cons other others => exact absurd isResult (by simp [fail])
  unfold readTagged at succeeds
  split at succeeds
  · obtain ⟨relevant, -, succeeds⟩ := Outcome.bind_eq_ok.mp succeeds
    split at succeeds
    · split at succeeds
      · obtain ⟨name, -, succeeds⟩ := Outcome.bind_eq_ok.mp succeeds
        obtain ⟨others, -, succeeds⟩ := Outcome.bind_eq_ok.mp succeeds
        split at succeeds
        · split at succeeds
          · exact absurd succeeds (by simp [fail])
          · obtain ⟨result, isRead, ends⟩ := Outcome.bind_eq_ok.mp succeeds
            exact ⟨_, _, _, ended ends ▸ isRead⟩
        · exact absurd succeeds (by simp [fail])
      · split at succeeds
        · obtain ⟨others, -, succeeds⟩ := Outcome.bind_eq_ok.mp succeeds
          split at succeeds
          · split at succeeds
            · exact absurd succeeds (by simp [fail])
            · obtain ⟨name, -, succeeds⟩ := Outcome.bind_eq_ok.mp succeeds
              obtain ⟨result, isRead, ends⟩ := Outcome.bind_eq_ok.mp succeeds
              exact ⟨_, _, _, ended ends ▸ isRead⟩
          · exact absurd succeeds (by simp [fail])
        · exact absurd succeeds (by simp [fail])
    · exact absurd succeeds (by simp [fail])
  · obtain ⟨name, -, succeeds⟩ := Outcome.bind_eq_ok.mp succeeds
    obtain ⟨result, isRead, succeeds⟩ := Outcome.bind_eq_ok.mp succeeds
    split at succeeds
    · exact ⟨_, _, _, Except.ok.inj succeeds ▸ isRead⟩
    · exact absurd succeeds (by simp [fail])
  · exact absurd succeeds (by simp [fail])

/-- A variant is read from its name and a content behind it. -/
theorem deserialize_tagged
    {write : α → Outcome SerdeError (String × Json)}
    {read : String → Origin → Json → Outcome SerdeError α}
    {nesting : Nat}
    {name : String}
    {origin : Origin}
    {json : Json}
    {value : α}
    (distinct : tag ≠ content)
    (isRead : read name origin json = .ok value) :
    (tagged tag content write read nesting).deserialize origin
      (.object [(tag, .string name), (content, json)]) = .ok value := by
  have atTag : nextRelevant tag content
      [(tag, .string name), (content, json)] =
        .ok [(tag, .string name), (content, json)] := by
    rw [nextRelevant, if_pos (Or.inl rfl)]
  have atContent : nextRelevant tag content [(content, json)] =
      .ok [(content, json)] := by
    rw [nextRelevant, if_pos (Or.inr rfl)]
  simp only [tagged, readTagged, atTag]
  apply Outcome.bind_eq_ok.mpr
  refine ⟨_, rfl, ?_⟩
  simp only [if_true, variantName]
  apply Outcome.bind_eq_ok.mpr
  refine ⟨name, rfl, Outcome.bind_eq_ok.mpr ⟨_, atContent, ?_⟩⟩
  simp only [if_neg distinct.symm]
  exact Outcome.bind_eq_ok.mpr ⟨value, isRead, rfl⟩

theorem tagged_faithful
    {write : α → Outcome SerdeError (String × Json)}
    {read : String → Origin → Json → Outcome SerdeError α}
    {nesting : Nat}
    (distinct : tag ≠ content)
    (again : ∀ name origin json value, read name origin json = .ok value →
      ∃ written, write value = .ok written ∧ written.2.Fits nesting ∧
        ∀ other, read written.1 other written.2 = .ok value) :
    (tagged tag content write read nesting).Faithful := by
  intro origin json value succeeds
  obtain ⟨name, contentOrigin, contentJson, isRead⟩ := exists_read succeeds
  obtain ⟨⟨writtenName, out⟩, written, fits, readAgain⟩ :=
    again name contentOrigin contentJson value isRead
  refine ⟨.object [(tag, .string writtenName), (content, out)], ?_, ?_, ?_⟩
  · simp only [tagged, written]
    rfl
  · intro entry member
    simp only [List.mem_cons, List.not_mem_nil, or_false] at member
    obtain rfl | rfl := member
    · exact Json.Fits.mono (Nat.zero_le nesting) trivial
    · exact fits
  · intro other
    exact deserialize_tagged distinct (readAgain other)

end Tagged

end Codec
