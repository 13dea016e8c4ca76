import MinaMultiSig.Library.SerdeRecord

/-!
# What readers run into

A reader panics only where the reader of a part panics, and it comes to this
part only if everything in front of it can be read. What holds for all values of
the parts is known of the values that are read.
-/

open Codec

variable {α β : Type}

namespace Codec

section PanicFree

/-- No document makes the reader panic. -/
def PanicFree (codec : Codec α) : Prop :=
  ∀ origin json, codec.deserialize origin json ≠ .error .panic

theorem fail_ne_panic (reason : SerdeError) :
    (fail reason : Outcome SerdeError α) ≠ .error .panic := by
  simp [fail]

theorem bool_panicFree : bool.PanicFree := by
  intro origin json
  cases json with
  | bool value => simp [Codec.bool]
  | _ => exact fail_ne_panic .mismatch

theorem u64_panicFree : u64.PanicFree := by
  intro origin json
  cases json with
  | natural value => simp [u64]
  | _ => exact fail_ne_panic .mismatch

theorem u32_panicFree : u32.PanicFree := by
  intro origin json
  cases json with
  | natural value =>
      simp only [u32]
      split
      · simp
      · exact fail_ne_panic .mismatch
  | _ => exact fail_ne_panic .mismatch

theorem string_panicFree : string.PanicFree := by
  intro origin json
  cases json with
  | string text => simp [string]
  | _ => exact fail_ne_panic .mismatch

variable {codec : Codec α}

theorem viaString_panicFree
    {print : α → Outcome SerdeError String}
    {parse : String → Outcome SerdeError α}
    (safe : ∀ text, parse text ≠ .error .panic) :
    (viaString print parse).PanicFree := by
  intro origin json panics
  obtain ⟨text, -, parsing⟩ :=
    Outcome.panic_behind (string_panicFree origin json) panics
  exact safe text parsing

theorem transparent_panicFree
    {build : α → β}
    {part : β → α}
    (safe : codec.PanicFree) :
    (codec.transparent build part).PanicFree := by
  intro origin json panics
  exact safe origin json (Outcome.map_eq_panic.mp panics)

theorem option_panicFree
    (safe : codec.PanicFree) :
    codec.option.PanicFree := by
  intro origin json panics
  simp only [option] at panics
  split at panics
  · exact absurd panics (by simp)
  · exact safe origin _ (Outcome.map_eq_panic.mp panics)

theorem list_panicFree
    (safe : codec.PanicFree) :
    codec.list.PanicFree := by
  intro origin json
  cases json with
  | array items => exact Outcome.mapM_ne_panic fun item _ => safe origin item
  | _ => exact fail_ne_panic .mismatch

theorem vector_panicFree
    {length : Nat}
    (safe : codec.PanicFree) :
    (codec.vector length).PanicFree := by
  intro origin json panics
  obtain ⟨values, -, built⟩ :=
    Outcome.panic_behind (list_panicFree safe origin json) panics
  split at built
  · exact absurd built (by simp [pure, Except.pure])
  · exact fail_ne_panic .mismatch built

theorem variantName_ne_panic
    (origin : Origin)
    (json : Json) :
    variantName origin json ≠ .error .panic := by
  unfold variantName
  split
  · simp
  · split
    · simp
    · exact fail_ne_panic .mismatch
  · exact fail_ne_panic .mismatch

theorem unitVariants_panicFree
    [DecidableEq α]
    {variants : List (String × α)} :
    (unitVariants variants).PanicFree := by
  intro origin json panics
  obtain ⟨name, -, found⟩ :=
    Outcome.panic_behind (variantName_ne_panic origin json) panics
  split at found
  · exact absurd found (by simp [pure, Except.pure])
  · exact fail_ne_panic .mismatch found

end PanicFree

end Codec

namespace Fields

section Reaching

variable (fields : Fields α)

/-- The entries a reader of the fields goes through. -/
def entriesOf : Json → Option (List (String × Json))
  | .object entries => some entries
  | .array items => some (fields.names.zip items)
  | _ => none

/-- A reader of the fields comes to an entry: everything in front of it can be
read, and it is not the second one for a field. -/
def Reaches
    (origin : Origin)
    (document : Json)
    (name : String)
    (json : Json) : Prop :=
  ∃ before behind,
    fields.entriesOf document = some (before ++ (name, json) :: behind) ∧
    fields.scan origin [] before = .ok () ∧
    ¬(name ∈ fields.names ∧ name ∈ before.map Prod.fst)

/-- The record is assembled without a panic if its entries can be read. -/
def Settled : Prop :=
  ∀ origin lookup,
    (∀ name ∈ fields.names, ∀ json, lookup name = some json →
      fields.probe origin name json ≠ .error .panic) →
    fields.assemble origin lookup ≠ .error .panic

variable {fields} {origin : Origin}

/-- Entries that are gone through can be read. -/
theorem probe_of_scan
    {seen : List String}
    {entries : List (String × Json)}
    (scanned : fields.scan origin seen entries = .ok ()) :
    ∀ entry ∈ entries, fields.probe origin entry.1 entry.2 = .ok () := by
  induction entries generalizing seen with
  | nil =>
      intro entry member
      exact absurd member List.not_mem_nil
  | cons first rest ih =>
      unfold scan at scanned
      split at scanned
      · exact absurd scanned (by simp [fail])
      · obtain ⟨_, probed, restScanned⟩ := Outcome.bind_eq_ok.mp scanned
        intro entry member
        cases List.mem_cons.mp member with
        | inl isFirst =>
            rw [isFirst]
            exact probed
        | inr inRest => exact ih restScanned entry inRest

/-- Going through the entries panics at an entry that panics. -/
theorem scan_eq_panic_iff
    {seen : List String}
    {entries : List (String × Json)} :
    fields.scan origin seen entries = .error .panic ↔
      ∃ before name json behind, entries = before ++ (name, json) :: behind ∧
        fields.scan origin seen before = .ok () ∧
        ¬(name ∈ fields.names ∧
          (name ∈ seen ∨ name ∈ before.map Prod.fst)) ∧
        fields.probe origin name json = .error .panic := by
  induction entries generalizing seen with
  | nil => simp [scan]
  | cons first rest ih =>
      obtain ⟨firstName, firstJson⟩ := first
      constructor
      · intro panics
        unfold scan at panics
        split at panics
        · exact absurd panics (fail_ne_panic .mismatch)
        next firstSeen =>
        rcases Outcome.bind_eq_panic.mp panics with
          probing | ⟨_, probed, scanning⟩
        · exact ⟨[], firstName, firstJson, rest, rfl, rfl, by simpa using
            firstSeen, probing⟩
        · obtain ⟨before, name, json, behind, rfl, scanned, unseen, probing⟩ :=
            ih.mp scanning
          refine ⟨(firstName, firstJson) :: before, name, json, behind, rfl,
            ?_, ?_, probing⟩
          · unfold scan
            rw [if_neg firstSeen, probed]
            exact scanned
          · simpa [or_assoc, or_left_comm] using unseen
      · rintro ⟨before, name, json, behind, same, scanned, unseen, probing⟩
        cases before with
        | nil =>
            obtain ⟨isFirst, -⟩ := List.cons.inj same
            obtain ⟨rfl, rfl⟩ := Prod.mk.inj isFirst
            unfold scan
            rw [if_neg (by simpa using unseen), probing]
            rfl
        | cons other before =>
            obtain ⟨rfl, rfl⟩ := List.cons.inj same
            unfold scan at scanned ⊢
            split at scanned
            · exact absurd scanned (by simp [fail])
            next firstSeen =>
            obtain ⟨_, probed, beforeScanned⟩ := Outcome.bind_eq_ok.mp scanned
            rw [if_neg firstSeen, probed]
            apply ih.mpr
            refine ⟨before, name, json, behind, rfl, beforeScanned, ?_,
              probing⟩
            simpa [or_assoc, or_left_comm] using unseen

/-- The records of these fields panic at an entry they come to. -/
theorem deserialize_eq_panic_iff
    (settled : fields.Settled)
    {document : Json} :
    fields.deserialize origin document = .error .panic ↔
      ∃ name json, fields.Reaches origin document name json ∧
        fields.probe origin name json = .error .panic := by
  have assembles : ∀ {entries : List (String × Json)},
      fields.scan origin [] entries = .ok () →
        fields.assemble origin (lookup entries) ≠ .error .panic := by
    intro entries scanned
    apply settled
    intro name _ json found
    obtain ⟨entry, isEntry, rfl⟩ := Option.map_eq_some_iff.mp found
    have probed := probe_of_scan scanned entry
      (List.mem_of_find?_eq_some isEntry)
    have sameName : entry.1 = name := by
      simpa using List.find?_some isEntry
    rw [← sameName, probed]
    simp
  have reached : ∀ {entries : List (String × Json)},
      fields.entriesOf document = some entries →
        (fields.scan origin [] entries = .error .panic ↔
          ∃ name json, fields.Reaches origin document name json ∧
            fields.probe origin name json = .error .panic) := by
    intro entries isEntries
    unfold Reaches
    rw [scan_eq_panic_iff, isEntries]
    simp only [Option.some.injEq, List.not_mem_nil, false_or]
    constructor
    · rintro ⟨before, name, json, behind, same, scanned, unseen, probing⟩
      exact ⟨name, json, ⟨before, behind, same, scanned, unseen⟩, probing⟩
    · rintro ⟨name, json, ⟨before, behind, same, scanned, unseen⟩, probing⟩
      exact ⟨before, name, json, behind, same, scanned, unseen, probing⟩
  have unreached : fields.entriesOf document = none →
      ¬∃ name json, fields.Reaches origin document name json ∧
        fields.probe origin name json = .error .panic := by
    rintro isNone ⟨name, json, ⟨before, behind, isSome, -⟩, -⟩
    rw [isNone] at isSome
    exact absurd isSome (by simp)
  cases document with
  | object entries =>
      rw [← reached rfl, deserialize, Outcome.bind_eq_panic]
      apply or_iff_left
      rintro ⟨_, scanned, assembling⟩
      exact assembles scanned assembling
  | array items =>
      rw [← reached rfl, deserialize]
      simp only [Outcome.bind_eq_panic]
      apply or_iff_left
      rintro ⟨_, scanned, assembling⟩
      split at assembling
      · exact assembles scanned assembling
      · exact fail_ne_panic .mismatch assembling
  | _ => exact iff_of_false (fail_ne_panic .mismatch) (unreached rfl)

end Reaching

section Settling

theorem done_settled : done.Settled := by
  intro origin lookup _
  simp [done]

theorem field_settled
    {name : String}
    {codec : Codec α}
    {missing : Outcome SerdeError α}
    {rest : Fields β}
    (otherName : name ∉ rest.names)
    (missingSafe : missing ≠ .error .panic)
    (restSettled : rest.Settled) :
    (field name codec missing rest).Settled := by
  intro origin lookup probes panics
  rcases Outcome.bind_eq_panic.mp panics with reading | ⟨value, -, behind⟩
  · cases entry : lookup name with
    | none =>
        rw [entry] at reading
        exact missingSafe reading
    | some json =>
        rw [entry] at reading
        apply probes name List.mem_cons_self json entry
        simp only [field, if_pos]
        exact Outcome.map_eq_panic.mpr reading
  · rcases Outcome.bind_eq_panic.mp behind with others | ⟨values, -, built⟩
    · apply restSettled origin lookup _ others
      intro other member json entry
      have differs : other ≠ name := by
        rintro rfl
        exact otherName member
      have probed := probes other (List.mem_cons_of_mem name member) json entry
      simpa only [field, if_neg differs] using probed
    · exact absurd built (by simp [pure, Except.pure])

theorem required_settled
    {name : String}
    {codec : Codec α}
    {rest : Fields β}
    (otherName : name ∉ rest.names)
    (restSettled : rest.Settled) :
    (required name codec rest).Settled :=
  field_settled otherName (fail_ne_panic .mismatch) restSettled

end Settling

section PanicFree

/-- No entry and no missing entry makes the reader panic. -/
structure PanicFree (fields : Fields α) : Prop where
  probe : ∀ origin name json,
    fields.probe origin name json ≠ .error .panic
  assemble : ∀ origin lookup, fields.assemble origin lookup ≠ .error .panic

theorem done_panicFree : done.PanicFree := by
  constructor
  · intro origin name json
    simp only [done]
    split
    · simp
    · exact fail_ne_panic .malformed
  · intro origin lookup
    simp [done]

theorem field_panicFree
    {name : String}
    {codec : Codec α}
    {missing : Outcome SerdeError α}
    {rest : Fields β}
    (safe : codec.PanicFree)
    (missingSafe : missing ≠ .error .panic)
    (restSafe : rest.PanicFree) :
    (field name codec missing rest).PanicFree := by
  constructor
  · intro origin entry json panics
    simp only [field] at panics
    split at panics
    · exact safe origin json (Outcome.map_eq_panic.mp panics)
    · exact restSafe.probe origin entry json panics
  · intro origin lookup panics
    rcases Outcome.bind_eq_panic.mp panics with reading | ⟨value, -, behind⟩
    · cases entry : lookup name with
      | none =>
          rw [entry] at reading
          exact missingSafe reading
      | some json =>
          rw [entry] at reading
          exact safe origin json reading
    · rcases Outcome.bind_eq_panic.mp behind with others | ⟨values, -, built⟩
      · exact restSafe.assemble origin lookup others
      · exact absurd built (by simp [pure, Except.pure])

theorem required_panicFree
    {name : String}
    {codec : Codec α}
    {rest : Fields β}
    (safe : codec.PanicFree)
    (restSafe : rest.PanicFree) :
    (required name codec rest).PanicFree :=
  field_panicFree safe (fail_ne_panic .mismatch) restSafe

theorem optional_panicFree
    {name : String}
    {codec : Codec α}
    {rest : Fields β}
    (safe : codec.PanicFree)
    (restSafe : rest.PanicFree) :
    (optional name codec rest).PanicFree :=
  field_panicFree (option_panicFree safe) (by simp) restSafe

end PanicFree

section Ignoring

/-- Entries for other names are gone through without a panic. -/
def Ignores (fields : Fields α) : Prop :=
  ∀ origin name json, name ∉ fields.names →
    fields.probe origin name json ≠ .error .panic

theorem done_ignores : done.Ignores :=
  fun origin name json _ => done_panicFree.probe origin name json

theorem field_ignores
    {name : String}
    {codec : Codec α}
    {missing : Outcome SerdeError α}
    {rest : Fields β}
    (ignores : rest.Ignores) :
    (field name codec missing rest).Ignores := by
  intro origin other json foreign
  obtain ⟨otherName, inRest⟩ := not_or.mp (mt List.mem_cons.mpr foreign)
  simp only [field, if_neg otherName]
  exact ignores origin other json inRest

end Ignoring

end Fields

namespace Codec

/-- The reader of a record panics at an entry it comes to. -/
theorem record_eq_panic_iff
    {fields : Fields α}
    {build : α → β}
    {parts : β → α}
    (settled : fields.Settled)
    {origin : Origin}
    {document : Json} :
    (record fields build parts).deserialize origin document =
        .error .panic ↔
      ∃ name json, fields.Reaches origin document name json ∧
        fields.probe origin name json = .error .panic :=
  Outcome.map_eq_panic.trans (Fields.deserialize_eq_panic_iff settled)

theorem record_panicFree
    {fields : Fields α}
    {build : α → β}
    {parts : β → α}
    (safe : fields.PanicFree) :
    (record fields build parts).PanicFree := by
  intro origin document panics
  have settled : fields.Settled :=
    fun other lookup _ => safe.assemble other lookup
  obtain ⟨name, json, -, probing⟩ := (record_eq_panic_iff settled).mp panics
  exact safe.probe origin name json probing

/-- Entries that are not for the record do not make its reader panic. -/
theorem record_ne_panic_of_foreign
    {fields : Fields α}
    {build : α → β}
    {parts : β → α}
    {origin : Origin}
    {entries : List (String × Json)}
    (settled : fields.Settled)
    (ignores : fields.Ignores)
    (foreign : ∀ name ∈ entries.map Prod.fst, name ∉ fields.names) :
    (record fields build parts).deserialize origin (.object entries) ≠
      .error .panic := by
  intro panics
  obtain ⟨name, json, ⟨before, behind, isEntries, -⟩, probing⟩ :=
    (record_eq_panic_iff settled).mp panics
  obtain rfl := Option.some.inj isEntries
  exact ignores origin name json (foreign name (by simp)) probing

/-- A record is not read where the entry of its first field is missing. -/
theorem record_rejects
    {name : String}
    {codec : Codec α}
    {rest : Fields β}
    {build : α × β → γ}
    {parts : γ → α × β}
    {origin : Origin}
    {entries : List (String × Json)}
    (absent : name ∉ entries.map Prod.fst)
    (safe : (record (Fields.required name codec rest) build
      parts).deserialize origin (.object entries) ≠ .error .panic) :
    ∃ reason, (record (Fields.required name codec rest) build
      parts).deserialize origin (.object entries) =
        .error (.error reason) := by
  have missing : Fields.lookup entries name = none := by
    rw [Fields.lookup, Option.map_eq_none_iff, List.find?_eq_none]
    intro entry member sameName
    apply absent
    rw [← of_decide_eq_true sameName]
    exact List.mem_map_of_mem member
  rcases read : (record (Fields.required name codec rest) build
      parts).deserialize origin (.object entries) with (reason | _) | value
  · exact ⟨reason, rfl⟩
  · exact absurd read safe
  · obtain ⟨values, isValues, -⟩ := map_eq_ok.mp read
    obtain ⟨_, -, assembled⟩ := Outcome.bind_eq_ok.mp isValues
    obtain ⟨_, isFirst, -⟩ := Outcome.bind_eq_ok.mp assembled
    rw [missing] at isFirst
    exact absurd isFirst (by simp [Fields.readEntry, fail])

section Tagged

variable (tag content : String)

/-- A reader of variants comes to a content, whose name it knows then. -/
inductive Selects
    (origin : Origin) : Json → String → Origin → Json → Prop
  | behindTag
      {entries rest behind : List (String × Json)}
      {tagJson contentJson : Json}
      {name : String}
      (first : nextRelevant tag content entries = .ok ((tag, tagJson) :: rest))
      (named : variantName origin tagJson = .ok name)
      (second : nextRelevant tag content rest =
        .ok ((content, contentJson) :: behind)) :
      Selects origin (.object entries) name origin contentJson
  | beforeTag
      {entries rest behind : List (String × Json)}
      {tagJson contentJson : Json}
      {name : String}
      (first : nextRelevant tag content entries =
        .ok ((content, contentJson) :: rest))
      (valid : contentJson.isValid = true)
      (second : nextRelevant tag content rest =
        .ok ((tag, tagJson) :: behind))
      (named : variantName origin tagJson = .ok name) :
      Selects origin (.object entries) name .buffer contentJson
  | ofArray
      {tagJson contentJson : Json}
      {more : List Json}
      {name : String}
      (named : variantName origin tagJson = .ok name) :
      Selects origin (.array (tagJson :: contentJson :: more)) name origin
        contentJson

variable {tag content}

theorem nextRelevant_ne_panic (entries : List (String × Json)) :
    nextRelevant tag content entries ≠ .error .panic := by
  induction entries with
  | nil => simp [nextRelevant]
  | cons entry rest ih =>
      unfold nextRelevant
      split
      · simp
      · split
        · exact ih
        · exact fail_ne_panic .malformed

/-- The next relevant entry is a tag or a content. -/
theorem name_of_nextRelevant
    {entries rest : List (String × Json)}
    {name : String}
    {json : Json}
    (next : nextRelevant tag content entries = .ok ((name, json) :: rest)) :
    name = tag ∨ name = content := by
  induction entries with
  | nil => simp [nextRelevant] at next
  | cons entry others ih =>
      unfold nextRelevant at next
      split at next
      next relevant =>
        obtain ⟨rfl, rfl⟩ := Prod.mk.inj (List.cons.inj (Except.ok.inj next)).1
        exact relevant
      next =>
        split at next
        · exact ih next
        · exact absurd next (by simp [fail])

theorem endTagged_ne_panic
    (value : α)
    (rest : List (String × Json)) :
    endTagged tag content value rest ≠ .error .panic := by
  intro panics
  obtain ⟨others, -, ended⟩ :=
    Outcome.panic_behind (nextRelevant_ne_panic rest) panics
  cases others with
  | nil => exact absurd ended (by simp [pure, Except.pure])
  | cons other others => exact fail_ne_panic .mismatch ended

variable {read : String → Origin → Json → Outcome SerdeError α}
  {origin : Origin}

/-- A reader of variants panics at the content it comes to. -/
theorem exists_selects_of_panic
    {document : Json}
    (panics : readTagged tag content read origin document = .error .panic) :
    ∃ name contentOrigin json,
      Selects tag content origin document name contentOrigin json ∧
        read name contentOrigin json = .error .panic := by
  have atRead : ∀ {name : String} {other : Origin} {json : Json}
      {behind : List (String × Json)},
      (do
        let value ← read name other json
        endTagged tag content value behind) = .error .panic →
        read name other json = .error .panic := by
    intro name other json behind reading
    rcases Outcome.bind_eq_panic.mp reading with atOnce | ⟨value, -, ending⟩
    · exact atOnce
    · exact absurd ending (endTagged_ne_panic value behind)
  unfold readTagged at panics
  split at panics
  · obtain ⟨relevant, first, panics⟩ :=
      Outcome.panic_behind (nextRelevant_ne_panic _) panics
    split at panics
    next firstName firstJson rest =>
      split at panics
      next isTag =>
        subst isTag
        obtain ⟨name, named, panics⟩ :=
          Outcome.panic_behind (variantName_ne_panic _ _) panics
        obtain ⟨others, second, panics⟩ :=
          Outcome.panic_behind (nextRelevant_ne_panic _) panics
        split at panics
        next secondName secondJson behind =>
          split at panics
          · exact absurd panics (fail_ne_panic .mismatch)
          next notTag =>
          have isContent := name_of_nextRelevant second
          obtain rfl := isContent.resolve_left notTag
          exact ⟨name, origin, secondJson, .behindTag first named second,
            atRead panics⟩
        next => exact absurd panics (fail_ne_panic .mismatch)
      next notTag =>
        obtain rfl := (name_of_nextRelevant first).resolve_left notTag
        split at panics
        next valid =>
          obtain ⟨others, second, panics⟩ :=
            Outcome.panic_behind (nextRelevant_ne_panic _) panics
          split at panics
          next secondName secondJson behind =>
            split at panics
            · exact absurd panics (fail_ne_panic .mismatch)
            next notContent =>
            obtain rfl :=
              (name_of_nextRelevant second).resolve_right notContent
            obtain ⟨name, named, panics⟩ :=
              Outcome.panic_behind (variantName_ne_panic _ _) panics
            exact ⟨name, .buffer, firstJson,
              .beforeTag first valid second named, atRead panics⟩
          next => exact absurd panics (fail_ne_panic .mismatch)
        next => exact absurd panics (fail_ne_panic .malformed)
    next => exact absurd panics (fail_ne_panic .mismatch)
  · obtain ⟨name, named, panics⟩ :=
      Outcome.panic_behind (variantName_ne_panic _ _) panics
    rcases Outcome.bind_eq_panic.mp panics with reading | ⟨value, -, ending⟩
    · exact ⟨name, origin, _, .ofArray named, reading⟩
    · split at ending
      · exact absurd ending (by simp [pure, Except.pure])
      · exact absurd ending (fail_ne_panic .mismatch)
  · exact absurd panics (fail_ne_panic .mismatch)

/-- The content is read as soon as the reader has come to it. -/
theorem panic_of_selects
    (distinct : tag ≠ content)
    {document json : Json}
    {name : String}
    {contentOrigin : Origin}
    (selects : Selects tag content origin document name contentOrigin json)
    (reading : read name contentOrigin json = .error .panic) :
    readTagged tag content read origin document = .error .panic := by
  cases selects with
  | behindTag first named second =>
      unfold readTagged
      refine Outcome.bind_eq_panic.mpr (Or.inr ⟨_, first, ?_⟩)
      dsimp only
      rw [if_pos rfl]
      refine Outcome.bind_eq_panic.mpr (Or.inr ⟨_, named, ?_⟩)
      refine Outcome.bind_eq_panic.mpr (Or.inr ⟨_, second, ?_⟩)
      dsimp only
      rw [if_neg distinct.symm]
      exact Outcome.bind_eq_panic.mpr (Or.inl reading)
  | beforeTag first valid second named =>
      unfold readTagged
      refine Outcome.bind_eq_panic.mpr (Or.inr ⟨_, first, ?_⟩)
      dsimp only
      rw [if_neg distinct.symm, if_pos valid]
      refine Outcome.bind_eq_panic.mpr (Or.inr ⟨_, second, ?_⟩)
      dsimp only
      rw [if_neg distinct]
      refine Outcome.bind_eq_panic.mpr (Or.inr ⟨_, named, ?_⟩)
      exact Outcome.bind_eq_panic.mpr (Or.inl reading)
  | ofArray named =>
      unfold readTagged
      refine Outcome.bind_eq_panic.mpr (Or.inr ⟨_, named, ?_⟩)
      exact Outcome.bind_eq_panic.mpr (Or.inl reading)

end Tagged

end Codec

section Yields

/-- All values that are read have a property. -/
def Codec.Yields (codec : Codec α) (property : α → Prop) : Prop :=
  ∀ origin json value, codec.deserialize origin json = .ok value →
    property value

/-- All records that are assembled have a property. -/
def Fields.Yields (fields : Fields α) (property : α → Prop) : Prop :=
  ∀ origin lookup values, fields.assemble origin lookup = .ok values →
    property values

variable {codec : Codec α} {property : α → Prop}

theorem Codec.viaString_yields
    {print : α → Outcome SerdeError String}
    {parse : String → Outcome SerdeError α}
    (parsed : ∀ text value, parse text = .ok value → property value) :
    (viaString print parse).Yields property := by
  intro origin json value read
  obtain ⟨text, -, isValue⟩ := Outcome.bind_eq_ok.mp read
  exact parsed text value isValue

theorem Codec.option_yields
    (yields : codec.Yields property) :
    codec.option.Yields fun value => ∀ inner ∈ value, property inner := by
  intro origin json value read inner member
  obtain rfl := Option.mem_def.mp member
  simp only [option] at read
  split at read
  · exact absurd read (by simp)
  · obtain ⟨part, partRead, same⟩ := map_eq_ok.mp read
    rw [← Option.some.inj same]
    exact yields origin _ part partRead

theorem Codec.list_yields
    (yields : codec.Yields property) :
    codec.list.Yields fun values => ∀ value ∈ values, property value := by
  intro origin json values read value member
  cases json with
  | array items =>
      obtain ⟨item, -, isValue⟩ := Outcome.mem_of_mapM_eq_ok read value member
      exact yields origin item value isValue
  | _ => exact absurd read (by simp [list, fail])

variable {name : String} {missing : Outcome SerdeError α} {rest : Fields β}

/-- The parts of a record that is assembled. -/
theorem Fields.exists_of_assemble
    {origin : Origin}
    {lookup : String → Option Json}
    {values : α × β}
    (assembled :
      (field name codec missing rest).assemble origin lookup = .ok values) :
    readEntry codec missing origin (lookup name) = .ok values.1 ∧
      rest.assemble origin lookup = .ok values.2 := by
  obtain ⟨value, isValue, behind⟩ := Outcome.bind_eq_ok.mp assembled
  obtain ⟨others, isOthers, built⟩ := Outcome.bind_eq_ok.mp behind
  obtain rfl := Except.ok.inj built
  exact ⟨isValue, isOthers⟩

theorem Fields.field_yields
    (yields : codec.Yields property)
    (missingYields : ∀ value, missing = .ok value → property value) :
    (field name codec missing rest).Yields fun values =>
      property values.1 := by
  intro origin lookup values assembled
  have isValue := (exists_of_assemble assembled).1
  cases entry : lookup name with
  | some json =>
      rw [entry] at isValue
      exact yields origin json values.1 isValue
  | none =>
      rw [entry] at isValue
      exact missingYields values.1 isValue

theorem Fields.required_yields
    (yields : codec.Yields property) :
    (required name codec rest).Yields fun values => property values.1 :=
  field_yields yields fun _ isMissing => absurd isMissing (by simp [fail])

theorem Fields.optional_yields
    (yields : codec.Yields property) :
    (optional name codec rest).Yields fun values =>
      ∀ inner ∈ values.1, property inner := by
  apply field_yields (option_yields yields)
  intro value isMissing inner member
  rw [← Except.ok.inj isMissing] at member
  exact absurd member (Option.not_mem_none inner)

/-- What holds for the fields behind the first one. -/
theorem Fields.field_yields_rest
    {restProperty : β → Prop}
    (yields : rest.Yields restProperty) :
    (field name codec missing rest).Yields fun values =>
      restProperty values.2 := by
  intro origin lookup values assembled
  exact yields origin lookup values.2 (exists_of_assemble assembled).2

theorem Codec.record_yields
    {fields : Fields α}
    {build : α → β}
    {parts : β → α}
    {built : β → Prop}
    (yields : fields.Yields fun values => built (build values)) :
    (record fields build parts).Yields built := by
  intro origin json value read
  obtain ⟨values, valuesRead, rfl⟩ := map_eq_ok.mp read
  obtain ⟨lookup, assembled⟩ := exists_assemble valuesRead
  exact yields origin lookup values assembled

end Yields
