import MinaMultiSig.Cli.Commands

/-!
# Address books over runs of commands

What a change of a config keeps, every run of commands keeps. The contacts of an
address book stand under their names and without a version, so that no text it
lists can be imported. Without a trusted dealer no two of them have one key.
-/

namespace MinaMultiSig
namespace Cli

variable {env : Environment} {files next : Files}
  {config changed : Config} {contact : Contact}

/-- The contacts stand under their names, without a version. -/
def Config.Named (config : Config) : Prop :=
  ∀ name contact, config.contact.lookup name = some contact →
    contact.name = name ∧ contact.version = none

/-- No two contacts have one key. -/
def Config.Distinct (config : Config) : Prop :=
  ∀ first second known other, config.contact.lookup first = some known →
    config.contact.lookup second = some other →
      known.pubkey = other.pubkey → first = second

/-- The participants of a group have identifiers of a set and stand under their
digits. -/
def Group.Keyed
    (group : Group)
    (identifiers : Set (List UInt8)) : Prop :=
  ∀ digits participant, group.participant.lookup digits = some participant →
    digits = Hex.encode participant.identifier ∧
      participant.identifier ∈ identifiers

/-- The identifiers of the shares of a dealt key. -/
def Dealt.identifiers (dealt : Dealt) : Set (List UInt8) :=
  { written | written ∈ dealt.shares.map Prod.fst }

/-- Every file is read, and its config has the property. -/
def Environment.Hold
    (env : Environment)
    (property : Config → Prop)
    (files : Files) : Prop :=
  ∀ path, ∃ config, env.read files path = .ok config ∧ property config

/-- A trusted dealer writes contacts without looking at those that are there. -/
def Command.IsDealer : Command → Prop
  | .trustedDealer _ _ => True
  | _ => False

section Changes

/-- What an import changes, and when it does. -/
theorem importContact_eq_ok_iff
    {text : String} :
    config.importContact env.bech32 text = .ok changed ↔
      ∃ contact, Contact.fromText env.bech32 text = .ok contact ∧
        config.contact.lookup contact.name = none ∧
        (∀ known ∈ config.contact.values, known.pubkey ≠ contact.pubkey) ∧
        config.communicationKey.map CommunicationKey.pubkey ≠
          some contact.pubkey ∧
        changed = { config with
          contact := config.contact.insert contact.name
            { contact with version := none } } := by
  unfold Config.importContact
  constructor
  · intro imported
    obtain ⟨contact, isRead, imported⟩ := Outcome.bind_eq_ok.mp imported
    dsimp only at imported
    by_cases isNamed : config.contact.contains contact.name = true
    · rw [if_pos isNamed] at imported
      exact absurd imported (Outcome.throw_bind_ne_ok _ _ _)
    rw [if_neg isNamed] at imported
    by_cases isKnown : (config.contact.values.any fun known =>
        known.pubkey = contact.pubkey) = true
    · rw [if_pos isKnown] at imported
      exact absurd imported (Outcome.throw_bind_ne_ok _ _ _)
    rw [if_neg isKnown] at imported
    by_cases isOwn : config.communicationKey.map CommunicationKey.pubkey =
        some contact.pubkey
    · rw [if_pos isOwn] at imported
      exact absurd imported (Outcome.throw_bind_ne_ok _ _ _)
    rw [if_neg isOwn] at imported
    refine ⟨contact, isRead, ?_, ?_, isOwn, (Except.ok.inj imported).symm⟩
    · simpa [SortedMap.contains] using isNamed
    · simpa using isKnown
  · rintro ⟨contact, isRead, unnamed, unknown, notOwn, rfl⟩
    have isNamed : ¬config.contact.contains contact.name = true := by
      simp [SortedMap.contains, unnamed]
    have isKnown : ¬(config.contact.values.any fun known =>
        known.pubkey = contact.pubkey) = true := by
      simpa using unknown
    rw [isRead, Outcome.ok_bind]
    dsimp only
    rw [if_neg isNamed, if_neg isKnown, if_neg notOwn]
    rfl

theorem removeContact_eq_ok
    {pubkey : String}
    (removed : config.removeContact pubkey = .ok changed) :
    ∃ name contact, config.contact.lookup name = some contact ∧
      Hex.encode contact.pubkey = pubkey ∧
      changed = { config with contact := config.contact.erase name } := by
  obtain ⟨⟨name, contact⟩, found, removed⟩ := Outcome.bind_eq_ok.mp removed
  have found := Outcome.okOr_eq_ok.mp found
  refine ⟨name, contact, SortedMap.lookup_eq_some_iff.mpr
    (List.mem_of_find?_eq_some found), ?_, (Except.ok.inj removed).symm⟩
  simpa using List.find?_some found

theorem init_eq_ok
    {generated : Option CommunicationKey}
    (initialized : config.init generated = .ok changed) :
    changed.contact = config.contact ∧ changed.group = config.group ∧
      ∀ key, config.communicationKey = some key →
        changed.communicationKey = some key := by
  unfold Config.init at initialized
  split_ifs at initialized with isSome
  · obtain rfl := Except.ok.inj initialized
    exact ⟨rfl, rfl, fun _ isKey => isKey⟩
  · obtain ⟨generatedKey, -, initialized⟩ := Outcome.bind_eq_ok.mp initialized
    obtain rfl := Except.ok.inj initialized
    exact ⟨rfl, rfl, fun key isKey => absurd (by simp [isKey]) isSome⟩

theorem removeGroup_eq_ok
    {group : String}
    (removed : config.removeGroup group = .ok changed) :
    changed = { config with group := config.group.erase group } := by
  obtain ⟨_, -, removed⟩ := Outcome.bind_eq_ok.mp removed
  exact (Except.ok.inj removed).symm

end Changes

/-- The change of one config that a command other than a dealer makes. -/
inductive Edited (env : Environment) : Command → Config → Config → Prop
  | init {config changed path generated} :
      config.init generated = .ok changed →
        Edited env (.init path generated) config changed
  | importContact {config changed path text} :
      config.importContact env.bech32 text = .ok changed →
        Edited env (.importContact text path) config changed
  | removeContact {config changed path pubkey} :
      config.removeContact pubkey = .ok changed →
        Edited env (.removeContact path pubkey) config changed
  | removeGroup {config changed path group} :
      config.removeGroup group = .ok changed →
        Edited env (.removeGroup path group) config changed
  | dkg {config changed path key group} :
      config.addGroup key group = .ok changed →
        Edited env (.dkg path key group) config changed

/-- The file that a command other than a dealer works on. -/
def Command.path : Command → Option Path
  | .init path _ => path
  | .importContact _ path => path
  | .removeContact path _ => path
  | .removeGroup path _ => path
  | .dkg path _ _ => path
  | .trustedDealer _ _ => none

/-- What a command other than a dealer leaves. -/
theorem execute_cases
    (documented : env.toml.Documented)
    {action : Action}
    (notDealer : ¬action.command.IsDealer)
    {result : Outcome CliError Unit}
    (executed : env.execute files action = (next, result)) :
    (next = files ∧ result ≠ .ok ()) ∨
      ∃ config changed,
        env.read files action.command.path = .ok config ∧
          Edited env action.command config changed ∧ result = .ok () ∧
          ∀ other, env.read next other =
            if env.parsePath other = env.parsePath action.command.path then
              .ok changed
            else env.read files other := by
  obtain ⟨command, written⟩ := action
  have edits : ∀ {path change}, env.update files path change (written 0) =
      (next, result) → (∀ {config changed}, change config = .ok changed →
        Edited env command config changed) →
      (next = files ∧ result ≠ .ok ()) ∨
        ∃ config changed, env.read files path = .ok config ∧
          Edited env command config changed ∧ result = .ok () ∧
          ∀ other, env.read next other =
            if env.parsePath other = env.parsePath path then .ok changed
            else env.read files other := by
    intro path change updated edited
    rcases Environment.update_cases documented updated with
      unchanged | ⟨config, changed, isRead, isChanged, rest⟩
    · exact Or.inl unchanged
    · exact Or.inr ⟨config, changed, isRead, edited isChanged, rest⟩
  cases command with
  | init path generated => exact edits executed .init
  | importContact text path => exact edits executed .importContact
  | removeContact path pubkey => exact edits executed .removeContact
  | removeGroup path group => exact edits executed .removeGroup
  | dkg path key group => exact edits executed .dkg
  | trustedDealer args generated => exact absurd trivial notDealer

section Kept

variable {property : Config → Prop}

theorem Environment.Hold.update
    (hold : env.Hold property files)
    (documented : env.toml.Documented)
    {path : Option Path}
    {change : Config → Outcome CliError Config}
    {written : Bool}
    (kept : ∀ config changed, property config → change config = .ok changed →
      property changed) :
    env.Hold property (env.update files path change written).1 := by
  rcases updated : env.update files path change written with ⟨next, result⟩
  rcases Environment.update_cases documented updated with
    ⟨rfl, -⟩ | ⟨config, changed, isRead, isChanged, -, reads⟩
  · exact hold
  · intro other
    dsimp only
    rw [reads other]
    split_ifs
    · obtain ⟨same, isSame, holds⟩ := hold path
      obtain rfl := Except.ok.inj (isRead.symm.trans isSame)
      exact ⟨changed, rfl, kept _ _ holds isChanged⟩
    · exact hold other

theorem Environment.Hold.updateConfigFiles
    (hold : env.Hold property files)
    (documented : env.toml.Documented)
    {key : String}
    {contacts : List Contact}
    {written : Nat → Bool}
    {groups : List (Path × Group)}
    (kept : ∀ entry ∈ groups, ∀ config changed, property config →
      config.addDealt key entry.2 contacts = .ok changed →
        property changed) :
    env.Hold property
      (env.updateConfigFiles files key contacts written groups).1 := by
  induction groups generalizing files written with
  | nil => exact hold
  | cons first rest ih =>
      obtain ⟨path, group⟩ := first
      have updatedHold : env.Hold property (env.update files (some path)
          (Config.addDealt key group contacts) (written 0)).1 :=
        hold.update documented (kept _ List.mem_cons_self)
      rw [Environment.updateConfigFiles]
      rcases updated : env.update files (some path)
          (Config.addDealt key group contacts) (written 0) with
        ⟨next, failure | _⟩
      · rw [updated] at updatedHold
        exact updatedHold
      · rw [updated] at updatedHold
        exact ih updatedHold fun entry member =>
          kept entry (List.mem_cons_of_mem _ member)

/-- The participants a dealer writes have the identifiers of the shares, and the
contacts have no version. -/
theorem of_extractParticipantInfo
    {shares : List (List UInt8 × List UInt8)}
    {paths names : List String}
    {infos : List (Participant × Contact)}
    (extracted : env.extractParticipantInfo files shares paths names =
      .ok infos) :
    ∀ info ∈ infos, info.1.identifier ∈ shares.map Prod.fst ∧
      info.2.version = none := by
  intro info inInfos
  obtain ⟨item, inItems, made⟩ :=
    Outcome.mem_of_mapM_eq_ok extracted info inInfos
  obtain ⟨config, -, made⟩ := Outcome.bind_eq_ok.mp made
  obtain ⟨key, -, made⟩ := Outcome.bind_eq_ok.mp made
  obtain rfl := Except.ok.inj made
  exact ⟨List.mem_map_of_mem (List.of_mem_zip inItems).1, rfl⟩

/-- What every change of a config keeps, a command keeps in every file. -/
theorem Environment.Hold.execute
    (hold : env.Hold property files)
    (documented : env.toml.Documented)
    (action : Action)
    (kept : ∀ config changed, property config →
      Edited env action.command config changed → property changed)
    (dealt : ∀ args dealtKey,
      action.command = .trustedDealer args (some dealtKey) →
        ∀ group contacts config changed, group.Keyed dealtKey.identifiers →
          (∀ contact ∈ contacts, Contact.version contact = none) →
            property config →
              config.addDealt dealtKey.verifyingKey group contacts =
                .ok changed →
                property changed) :
    env.Hold property (env.execute files action).1 := by
  by_cases isDealer : action.command.IsDealer
  · obtain ⟨command, written⟩ := action
    cases command with
    | trustedDealer args generated =>
        change env.Hold property
          (env.trustedDealer files args generated written).1
        unfold Environment.trustedDealer
        dsimp only
        split_ifs
        · exact hold
        · exact hold
        · exact hold
        · exact hold
        · cases generated with
          | none => exact hold
          | some dealtKey =>
              dsimp only [Environment.deal]
              cases extracted : env.extractParticipantInfo files
                  dealtKey.shares args.config args.names with
              | error failure => exact hold
              | ok infos =>
                  apply hold.updateConfigFiles documented
                  intro entry member config changed
                  obtain ⟨share, -, isGroup⟩ :=
                    List.mem_map.mp (List.of_mem_zip member).2
                  have infosOf := of_extractParticipantInfo extracted
                  have keyed : entry.2.Keyed dealtKey.identifiers := by
                    rw [← isGroup]
                    apply SortedMap.forall_foldl_insert
                    · intro participant inInfos
                      obtain ⟨info, isInfo, rfl⟩ := List.mem_map.mp inInfos
                      exact ⟨rfl, (infosOf info isInfo).1⟩
                    · exact fun _ _ found => absurd found (by simp)
                  apply dealt args dealtKey rfl entry.2 _ config changed keyed
                  intro contact inInfos
                  obtain ⟨info, isInfo, rfl⟩ := List.mem_map.mp inInfos
                  exact (infosOf info isInfo).2
    | _ => exact absurd isDealer id
  · rcases executed : env.execute files action with ⟨next, result⟩
    rcases execute_cases documented isDealer executed with
      ⟨rfl, -⟩ | ⟨config, changed, isRead, edited, -, reads⟩
    · exact hold
    · intro other
      dsimp only
      rw [reads other]
      split_ifs
      · obtain ⟨same, isSame, holds⟩ := hold action.command.path
        obtain rfl := Except.ok.inj (isRead.symm.trans isSame)
        exact ⟨changed, rfl, kept _ _ holds edited⟩
      · exact hold other

/-- On an empty disk every file is read as the default config. -/
theorem hold_empty
    (holds : property .default) :
    env.Hold property ∅ := by
  intro path
  refine ⟨.default, ?_, holds⟩
  unfold Environment.read
  rw [Finmap.lookup_empty]

end Kept

section Alice

/-- A table whose texts are distinct is read backwards. -/
theorem find_backwards
    {α β : Type}
    [DecidableEq α]
    [DecidableEq β]
    {table : List (α × β)}
    (distinct : (table.map Prod.snd).Nodup)
    {value : α}
    {text : β}
    (found : (table.find? fun entry => entry.1 = value).map Prod.snd =
      some text) :
    (table.find? fun entry => entry.2 = text).map Prod.fst = some value := by
  obtain ⟨entry, isEntry, rfl⟩ := Option.map_eq_some_iff.mp found
  have isValue : entry.1 = value := by simpa using List.find?_some isEntry
  have member := List.mem_of_find?_eq_some isEntry
  have isSome : (table.find? fun other => other.2 = entry.2).isSome :=
    List.find?_isSome.mpr ⟨entry, member, decide_eq_true rfl⟩
  obtain ⟨other, isOther⟩ := Option.isSome_iff_exists.mp isSome
  have same : other = entry := by
    apply List.inj_on_of_nodup_map distinct
      (List.mem_of_find?_eq_some isOther) member
    simpa using List.find?_some isOther
  rw [isOther, same, ← isValue]
  rfl

/-- A crate that knows the texts of a table. -/
def Toml.ofTable (table : List (Config × String)) : Toml where
  toStringPretty := fun config =>
    (table.find? fun entry => entry.1 = config).map Prod.snd
  fromStr := fun text =>
    (table.find? fun entry => entry.2 = text).map Prod.fst

theorem Toml.documented_ofTable
    {table : List (Config × String)}
    (distinct : (table.map Prod.snd).Nodup) :
    (Toml.ofTable table).Documented where
  fromStr_toStringPretty := fun _ _ => find_backwards distinct

/-- The key pair of a user and its config. -/
def aliceKey : CommunicationKey :=
  { privkey := [3], pubkey := [1, 2] }

/-- The config of a user with the key pair. -/
def aliceConfig : Config :=
  { Config.default with communicationKey := some aliceKey }

/-- The config of a user that has imported the contact. -/
def bobConfig : Config :=
  { Config.default with
    contact := SortedMap.insert ∅ "Alice"
      { version := none, name := "Alice", pubkey := [1, 2] } }

/-- The configs of the users with their texts. -/
def tomlTable : List (Config × String) :=
  [(aliceConfig,
    "version = 0\n\n[communication_key]\nprivkey = \"03\"\n" ++
      "pubkey = \"0102\"\n\n[contact]\n\n[group]\n"),
    (bobConfig,
      "version = 0\n\n[contact.Alice]\nname = \"Alice\"\n" ++
        "pubkey = \"0102\"\n\n[group]\n"),
    (.default, "version = 0\n\n[contact]\n\n[group]\n")]

/-- The text that the user exports under her name. -/
def aliceText : String :=
  "minafrost1qyqq2stvd93k2qspqgpnn7f5"

/-- The contact with the version and without it. -/
def bech32Table : List ((String × List UInt8) × String) :=
  [((contactHrp, [1, 0, 5, 65, 108, 105, 99, 101, 2, 1, 2]), aliceText),
    ((contactHrp, [0, 5, 65, 108, 105, 99, 101, 2, 1, 2]),
      "minafrost1qqz5zmrfvdjsyqgzvx7l79")]

/-- The crates by their tables. -/
def aliceEnvironment : Environment where
  toml := .ofTable tomlTable
  bech32 :=
    { encode := fun hrp bytes =>
        (bech32Table.find? fun entry => entry.1 = (hrp, bytes)).map Prod.snd
      decode := fun text =>
        (bech32Table.find? fun entry => entry.2 = text).map Prod.fst }
  defaultPath := "credentials.toml"

theorem toml_aliceEnvironment : aliceEnvironment.toml.Documented :=
  Toml.documented_ofTable (by decide)

theorem bech32_aliceEnvironment : aliceEnvironment.bech32.Documented where
  decode_encode := fun _ _ => find_backwards (by decide)
  short := by
    intro bytes text encoded
    obtain ⟨entry, found, -⟩ := Option.map_eq_some_iff.mp encoded
    have isEntry : entry.1 = (contactHrp, bytes) := by
      simpa using List.find?_some found
    have lengths : ∀ entry ∈ bech32Table, entry.1.2.length ≤ 1023 := by
      decide
    have short := lengths entry (List.mem_of_find?_eq_some found)
    rw [isEntry] at short
    exact short

/-- A user starts, and another one imports its contact. -/
def aliceActions : List Action :=
  [{ command := .init (some "alice.toml") (some aliceKey)
     written := fun _ => true },
    { command := .importContact aliceText none, written := fun _ => true }]

/-- The files after these commands. -/
def aliceFiles : Files :=
  aliceActions.foldl
    (fun files action => (aliceEnvironment.execute files action).1) ∅

theorem run_aliceActions :
    aliceEnvironment.store.run ∅ aliceActions = some aliceFiles :=
  rfl

theorem noDealer_aliceActions :
    ∀ action ∈ aliceActions, ¬action.command.IsDealer := by
  intro action member
  rcases List.mem_cons.mp member with rfl | behind
  · exact id
  · rw [List.mem_singleton.mp behind]
    exact id

theorem read_bob : aliceEnvironment.read aliceFiles none = .ok bobConfig := by
  decide +kernel

end Alice

section Texts

theorem named_of_edited
    {command : Command}
    (named : config.Named)
    (edited : Edited env command config changed) :
    changed.Named := by
  intro name contact known
  cases edited with
  | init initialized =>
      rw [(init_eq_ok initialized).1] at known
      exact named name contact known
  | importContact imported =>
      obtain ⟨other, -, -, -, -, rfl⟩ := importContact_eq_ok_iff.mp imported
      rw [SortedMap.lookup_insert] at known
      split_ifs at known with same
      · obtain rfl := Option.some.inj known
        exact ⟨same.symm, rfl⟩
      · exact named name contact known
  | removeContact removed =>
      obtain ⟨other, -, -, -, rfl⟩ := removeContact_eq_ok removed
      rw [SortedMap.lookup_erase] at known
      split_ifs at known
      exact named name contact known
  | removeGroup removed =>
      rw [removeGroup_eq_ok removed] at known
      exact named name contact known
  | dkg added =>
      obtain rfl := Except.ok.inj added
      exact named name contact known

theorem named_of_addDealt
    {key : String}
    {group : Group}
    {contacts : List Contact}
    (versions : ∀ contact ∈ contacts, Contact.version contact = none)
    (named : config.Named)
    (added : config.addDealt key group contacts = .ok changed) :
    changed.Named := by
  obtain rfl := Except.ok.inj added
  exact SortedMap.forall_foldl_insert
    (fun contact member => ⟨rfl, versions contact member⟩) named

/-- In every file that commands leave, contacts stand under their names, without
a version. -/
theorem named_of_reachable
    (documented : env.toml.Documented)
    (reachable : env.store.Reachable files) :
    env.Hold Config.Named files := by
  apply reachable.invariant
  · apply hold_empty
    intro name contact known
    exact absurd known (by simp [Config.default])
  · intro state action next hold stepped
    obtain rfl := Option.some.inj stepped
    exact hold.execute documented action
      (fun _ _ named edited => named_of_edited named edited)
      (fun _ _ _ _ _ _ _ _ versions named added =>
        named_of_addDealt versions named added)

/-- An imported contact is the one that is found for its key. -/
theorem contactByPubkey_insert
    {name : String}
    (unknown : ∀ known ∈ config.contact.values,
      known.pubkey ≠ contact.pubkey)
    (notOwn : config.communicationKey.map CommunicationKey.pubkey ≠
      some contact.pubkey) :
    Config.contactByPubkey
        { config with contact := config.contact.insert name contact }
        contact.pubkey = .ok contact := by
  unfold Config.contactByPubkey
  dsimp only
  rw [if_neg fun same => notOwn same.symm, Outcome.okOr_eq_ok]
  have isSome : ((config.contact.insert name contact).values.find? fun known =>
      known.pubkey = contact.pubkey).isSome := by
    rw [List.find?_isSome]
    refine ⟨contact, SortedMap.mem_values.mpr ⟨name, ?_⟩, by simp⟩
    rw [SortedMap.lookup_insert, if_pos rfl]
  obtain ⟨found, isFound⟩ := Option.isSome_iff_exists.mp isSome
  obtain ⟨key, known⟩ := SortedMap.mem_values.mp
    (List.mem_of_find?_eq_some isFound)
  rw [SortedMap.lookup_insert] at known
  split_ifs at known
  · rw [isFound, known]
  · exact absurd (by simpa using List.find?_some isFound)
      (unknown found (SortedMap.mem_values.mpr ⟨key, known⟩))

/-- After any run of commands the contacts of an address book stand under their
names, without a version, so that no text it lists can be imported anywhere. A
text that a user exports is imported into a config exactly if neither the name
nor the key of the user is taken there, and is then found for the key. -/
theorem texts_of_reachable
    (toml : env.toml.Documented)
    (bech32 : env.bech32.Documented)
    (reachable : env.store.Reachable files)
    (path : Option Path) :
    (∃ book, env.read files path = .ok book ∧ book.Named) ∧
    (∀ summary text,
      (summary, some text) ∈ (env.listContacts files path).1 →
        ∀ config : Config, config.importContact env.bech32 text =
          .error (.error (.report "invalid contact version"))) ∧
    ∀ name summary text,
      env.exportContact files path name = .ok (summary, text) →
        ∃ own key, env.read files path = .ok own ∧
          own.communicationKey = some key ∧
          ∀ config : Config,
            ((∃ changed,
                config.importContact env.bech32 text = .ok changed) ↔
              config.contact.lookup name = none ∧
                (∀ known ∈ config.contact.values,
                  known.pubkey ≠ key.pubkey) ∧
                config.communicationKey.map CommunicationKey.pubkey ≠
                  some key.pubkey) ∧
            ∀ changed, config.importContact env.bech32 text = .ok changed →
              changed.contactByPubkey key.pubkey =
                .ok
                  { version := none, name := name, pubkey := key.pubkey } := by
  obtain ⟨book, isRead, named⟩ := named_of_reachable toml reachable path
  refine ⟨⟨book, isRead, named⟩, ?_, ?_⟩
  · intro summary text member config
    unfold Environment.listContacts at member
    rw [isRead] at member
    obtain ⟨contact, inValues, written⟩ := Contact.asText_of_mem_shown member
    obtain ⟨name, known⟩ := SortedMap.mem_values.mp inValues
    have version := (named name contact known).2
    unfold Config.importContact
    rw [Contact.fromText_asText bech32 written, if_neg (by simp [version])]
    rfl
  · intro name summary text exported
    obtain ⟨own, isOwn, exported⟩ := Outcome.bind_eq_ok.mp exported
    obtain ⟨key, isKey, exported⟩ := Outcome.bind_eq_ok.mp exported
    obtain ⟨other, written, exported⟩ := Outcome.bind_eq_ok.mp exported
    obtain rfl := (Prod.mk.inj (Except.ok.inj exported)).2
    refine ⟨own, key, isOwn, Outcome.okOr_eq_ok.mp isKey, ?_⟩
    intro config
    have read := Contact.fromText_asText bech32 written
    rw [if_pos rfl] at read
    refine ⟨⟨?_, ?_⟩, ?_⟩
    · rintro ⟨changed, imported⟩
      obtain ⟨contact, isContact, unnamed, unknown, notOwn, -⟩ :=
        importContact_eq_ok_iff.mp imported
      obtain rfl := Except.ok.inj (isContact.symm.trans read)
      exact ⟨unnamed, unknown, notOwn⟩
    · rintro ⟨unnamed, unknown, notOwn⟩
      exact ⟨_, importContact_eq_ok_iff.mpr
        ⟨_, read, unnamed, unknown, notOwn, rfl⟩⟩
    · intro changed imported
      obtain ⟨contact, isContact, -, unknown, notOwn, rfl⟩ :=
        importContact_eq_ok_iff.mp imported
      obtain rfl := Except.ok.inj (isContact.symm.trans read)
      exact contactByPubkey_insert unknown notOwn

/-- The text of the address book is refused, the exported one is not. -/
theorem texts_of_reachable_alice :
    ∃ listed,
      aliceEnvironment.listContacts aliceFiles none =
        ([("Name: Alice\nPublic Key: 0102\n", some listed)], .ok ()) ∧
      aliceEnvironment.exportContact aliceFiles (some "alice.toml") "Alice" =
        .ok ("Name: Alice\nPublic Key: 0102\n", aliceText) ∧
      Config.default.importContact aliceEnvironment.bech32 listed =
        .error (.error (.report "invalid contact version")) ∧
      ∃ changed, Config.default.importContact aliceEnvironment.bech32
        aliceText = .ok changed := by
  have reachable : aliceEnvironment.store.Reachable aliceFiles :=
    ⟨aliceActions, run_aliceActions⟩
  have listed : aliceEnvironment.listContacts aliceFiles none =
      ([("Name: Alice\nPublic Key: 0102\n",
        some "minafrost1qqz5zmrfvdjsyqgzvx7l79")], .ok ()) := by
    decide +kernel
  have exported : aliceEnvironment.exportContact aliceFiles
      (some "alice.toml") "Alice" =
        .ok ("Name: Alice\nPublic Key: 0102\n", aliceText) := by
    decide +kernel
  have refused := (texts_of_reachable toml_aliceEnvironment
    bech32_aliceEnvironment reachable none).2.1 _ _
      (by rw [listed]; exact List.mem_cons_self) .default
  obtain ⟨own, key, -, -, imports⟩ := (texts_of_reachable
    toml_aliceEnvironment bech32_aliceEnvironment reachable
      (some "alice.toml")).2.2 _ _ _ exported
  exact ⟨_, listed, exported, refused, (imports .default).1.mpr
    ⟨rfl, fun known member => absurd member List.not_mem_nil, by simp
      [Config.default]⟩⟩

end Texts

section Runs

variable {actions : List Action}
  (noDealer : ∀ action ∈ actions, ¬action.command.IsDealer)

include noDealer

/-- What the commands of a run keep of a file that is read. -/
theorem read_of_run
    (documented : env.toml.Documented)
    {property : Config → Prop}
    {path : Option Path}
    (kept : ∀ action ∈ actions,
      env.parsePath action.command.path = env.parsePath path →
        ∀ config changed, property config →
          Edited env action.command config changed → property changed)
    (ran : env.store.run files actions = some next)
    (isRead : env.read files path = .ok config)
    (holds : property config) :
    ∃ later, env.read next path = .ok later ∧ property later := by
  induction actions generalizing files config with
  | nil =>
      obtain rfl := Option.some.inj ran
      exact ⟨config, isRead, holds⟩
  | cons action actions ih =>
      obtain ⟨middle, stepped, ranRest⟩ :=
        TransitionSystem.run_cons_eq_some.mp ran
      obtain rfl := Option.some.inj stepped
      have behind : ∀ {state : Files} {reached : Config},
          env.store.run state actions = some next →
            env.read state path = .ok reached → property reached →
              ∃ later, env.read next path = .ok later ∧ property later := by
        intro state reached ranState isReached holdsReached
        refine ih ?_ ?_ ranState isReached holdsReached
        · exact fun other member =>
            noDealer other (List.mem_cons_of_mem action member)
        · exact fun other member =>
            kept other (List.mem_cons_of_mem action member)
      rcases executed : env.execute files action with ⟨reached, result⟩
      rw [executed] at ranRest
      rcases execute_cases documented (noDealer action List.mem_cons_self)
          executed with
        ⟨rfl, -⟩ | ⟨before, changed, wasRead, edited, -, reads⟩
      · exact behind ranRest isRead holds
      · by_cases same :
            env.parsePath path = env.parsePath action.command.path
        · have readPath : env.read files path = .ok before := by
            unfold Environment.read at wasRead ⊢
            rw [same]
            exact wasRead
          obtain rfl := Except.ok.inj (isRead.symm.trans readPath)
          exact behind ranRest ((reads path).trans (if_pos same))
            (kept action List.mem_cons_self same.symm _ _ holds edited)
        · exact behind ranRest
            (((reads path).trans (if_neg same)).trans isRead) holds

/-- A run without a dealer loses nothing: the key pair of a user stays, a
contact stays until it is removed by its key, and a group stays until it is
removed or generated again. -/
theorem nothing_lost
    (documented : env.toml.Documented)
    (ran : env.store.run files actions = some next)
    {path : Option Path}
    (isRead : env.read files path = .ok config) :
    ∃ later, env.read next path = .ok later ∧
      (∀ key, config.communicationKey = some key →
        later.communicationKey = some key) ∧
      (∀ name contact, config.contact.lookup name = some contact →
        (∀ action ∈ actions, ∀ other,
          env.parsePath other = env.parsePath path →
            action.command ≠
              .removeContact other (Hex.encode contact.pubkey)) →
          later.contact.lookup name = some contact) ∧
      ∀ key group, config.group.lookup key = some group →
        (∀ action ∈ actions, ∀ other,
          env.parsePath other = env.parsePath path →
            action.command ≠ .removeGroup other key ∧
              ∀ replaced, action.command ≠ .dkg other key replaced) →
          later.group.lookup key = some group := by
  obtain ⟨later, isLater, -⟩ := read_of_run noDealer documented
    (fun _ _ _ _ _ (_ : True) _ => trivial) ran isRead trivial
  have reaches : ∀ property : Config → Prop, property config →
      (∀ action ∈ actions,
        env.parsePath action.command.path = env.parsePath path →
          ∀ config changed, property config →
            Edited env action.command config changed → property changed) →
        property later := by
    intro property holds kept
    obtain ⟨same, isSame, reached⟩ :=
      read_of_run noDealer documented kept ran isRead holds
    obtain rfl := Except.ok.inj (isSame.symm.trans isLater)
    exact reached
  refine ⟨later, isLater, ?_, ?_, ?_⟩
  · intro key isKey
    apply reaches (fun config => config.communicationKey = some key) isKey
    intro action _ _ before changed holds edited
    obtain ⟨command, written⟩ := action
    cases edited with
    | init initialized => exact (init_eq_ok initialized).2.2 key holds
    | importContact imported =>
        obtain ⟨_, -, -, -, -, rfl⟩ := importContact_eq_ok_iff.mp imported
        exact holds
    | removeContact removed =>
        obtain ⟨_, _, -, -, rfl⟩ := removeContact_eq_ok removed
        exact holds
    | removeGroup removed => exact removeGroup_eq_ok removed ▸ holds
    | dkg added => exact Except.ok.inj added ▸ holds
  · intro name contact known notRemoved
    apply reaches (fun config => config.contact.lookup name = some contact)
      known
    intro action member samePath before changed holds edited
    have notThis := notRemoved action member _ samePath
    obtain ⟨command, written⟩ := action
    cases edited with
    | init initialized => exact (init_eq_ok initialized).1 ▸ holds
    | importContact imported =>
        obtain ⟨other, -, unnamed, -, -, rfl⟩ :=
          importContact_eq_ok_iff.mp imported
        rw [SortedMap.lookup_insert, if_neg]
        · exact holds
        · rintro rfl
          exact absurd (unnamed.symm.trans holds) (by simp)
    | removeContact removed =>
        obtain ⟨other, found, isFound, isKey, rfl⟩ :=
          removeContact_eq_ok removed
        rw [SortedMap.lookup_erase, if_neg]
        · exact holds
        · rintro rfl
          obtain rfl := Option.some.inj (isFound.symm.trans holds)
          rw [← isKey] at notThis
          exact notThis rfl
    | removeGroup removed => exact removeGroup_eq_ok removed ▸ holds
    | dkg added => exact Except.ok.inj added ▸ holds
  · intro key group known notReplaced
    apply reaches (fun config => config.group.lookup key = some group) known
    intro action member samePath before changed holds edited
    have notThis := notReplaced action member _ samePath
    obtain ⟨command, written⟩ := action
    cases edited with
    | init initialized => exact (init_eq_ok initialized).2.1 ▸ holds
    | importContact imported =>
        obtain ⟨_, -, -, -, -, rfl⟩ := importContact_eq_ok_iff.mp imported
        exact holds
    | removeContact removed =>
        obtain ⟨_, _, -, -, rfl⟩ := removeContact_eq_ok removed
        exact holds
    | removeGroup removed =>
        rw [removeGroup_eq_ok removed, SortedMap.lookup_erase, if_neg]
        · exact holds
        · rintro rfl
          exact notThis.1 rfl
    | dkg added =>
        rw [← Except.ok.inj added, SortedMap.lookup_insert, if_neg]
        · exact holds
        · rintro rfl
          exact notThis.2 _ rfl

omit noDealer in
/-- A third user imports the contact, and the second one still has it. -/
theorem nothing_lost_alice :
    ∃ next later, aliceEnvironment.store.run aliceFiles
        [{ command := .importContact aliceText (some "carol.toml")
           written := fun _ => true }] = some next ∧
      aliceEnvironment.read next none = .ok later ∧
      later.contact.lookup "Alice" =
        some { version := none, name := "Alice", pubkey := [1, 2] } := by
  have ran : aliceEnvironment.store.run aliceFiles
      [{ command := .importContact aliceText (some "carol.toml")
         written := fun _ => true }] = some _ :=
    rfl
  obtain ⟨later, isLater, -, contacts, -⟩ := nothing_lost
    (by simp [Command.IsDealer]) toml_aliceEnvironment ran read_bob
  exact ⟨_, later, ran, isLater,
    contacts "Alice" _ (by decide +kernel) (by simp)⟩

end Runs

section Removal

theorem distinct_of_edited
    {command : Command}
    (distinct : config.Distinct)
    (edited : Edited env command config changed) :
    changed.Distinct := by
  cases edited with
  | init initialized =>
      unfold Config.Distinct
      rw [(init_eq_ok initialized).1]
      exact distinct
  | importContact imported =>
      obtain ⟨contact, -, -, unknown, -, rfl⟩ :=
        importContact_eq_ok_iff.mp imported
      have apart : ∀ name known, config.contact.lookup name = some known →
          known.pubkey ≠ contact.pubkey := fun name known isKnown =>
        unknown known (SortedMap.mem_values.mpr ⟨name, isKnown⟩)
      intro first second known other isFirst isSecond same
      rw [SortedMap.lookup_insert] at isFirst isSecond
      split_ifs at isFirst isSecond with firstNew secondNew secondNew
      · exact firstNew.trans secondNew.symm
      · obtain rfl := Option.some.inj isFirst
        exact absurd same.symm (apart second other isSecond)
      · obtain rfl := Option.some.inj isSecond
        exact absurd same (apart first known isFirst)
      · exact distinct first second known other isFirst isSecond same
  | removeContact removed =>
      obtain ⟨name, _, -, -, rfl⟩ := removeContact_eq_ok removed
      intro first second known other isFirst isSecond same
      rw [SortedMap.lookup_erase] at isFirst isSecond
      split_ifs at isFirst isSecond
      exact distinct first second known other isFirst isSecond same
  | removeGroup removed =>
      rw [removeGroup_eq_ok removed]
      exact distinct
  | dkg added =>
      rw [← Except.ok.inj added]
      exact distinct

/-- The contact with a key, if no two contacts have one. -/
theorem find_values_iff
    (distinct : config.Distinct)
    {pubkey : PublicKey} :
    (config.contact.values.find? fun known => known.pubkey = pubkey) =
        some contact ↔
      (∃ name, config.contact.lookup name = some contact) ∧
        contact.pubkey = pubkey := by
  constructor
  · intro found
    exact ⟨SortedMap.mem_values.mp (List.mem_of_find?_eq_some found),
      by simpa using List.find?_some found⟩
  · rintro ⟨⟨name, known⟩, rfl⟩
    have isSome : (config.contact.values.find? fun other =>
        other.pubkey = contact.pubkey).isSome := by
      rw [List.find?_isSome]
      exact ⟨contact, SortedMap.mem_values.mpr ⟨name, known⟩, by simp⟩
    obtain ⟨other, found⟩ := Option.isSome_iff_exists.mp isSome
    obtain ⟨otherName, isOther⟩ :=
      SortedMap.mem_values.mp (List.mem_of_find?_eq_some found)
    obtain rfl := distinct otherName name other contact isOther known
      (by simpa using List.find?_some found)
    rw [found, ← isOther, known]

/-- After any run without a dealer, no two contacts of a file have one key.
Removing a contact by its key makes exactly this key unknown, and leaves the
other files alone. -/
theorem contact_removed
    (documented : env.toml.Documented)
    {actions : List Action}
    (noDealer : ∀ action ∈ actions, ¬action.command.IsDealer)
    (ran : env.store.run ∅ actions = some files)
    {path : Option Path}
    {pubkey : PublicKey}
    {written : Nat → Bool}
    (removed : env.execute files
      { command := .removeContact path (Hex.encode pubkey)
        written := written } = (next, .ok ())) :
    ∃ config changed, env.read files path = .ok config ∧ config.Distinct ∧
      env.read next path = .ok changed ∧
      (∀ other, changed.contactByPubkey other =
        if other = pubkey ∧
            some other ≠
              config.communicationKey.map CommunicationKey.pubkey then
          .error (.error (.report "contact not found"))
        else config.contactByPubkey other) ∧
      ∀ other, env.parsePath other ≠ env.parsePath path →
        env.read next other = env.read files other := by
  obtain ⟨-, failed⟩ | ⟨config, changed, isRead, edited, -, reads⟩ :=
    execute_cases documented (by exact id) removed
  · exact absurd rfl failed
  obtain ⟨empty, isEmpty, emptyDistinct⟩ := @hold_empty env Config.Distinct
    (by intro _ _ _ _ known; exact absurd known (by simp [Config.default])) path
  obtain ⟨same, isSame, distinct⟩ := read_of_run noDealer documented
    (fun _ _ _ _ _ distinct edited => distinct_of_edited distinct edited)
    ran isEmpty emptyDistinct
  obtain rfl := Except.ok.inj (isRead.symm.trans isSame)
  refine ⟨config, changed, isRead, distinct, (reads path).trans (if_pos rfl),
    ?_, fun other different => (reads other).trans (if_neg different)⟩
  intro other
  have changedDistinct := distinct_of_edited distinct edited
  cases edited with
  | removeContact isRemoved =>
    obtain ⟨name, contact, known, isKey, rfl⟩ := removeContact_eq_ok isRemoved
    obtain rfl := Hex.encode_injective isKey
    unfold Config.contactByPubkey
    dsimp only
    by_cases isOwn :
        some other = config.communicationKey.map CommunicationKey.pubkey
    · rw [if_pos isOwn, if_pos isOwn, if_neg fun both => both.2 isOwn]
    rw [if_neg isOwn, if_neg isOwn]
    by_cases isOther : other = contact.pubkey
    · subst isOther
      rw [if_pos ⟨rfl, isOwn⟩]
      have nothing : ((config.contact.erase name).values.find? fun known =>
          known.pubkey = contact.pubkey) = none := by
        rw [List.find?_eq_none]
        intro left inValues isLeft
        obtain ⟨leftName, leftKnown⟩ := SortedMap.mem_values.mp inValues
        rw [SortedMap.lookup_erase] at leftKnown
        split_ifs at leftKnown with erased
        exact erased (distinct leftName name left contact leftKnown known
          (of_decide_eq_true isLeft))
      rw [nothing]
      rfl
    · rw [if_neg fun both => isOther both.1]
      congr 1
      apply Option.ext
      intro found
      rw [find_values_iff changedDistinct, find_values_iff distinct]
      apply and_congr_left
      rintro rfl
      apply exists_congr
      intro foundName
      dsimp only
      rw [SortedMap.lookup_erase]
      split_ifs with erased
      · subst erased
        rw [known]
        refine iff_of_false (by simp) ?_
        intro isFound
        exact isOther (congrArg Contact.pubkey (Option.some.inj isFound)).symm
      · rfl

/-- The contact is removed, and unknown. -/
theorem contact_removed_alice :
    ∃ next changed, aliceEnvironment.execute aliceFiles
        { command := .removeContact none (Hex.encode [1, 2])
          written := fun _ => true } = (next, .ok ()) ∧
      aliceEnvironment.read next none = .ok changed ∧
      changed.contactByPubkey [1, 2] =
        .error (.error (.report "contact not found")) := by
  have succeeds : (aliceEnvironment.execute aliceFiles
      { command := .removeContact none (Hex.encode [1, 2])
        written := fun _ => true }).2 = .ok () := by
    decide +kernel
  have removed : aliceEnvironment.execute aliceFiles
      { command := .removeContact none (Hex.encode [1, 2])
        written := fun _ => true } = (_, .ok ()) :=
    Prod.ext rfl succeeds
  obtain ⟨config, changed, isRead, -, isChanged, known, -⟩ :=
    contact_removed toml_aliceEnvironment noDealer_aliceActions
      run_aliceActions removed
  obtain rfl := Except.ok.inj (isRead.symm.trans read_bob)
  exact ⟨_, changed, removed, isChanged,
    (known [1, 2]).trans (if_pos ⟨rfl, by simp [bobConfig, Config.default]⟩)⟩

end Removal

end Cli
end MinaMultiSig
