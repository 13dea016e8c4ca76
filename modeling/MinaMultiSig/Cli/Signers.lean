import Mathlib
import MinaMultiSig.Cli.AddressBook
import MinaMultiSig.Coordinator.SessionInvariant

/-!
# The signers of a coordinator

A coordinator names its signers by the digits of their keys and finds them
among the participants of a group. Whatever commands have written the group, all
participants can be named, and the session gets an injective map of keys to
identifiers. It is empty if nobody is named, and its size is counted in 16 bits.
-/

namespace MinaMultiSig
namespace Cli

variable {Identifier PublicKeyPackage : Type}

/-- How `frost-core` writes and reads identifiers, and reads packages. -/
structure FrostBytes (Identifier PublicKeyPackage : Type) where
  serialize : Identifier → List UInt8
  deserialize : List UInt8 → Option Identifier
  publicKeyPackage : List UInt8 → Option PublicKeyPackage

/-- An identifier is read from its own bytes and from no others. -/
structure FrostBytes.Documented
    (bytes : FrostBytes Identifier PublicKeyPackage) : Prop where
  deserialize_eq_some_iff : ∀ written identifier,
    bytes.deserialize written = some identifier ↔
      bytes.serialize identifier = written

/-- The first participant with a key. -/
def Group.participantByPubkey
    (group : Group)
    (pubkey : PublicKey) : Outcome CliError Participant :=
  Outcome.okOr (.report "Participant not found")
    (group.participant.values.find? fun participant =>
      participant.pubkey = pubkey)

section Coordinator

variable (bytes : FrostBytes Identifier PublicKeyPackage)

/-- The parsed identifier of a participant. -/
def Participant.identifierOf
    (participant : Participant) : Outcome CliError Identifier :=
  Outcome.okOr .frost (bytes.deserialize participant.identifier)

/-- A signer from the digits of its key. -/
def parseSigner
    (group : Group)
    (text : String) : Outcome CliError (PublicKey × Identifier) := do
  let pubkey ← Outcome.okOr .hex (Hex.decode text)
  let contact ← group.participantByPubkey pubkey
  let identifier ← contact.identifierOf bytes
  return (pubkey, identifier)

/-- The signers of a coordinator; of two arguments with one key the later one is
kept. -/
def parseSigners
    (signerArgs : List String)
    (group : Group) :
    Outcome CliError (FiniteMap PublicKey Identifier) := do
  let signers ← signerArgs.mapM (parseSigner bytes group)
  return FiniteMap.ofEntries signers

/-- The config of the user, the group it names, and the public key package of the
group. -/
def Environment.loadCoordinatorConfig
    (env : Environment)
    (files : Files)
    (path : Option Path)
    (groupId : String) :
    Outcome CliError (Config × Group × PublicKeyPackage) := do
  let config ← env.read files path
  let group ← Outcome.okOr (.report "Group not found")
    (config.group.lookup groupId)
  let package ← Outcome.okOr .postcard
    (bytes.publicKeyPackage group.publicKeyPackage)
  return (config, group, package)

/-- What `setup_coordinator_config` counts. -/
def numSigners (signers : FiniteMap PublicKey Identifier) : UInt16 :=
  UInt16.ofNat signers.keys.card

end Coordinator

section Parsed

variable {bytes : FrostBytes Identifier PublicKeyPackage}

theorem parseSigner_eq_ok
    {group : Group}
    {text : String}
    {signer : PublicKey × Identifier}
    (parsed : parseSigner bytes group text = .ok signer) :
    Hex.decode text = some signer.1 ∧
      ∃ participant ∈ group.participant.values,
        participant.pubkey = signer.1 ∧
        bytes.deserialize participant.identifier = some signer.2 := by
  obtain ⟨pubkey, decoded, parsed⟩ := Outcome.bind_eq_ok.mp parsed
  obtain ⟨participant, found, parsed⟩ := Outcome.bind_eq_ok.mp parsed
  obtain ⟨identifier, isIdentifier, parsed⟩ := Outcome.bind_eq_ok.mp parsed
  obtain rfl := Except.ok.inj parsed
  have found := Outcome.okOr_eq_ok.mp found
  exact ⟨Outcome.okOr_eq_ok.mp decoded, participant,
    List.mem_of_find?_eq_some found, by simpa using List.find?_some found,
    Outcome.okOr_eq_ok.mp isIdentifier⟩

/-- A participant can be named by any digits of its key. -/
theorem exists_parseSigner_iff
    (documented : bytes.Documented)
    {group : Group}
    (keyed : group.Keyed (Set.range bytes.serialize))
    {text : String} :
    (∃ signer, parseSigner bytes group text = .ok signer) ↔
      ∃ participant ∈ group.participant.values,
        Hex.decode text = some participant.pubkey := by
  constructor
  · rintro ⟨signer, parsed⟩
    obtain ⟨decoded, participant, inValues, same, -⟩ :=
      parseSigner_eq_ok parsed
    exact ⟨participant, inValues, decoded.trans (congrArg some same.symm)⟩
  · rintro ⟨named, isNamed, decoded⟩
    have isSome : (group.participant.values.find? fun participant =>
        participant.pubkey = named.pubkey).isSome :=
      List.find?_isSome.mpr ⟨named, isNamed, decide_eq_true rfl⟩
    obtain ⟨participant, found⟩ := Option.isSome_iff_exists.mp isSome
    obtain ⟨digits, isEntry⟩ :=
      SortedMap.mem_values.mp (List.mem_of_find?_eq_some found)
    obtain ⟨-, identifier, written⟩ := keyed digits participant isEntry
    refine ⟨(named.pubkey, identifier), ?_⟩
    apply Outcome.bind_eq_ok.mpr
    refine ⟨_, Outcome.okOr_eq_ok.mpr decoded, ?_⟩
    apply Outcome.bind_eq_ok.mpr
    refine ⟨participant, Outcome.okOr_eq_ok.mpr found, ?_⟩
    apply Outcome.bind_eq_ok.mpr
    refine ⟨identifier, Outcome.okOr_eq_ok.mpr ?_, rfl⟩
    exact (documented.deserialize_eq_some_iff _ _).mpr written

/-- All signers are parsed if and only if all are participants. -/
theorem exists_parseSigners_iff
    (documented : bytes.Documented)
    {group : Group}
    (keyed : group.Keyed (Set.range bytes.serialize))
    {signerArgs : List String} :
    (∃ signers, parseSigners bytes signerArgs group = .ok signers) ↔
      ∀ text ∈ signerArgs, ∃ participant ∈ group.participant.values,
        Hex.decode text = some participant.pubkey := by
  have each : (∃ entries, signerArgs.mapM (parseSigner bytes group) =
      .ok entries) ↔ _ :=
    Outcome.exists_mapM_eq_ok_iff
  simp only [exists_parseSigner_iff documented keyed] at each
  rw [← each]
  constructor
  · rintro ⟨signers, parsed⟩
    obtain ⟨entries, made, -⟩ := Outcome.bind_eq_ok.mp parsed
    exact ⟨entries, made⟩
  · rintro ⟨entries, made⟩
    exact ⟨_, Outcome.bind_eq_ok.mpr ⟨entries, made, rfl⟩⟩

/-- The signers are those with the given keys. -/
theorem mem_keys_of_parseSigners
    {group : Group}
    {signerArgs : List String}
    {signers : FiniteMap PublicKey Identifier}
    (parsed : parseSigners bytes signerArgs group = .ok signers)
    (pubkey : PublicKey) :
    pubkey ∈ signers.keys ↔
      ∃ text ∈ signerArgs, Hex.decode text = some pubkey := by
  obtain ⟨entries, made, isMap⟩ := Outcome.bind_eq_ok.mp parsed
  obtain rfl := Except.ok.inj isMap
  rw [FiniteMap.mem_keys_ofEntries, List.mem_map]
  constructor
  · rintro ⟨signer, member, rfl⟩
    obtain ⟨text, isText, isSigner⟩ :=
      Outcome.mem_of_mapM_eq_ok made signer member
    exact ⟨text, isText, (parseSigner_eq_ok isSigner).1⟩
  · rintro ⟨text, isText, decoded⟩
    obtain ⟨signer, member, isSigner⟩ :=
      Outcome.exists_mem_of_mapM_eq_ok made text isText
    have same := (parseSigner_eq_ok isSigner).1
    rw [decoded] at same
    exact ⟨signer, member, (Option.some.inj same).symm⟩

/-- A signer has the identifier of a participant with its key. -/
theorem participant_of_parseSigners
    {group : Group}
    {signerArgs : List String}
    {signers : FiniteMap PublicKey Identifier}
    (parsed : parseSigners bytes signerArgs group = .ok signers)
    {pubkey : PublicKey}
    {identifier : Identifier}
    (found : signers.lookup pubkey = some identifier) :
    ∃ participant ∈ group.participant.values,
      participant.pubkey = pubkey ∧
      bytes.deserialize participant.identifier = some identifier := by
  obtain ⟨entries, made, isMap⟩ := Outcome.bind_eq_ok.mp parsed
  obtain rfl := Except.ok.inj isMap
  obtain ⟨text, -, isSigner⟩ := Outcome.mem_of_mapM_eq_ok made _
    (FiniteMap.mem_of_lookup_ofEntries found)
  exact (parseSigner_eq_ok isSigner).2

/-- Two participants with one identifier are one, so two signers with one
identifier have one key. -/
theorem injective_of_parseSigners
    (documented : bytes.Documented)
    {group : Group}
    {identifiers : Set (List UInt8)}
    (keyed : group.Keyed identifiers)
    {signerArgs : List String}
    {signers : FiniteMap PublicKey Identifier}
    (parsed : parseSigners bytes signerArgs group = .ok signers) :
    FiniteMap.Injective signers := by
  have stands : ∀ {participant : Participant} {identifier},
      participant ∈ group.participant.values →
        bytes.deserialize participant.identifier = some identifier →
          group.participant.lookup
            (Hex.encode (bytes.serialize identifier)) = some participant := by
    intro participant identifier inValues read
    obtain ⟨digits, found⟩ := SortedMap.mem_values.mp inValues
    rwa [(documented.deserialize_eq_some_iff _ _).mp read,
      ← (keyed digits participant found).1]
  intro first second identifier isFirst isSecond
  obtain ⟨participant, inValues, rfl, read⟩ :=
    participant_of_parseSigners parsed isFirst
  obtain ⟨other, otherInValues, rfl, otherRead⟩ :=
    participant_of_parseSigners parsed isSecond
  have found := stands inValues read
  rw [stands otherInValues otherRead] at found
  rw [Option.some.inj found]

theorem nonempty_of_parseSigners
    {group : Group}
    {signerArgs : List String}
    {signers : FiniteMap PublicKey Identifier}
    (parsed : parseSigners bytes signerArgs group = .ok signers)
    (given : signerArgs ≠ []) :
    signers.keys.Nonempty := by
  obtain ⟨entries, made, -⟩ := Outcome.bind_eq_ok.mp parsed
  obtain ⟨text, isText⟩ := List.exists_mem_of_ne_nil _ given
  obtain ⟨signer, -, isSigner⟩ :=
    Outcome.exists_mem_of_mapM_eq_ok made text isText
  exact ⟨signer.1, (mem_keys_of_parseSigners parsed _).mpr
    ⟨text, isText, (parseSigner_eq_ok isSigner).1⟩⟩

theorem card_le_of_parseSigners
    {group : Group}
    {signerArgs : List String}
    {signers : FiniteMap PublicKey Identifier}
    (parsed : parseSigners bytes signerArgs group = .ok signers) :
    signers.keys.card ≤ signerArgs.length := by
  have subset : signers.keys.image some ⊆
      signerArgs.toFinset.image Hex.decode := by
    intro key member
    obtain ⟨pubkey, isKey, rfl⟩ := Finset.mem_image.mp member
    obtain ⟨text, isText, decoded⟩ :=
      (mem_keys_of_parseSigners parsed pubkey).mp isKey
    exact Finset.mem_image.mpr
      ⟨text, List.mem_toFinset.mpr isText, decoded⟩
  calc
    signers.keys.card = (signers.keys.image some).card :=
      (Finset.card_image_of_injective _ (Option.some_injective _)).symm
    _ ≤ signerArgs.toFinset.card :=
      (Finset.card_le_card subset).trans Finset.card_image_le
    _ ≤ signerArgs.length := signerArgs.toFinset_card_le

end Parsed

section Runs

variable [DecidableEq Identifier]

section Created

variable (bytes : FrostBytes Identifier PublicKeyPackage)

/-- The participants of a generated key, from the entries of its key map. -/
def createParticipantsMap
    (verifyingShares : List Identifier)
    (pubkeyMap : List (PublicKey × Identifier)) :
    Outcome CliError (SortedMap String Participant) := do
  let participants ← verifyingShares.mapM fun identifier => do
    -- of two entries with the identifier the later one is kept
    let (pubkey, _) ← Outcome.okOr (.report "missing pubkey")
      (pubkeyMap.reverse.find? fun entry => entry.2 = identifier)
    return ({ identifier := bytes.serialize identifier, pubkey := pubkey } :
      Participant)
  return participants.foldl
    (fun map participant =>
      map.insert (Hex.encode participant.identifier) participant) ∅

/-- The groups that commands add are those of generated and of dealt keys. -/
structure GroupsCreated (actions : List Action) : Prop where
  generated : ∀ action ∈ actions, ∀ path key group,
    action.command = .dkg path key group →
      ∃ verifyingShares pubkeyMap,
        createParticipantsMap bytes verifyingShares pubkeyMap =
          .ok group.participant
  dealt : ∀ action ∈ actions, ∀ args dealt,
    action.command = .trustedDealer args (some dealt) →
      dealt.identifiers ⊆ Set.range bytes.serialize

end Created

variable {env : Environment} {files next : Files}
  {bytes : FrostBytes Identifier PublicKeyPackage}

theorem keyed_of_created
    {group : Group}
    {verifyingShares : List Identifier}
    {pubkeyMap : List (PublicKey × Identifier)}
    (created : createParticipantsMap bytes verifyingShares pubkeyMap =
      .ok group.participant) :
    group.Keyed (Set.range bytes.serialize) := by
  obtain ⟨participants, made, isMap⟩ := Outcome.bind_eq_ok.mp created
  unfold Group.Keyed
  rw [← Except.ok.inj isMap]
  apply SortedMap.forall_foldl_insert
  · intro participant member
    obtain ⟨identifier, -, isMade⟩ :=
      Outcome.mem_of_mapM_eq_ok made participant member
    obtain ⟨entry, -, isMade⟩ := Outcome.bind_eq_ok.mp isMade
    obtain rfl := Except.ok.inj isMade
    exact ⟨rfl, identifier, rfl⟩
  · exact fun _ _ found => absurd found (by simp)

/-- The participants of all groups of a config are keyed. -/
def Config.GroupsKeyed
    (config : Config)
    (identifiers : Set (List UInt8)) : Prop :=
  ∀ key group, config.group.lookup key = some group →
    group.Keyed identifiers

theorem groupsKeyed_insert
    {identifiers : Set (List UInt8)}
    {config changed : Config}
    {key : String}
    {group : Group}
    (keyed : config.GroupsKeyed identifiers)
    (groupKeyed : group.Keyed identifiers)
    (inserted : changed.group = config.group.insert key group) :
    changed.GroupsKeyed identifiers := by
  intro other found isFound
  rw [inserted, SortedMap.lookup_insert] at isFound
  split_ifs at isFound
  · obtain rfl := Option.some.inj isFound
    exact groupKeyed
  · exact keyed other found isFound

theorem groupsKeyed_of_edited
    {identifiers : Set (List UInt8)}
    {config changed : Config}
    {command : Command}
    (keyed : config.GroupsKeyed identifiers)
    (created : ∀ path key group, command = .dkg path key group →
      group.Keyed identifiers)
    (edited : Edited env command config changed) :
    changed.GroupsKeyed identifiers := by
  cases edited with
  | init initialized =>
      intro key group found
      rw [(init_eq_ok initialized).2.1] at found
      exact keyed key group found
  | importContact imported =>
      obtain ⟨contact, -, -, -, -, rfl⟩ := importContact_eq_ok_iff.mp imported
      exact keyed
  | removeContact removed =>
      obtain ⟨name, contact, -, -, rfl⟩ := removeContact_eq_ok removed
      exact keyed
  | removeGroup removed =>
      obtain rfl := removeGroup_eq_ok removed
      intro key group found
      rw [SortedMap.lookup_erase] at found
      split_ifs at found
      exact keyed key group found
  | dkg added =>
      obtain rfl := Except.ok.inj added
      exact groupsKeyed_insert keyed (created _ _ _ rfl) rfl

/-- Runs of commands keep the groups of all files keyed. -/
theorem groupsKeyed_of_run
    (documented : env.toml.Documented)
    {actions : List Action}
    (created : GroupsCreated bytes actions)
    (ran : env.store.run files actions = some next)
    (hold : env.Hold (Config.GroupsKeyed · (Set.range bytes.serialize))
      files) :
    env.Hold (Config.GroupsKeyed · (Set.range bytes.serialize)) next := by
  induction actions generalizing files with
  | nil =>
      obtain rfl := Option.some.inj ran
      exact hold
  | cons action rest ih =>
      obtain ⟨middle, stepped, ran⟩ :=
        TransitionSystem.run_cons_eq_some.mp ran
      obtain rfl := Option.some.inj stepped
      apply ih ⟨fun other member =>
          created.generated other (List.mem_cons_of_mem _ member),
        fun other member =>
          created.dealt other (List.mem_cons_of_mem _ member)⟩ ran
      apply hold.execute documented action
      · intro config changed keyed edited
        apply groupsKeyed_of_edited keyed ?_ edited
        intro path key group isDkg
        obtain ⟨verifyingShares, pubkeyMap, isMap⟩ :=
          created.generated action List.mem_cons_self path key group isDkg
        exact keyed_of_created isMap
      · intro args dealt isDealer group contacts config changed groupKeyed _
          keyed added
        obtain rfl := Except.ok.inj added
        refine groupsKeyed_insert keyed ?_ rfl
        intro digits participant found
        obtain ⟨isDigits, isDealt⟩ := groupKeyed digits participant found
        exact ⟨isDigits, created.dealt action List.mem_cons_self args dealt
          isDealer isDealt⟩

/-- The group of a coordinator is keyed after any run of commands. -/
theorem keyed_of_loadCoordinatorConfig
    (documented : env.toml.Documented)
    {actions : List Action}
    (created : GroupsCreated bytes actions)
    (ran : env.store.run ∅ actions = some files)
    {path : Option Path}
    {groupId : String}
    {config : Config}
    {group : Group}
    {package : PublicKeyPackage}
    (loaded : env.loadCoordinatorConfig bytes files path groupId =
      .ok (config, group, package)) :
    group.Keyed (Set.range bytes.serialize) := by
  have hold : env.Hold (Config.GroupsKeyed · (Set.range bytes.serialize))
      files :=
    groupsKeyed_of_run documented created ran
      (hold_empty fun _ _ found => absurd found (by simp [Config.default]))
  obtain ⟨own, isRead, loaded⟩ := Outcome.bind_eq_ok.mp loaded
  obtain ⟨found, isGroup, loaded⟩ := Outcome.bind_eq_ok.mp loaded
  obtain ⟨_, -, loaded⟩ := Outcome.bind_eq_ok.mp loaded
  obtain ⟨rfl, rfl, rfl⟩ : own = config ∧ found = group ∧ _ = package := by
    simpa using Except.ok.inj loaded
  obtain ⟨same, isSame, groupsKeyed⟩ := hold path
  obtain rfl := Except.ok.inj (isRead.symm.trans isSame)
  exact groupsKeyed groupId found (Outcome.okOr_eq_ok.mp isGroup)

/-- After any run of commands, a coordinator can name signers if and only if all
of them are participants of the group. They have the keys that are named and the
identifiers of their participants. If it names any, they make a session: no two
of them have one identifier, and they are counted if their names are less than
`2 ^ 16`. If it names none, it has none. -/
theorem signers_of_run
    (toml : env.toml.Documented)
    (documented : bytes.Documented)
    {actions : List Action}
    (created : GroupsCreated bytes actions)
    (ran : env.store.run ∅ actions = some files)
    {path : Option Path}
    {groupId : String}
    {config : Config}
    {group : Group}
    {package : PublicKeyPackage}
    (loaded : env.loadCoordinatorConfig bytes files path groupId =
      .ok (config, group, package))
    (signerArgs : List String) :
    ((∃ signers, parseSigners bytes signerArgs group = .ok signers) ↔
      ∀ text ∈ signerArgs, ∃ participant ∈ group.participant.values,
        Hex.decode text = some participant.pubkey) ∧
    ∀ signers, parseSigners bytes signerArgs group = .ok signers →
      (∀ pubkey, pubkey ∈ signers.keys ↔
        ∃ text ∈ signerArgs, Hex.decode text = some pubkey) ∧
      (∀ pubkey identifier, signers.lookup pubkey = some identifier →
        ∃ participant ∈ group.participant.values,
          participant.pubkey = pubkey ∧
          bytes.deserialize participant.identifier = some identifier) ∧
      (signerArgs = [] → signers = ∅ ∧ numSigners signers = 0) ∧
      (signerArgs ≠ [] →
        ∃ session : Coordinator.Signers PublicKey Identifier,
          session.pubkeys = signers ∧
          (signerArgs.length < 2 ^ 16 →
            (numSigners signers).toNat = session.numSigners)) := by
  have keyed := keyed_of_loadCoordinatorConfig toml created ran loaded
  refine ⟨exists_parseSigners_iff documented keyed, ?_⟩
  intro signers parsed
  refine ⟨mem_keys_of_parseSigners parsed,
    fun _ _ found => participant_of_parseSigners parsed found, ?_, ?_⟩
  · rintro rfl
    obtain rfl := Except.ok.inj parsed
    exact ⟨rfl, rfl⟩
  · intro given
    refine ⟨⟨signers, injective_of_parseSigners documented keyed parsed,
      nonempty_of_parseSigners parsed given⟩, rfl, ?_⟩
    intro few
    exact UInt16.toNat_ofNat_of_lt'
      ((card_le_of_parseSigners parsed).trans_lt few)

end Runs

section Pair

/-- An identifier of one byte, not zero. -/
abbrev ByteIdentifier : Type :=
  { byte : UInt8 // byte ≠ 0 }

/-- A ciphersuite with these identifiers. -/
def pairBytes : FrostBytes ByteIdentifier (List UInt8) where
  serialize := fun identifier => [identifier.val]
  deserialize := fun written =>
    match written with
    | [byte] => if nonzero : byte ≠ 0 then some ⟨byte, nonzero⟩ else none
    | _ => none
  publicKeyPackage := some

theorem documented_pairBytes : pairBytes.Documented where
  deserialize_eq_some_iff := by
    intro written identifier
    obtain ⟨byte, nonzero⟩ := identifier
    match written with
    | [] => simp [pairBytes]
    | [other] =>
        by_cases isZero : other = 0
        · simp [pairBytes, isZero, nonzero]
        · simp [pairBytes, isZero, eq_comm]
    | _ :: _ :: _ => simp [pairBytes]

/-- The group of two users, as one of them keeps it. -/
def pairGroup : Group :=
  { description := "pair"
    publicKeyPackage := [7]
    keyPackage := [11]
    serverUrl := some "localhost"
    participant :=
      (SortedMap.insert ∅ "01" { identifier := [1], pubkey := [1, 2] }).insert
        "02" { identifier := [2], pubkey := [10, 11] } }

/-- The configuration of the first user behind its key generation. -/
def pairConfig : Config :=
  { aliceConfig with group := SortedMap.insert ∅ "05" pairGroup }

/-- The configuration as text. -/
def pairText : String :=
  "version = 0\n\n[communication_key]\nprivkey = \"03\"\n" ++
    "pubkey = \"0102\"\n\n[contact]\n\n[group.05]\n" ++
    "description = \"pair\"\npublic_key_package = \"07\"\n" ++
    "key_package = \"0b\"\nserver_url = \"localhost\"\n\n" ++
    "[group.05.participant.01]\nidentifier = \"01\"\n" ++
    "pubkey = \"0102\"\n\n[group.05.participant.02]\n" ++
    "identifier = \"02\"\npubkey = \"0a0b\"\n"

/-- The environment that reads and writes this text too. -/
def pairEnvironment : Environment :=
  { aliceEnvironment with
    toml := .ofTable ((pairConfig, pairText) :: tomlTable) }

theorem toml_pairEnvironment : pairEnvironment.toml.Documented :=
  Toml.documented_ofTable (by decide +kernel)

/-- A user starts and generates a key with another one. -/
def pairActions : List Action :=
  [{ command := .init (some "alice.toml") (some aliceKey)
     written := fun _ => true },
    { command := .dkg (some "alice.toml") "05" pairGroup
      written := fun _ => true }]

/-- The files behind the two actions. -/
def pairFiles : Files :=
  pairActions.foldl
    (fun files action => (pairEnvironment.execute files action).1) ∅

/-- The identifier of the first user, and of the other one. -/
def pairIdentifier (first : Bool) : ByteIdentifier :=
  if first then ⟨1, by decide⟩ else ⟨2, by decide⟩

theorem created_pairActions : GroupsCreated pairBytes pairActions where
  generated := by
    intro action member path key group isDkg
    rcases List.mem_cons.mp member with rfl | behind
    · exact absurd isDkg (by simp)
    · obtain rfl := List.mem_singleton.mp behind
      obtain ⟨-, -, rfl⟩ := Command.dkg.inj isDkg
      exact ⟨[pairIdentifier true, pairIdentifier false],
        [([10, 11], pairIdentifier false), ([1, 2], pairIdentifier true)],
        by decide +kernel⟩
  dealt := by
    intro action member args dealt isDealer
    rcases List.mem_cons.mp member with rfl | behind
    · exact absurd isDealer (by simp)
    · obtain rfl := List.mem_singleton.mp behind
      exact absurd isDealer (by simp)

/-- Both users are named, one of them twice. -/
def pairArgs : List String :=
  ["0102", "0a0b", "0A0B"]

/-- These arguments name two signers; a key of nobody is refused. -/
theorem signers_of_run_pair :
    (∃ session : Coordinator.Signers PublicKey ByteIdentifier,
      parseSigners pairBytes pairArgs pairGroup = .ok session.pubkeys ∧
      session.numSigners = 2 ∧
      ∀ pubkey, pubkey ∈ session.pubkeys.keys ↔
        ∃ text ∈ pairArgs, Hex.decode text = some pubkey) ∧
    ¬∃ signers, parseSigners pairBytes ["0102", "0a0c"] pairGroup =
      .ok signers := by
  have loaded : pairEnvironment.loadCoordinatorConfig pairBytes pairFiles
      (some "alice.toml") "05" = .ok (pairConfig, pairGroup, [7]) := by
    decide +kernel
  have made : pairArgs.mapM (parseSigner pairBytes pairGroup) =
      .ok [([1, 2], pairIdentifier true), ([10, 11], pairIdentifier false),
        ([10, 11], pairIdentifier false)] := by
    decide +kernel
  have parsed : parseSigners pairBytes pairArgs pairGroup =
      .ok (FiniteMap.ofEntries
        [([1, 2], pairIdentifier true), ([10, 11], pairIdentifier false),
          ([10, 11], pairIdentifier false)]) := by
    rw [parseSigners, made]
    rfl
  have signers := signers_of_run toml_pairEnvironment documented_pairBytes
    created_pairActions rfl loaded
  obtain ⟨keys, -, -, makes⟩ := (signers pairArgs).2 _ parsed
  obtain ⟨session, isMap, count⟩ := makes (by decide)
  rw [← isMap] at keys
  refine ⟨⟨session, by rw [isMap, parsed], ?_, keys⟩, ?_⟩
  · exact (count (by decide)).symm.trans (by decide +kernel)
  · rw [(signers ["0102", "0a0c"]).1]
    decide +kernel

end Pair

end Cli
end MinaMultiSig
