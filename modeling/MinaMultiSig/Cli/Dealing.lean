import Mathlib
import MinaMultiSig.Cli.AddressBook

/-!
# What a trusted dealer leaves in the config files

The dealer writes one share after the other to the files it is given. Their
number is checked and not that they are different, and a file holds the share
that was written to it last.
-/

namespace MinaMultiSig
namespace Cli

variable {env : Environment} {files next : Files} {key : String}
  {path : Path} {group : Group} {groups : List (Path × Group)}

/-- The last of the groups that are written to a file. -/
def lastGroup (path : Path) : List (Path × Group) → Option Group
  | [] => none
  | (other, group) :: rest =>
      (lastGroup path rest).or (if other = path then some group else none)

/-- A config has got a group, and keeps its key pair and its other groups. -/
structure Received
    (key : String)
    (group : Group)
    (before after : Config) : Prop where
  communicationKey : after.communicationKey = before.communicationKey
  received : after.group.lookup key = some group
  others : ∀ other, other ≠ key →
    after.group.lookup other = before.group.lookup other

/-- A file holds an encoded key package of a group. -/
def Environment.HoldsShare
    (env : Environment)
    (files : Files)
    (path : Path)
    (key : String)
    (keyPackage : List UInt8) : Prop :=
  ∃ config group, env.read files (some path) = .ok config ∧
    config.group.lookup key = some group ∧ group.keyPackage = keyPackage

section LastGroup

theorem isSome_lastGroup
    (member : path ∈ groups.map Prod.fst) :
    (lastGroup path groups).isSome := by
  induction groups with
  | nil => exact absurd member List.not_mem_nil
  | cons first rest ih =>
      rw [lastGroup]
      rcases List.mem_cons.mp member with rfl | behind
      · simp
      · simp [ih behind]

theorem lastGroup_mem
    (isLast : lastGroup path groups = some group) :
    (path, group) ∈ groups := by
  induction groups with
  | nil => exact absurd isLast (by simp [lastGroup])
  | cons first rest ih =>
      obtain ⟨other, written⟩ := first
      rw [lastGroup, Option.or_eq_some_iff] at isLast
      rcases isLast with behind | ⟨-, isFirst⟩
      · exact List.mem_cons_of_mem _ (ih behind)
      · split_ifs at isFirst with same
        · obtain rfl := Option.some.inj isFirst
          rw [same]
          exact List.mem_cons_self

/-- Where the files are different, every group is the last one of its file. -/
theorem lastGroup_of_nodup
    (distinct : (groups.map Prod.fst).Nodup)
    (member : (path, group) ∈ groups) :
    lastGroup path groups = some group := by
  have isFile : path ∈ groups.map Prod.fst :=
    List.mem_map.mpr ⟨_, member, rfl⟩
  obtain ⟨last, isLast⟩ := Option.isSome_iff_exists.mp
    (isSome_lastGroup isFile)
  have same := List.inj_on_of_nodup_map distinct (lastGroup_mem isLast)
    member rfl
  rw [isLast, (Prod.mk.inj same).2]

end LastGroup

theorem received_addDealt
    {contacts : List Contact}
    {config changed : Config}
    (added : config.addDealt key group contacts = .ok changed) :
    Received key group config changed := by
  obtain rfl := Except.ok.inj added
  refine ⟨rfl, ?_, ?_⟩
  · rw [SortedMap.lookup_insert, if_pos rfl]
  · intro other different
    rw [SortedMap.lookup_insert, if_neg different]

/-- What the files hold once all groups are written. -/
theorem read_updateConfigFiles
    (documented : env.toml.Documented)
    {contacts : List Contact}
    {written : Nat → Bool}
    (updated : env.updateConfigFiles files key contacts written groups =
      (next, .ok ()))
    (path : Path) :
    (lastGroup path groups = none →
      env.read next (some path) = env.read files (some path)) ∧
    ∀ group, lastGroup path groups = some group →
      ∃ before after, env.read files (some path) = .ok before ∧
        env.read next (some path) = .ok after ∧
        Received key group before after := by
  induction groups generalizing files written with
  | nil =>
      obtain ⟨rfl, -⟩ := Prod.mk.inj updated
      exact ⟨fun _ => rfl, fun _ isLast => absurd isLast (by simp [lastGroup])⟩
  | cons first rest ih =>
      obtain ⟨other, given⟩ := first
      rw [Environment.updateConfigFiles] at updated
      rcases step : env.update files (some other)
          (Config.addDealt key given contacts) (written 0) with
        ⟨middle, failure | _⟩
      · rw [step] at updated
        exact absurd (Prod.mk.inj updated).2 (by simp)
      rw [step] at updated
      rcases Environment.update_cases documented step with
        ⟨-, failed⟩ | ⟨config, changed, isRead, added, -, reads⟩
      · exact absurd rfl failed
      obtain ⟨unchanged, changes⟩ := ih updated
      have got := received_addDealt added
      have reads : env.read middle (some path) =
          if path = other then .ok changed else env.read files (some path) :=
        reads (some path)
      by_cases same : path = other
      · obtain rfl := same
        rw [if_pos rfl] at reads
        constructor
        · intro noLast
          exact absurd noLast (by simp [lastGroup])
        · intro group isLast
          rw [lastGroup, if_pos rfl, Option.or_eq_some_iff] at isLast
          rcases isLast with behind | ⟨none, isFirst⟩
          · -- a later write to the same file takes the place of this one
            obtain ⟨before, after, isBefore, isAfter, received⟩ :=
              changes group behind
            obtain rfl := Except.ok.inj (reads.symm.trans isBefore)
            exact ⟨config, after, isRead, isAfter,
              received.communicationKey.trans got.communicationKey,
              received.received, fun other different =>
                (received.others other different).trans
                  (got.others other different)⟩
          · obtain rfl := Option.some.inj isFirst
            exact ⟨config, changed, isRead, (unchanged none).trans reads, got⟩
      · rw [if_neg same] at reads
        rw [lastGroup, if_neg (Ne.symm same), Option.or_none, ← reads]
        exact ⟨unchanged, changes⟩

/-- What a dealer that has ended well has written. -/
theorem trustedDealer_eq_ok
    {args : TrustedDealerArgs}
    {dealt : Dealt}
    {written : Nat → Bool}
    (executed : env.trustedDealer files args (some dealt) written =
      (next, .ok ())) :
    ∃ contacts groups,
      groups.map Group.keyPackage = dealt.shares.map Prod.snd ∧
      env.updateConfigFiles files dealt.verifyingKey contacts written
        (args.config.zip groups) = (next, .ok ()) := by
  unfold Environment.trustedDealer at executed
  dsimp only at executed
  split_ifs at executed
  · exact absurd (Prod.mk.inj executed).2 (by simp)
  · exact absurd (Prod.mk.inj executed).2 (by simp)
  · exact absurd (Prod.mk.inj executed).2 (by simp)
  · exact absurd (Prod.mk.inj executed).2 (by simp)
  · dsimp only [Environment.deal] at executed
    cases extracted : env.extractParticipantInfo files dealt.shares
        args.config args.names with
    | error failure =>
        rw [extracted] at executed
        exact absurd (Prod.mk.inj executed).2 (by simp)
    | ok infos =>
        rw [extracted] at executed
        refine ⟨_, _, ?_, executed⟩
        rw [List.map_map]
        rfl

/-- Every file keeps its key pair and its other groups. -/
theorem kept_of_updateConfigFiles
    (documented : env.toml.Documented)
    {contacts : List Contact}
    {written : Nat → Bool}
    (updated : env.updateConfigFiles files key contacts written groups =
      (next, .ok ()))
    {config : Config}
    (isRead : env.read files (some path) = .ok config) :
    ∃ after, env.read next (some path) = .ok after ∧
      after.communicationKey = config.communicationKey ∧
      ∀ other, other ≠ key →
        after.group.lookup other = config.group.lookup other := by
  obtain ⟨unchanged, changes⟩ := read_updateConfigFiles documented updated path
  cases isLast : lastGroup path groups with
  | none => exact ⟨config, (unchanged isLast).trans isRead, rfl, fun _ _ => rfl⟩
  | some group =>
      obtain ⟨before, after, isBefore, isAfter, received⟩ :=
        changes group isLast
      obtain rfl := Except.ok.inj (isRead.symm.trans isBefore)
      exact ⟨after, isAfter, received.communicationKey, received.others⟩

/-- Of as many shares as files, each is in some file at the end if and only if
the files are different, which the dealer asks for and does not check. In any
case every file keeps its key pair and its other groups. -/
theorem every_share_held_iff
    (documented : env.toml.Documented)
    {args : TrustedDealerArgs}
    {dealt : Dealt}
    {written : Nat → Bool}
    (distinct : (dealt.shares.map Prod.snd).Nodup)
    (count : dealt.shares.length = args.config.length)
    (executed : env.trustedDealer files args (some dealt) written =
      (next, .ok ())) :
    ((∀ share ∈ dealt.shares, ∃ path ∈ args.config,
      env.HoldsShare next path dealt.verifyingKey share.2) ↔
        args.config.Nodup) ∧
    ∀ path config, env.read files (some path) = .ok config →
      ∃ after, env.read next (some path) = .ok after ∧
        after.communicationKey = config.communicationKey ∧
        ∀ other, other ≠ dealt.verifyingKey →
          after.group.lookup other = config.group.lookup other := by
  obtain ⟨contacts, groups, packages, updated⟩ := trustedDealer_eq_ok executed
  have sameLength : groups.length = args.config.length := by
    rw [← count, ← List.length_map Group.keyPackage, packages,
      List.length_map]
  have paths : (args.config.zip groups).map Prod.fst = args.config :=
    List.map_fst_zip sameLength.ge
  have holds := read_updateConfigFiles documented updated
  refine ⟨⟨?_, ?_⟩, fun _ _ => kept_of_updateConfigFiles documented updated⟩
  · intro held
    -- every key package is one that some file holds at the end
    have subset : (dealt.shares.map Prod.snd).toFinset.image some ⊆
        args.config.toFinset.image fun path =>
          (lastGroup path (args.config.zip groups)).map Group.keyPackage := by
      intro package member
      obtain ⟨keyPackage, isPackage, rfl⟩ := Finset.mem_image.mp member
      obtain ⟨share, isShare, rfl⟩ :=
        List.mem_map.mp (List.mem_toFinset.mp isPackage)
      obtain ⟨path, isPath, config, group, isRead, isGroup, isPackage⟩ :=
        held share isShare
      have isFile : path ∈ (args.config.zip groups).map Prod.fst := by
        rwa [paths]
      obtain ⟨last, isLast⟩ := Option.isSome_iff_exists.mp
        (isSome_lastGroup isFile)
      obtain ⟨before, after, -, isAfter, received⟩ := (holds path).2 _ isLast
      obtain rfl := Except.ok.inj (isRead.symm.trans isAfter)
      obtain rfl := Option.some.inj (isGroup.symm.trans received.received)
      refine Finset.mem_image.mpr ⟨path, List.mem_toFinset.mpr isPath, ?_⟩
      rw [isLast, Option.map_some, isPackage]
    have enough : args.config.length ≤ args.config.toFinset.card :=
      calc
        args.config.length = (dealt.shares.map Prod.snd).length := by
          rw [List.length_map, count]
        _ = (dealt.shares.map Prod.snd).toFinset.card :=
          (List.toFinset_card_of_nodup distinct).symm
        _ = ((dealt.shares.map Prod.snd).toFinset.image some).card :=
          (Finset.card_image_of_injective _
            (Option.some_injective _)).symm
        _ ≤ args.config.toFinset.card :=
          (Finset.card_le_card subset).trans Finset.card_image_le
    exact Multiset.toFinset_card_eq_card_iff_nodup.mp
      (le_antisymm args.config.toFinset_card_le enough)
  · intro different share isShare
    have isPackage : share.2 ∈ groups.map Group.keyPackage := by
      rw [packages]
      exact List.mem_map_of_mem isShare
    obtain ⟨group, isGroup, isPackage⟩ := List.mem_map.mp isPackage
    have entries : (args.config.zip groups).map Prod.snd = groups :=
      List.map_snd_zip sameLength.le
    rw [← entries] at isGroup
    obtain ⟨⟨path, other⟩, isEntry, rfl⟩ := List.mem_map.mp isGroup
    have isLast := lastGroup_of_nodup (paths.symm ▸ different) isEntry
    obtain ⟨before, after, -, isAfter, received⟩ := (holds path).2 _ isLast
    exact ⟨path, (List.of_mem_zip isEntry).1, after, _, isAfter,
      received.received, isPackage⟩

section Twice

/-- What is dealt to two signers. -/
def twiceDealt : Dealt :=
  { verifyingKey := "05"
    publicKeyPackage := [7]
    shares := [([1], [11]), ([2], [12])] }

/-- One file for two signers. -/
def twiceArgs : TrustedDealerArgs :=
  { config := ["alice.toml", "alice.toml"]
    description := "pair"
    names := ["Alice", "Bob"]
    serverUrl := none
    threshold := 2 }

/-- The config of a user who stands for both signers, with one of the shares. -/
def twiceConfig (keyPackage : List UInt8) : Config :=
  { aliceConfig with
    contact :=
      (SortedMap.insert ∅ "Alice"
        { version := none, name := "Alice", pubkey := [1, 2] }).insert "Bob"
        { version := none, name := "Bob", pubkey := [1, 2] }
    group := SortedMap.insert ∅ "05"
      { description := "pair"
        publicKeyPackage := [7]
        keyPackage := keyPackage
        serverUrl := none
        participant :=
          (SortedMap.insert ∅ "01"
            { identifier := [1], pubkey := [1, 2] }).insert "02"
            { identifier := [2], pubkey := [1, 2] } } }

/-- The configuration of the two signers as text. -/
def twiceText (keyPackage : String) : String :=
  "version = 0\n\n[communication_key]\nprivkey = \"03\"\n" ++
    "pubkey = \"0102\"\n\n[contact.Alice]\nname = \"Alice\"\n" ++
    "pubkey = \"0102\"\n\n[contact.Bob]\nname = \"Bob\"\n" ++
    "pubkey = \"0102\"\n\n[group.05]\ndescription = \"pair\"\n" ++
    "public_key_package = \"07\"\nkey_package = \"" ++ keyPackage ++
    "\"\n\n[group.05.participant.01]\nidentifier = \"01\"\n" ++
    "pubkey = \"0102\"\n\n[group.05.participant.02]\n" ++
    "identifier = \"02\"\npubkey = \"0102\"\n"

/-- The environment that reads and writes these texts too. -/
def dealerEnvironment : Environment :=
  { aliceEnvironment with
    toml := .ofTable ((twiceConfig [11], twiceText "0b") ::
      (twiceConfig [12], twiceText "0c") :: tomlTable) }

theorem toml_dealerEnvironment : dealerEnvironment.toml.Documented :=
  Toml.documented_ofTable (by decide +kernel)

/-- The dealer ends well, and one share is in no file. -/
theorem every_share_held_iff_twice :
    ∃ next,
      dealerEnvironment.trustedDealer aliceFiles twiceArgs (some twiceDealt)
        (fun _ => true) = (next, .ok ()) ∧
      ¬∀ share ∈ twiceDealt.shares, ∃ path ∈ twiceArgs.config,
        dealerEnvironment.HoldsShare next path twiceDealt.verifyingKey
          share.2 := by
  have ended : (dealerEnvironment.trustedDealer aliceFiles twiceArgs
      (some twiceDealt) fun _ => true).2 = .ok () := by
    decide +kernel
  rcases executed : dealerEnvironment.trustedDealer aliceFiles twiceArgs
      (some twiceDealt) (fun _ => true) with ⟨next, result⟩
  rw [executed] at ended
  obtain rfl : result = .ok () := ended
  refine ⟨next, rfl, ?_⟩
  rw [(every_share_held_iff toml_dealerEnvironment (by decide) rfl executed).1]
  decide

end Twice

end Cli
end MinaMultiSig
