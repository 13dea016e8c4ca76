import MinaMultiSig.Cli.Config
import MinaMultiSig.Library.Transition

/-!
# Commands on config files

The commands of `mina-frost-client/src/cli` that read and write config files,
and the store they work on: any number of files, changed by one command after
another. What is drawn, dealt or generated is given with a command, and which of
its writes succeed.
-/

namespace MinaMultiSig
namespace Cli

namespace Config

/-- `init`: a key pair is generated if there is none. -/
def init
    (generated : Option CommunicationKey)
    (config : Config) : Outcome CliError Config :=
  if config.communicationKey.isSome then .ok config
  else do
    let communicationKey ← Outcome.okOr .snow generated
    return { config with communicationKey := some communicationKey }

/-- `contact::import`: neither the name nor the key of a contact may be
known. -/
def importContact
    (bech32 : Bech32)
    (textContact : String)
    (config : Config) : Outcome CliError Config := do
  let contact ← Contact.fromText bech32 textContact
  if config.contact.contains contact.name then
    throw (.error (.report ("contact with name " ++ contact.name ++
      " already exists. Either remove the existing one, or ask the sender " ++
      "to change their display name when exporting")))
  if config.contact.values.any (fun known => known.pubkey = contact.pubkey) then
    throw (.error (.report ("pubkey " ++ Hex.encode contact.pubkey ++
      " already registered for " ++ contact.name)))
  if config.communicationKey.map CommunicationKey.pubkey =
      some contact.pubkey then
    throw (.error (.report ("pubkey " ++ Hex.encode contact.pubkey ++
      " already registered for yourself")))
  return { config with
    contact :=
      config.contact.insert contact.name { contact with version := none } }

/-- `contact::remove`: the first contact whose key has the digits. -/
def removeContact
    (pubkey : String)
    (config : Config) : Outcome CliError Config := do
  let (name, _) ← Outcome.okOr (.report "contact not found")
    (config.contact.entries.find? fun entry =>
      Hex.encode entry.2.pubkey = pubkey)
  return { config with contact := config.contact.erase name }

/-- `group::remove`. -/
def removeGroup
    (group : String)
    (config : Config) : Outcome CliError Config := do
  let _ ← Outcome.okOr (.report "group not found") (config.group.lookup group)
  return { config with group := config.group.erase group }

/-- `update_config_with_group` of the key generation. -/
def addGroup
    (key : String)
    (group : Group)
    (config : Config) : Outcome CliError Config :=
  .ok { config with group := config.group.insert key group }

/-- What a trusted dealer changes in one of the configs. -/
def addDealt
    (key : String)
    (group : Group)
    (contacts : List Contact)
    (config : Config) : Outcome CliError Config :=
  .ok { config with
    group := config.group.insert key group
    contact := contacts.foldl
      (fun book contact => book.insert contact.name contact) config.contact }

end Config

/-- What a dealer deals: the digits of the verifying key, the encoded package of
the public keys, and the encoded identifier and key package of each share. -/
structure Dealt where
  verifyingKey : String
  publicKeyPackage : List UInt8
  shares : List (List UInt8 × List UInt8)

/-- The options of the trusted dealer. -/
structure TrustedDealerArgs where
  config : List Path
  description : String
  names : List String
  serverUrl : Option String
  threshold : UInt16

namespace Environment

variable (env : Environment)

/-- The user of each file with its share, and its contact under its name. -/
def extractParticipantInfo
    (files : Files)
    (shares : List (List UInt8 × List UInt8))
    (paths : List Path)
    (names : List String) :
    Outcome CliError (List (Participant × Contact)) :=
  (shares.zip (paths.zip names)).mapM fun (share, path, name) => do
    let config ← env.read files (some path)
    let key ← Outcome.okOr (.report "config not initialized")
      config.communicationKey
    return ({ identifier := share.1, pubkey := key.pubkey },
      { version := none, name := name, pubkey := key.pubkey })

/-- One file after the other; a failure leaves those behind it as they are. -/
def updateConfigFiles
    (files : Files)
    (key : String)
    (contacts : List Contact)
    (written : Nat → Bool) :
    List (Path × Group) → Files × Outcome CliError Unit
  | [] => (files, .ok ())
  | (path, group) :: rest =>
      match env.update files (some path) (Config.addDealt key group contacts)
          (written 0) with
      | (files, .error failure) => (files, .error failure)
      | (files, .ok ()) =>
          updateConfigFiles files key contacts (fun number =>
            written (number + 1)) rest

/-- The trusted dealer, once its options are checked. -/
def deal
    (files : Files)
    (args : TrustedDealerArgs)
    (dealt : Dealt)
    (written : Nat → Bool) : Files × Outcome CliError Unit :=
  match env.extractParticipantInfo files dealt.shares args.config
      args.names with
  | .error failure => (files, .error failure)
  | .ok infos =>
      let participants := (infos.map Prod.fst).foldl
        (fun map participant =>
          map.insert (Hex.encode participant.identifier) participant) ∅
      let groups := dealt.shares.map fun share : List UInt8 × List UInt8 =>
        { description := args.description
          publicKeyPackage := dealt.publicKeyPackage
          keyPackage := share.2
          serverUrl := args.serverUrl
          participant := participants : Group }
      env.updateConfigFiles files dealt.verifyingKey (infos.map Prod.snd)
        written (args.config.zip groups)

/-- `trusted_dealer::run`. The number of names is a 16-bit number. -/
def trustedDealer
    (files : Files)
    (args : TrustedDealerArgs)
    (generated : Option Dealt)
    (written : Nat → Bool) : Files × Outcome CliError Unit :=
  let numSigners := UInt16.ofNat args.names.length
  if args.config.length ≠ numSigners.toNat then
    (files, .error (.error (.report
      "The `config` option must specify `num_signers` different config files")))
  else if args.threshold > numSigners then
    (files, .error (.error (.report
      "Threshold cannot be greater than the number of signers")))
  else if args.threshold < 2 then
    (files, .error (.error (.report "Minimum signers must be at least 2")))
  else if numSigners < 2 then
    (files, .error (.error (.report "Maximum signers must be at least 2")))
  else
    match generated with
    | none => (files, .error (.error .frost))
    | some dealt => env.deal files args dealt written

/-- `contact::export`: what is shown of the user under a name, and its text. -/
def exportContact
    (files : Files)
    (config : Option Path)
    (name : String) : Outcome CliError (String × String) := do
  let config ← env.read files config
  let key ← Outcome.okOr (.report "pubkey not generated yet")
    config.communicationKey
  let contact : Contact :=
    { version := some 0, name := name, pubkey := key.pubkey }
  let text ← contact.asText env.bech32
  return (contact.asHumanReadableSummary, text)

/-- `contact::list`: what is shown of the contacts, and how it ends. -/
def listContacts
    (files : Files)
    (config : Option Path) :
    List (String × Option String) × Outcome CliError Unit :=
  match env.read files config with
  | .error failure => ([], .error failure)
  | .ok config => Contact.shown env.bech32 config.contact.values

end Environment

/-- The commands that change files. -/
inductive Command
  | init (config : Option Path) (generated : Option CommunicationKey)
  | importContact (contact : String) (config : Option Path)
  | removeContact (config : Option Path) (pubkey : String)
  | removeGroup (config : Option Path) (group : String)
  | dkg (config : Option Path) (key : String) (group : Group)
  | trustedDealer (args : TrustedDealerArgs) (generated : Option Dealt)

/-- A command and which of its writes succeed. Only a dealer has more than
one. -/
structure Action where
  command : Command
  written : Nat → Bool

namespace Environment

variable (env : Environment)

/-- Run a command. -/
def execute
    (files : Files)
    (action : Action) : Files × Outcome CliError Unit :=
  let written := action.written 0
  match action.command with
  | .init config generated =>
      env.update files config (Config.init generated) written
  | .importContact contact config =>
      env.update files config (Config.importContact env.bech32 contact) written
  | .removeContact config pubkey =>
      env.update files config (Config.removeContact pubkey) written
  | .removeGroup config group =>
      env.update files config (Config.removeGroup group) written
  | .dkg config key group =>
      env.update files config (Config.addGroup key group) written
  | .trustedDealer args generated =>
      env.trustedDealer files args generated action.written

/-- The files under any commands, from an empty disk. -/
def store : TransitionSystem Files Action where
  initial := ∅
  step := fun files action => some (env.execute files action).1

end Environment

end Cli
end MinaMultiSig
