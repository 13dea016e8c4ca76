import MinaMultiSig.Cli.Contact
import MinaMultiSig.Library.FiniteMap
import MinaMultiSig.Library.SortedMap

/-!
# Config files

The config of `mina-frost-client/src/cli/config.rs` and how it is read from a
file and written to one. A file that does not exist is read as the default
config. A file is replaced at once or not at all.
-/

namespace MinaMultiSig
namespace Cli

open Tx (asBytes fromUtf8)

/-- The path of a file. -/
abbrev Path : Type :=
  String

/-- The communication key pair of a user. -/
structure CommunicationKey where
  privkey : List UInt8
  pubkey : PublicKey
  deriving DecidableEq

/-- A participant of a group. -/
structure Participant where
  identifier : List UInt8
  pubkey : PublicKey
  deriving DecidableEq

/-- A group with the encoded packages of the user, and its participants by the
digits of their identifiers. -/
structure Group where
  description : String
  publicKeyPackage : List UInt8
  keyPackage : List UInt8
  serverUrl : Option String
  participant : SortedMap String Participant
  deriving DecidableEq

/-- The contacts by their names and the groups by the digits of their verifying
keys. -/
structure Config where
  version : UInt8
  communicationKey : Option CommunicationKey
  contact : SortedMap String Contact
  group : SortedMap String Group
  deriving DecidableEq

namespace Config

/-- `Config::default`. -/
def default : Config :=
  { version := 0, communicationKey := none, contact := ∅, group := ∅ }

/-- The user is known as well, without a name. -/
def contactByPubkey
    (config : Config)
    (pubkey : PublicKey) : Outcome CliError Contact :=
  if some pubkey = config.communicationKey.map CommunicationKey.pubkey then
    .ok { version := some 0, name := "", pubkey := pubkey }
  else
    Outcome.okOr (.report "contact not found")
      (config.contact.values.find? fun contact => contact.pubkey = pubkey)

end Config

/-- The functions of the `toml` crate. -/
structure Toml where
  toStringPretty : Config → Option String
  fromStr : String → Option Config

/-- What is written is read again. -/
structure Toml.Documented (toml : Toml) : Prop where
  fromStr_toStringPretty : ∀ config text,
    toml.toStringPretty config = some text → toml.fromStr text = some config

/-- What the commands use, and the path of the config file if none is given. -/
structure Environment where
  toml : Toml
  bech32 : Bech32
  defaultPath : Path

/-- The files on the disk with their bytes. -/
abbrev Files : Type :=
  FiniteMap Path (List UInt8)

namespace Environment

variable (env : Environment)

/-- `Config::parse_path`: the given path, or the default one. -/
def parsePath (path : Option Path) : Path :=
  path.getD env.defaultPath

/-- `Config::read`. -/
def read (files : Files) (path : Option Path) : Outcome CliError Config :=
  match files.lookup (env.parsePath path) with
  | none => .ok .default
  | some bytes => do
      let text ← (Outcome.ofExcept (fromUtf8 bytes)).mapError CliError.utf8
      Outcome.okOr .toml (env.toml.fromStr text)

/-- Replace a file, unless that fails. -/
def write
    (files : Files)
    (path : Option Path)
    (config : Config)
    (written : Bool) : Files × Outcome CliError Unit :=
  match env.toml.toStringPretty config with
  | none => (files, .error (.error .toml))
  | some text =>
      if written then
        (files.insert (env.parsePath path) (asBytes text), .ok ())
      else (files, .error (.error .io))

/-- Read a config, change it and write it to where it was read from. -/
def update
    (files : Files)
    (path : Option Path)
    (change : Config → Outcome CliError Config)
    (written : Bool) : Files × Outcome CliError Unit :=
  match env.read files path >>= change with
  | .error failure => (files, .error failure)
  | .ok config => env.write files path config written

variable {env} {files next : Files} {path other : Option Path}
  {config changed : Config} {change : Config → Outcome CliError Config}
  {written : Bool} {result : Outcome CliError Unit}

/-- A config that is written is read again, the other files as before. -/
theorem read_insert
    (documented : env.toml.Documented)
    {text : String}
    (printed : env.toml.toStringPretty changed = some text)
    (path other : Option Path) :
    env.read (files.insert (env.parsePath path) (asBytes text)) other =
      if env.parsePath other = env.parsePath path then .ok changed
      else env.read files other := by
  unfold read
  rw [FiniteMap.lookup_insert_eq]
  split_ifs with same
  · simp only [Tx.fromUtf8_asBytes, Outcome.ofExcept, Outcome.mapError,
      Outcome.ok_bind]
    rw [documented.fromStr_toStringPretty _ _ printed]
    rfl
  · rfl

/-- What an update leaves: the files as they were, or the changed config in
place of the one that was read. -/
theorem update_cases
    (documented : env.toml.Documented)
    (updated : env.update files path change written = (next, result)) :
    (next = files ∧ result ≠ .ok ()) ∨
      ∃ config changed, env.read files path = .ok config ∧
        change config = .ok changed ∧ result = .ok () ∧
        ∀ other, env.read next other =
          if env.parsePath other = env.parsePath path then .ok changed
          else env.read files other := by
  unfold update at updated
  cases made : env.read files path >>= change with
  | error failure =>
      rw [made] at updated
      obtain ⟨rfl, rfl⟩ := Prod.mk.inj updated
      exact Or.inl ⟨rfl, by simp⟩
  | ok changed =>
      rw [made] at updated
      obtain ⟨config, isRead, isChanged⟩ := Outcome.bind_eq_ok.mp made
      dsimp only [write] at updated
      cases printed : env.toml.toStringPretty changed with
      | none =>
          rw [printed] at updated
          obtain ⟨rfl, rfl⟩ := Prod.mk.inj updated
          exact Or.inl ⟨rfl, by simp⟩
      | some text =>
          rw [printed] at updated
          dsimp only at updated
          split_ifs at updated
          · obtain ⟨rfl, rfl⟩ := Prod.mk.inj updated
            exact Or.inr ⟨config, changed, isRead, isChanged, rfl,
              read_insert documented printed path⟩
          · obtain ⟨rfl, rfl⟩ := Prod.mk.inj updated
            exact Or.inl ⟨rfl, by simp⟩

end Environment

end Cli
end MinaMultiSig
