import MinaMultiSig.Library.Hex
import MinaMultiSig.Library.Outcome
import MinaMultiSig.Library.Postcard
import MinaMultiSig.Tx.Utf8

/-!
# Contacts

The contacts of `mina-frost-client/src/cli/contact.rs` and the texts in which
they are sent to other users: Bech32 texts of what `postcard` writes. A text is
read only with the version, which an address book does not keep.
-/

namespace MinaMultiSig
namespace Cli

open Tx (asBytes fromUtf8)

/-- Why a command fails. -/
inductive CliError
  | report (message : String)
  | io
  | utf8 (text : String)
  | toml
  | bech32
  | postcard
  | hex
  | snow
  | frost
  deriving DecidableEq

/-- A communication key. -/
abbrev PublicKey : Type :=
  List UInt8

/-- The functions of the `bech32` crate. -/
structure Bech32 where
  encode : String → List UInt8 → Option String
  decode : String → Option (String × List UInt8)

/-- Someone messages can be sent to. -/
structure Contact where
  version : Option UInt8
  name : String
  pubkey : PublicKey
  deriving DecidableEq

/-- The human-readable part of a text. -/
def contactHrp : String :=
  "minafrost"

/-- Texts that are written are read again. They have no more than 1023
characters. -/
structure Bech32.Documented (bech32 : Bech32) : Prop where
  decode_encode : ∀ bytes text, bech32.encode contactHrp bytes = some text →
    bech32.decode text = some (contactHrp, bytes)
  short : ∀ bytes text, bech32.encode contactHrp bytes = some text →
    bytes.length ≤ 1023

namespace Contact

/-- `postcard::to_allocvec`. -/
def toAllocvec (contact : Contact) : List UInt8 :=
  Postcard.writeOption Postcard.writeByte contact.version ++
    Postcard.writeBytes (asBytes contact.name) ++
    Postcard.writeBytes contact.pubkey

/-- `postcard::from_bytes`, which ignores what stands behind the contact. -/
def fromBytes (bytes : List UInt8) : Option Contact := do
  let (version, rest) ← Postcard.readOption Postcard.readByte bytes
  let (nameBytes, rest) ← Postcard.readBytes rest
  let name ← (fromUtf8 nameBytes).toOption
  let (pubkey, _) ← Postcard.readBytes rest
  return { version := version, name := name, pubkey := pubkey }

theorem fromBytes_toAllocvec
    {contact : Contact}
    (name : (asBytes contact.name).length < 2 ^ 64)
    (pubkey : contact.pubkey.length < 2 ^ 64)
    (rest : List UInt8) :
    fromBytes (contact.toAllocvec ++ rest) = some contact := by
  rw [fromBytes, toAllocvec, List.append_assoc, List.append_assoc,
    Postcard.reads_option fun content _ => Postcard.reads_byte content]
  simp only [Option.bind_eq_bind, Option.bind_some]
  rw [Postcard.reads_bytes name]
  simp only [Option.bind_some, Tx.fromUtf8_asBytes, Except.toOption]
  rw [Postcard.reads_bytes pubkey]
  rfl

theorem length_toAllocvec_le (contact : Contact) :
    (asBytes contact.name).length ≤ contact.toAllocvec.length ∧
      contact.pubkey.length ≤ contact.toAllocvec.length := by
  simp only [toAllocvec, Postcard.writeBytes, List.length_append]
  omega

/-- What is printed for a contact. -/
def asHumanReadableSummary (contact : Contact) : String :=
  "Name: " ++ contact.name ++ "\nPublic Key: " ++ Hex.encode contact.pubkey ++
    "\n"

variable (bech32 : Bech32)

/-- `Contact::as_text`. -/
def asText (contact : Contact) : Outcome CliError String :=
  Outcome.okOr .bech32 (bech32.encode contactHrp contact.toAllocvec)

/-- `Contact::from_text`: the prefix and the version are checked. -/
def fromText (text : String) : Outcome CliError Contact := do
  let (hrp, bytes) ← Outcome.okOr .bech32 (bech32.decode text)
  if hrp ≠ contactHrp then
    throw (.error (.report "invalid contact format"))
  let contact ← Outcome.okOr .postcard (fromBytes bytes)
  if contact.version ≠ some 0 then
    throw (.error (.report "invalid contact version"))
  return contact

/-- The summaries and texts of contacts, up to the first without a text. -/
def shown :
    List Contact → List (String × Option String) × Outcome CliError Unit
  | [] => ([], .ok ())
  | contact :: rest =>
      match contact.asText bech32 with
      | .error failure =>
          ([(contact.asHumanReadableSummary, none)], .error failure)
      | .ok text =>
          ((contact.asHumanReadableSummary, some text) :: (shown rest).1,
            (shown rest).2)

variable {bech32}

theorem asText_of_mem_shown
    {contacts : List Contact}
    {summary text : String}
    (member : (summary, some text) ∈ (shown bech32 contacts).1) :
    ∃ contact ∈ contacts, contact.asText bech32 = .ok text := by
  induction contacts with
  | nil => exact absurd member List.not_mem_nil
  | cons contact rest ih =>
      rw [shown] at member
      cases written : contact.asText bech32 with
      | error failure =>
          rw [written] at member
          simp at member
      | ok other =>
          rw [written] at member
          rcases List.mem_cons.mp member with isFirst | behind
          · obtain rfl := Option.some.inj (Prod.mk.inj isFirst).2
            exact ⟨contact, List.mem_cons_self, written⟩
          · obtain ⟨known, inRest, isText⟩ := ih behind
            exact ⟨known, List.mem_cons_of_mem _ inRest, isText⟩

/-- A text of a contact is read as that contact if the contact has the version,
and refused if it does not. -/
theorem fromText_asText
    (documented : bech32.Documented)
    {contact : Contact}
    {text : String}
    (written : (contact.asText bech32 : Outcome CliError String) =
      .ok text) :
    (fromText bech32 text : Outcome CliError Contact) =
      if contact.version = some 0 then .ok contact
      else .error (.error (.report "invalid contact version")) := by
  have encoded := Outcome.okOr_eq_ok.mp written
  have short := documented.short _ _ encoded
  obtain ⟨name, pubkey⟩ := contact.length_toAllocvec_le
  have read := @fromBytes_toAllocvec contact (by omega) (by omega) []
  rw [List.append_nil] at read
  rw [fromText, documented.decode_encode _ _ encoded]
  simp only [Outcome.okOr, Outcome.ok_bind, ne_eq, not_true_eq_false,
    if_false, read]
  split_ifs with version
  · rfl
  · rfl

end Contact

end Cli
end MinaMultiSig
