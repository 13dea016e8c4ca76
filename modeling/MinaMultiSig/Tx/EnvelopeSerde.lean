import MinaMultiSig.Tx.Envelope
import MinaMultiSig.Tx.LegacySerde
import MinaMultiSig.Tx.TextForms

/-!
# The JSON form of transaction envelopes

The codecs of `mina-tx/src/transactions.rs` and `transactions/network_id.rs`,
the bytes a coordinator sends, and the text a participant is asked to confirm
(`participant/comms.rs`). The text format and the `Debug` text are parameters.
-/

namespace MinaMultiSig
namespace Tx

open Codec Fields

/-- A network by its name; the test network has two names. -/
def NetworkId.codec : Codec NetworkId :=
  viaString
    (fun network =>
      match network with
      | .testnet => .ok "testnet"
      | .mainnet => .ok "mainnet"
      | .custom name => .ok name)
    fun text =>
      match text with
      | "testnet" => .ok .testnet
      | "mainnet" => .ok .mainnet
      | name => .ok (.custom name)

section Codecs

variable (forms : TextForms) (build : Build)

/-- The codec of commands. -/
def TextForms.command : Codec (ZKAppCommand build) :=
  ZKAppCommand.codec forms.signer forms.base58 forms.fieldText build

/-- The tag of a kind and the JSON of its transaction. -/
def TransactionKind.write :
    TransactionKind build → Outcome SerdeError (String × Json)
  | .zkApp command => do
      let json ← (forms.command build).serialize command
      return ("ZkApp", json)
  | .legacy transaction => do
      let json ← (LegacyTransaction.codec forms.signer).serialize transaction
      return ("Legacy", json)

/-- The transaction of a tag. -/
def TransactionKind.read
    (name : String)
    (origin : Origin)
    (json : Json) : Outcome SerdeError (TransactionKind build) :=
  match name with
  | "ZkApp" =>
      ((forms.command build).deserialize origin json).map .zkApp
  | "Legacy" =>
      ((LegacyTransaction.codec forms.signer).deserialize origin json).map
        .legacy
  | _ => fail .mismatch

/-- The derived codec of the kinds, tagged. -/
def TransactionKind.codec : Codec (TransactionKind build) :=
  tagged "tag" "transaction"
    (TransactionKind.write forms build) (TransactionKind.read forms build)
    (max (forms.command build).nesting
      (LegacyTransaction.codec forms.signer).nesting)

/-- The derived codec of an envelope. -/
def TransactionEnvelope.codec : Codec (TransactionEnvelope build) :=
  record
    (required "networkId" NetworkId.codec <|
      required "kind" (TransactionKind.codec forms build) done)
    (fun (networkId, kind, ()) => { networkId := networkId, kind := kind })
    fun envelope => (envelope.networkId, envelope.kind, ())

end Codecs

namespace TransactionEnvelope

section Texts

variable {build : Build} (forms : TextForms)

/-- `TransactionEnvelope::serialize`: the bytes of the compact JSON. -/
def serialize
    (envelope : TransactionEnvelope build) : Outcome SerdeError (List UInt8) := do
  let json ← (codec forms build).serialize envelope
  return forms.json.toVec json

/-- A value of a codec; only white space may come behind it. -/
def fromSlice
    {α : Type}
    (valueCodec : Codec α)
    (bytes : List UInt8) : Outcome SerdeError α := do
  let document := forms.json.parse bytes
  let value ← valueCodec.deserialize .parser document.value
  if document.ended then return value else fail .malformed

/-- `TransactionEnvelope::deserialize`. -/
def deserialize
    (build : Build)
    (bytes : List UInt8) : Outcome SerdeError (TransactionEnvelope build) :=
  fromSlice forms (codec forms build) bytes

variable (debug : TransactionEnvelope build → String)

/-- The JSON for readers, and the `Debug` text of what cannot be written. -/
def display (envelope : TransactionEnvelope build) : Outcome SerdeError String :=
  Outcome.unwrapOr
    (((codec forms build).serialize envelope).map forms.json.toStringPretty)
    (debug envelope)

/-- What a participant is shown before it signs. -/
def confirmationText
    (envelope : TransactionEnvelope build) : Outcome SerdeError String := do
  let transaction ← display forms debug envelope
  return "Message to be signed (json):\n" ++ transaction ++
    "\nDo you want to sign it? (y/n)\n\n"

end Texts

end TransactionEnvelope

section Faithful

theorem NetworkId.codec_faithful : NetworkId.codec.Faithful := by
  apply viaString_faithful
  intro text network parsed
  split at parsed
  · obtain rfl := Except.ok.inj parsed
    exact ⟨"testnet", rfl, rfl⟩
  · obtain rfl := Except.ok.inj parsed
    exact ⟨"mainnet", rfl, rfl⟩
  next name notTestnet notMainnet =>
    obtain rfl := Except.ok.inj parsed
    refine ⟨text, rfl, ?_⟩
    split
    · exact absurd rfl notTestnet
    · exact absurd rfl notMainnet
    · rfl

variable {forms : TextForms} {build : Build}

theorem TextForms.command_faithful
    (lawful : forms.Lawful) :
    (forms.command build).Faithful :=
  ZKAppCommand.codec_faithful lawful.signer lawful.base58 lawful.fieldText

theorem TransactionKind.codec_faithful
    (lawful : forms.Lawful) :
    (TransactionKind.codec forms build).Faithful := by
  apply tagged_faithful (by decide)
  intro name origin json kind succeeds
  unfold TransactionKind.read at succeeds
  split at succeeds
  · obtain ⟨command, isRead, rfl⟩ := map_eq_ok.mp succeeds
    obtain ⟨out, written, fits, again⟩ :=
      TextForms.command_faithful lawful origin json command isRead
    refine ⟨("ZkApp", out), Outcome.bind_eq_ok.mpr ⟨out, written, rfl⟩,
      fits.mono (Nat.le_max_left _ _), fun other => ?_⟩
    exact map_eq_ok.mpr ⟨command, again other, rfl⟩
  · obtain ⟨transaction, isRead, rfl⟩ := map_eq_ok.mp succeeds
    obtain ⟨out, written, fits, again⟩ :=
      LegacyTransaction.codec_faithful lawful.signer origin json transaction
        isRead
    refine ⟨("Legacy", out), Outcome.bind_eq_ok.mpr ⟨out, written, rfl⟩,
      fits.mono (Nat.le_max_right _ _), fun other => ?_⟩
    exact map_eq_ok.mpr ⟨transaction, again other, rfl⟩
  · exact absurd succeeds (by simp [fail])

theorem TransactionEnvelope.codec_faithful
    (lawful : forms.Lawful) :
    (TransactionEnvelope.codec forms build).Faithful :=
  record_faithful
    (required_faithful NetworkId.codec_faithful <|
      required_faithful (TransactionKind.codec_faithful lawful) done_faithful)
    (by simp) fun _ => rfl

/-- An envelope is nested less deep than the parser allows. -/
theorem TransactionEnvelope.nesting_le (forms : TextForms) (build : Build) :
    (TransactionEnvelope.codec forms build).nesting ≤
      JsonText.recursionLimit := by
  have legacy : (LegacyTransaction.codec forms.signer).nesting = 2 := rfl
  simp [TransactionEnvelope.codec, TransactionKind.codec, NetworkId.codec,
    TextForms.command, ZKAppCommand.nesting_codec, legacy,
    JsonText.recursionLimit]

/-- A parsed document is read as its value. -/
theorem TransactionEnvelope.fromSlice_of_parse
    {α : Type}
    {codec : Codec α}
    {bytes : List UInt8}
    {json : Json}
    {value : α}
    (parsed : forms.json.parse bytes = { value := json, ended := true })
    (read : codec.deserialize .parser json = .ok value) :
    TransactionEnvelope.fromSlice forms codec bytes = .ok value := by
  rw [fromSlice, parsed]
  exact Outcome.bind_eq_ok.mpr ⟨value, read, rfl⟩

/-- A value that is read from bytes is read from the document in them. -/
theorem TransactionEnvelope.deserialize_of_fromSlice
    {α : Type}
    {codec : Codec α}
    {bytes : List UInt8}
    {value : α}
    (read : TransactionEnvelope.fromSlice forms codec bytes = .ok value) :
    codec.deserialize .parser (forms.json.parse bytes).value = .ok value := by
  obtain ⟨inner, innerRead, ends⟩ := Outcome.bind_eq_ok.mp read
  split at ends
  · rw [innerRead, Except.ok.inj ends]
  · exact absurd ends (by simp [fail])

/-- A value of a faithful codec that is read is written as bytes that are read
as the value. -/
theorem fromSlice_again
    {α : Type}
    {codec : Codec α}
    (faithful : codec.Faithful)
    (shallow : codec.nesting ≤ JsonText.recursionLimit)
    {bytes : List UInt8}
    {value : α}
    (read : TransactionEnvelope.fromSlice forms codec bytes = .ok value) :
    ∃ json, codec.serialize value = .ok json ∧
      json.Fits JsonText.recursionLimit ∧
      ∀ other, forms.json.parse other = { value := json, ended := true } →
        TransactionEnvelope.fromSlice forms codec other = .ok value := by
  obtain ⟨json, written, fits, again⟩ := faithful _ _ value
    (TransactionEnvelope.deserialize_of_fromSlice read)
  exact ⟨json, written, fits.mono shallow, fun _ parsed =>
    TransactionEnvelope.fromSlice_of_parse parsed (again .parser)⟩

end Faithful

namespace TransactionEnvelope

section Shown

variable {forms : TextForms} {build : Build} (lawful : forms.Lawful)
include lawful

/-- An envelope that is read is written as bytes that are read as it. -/
theorem deserialize_again
    {bytes : List UInt8}
    {envelope : TransactionEnvelope build}
    (read : deserialize forms build bytes = .ok envelope) :
    ∃ out, envelope.serialize forms = .ok out ∧
      deserialize forms build out = .ok envelope := by
  obtain ⟨json, written, fits, again⟩ :=
    fromSlice_again (codec_faithful lawful) (nesting_le forms build) read
  refine ⟨forms.json.toVec json, ?_, again _ (lawful.json.parse_toVec json fits)⟩
  rw [serialize, written]
  rfl

/-- An envelope that is read is displayed as a text that is read as it. -/
theorem display_again
    {bytes : List UInt8}
    {envelope : TransactionEnvelope build}
    (read : deserialize forms build bytes = .ok envelope)
    (debug : TransactionEnvelope build → String) :
    ∃ text, display forms debug envelope = .ok text ∧
      deserialize forms build (asBytes text) = .ok envelope := by
  obtain ⟨json, written, fits, again⟩ :=
    fromSlice_again (codec_faithful lawful) (nesting_le forms build) read
  refine ⟨forms.json.toStringPretty json, ?_,
    again _ (lawful.json.parse_toStringPretty json fits)⟩
  rw [display, written]
  rfl

/-- The confirmation text of an envelope that is read determines it. -/
theorem confirmationText_inj
    {bytes otherBytes : List UInt8}
    {envelope other : TransactionEnvelope build}
    (read : deserialize forms build bytes = .ok envelope)
    (otherRead : deserialize forms build otherBytes = .ok other)
    {debug : TransactionEnvelope build → String}
    (same : envelope.confirmationText forms debug =
      other.confirmationText forms debug) :
    envelope = other := by
  obtain ⟨text, shown, again⟩ := display_again lawful read debug
  obtain ⟨otherText, otherShown, otherAgain⟩ :=
    display_again lawful otherRead debug
  have sameText : text = otherText := by
    rw [confirmationText, confirmationText, shown, otherShown] at same
    have sameList := congrArg String.toList (Except.ok.inj same)
    simp only [String.toList_append, List.append_cancel_right_eq,
      List.append_cancel_left_eq] at sameList
    exact String.toList_inj.mp sameList
  rw [sameText, otherAgain] at again
  exact (Except.ok.inj again).symm

/-- A participant signs what it is shown: a payload that is read is written
again as itself, and two payloads with the same confirmation text are the same
envelope with the same message to be signed. -/
theorem shown_is_signed (debug : TransactionEnvelope build → String) :
    (∀ bytes envelope, deserialize forms build bytes = .ok envelope →
      ∃ out, envelope.serialize forms = .ok out ∧
        deserialize forms build out = .ok envelope) ∧
    ∀ bytes otherBytes envelope other,
      deserialize forms build bytes = .ok envelope →
      deserialize forms build otherBytes = .ok other →
      envelope.confirmationText forms debug =
        other.confirmationText forms debug →
      envelope = other ∧ ∀ hasher,
        envelope.toPallasMessage hasher = other.toPallasMessage hasher := by
  constructor
  · intro bytes envelope read
    exact deserialize_again lawful read
  · intro bytes otherBytes envelope other read otherRead same
    have isOther := confirmationText_inj lawful read otherRead same
    exact ⟨isOther, fun hasher => by rw [isOther]⟩

end Shown

section Example

/-- The JSON of a payment on a test network. -/
def paymentJson : Json :=
  .object
    [("networkId", .string "testnet"),
      ("kind", .object
        [("tag", .string "Legacy"),
          ("transaction", .object
            [("to", .string TextForms.knownAddress),
              ("from", .string TextForms.knownAddress),
              ("fee", .string "100000000"), ("amount", .string "1000000000"),
              ("nonce", .string "7"), ("memo", .string "rent"),
              ("valid_until", .string "4294967295"),
              ("tag", .array [.bool false, .bool false, .bool false])])])]

/-- The envelope of the payment. -/
def paymentEnvelope : TransactionEnvelope .preMesa :=
  newLegacy .testnet
    { @LegacyTransaction.newPayment TextForms.reference.signer
        () () 1000000000 100000000 7 with
      memo := LegacyTransaction.memoOf 4
        (asBytes "rent" ++ List.replicate 28 0) rfl }

theorem deserialize_paymentJson :
    deserialize TextForms.reference .preMesa
        (TextForms.reference.json.toVec paymentJson) =
      .ok paymentEnvelope := by
  have fits : paymentJson.Fits JsonText.recursionLimit := by
    simp [paymentJson, Json.Fits, JsonText.recursionLimit]
  have read : (codec TextForms.reference .preMesa).deserialize .parser
      paymentJson = .ok paymentEnvelope := by
    rfl
  have parsed : TextForms.reference.json.parse
      (TextForms.reference.json.toVec paymentJson) =
        { value := paymentJson, ended := true } :=
    TextForms.reference_lawful.json.parse_toVec paymentJson fits
  exact fromSlice_of_parse parsed read

theorem shown_is_signed_payment :
    ∃ out, paymentEnvelope.serialize TextForms.reference = .ok out ∧
      deserialize TextForms.reference .preMesa out = .ok paymentEnvelope :=
  (shown_is_signed TextForms.reference_lawful fun _ => "").1
    (TextForms.reference.json.toVec paymentJson) paymentEnvelope
    deserialize_paymentJson

end Example

end TransactionEnvelope

end Tx
end MinaMultiSig
