import MinaMultiSig.Tx.EnvelopeReading
import MinaMultiSig.Tx.FromText

/-!
# Loading a transaction for a network

What `TransactionEnvelope::from_str_network` returns for the three documents it
accepts. They are told apart by entries that only one of them has, so that a
document is read as what it was written for. The requested network is given to
a transaction that is not signed; a signed one keeps its own.
-/

namespace MinaMultiSig
namespace Tx

open Codec Fields

section Source

variable {build : Build} (forms : TextForms) (bigInts : BigIntText)
  (errorText : SerdeError → String)

/-- `load_transaction_from_str` of the coordinator (`cli/coordinator.rs`). -/
def loadTransactionFromStr
    (transactionStr : String)
    (networkId : NetworkId) : Outcome String (TransactionEnvelope build) :=
  (TransactionEnvelope.fromStrNetwork forms bigInts build errorText
      transactionStr networkId).mapError
    fun reason => "Failed to parse transaction from JSON: " ++ reason.text

theorem loadTransactionFromStr_eq_ok
    {transactionStr : String}
    {networkId : NetworkId}
    {envelope : TransactionEnvelope build} :
    loadTransactionFromStr forms bigInts errorText transactionStr networkId =
        .ok envelope ↔
      TransactionEnvelope.fromStrNetwork forms bigInts build errorText
        transactionStr networkId = .ok envelope :=
  Outcome.mapError_eq_ok

end Source

section Texts

variable (forms : TextForms)

/-- The compact text of a value, or the one for readers. -/
def TextForms.Prints (json : Json) (text : String) : Prop :=
  text = forms.json.toStringPretty json ∨ asBytes text = forms.json.toVec json

/-- The text of a value with white space around it. -/
def TextForms.Surrounds (json : Json) (s : String) : Prop :=
  ∃ leading text trailing, forms.Prints json text ∧
    (∀ char ∈ leading, isWhiteSpace char = true) ∧
    (∀ char ∈ trailing, isWhiteSpace char = true) ∧
    s = String.ofList (leading ++ text.toList ++ trailing)

/-- The texts of an object begin and end with a brace. -/
def TextForms.Braced : Prop :=
  ∀ entries text, forms.Prints (.object entries) text →
    ∃ inner, text.toList = '{' :: (inner ++ ['}'])

variable {forms} {entries : List (String × Json)} {s : String}

/-- White space around an object is no part of the document. -/
theorem parse_trim
    (lawful : forms.Lawful)
    (braced : forms.Braced)
    (fits : (Json.object entries).Fits JsonText.recursionLimit)
    (surrounds : forms.Surrounds (.object entries) s) :
    forms.json.parse (asBytes (trim s)) =
      { value := .object entries, ended := true } := by
  obtain ⟨leading, text, trailing, prints, leadingBlank, trailingBlank, rfl⟩ :=
    surrounds
  obtain ⟨inner, isText⟩ := braced entries text prints
  have trimmed : trim (String.ofList
      (leading ++ text.toList ++ trailing)) = text := by
    rw [isText, trim_braces leadingBlank trailingBlank, ← isText,
      String.ofList_toList]
  rw [trimmed]
  rcases prints with rfl | compact
  · exact lawful.json.parse_toStringPretty _ fits
  · rw [compact]
    exact lawful.json.parse_toVec _ fits

theorem TextForms.reference_braced : reference.Braced := by
  rintro entries text (rfl | compact)
  · obtain ⟨inner, printed⟩ := JsonSyntax.exists_print_object
      JsonSyntax.Layout.pretty 0 entries
    exact ⟨inner, String.toList_ofList.trans printed⟩
  · obtain ⟨inner, printed⟩ := JsonSyntax.exists_print_object
      JsonSyntax.Layout.compact 0 entries
    refine ⟨inner, ?_⟩
    rw [asBytes_inj compact]
    exact String.toList_ofList.trans printed

end Texts

/-- The numbers of a signature are recovered from their texts. -/
def BigIntText.Lawful (bigInts : BigIntText) : Prop :=
  ∀ number, bigInts.parse (bigInts.toString number) = some number

section Documents

variable {forms : TextForms} {bigInts : BigIntText} {build : Build}

/-- The address of a key is read as some key. -/
def MinaSigner.Addressable (signer : MinaSigner) (key : signer.PubKey) : Prop :=
  ∃ found,
    signer.pubKeyFromAddress (signer.intoAddress (signer.intoCompressed key)) =
      .ok found

/-- A transaction that is read from its JSON. -/
def TransactionKind.Decodable
    (forms : TextForms)
    (kind : TransactionKind build) : Prop :=
  ∃ name json, TransactionKind.read forms build name .parser json = .ok kind

theorem TransactionKind.decodable_of_read
    (lawful : forms.Lawful)
    {name : String}
    {origin : Origin}
    {json : Json}
    {kind : TransactionKind build}
    (isRead : TransactionKind.read forms build name origin json = .ok kind) :
    kind.Decodable forms := by
  unfold TransactionKind.read at isRead
  split at isRead
  · obtain ⟨command, commandRead, rfl⟩ := map_eq_ok.mp isRead
    obtain ⟨out, -, -, again⟩ :=
      TextForms.command_faithful lawful origin json command commandRead
    exact ⟨"ZkApp", out, map_eq_ok.mpr ⟨command, again .parser, rfl⟩⟩
  · obtain ⟨transaction, transactionRead, rfl⟩ := map_eq_ok.mp isRead
    obtain ⟨out, -, -, again⟩ :=
      LegacyTransaction.codec_faithful lawful.signer origin json transaction
        transactionRead
    exact ⟨"Legacy", out, map_eq_ok.mpr ⟨transaction, again .parser, rfl⟩⟩
  · exact absurd isRead (by simp [fail])

/-- The kinds in signed transactions that are read. -/
theorem TransactionSignature.codec_yields
    (lawful : forms.Lawful) :
    (TransactionSignature.codec forms bigInts build).Yields fun signed =>
      signed.payload.kind.Decodable forms := by
  have kinds : (TransactionKind.codec forms build).Yields
      (TransactionKind.Decodable forms) := by
    intro origin json kind read
    obtain ⟨name, contentOrigin, contentJson, isRead⟩ := exists_read read
    exact TransactionKind.decodable_of_read lawful isRead
  have envelopes : (TransactionEnvelope.codec forms build).Yields
      fun envelope => envelope.kind.Decodable forms :=
    record_yields <| field_yields_rest <| required_yields kinds
  exact record_yields <| field_yields_rest <| field_yields_rest <|
    required_yields envelopes

/-- The entries of a signed transaction. -/
def signedEntries
    (address field scalar base58 name : String)
    (kind : Json) : List (String × Json) :=
  [("publicKey", .object [("address", .string address)]),
    ("signature", .object
      [("field", .string field), ("scalar", .string scalar),
        ("base58", .string base58)]),
    ("payload", .object [("networkId", .string name), ("kind", kind)])]

/-- The document of a signed transaction. -/
def signedJson
    (address field scalar base58 name : String)
    (kind : Json) : Json :=
  .object (signedEntries address field scalar base58 name kind)

theorem exists_envelopeJson
    {envelope : TransactionEnvelope build}
    {json : Json}
    (written : (TransactionEnvelope.codec forms build).serialize envelope =
      .ok json) :
    ∃ name kindJson,
      (TransactionKind.codec forms build).serialize envelope.kind =
        .ok kindJson ∧
      json = .object [("networkId", .string name), ("kind", kindJson)] := by
  obtain ⟨entries, isEntries, rfl⟩ := exists_entries_of_record written
  simp only [required, field, Outcome.bind_eq_ok] at isEntries
  obtain ⟨networkJson, isNetwork, _, ⟨kindJson, isKind, _, isDone, rest⟩,
    networkRest⟩ := isEntries
  obtain rfl := Except.ok.inj isDone
  obtain rfl := Except.ok.inj rest
  obtain rfl := Except.ok.inj networkRest
  obtain ⟨name, -, isName⟩ := Outcome.bind_eq_ok.mp isNetwork
  obtain rfl := Except.ok.inj isName
  exact ⟨name, kindJson, isKind, rfl⟩

theorem exists_signedJson
    {signed : TransactionSignature build forms.signer}
    {json : Json}
    (written : (TransactionSignature.codec forms bigInts build).serialize
      signed = .ok json) :
    ∃ base58 name kindJson,
      (TransactionKind.codec forms build).serialize signed.payload.kind =
        .ok kindJson ∧
      json = signedJson
        (forms.signer.intoAddress
          (forms.signer.intoCompressed signed.publicKey))
        (bigInts.toString signed.signature.field)
        (bigInts.toString signed.signature.scalar) base58 name kindJson := by
  obtain ⟨entries, isEntries, rfl⟩ := exists_entries_of_record written
  simp only [required, field, Outcome.bind_eq_ok] at isEntries
  obtain ⟨keyJson, isKey, _, ⟨signatureJson, isSignature, _,
    ⟨payloadJson, isPayload, _, isDone, rest⟩, signatureRest⟩, keyRest⟩ :=
    isEntries
  obtain rfl := Except.ok.inj isDone
  obtain rfl := Except.ok.inj rest
  obtain rfl := Except.ok.inj signatureRest
  obtain rfl := Except.ok.inj keyRest
  obtain rfl := Except.ok.inj isKey
  obtain rfl := Except.ok.inj isSignature
  obtain ⟨name, kindJson, kindWritten, rfl⟩ :=
    exists_envelopeJson isPayload
  exact ⟨_, name, kindJson, kindWritten, rfl⟩

/-- A public key is read from the document of its address. -/
theorem deserialize_address
    {origin : Origin}
    {address : String}
    {key : forms.signer.PubKey}
    (isKey : forms.signer.pubKeyFromAddress address = .ok key) :
    (PubKeySer.codec forms).deserialize origin
      (.object [("address", .string address)]) = .ok key := by
  refine @record_reads _ _ _ _ _ _ _ (key, ()) (by simp) ?_ ?_
  · intro entry member
    obtain rfl := List.mem_singleton.mp member
    refine map_eq_ok.mpr
      ⟨key, Outcome.bind_eq_ok.mpr ⟨address, rfl, ?_⟩, rfl⟩
    simp only [isKey]
  · refine Outcome.bind_eq_ok.mpr
      ⟨key, Outcome.bind_eq_ok.mpr ⟨address, rfl, ?_⟩, rfl⟩
    simp only [isKey]

/-- The address in the document of a signed transaction that is read is that of
some key. -/
theorem exists_key_of_signedJson
    {address fieldText scalarText base58 name : String}
    {kindJson : Json}
    {signed : TransactionSignature build forms.signer}
    (read : (TransactionSignature.codec forms bigInts build).deserialize .parser
      (signedJson address fieldText scalarText base58 name kindJson) =
        .ok signed) :
    ∃ key, forms.signer.pubKeyFromAddress address = .ok key := by
  obtain ⟨values, isValues, -⟩ := map_eq_ok.mp read
  obtain ⟨_, -, assembled⟩ := Outcome.bind_eq_ok.mp isValues
  obtain ⟨keyRead, -⟩ := exists_of_assemble assembled
  obtain ⟨keyValues, isKeyValues, -⟩ := map_eq_ok.mp keyRead
  obtain ⟨_, -, keyAssembled⟩ := Outcome.bind_eq_ok.mp isKeyValues
  obtain ⟨addressRead, -⟩ := exists_of_assemble keyAssembled
  obtain ⟨text, isText, isKey⟩ := Outcome.bind_eq_ok.mp addressRead
  obtain rfl := Except.ok.inj isText
  dsimp only at isKey
  split at isKey
  next key found => exact ⟨key, found⟩
  next => exact absurd isKey (by simp [customError, fail])

/-- Every name is read as a network. -/
theorem exists_network (origin : Origin) (name : String) :
    ∃ network,
      NetworkId.codec.deserialize origin (.string name) = .ok network := by
  by_cases isTestnet : name = "testnet"
  · rw [isTestnet]
    exact ⟨.testnet, rfl⟩
  by_cases isMainnet : name = "mainnet"
  · rw [isMainnet]
    exact ⟨.mainnet, rfl⟩
  · exact ⟨.custom name,
      NetworkId.deserialize_custom origin isTestnet isMainnet⟩

/-- A signed transaction is read with the payload in its document. -/
theorem deserialize_signedJson
    {address fieldText scalarText base58 name : String}
    {fieldNumber scalarNumber : BigInt}
    {network : NetworkId}
    {kindJson : Json}
    {kind : TransactionKind build}
    {key : forms.signer.PubKey}
    (isKey : forms.signer.pubKeyFromAddress address = .ok key)
    (isField : bigInts.parse fieldText = some fieldNumber)
    (isScalar : bigInts.parse scalarText = some scalarNumber)
    (isNetwork : NetworkId.codec.deserialize .parser (.string name) =
      .ok network)
    (isKind : (TransactionKind.codec forms build).deserialize .parser kindJson =
      .ok kind) :
    ∃ signed,
      (TransactionSignature.codec forms bigInts build).deserialize .parser
        (signedJson address fieldText scalarText base58 name kindJson) =
          .ok signed ∧
      signed.payload = { networkId := network, kind := kind } := by
  have keyRead : (PubKeySer.codec forms).deserialize .parser
      (.object [("address", .string address)]) = .ok key :=
    deserialize_address isKey
  have signatureRead : (Sig.codec forms bigInts).deserialize .parser
      (.object [("field", .string fieldText), ("scalar", .string scalarText),
        ("base58", .string base58)]) =
          .ok { field := fieldNumber, scalar := scalarNumber } := by
    apply Outcome.bind_eq_ok.mpr
    refine ⟨{ field := fieldText, scalar := scalarText, base58 := some base58 },
      rfl, ?_⟩
    simp only [isField, isScalar]
    rfl
  have payloadRead :=
    TransactionEnvelope.deserialize_entries isNetwork isKind
  let signature : Sig := { field := fieldNumber, scalar := scalarNumber }
  let payload : TransactionEnvelope build :=
    { networkId := network, kind := kind }
  refine ⟨{ publicKey := key, signature := signature, payload := payload },
    @record_reads _ _ _ _ _ _ _ (key, signature, payload, ())
      (by simp [signedEntries]) ?_ ?_, rfl⟩
  · intro entry member
    simp only [signedEntries, List.mem_cons, List.not_mem_nil, or_false]
      at member
    obtain rfl | rfl | rfl := member
    · simp [required, field, keyRead, Except.map]
    · simp [required, field, signatureRead, Except.map]
    · simp [required, field, payloadRead, Except.map]
  · apply Outcome.bind_eq_ok.mpr
    refine ⟨key, keyRead, Outcome.bind_eq_ok.mpr ⟨(_, _, ()), ?_, rfl⟩⟩
    apply Outcome.bind_eq_ok.mpr
    refine ⟨_, signatureRead, Outcome.bind_eq_ok.mpr ⟨(_, ()), ?_, rfl⟩⟩
    exact Outcome.bind_eq_ok.mpr ⟨_, payloadRead, rfl⟩

section Rejected

variable {entries : List (String × Json)}

/-- A document without the entries of a signed transaction is not read as
one. -/
theorem signed_rejects
    (foreign : ∀ name ∈ entries.map Prod.fst,
      name ∉ ["publicKey", "signature", "payload"]) :
    ∃ reason, (TransactionSignature.codec forms bigInts build).deserialize
      .parser (.object entries) = .error (.error reason) := by
  apply record_rejects
  · intro present
    exact foreign _ present (by simp)
  · apply record_ne_panic_of_foreign
    · exact required_settled (by simp) <| required_settled (by simp) <|
        required_settled (by simp) done_settled
    · exact field_ignores <| field_ignores <| field_ignores done_ignores
    · exact foreign

theorem command_rejects
    (absent : "feePayer" ∉ entries.map Prod.fst) :
    ∃ reason, (forms.command build).deserialize .parser (.object entries) =
      .error (.error reason) :=
  record_rejects absent (ZKAppCommand.codec_panicFree _ _ _ _ .parser _)

theorem legacy_rejects
    (absent : "to" ∉ entries.map Prod.fst) :
    ∃ reason, (LegacyTransaction.codec forms.signer).deserialize .parser
      (.object entries) = .error (.error reason) := by
  obtain ⟨reason, rejected⟩ : ∃ reason,
      TransactionData.codec.deserialize .parser (.object entries) =
        .error (.error reason) :=
    record_rejects absent (TransactionData.codec_panicFree .parser _)
  refine ⟨reason, ?_⟩
  simp only [LegacyTransaction.codec, rejected]
  rfl

/-- A command is written as an object with its three entries. -/
theorem exists_entries_of_command
    {command : ZKAppCommand build}
    {json : Json}
    (written : (forms.command build).serialize command = .ok json) :
    ∃ entries, json = .object entries ∧
      entries.map Prod.fst = ["feePayer", "accountUpdates", "memo"] := by
  obtain ⟨entries, isEntries, rfl⟩ := exists_entries_of_record written
  have named := field_named (field_named (field_named done_named)) _ entries
    isEntries
  exact ⟨entries, rfl, named⟩

/-- A legacy transaction is written as an object with some of its entries. -/
theorem exists_entries_of_legacy
    {transaction : LegacyTransaction}
    {json : Json}
    (written : (LegacyTransaction.codec forms.signer).serialize transaction =
      .ok json) :
    ∃ entries, json = .object entries ∧
      ∀ name ∈ entries.map Prod.fst, name ∈
        ["to", "from", "fee", "amount", "nonce", "memo", "valid_until",
          "tag"] := by
  obtain ⟨memo, -, isJson⟩ := Outcome.bind_eq_ok.mp written
  refine ⟨_, (Except.ok.inj isJson).symm, ?_⟩
  split <;> simp

end Rejected

end Documents

namespace TransactionEnvelope

section Loading

variable {forms : TextForms} {bigInts : BigIntText} {build : Build}
  {errorText : SerdeError → String}

/-- A transaction is nested less deep than a payload may be. -/
theorem nesting_kind_le (forms : TextForms) (build : Build) :
    (TransactionKind.codec forms build).nesting ≤ 125 := by
  have legacy : (LegacyTransaction.codec forms.signer).nesting = 2 := rfl
  simp [TransactionKind.codec, TextForms.command, ZKAppCommand.nesting_codec,
    legacy]

/-- A document that is all of a text is read as the text. -/
theorem fromSlice_eq
    {α : Type}
    {codec : Codec α}
    {bytes : List UInt8}
    {json : Json}
    (parsed : forms.json.parse bytes = { value := json, ended := true }) :
    fromSlice forms codec bytes = codec.deserialize .parser json := by
  unfold fromSlice
  rw [parsed]
  dsimp only
  cases codec.deserialize .parser json with
  | ok value => rfl
  | error failure => rfl

/-- The JSON of a command is not read as a signed transaction. -/
theorem fromStrNetwork_command
    (lawful : forms.Lawful)
    (braced : forms.Braced)
    (networkId : NetworkId)
    {json : Json}
    {command : ZKAppCommand build}
    (read : (forms.command build).deserialize .parser json = .ok command) :
    ∃ out, (forms.command build).serialize command = .ok out ∧
      ∀ s, forms.Surrounds out s →
        fromStrNetwork forms bigInts build errorText s networkId =
          .ok (newZkapp networkId command) := by
  obtain ⟨out, written, fits, again⟩ :=
    TextForms.command_faithful lawful .parser json command read
  refine ⟨out, written, ?_⟩
  intro s surrounds
  obtain ⟨entries, rfl, names⟩ := exists_entries_of_command written
  obtain ⟨reason, unsigned⟩ := @signed_rejects forms bigInts build entries
    (by rw [names]; decide)
  have shallow : (forms.command build).nesting ≤ JsonText.recursionLimit := by
    simp [TextForms.command, ZKAppCommand.nesting_codec,
      JsonText.recursionLimit]
  have parsed := parse_trim lawful braced (fits.mono shallow) surrounds
  unfold fromStrNetwork
  dsimp only
  rw [fromSlice_eq parsed, unsigned, Outcome.handle, fromSlice_eq parsed,
    again .parser]
  rfl

/-- The JSON of a legacy transaction is read neither as a signed transaction nor
as a command. -/
theorem fromStrNetwork_legacy
    (lawful : forms.Lawful)
    (braced : forms.Braced)
    (networkId : NetworkId)
    {json : Json}
    {transaction : LegacyTransaction}
    (read : (LegacyTransaction.codec forms.signer).deserialize .parser json =
      .ok transaction) :
    ∃ out,
      (LegacyTransaction.codec forms.signer).serialize transaction = .ok out ∧
      ∀ s, forms.Surrounds out s →
        fromStrNetwork forms bigInts build errorText s networkId =
          .ok (newLegacy networkId transaction) := by
  obtain ⟨out, written, fits, again⟩ :=
    LegacyTransaction.codec_faithful lawful.signer .parser json transaction read
  refine ⟨out, written, ?_⟩
  intro s surrounds
  obtain ⟨entries, rfl, names⟩ := exists_entries_of_legacy written
  have disjoint : ∀ name ∈
      ["to", "from", "fee", "amount", "nonce", "memo", "valid_until", "tag"],
        name ∉ ["publicKey", "signature", "payload"] := by
    decide
  obtain ⟨reason, unsigned⟩ := @signed_rejects forms bigInts build entries
    fun name present => disjoint name (names name present)
  obtain ⟨commandReason, noCommand⟩ := @command_rejects forms build entries
    fun present => absurd (names _ present) (by decide)
  have shallow : (LegacyTransaction.codec forms.signer).nesting ≤
      JsonText.recursionLimit := by
    change 2 ≤ 127
    decide
  have parsed := parse_trim lawful braced (fits.mono shallow) surrounds
  unfold fromStrNetwork
  dsimp only
  rw [fromSlice_eq parsed, unsigned, Outcome.handle, fromSlice_eq parsed,
    noCommand, Outcome.handle, fromSlice_eq parsed, again .parser]
  rfl

/-- The JSON of a transaction that can be read is loaded as the transaction for
the requested network. -/
theorem fromStrNetwork_unsigned
    (lawful : forms.Lawful)
    (braced : forms.Braced)
    (networkId : NetworkId)
    {kind : TransactionKind build}
    (decodable : kind.Decodable forms) :
    ∃ tag json, kind.write forms build = .ok (tag, json) ∧
      ∀ s, forms.Surrounds json s →
        fromStrNetwork forms bigInts build errorText s networkId =
          .ok { networkId := networkId, kind := kind } := by
  obtain ⟨name, json, isRead⟩ := decodable
  unfold TransactionKind.read at isRead
  split at isRead
  · obtain ⟨command, read, rfl⟩ := map_eq_ok.mp isRead
    obtain ⟨out, written, loads⟩ :=
      fromStrNetwork_command lawful braced networkId read
    exact ⟨"ZkApp", out, Outcome.bind_eq_ok.mpr ⟨out, written, rfl⟩, loads⟩
  · obtain ⟨transaction, read, rfl⟩ := map_eq_ok.mp isRead
    obtain ⟨out, written, loads⟩ :=
      fromStrNetwork_legacy lawful braced networkId read
    exact ⟨"Legacy", out, Outcome.bind_eq_ok.mpr ⟨out, written, rfl⟩, loads⟩
  · exact absurd isRead (by simp [fail])

/-- What is loaded can be read. -/
theorem decodable_of_fromStrNetwork
    (lawful : forms.Lawful)
    {s : String}
    {networkId : NetworkId}
    {envelope : TransactionEnvelope build}
    (loaded : fromStrNetwork forms bigInts build errorText s networkId =
      .ok envelope) :
    envelope.kind.Decodable forms := by
  rcases fromStrNetwork_cases loaded with ⟨signed, read, rfl⟩ |
    ⟨command, read, rfl⟩ | ⟨transaction, read, rfl⟩
  · exact TransactionSignature.codec_yields lawful _ _ _
      (deserialize_of_fromSlice read)
  · exact ⟨"ZkApp", _,
      map_eq_ok.mpr ⟨command, deserialize_of_fromSlice read, rfl⟩⟩
  · exact ⟨"Legacy", _,
      map_eq_ok.mpr ⟨transaction, deserialize_of_fromSlice read, rfl⟩⟩

/-- The document of a signed transaction whose kind can be read is all of its
text, and has that kind. -/
theorem parse_signedJson
    (lawful : forms.Lawful)
    (braced : forms.Braced)
    {address fieldText scalarText base58 name s : String}
    {kindJson : Json}
    {kind : TransactionKind build}
    (decodable : kind.Decodable forms)
    (written : (TransactionKind.codec forms build).serialize kind =
      .ok kindJson)
    (surrounds : forms.Surrounds
      (signedJson address fieldText scalarText base58 name kindJson) s) :
    (TransactionKind.codec forms build).deserialize .parser kindJson =
        .ok kind ∧
      forms.json.parse (asBytes (trim s)) =
        { value :=
            signedJson address fieldText scalarText base58 name kindJson
          ended := true } := by
  obtain ⟨tag, content, isRead⟩ := decodable
  have tagged : (TransactionKind.codec forms build).deserialize .parser _ =
      .ok kind := deserialize_tagged (by decide) isRead
  obtain ⟨out, isOut, fits, again⟩ :=
    TransactionKind.codec_faithful lawful _ _ _ tagged
  obtain rfl := Except.ok.inj (isOut.symm.trans written)
  have kindFits : out.Fits 125 := fits.mono (nesting_kind_le forms build)
  refine ⟨again .parser, parse_trim lawful braced ?_ surrounds⟩
  simp [signedEntries, Json.Fits, JsonText.recursionLimit, kindFits]

/-- The JSON of a signed transaction is loaded with its kind exactly if its
address and its kind can be read. -/
theorem fromStrNetwork_signed_iff
    (lawful : forms.Lawful)
    (braced : forms.Braced)
    (numbers : bigInts.Lawful)
    (networkId : NetworkId)
    {signed : TransactionSignature build forms.signer}
    {json : Json}
    {s : String}
    (written : (TransactionSignature.codec forms bigInts build).serialize
      signed = .ok json)
    (surrounds : forms.Surrounds json s) :
    (∃ envelope,
      fromStrNetwork forms bigInts build errorText s networkId =
          .ok envelope ∧
        envelope.kind = signed.payload.kind) ↔
      forms.signer.Addressable signed.publicKey ∧
        signed.payload.kind.Decodable forms := by
  obtain ⟨base58, name, kindJson, kindWritten, rfl⟩ :=
    exists_signedJson written
  constructor
  · rintro ⟨envelope, loaded, sameKind⟩
    have decodable := decodable_of_fromStrNetwork lawful loaded
    rw [sameKind] at decodable
    refine ⟨?_, decodable⟩
    obtain ⟨-, parsed⟩ :=
      parse_signedJson lawful braced decodable kindWritten surrounds
    rcases fromStrNetwork_cases loaded with ⟨found, read, -⟩ |
      ⟨command, read, -⟩ | ⟨transaction, read, -⟩
    · rw [fromSlice_eq parsed] at read
      exact exists_key_of_signedJson read
    · obtain ⟨reason, rejected⟩ := @command_rejects forms build
        (signedEntries _ _ _ _ _ _) (by simp [signedEntries])
      rw [fromSlice_eq parsed, signedJson, rejected] at read
      exact absurd read (by simp)
    · obtain ⟨reason, rejected⟩ := @legacy_rejects forms
        (signedEntries _ _ _ _ _ _) (by simp [signedEntries])
      rw [fromSlice_eq parsed, signedJson, rejected] at read
      exact absurd read (by simp)
  · rintro ⟨⟨key, isKey⟩, decodable⟩
    obtain ⟨kindRead, parsed⟩ :=
      parse_signedJson lawful braced decodable kindWritten surrounds
    obtain ⟨network, isNetwork⟩ := exists_network .parser name
    obtain ⟨found, read, payload⟩ := @deserialize_signedJson forms bigInts build
      _ _ _ base58 name _ _ _ _ _ key isKey (numbers _) (numbers _) isNetwork
      kindRead
    refine ⟨found.payload, ?_, by rw [payload]⟩
    unfold fromStrNetwork
    dsimp only
    rw [fromSlice_eq parsed, read]
    rfl

variable (forms bigInts build) in
/-- A text is read as a signed transaction for another network. -/
def SignedElsewhere (s : String) (networkId : NetworkId) : Prop :=
  ∃ signed,
    fromSlice forms (TransactionSignature.codec forms bigInts build)
        (asBytes (trim s)) = .ok signed ∧
      signed.payload.networkId ≠ networkId

/-- Only a signed transaction is loaded for another network than the requested
one. -/
theorem fromStrNetwork_network_iff (s : String) (networkId : NetworkId) :
    (∀ envelope,
      fromStrNetwork forms bigInts build errorText s networkId =
        .ok envelope → envelope.networkId = networkId) ↔
      ¬SignedElsewhere forms bigInts build s networkId := by
  constructor
  · rintro sameNetwork ⟨signed, read, elsewhere⟩
    apply elsewhere
    apply sameNetwork
    unfold fromStrNetwork
    dsimp only
    rw [read]
    rfl
  · intro notElsewhere envelope loaded
    rcases fromStrNetwork_cases loaded with ⟨signed, read, rfl⟩ |
      ⟨command, -, rfl⟩ | ⟨transaction, -, rfl⟩
    · by_contra elsewhere
      exact notElsewhere ⟨signed, read, elsewhere⟩
    · rfl
    · rfl

/-- A document is loaded as what it was written for, an unsigned transaction for
the requested network; a signed one keeps a network of its own. The coordinator
loads what the library loads. -/
theorem fromStrNetwork_faithful_iff
    (lawful : forms.Lawful)
    (braced : forms.Braced)
    (numbers : bigInts.Lawful)
    (networkId : NetworkId) :
    (∀ kind : TransactionKind build, kind.Decodable forms →
      ∃ tag json, kind.write forms build = .ok (tag, json) ∧
        ∀ s, forms.Surrounds json s →
          fromStrNetwork forms bigInts build errorText s networkId =
            .ok { networkId := networkId, kind := kind }) ∧
    (∀ signed json s,
      (TransactionSignature.codec forms bigInts build).serialize signed =
          .ok json →
        forms.Surrounds json s →
          ((∃ envelope,
            fromStrNetwork forms bigInts build errorText s networkId =
                .ok envelope ∧
              envelope.kind = signed.payload.kind) ↔
            forms.signer.Addressable signed.publicKey ∧
              signed.payload.kind.Decodable forms)) ∧
    (∀ s,
      (∀ envelope,
        fromStrNetwork forms bigInts build errorText s networkId =
          .ok envelope → envelope.networkId = networkId) ↔
        ¬SignedElsewhere forms bigInts build s networkId) ∧
    ∀ s envelope,
      loadTransactionFromStr forms bigInts errorText s networkId =
          .ok envelope ↔
        fromStrNetwork forms bigInts build errorText s networkId =
          .ok envelope := by
  refine ⟨?_, ?_, ?_, ?_⟩
  · intro kind decodable
    exact fromStrNetwork_unsigned lawful braced networkId decodable
  · intro signed json s written surrounds
    exact fromStrNetwork_signed_iff lawful braced numbers networkId written
      surrounds
  · intro s
    exact fromStrNetwork_network_iff s networkId
  · intro s envelope
    exact loadTransactionFromStr_eq_ok forms bigInts errorText

end Loading

section Example

/-- The number of four limbs. -/
theorem littleEndian_bigintToBytes (first second third fourth : UInt64) :
    littleEndian (Sig.bigintToBytes #v[first, second, third, fourth]) =
      first.toNat + 2 ^ 64 * (second.toNat + 2 ^ 64 *
        (third.toNat + 2 ^ 64 * fourth.toNat)) := by
  have limb : ∀ (number : UInt64) (rest : List UInt8),
      littleEndian (leBytes 8 number.toNat ++ rest) =
        number.toNat + 2 ^ 64 * littleEndian rest := by
    intro number rest
    rw [littleEndian_append, littleEndian_leBytes number.toNat_lt,
      length_leBytes]
    rfl
  have bytes : Sig.bigintToBytes #v[first, second, third, fourth] =
      leBytes 8 first.toNat ++ (leBytes 8 second.toNat ++
        (leBytes 8 third.toNat ++ (leBytes 8 fourth.toNat ++ []))) := rfl
  rw [bytes, limb, limb, limb, limb]
  rfl

theorem decimalBigInts_lawful : decimalBigInts.Lawful := by
  rintro ⟨⟨limbList⟩, size⟩
  obtain ⟨first, second, third, fourth, rfl⟩ :=
    List.length_eq_four.mp size
  have number := littleEndian_bigintToBytes first second third fourth
  have fits : littleEndian
      (Sig.bigintToBytes #v[first, second, third, fourth]) < 2 ^ 256 := by
    rw [number]
    have := first.toNat_lt
    have := second.toNat_lt
    have := third.toNat_lt
    have := fourth.toNat_lt
    omega
  have low : ∀ (limb : UInt64) (rest : Nat),
      UInt64.ofNat (limb.toNat + 2 ^ 64 * rest) = limb := by
    intro limb rest
    apply UInt64.toNat_inj.mp
    rw [UInt64.toNat_ofNat', Nat.add_mul_mod_self_left,
      Nat.mod_eq_of_lt limb.toNat_lt]
  have high : ∀ (limb : UInt64) (rest : Nat),
      (limb.toNat + 2 ^ 64 * rest) / 2 ^ 64 = rest := by
    intro limb rest
    rw [Nat.add_mul_div_left _ _ (Nat.two_pow_pos 64),
      Nat.div_eq_of_lt limb.toNat_lt, Nat.zero_add]
  have recovered : limbs (littleEndian
      (Sig.bigintToBytes #v[first, second, third, fourth])) =
        #v[first, second, third, fourth] := by
    have two : 2 ^ 128 = 2 ^ 64 * 2 ^ 64 := by decide
    have three : 2 ^ 192 = 2 ^ 64 * 2 ^ 64 * 2 ^ 64 := by decide
    have last := low fourth 0
    rw [Nat.mul_zero, Nat.add_zero] at last
    rw [number, limbs, three, two]
    simp only [← Nat.div_div_eq_div_mul, high, low, last]
  have parsed := DecimalText.parse_repr fits
  unfold decimalBigInts
  dsimp only
  rw [parsed]
  exact congrArg some recovered

/-- The JSON of the payment is loaded for the main network. -/
theorem fromStrNetwork_faithful_iff_payment :
    ∃ s, fromStrNetwork TextForms.reference decimalBigInts .preMesa
        (fun _ => "") s .mainnet =
      .ok { networkId := .mainnet, kind := paymentEnvelope.kind } := by
  have decodable : paymentEnvelope.kind.Decodable TextForms.reference :=
    ⟨"Legacy", unsignedPaymentJson, rfl⟩
  obtain ⟨tag, json, -, loads⟩ :=
    (@fromStrNetwork_faithful_iff TextForms.reference decimalBigInts .preMesa
      (fun _ => "") TextForms.reference_lawful TextForms.reference_braced
      decimalBigInts_lawful .mainnet).1 _ decodable
  refine ⟨String.ofList (['\n'] ++
    (TextForms.reference.json.toStringPretty json).toList ++ [' ']), ?_⟩
  apply loads
  exact ⟨['\n'], _, [' '], Or.inl rfl, List.forall_mem_singleton.mpr rfl,
    List.forall_mem_singleton.mpr rfl, rfl⟩

/-- The document of the payment in a signed transaction. -/
def signedPaymentJson : Json :=
  signedJson TextForms.knownAddress "1" "2" "" "testnet"
    (.object
      [("tag", .string "Legacy"), ("transaction", unsignedPaymentJson)])

/-- The signed transaction as text. -/
def signedPaymentText : String :=
  String.ofList
    (JsonSyntax.print JsonSyntax.Layout.compact 0 signedPaymentJson)

/-- The signed payment for the test network is loaded for the main network, and
stays on the test network. -/
theorem fromStrNetwork_signed_testnet :
    NetworkId.tryFrom "mainnet" = .ok .mainnet ∧
      ∃ envelope,
        fromStrNetwork TextForms.reference decimalBigInts .preMesa
            (fun _ => "") signedPaymentText .mainnet = .ok envelope ∧
          envelope.networkId ≠ .mainnet := by
  refine ⟨rfl, { networkId := .testnet, kind := paymentEnvelope.kind }, ?_,
    by decide⟩
  have fits : signedPaymentJson.Fits JsonText.recursionLimit := by
    simp [signedPaymentJson, signedJson, signedEntries, unsignedPaymentJson,
      Json.Fits, JsonText.recursionLimit]
  have surrounds :
      TextForms.reference.Surrounds signedPaymentJson signedPaymentText := by
    refine ⟨[], signedPaymentText, [], Or.inr ?_, by simp, by simp, ?_⟩
    · rw [signedPaymentText, TextForms.reference, TextForms.referenceJson]
    · rw [List.nil_append, List.append_nil, String.ofList_toList]
  have parsed := parse_trim TextForms.reference_lawful
    TextForms.reference_braced fits surrounds
  have kindRead : (TransactionKind.codec TextForms.reference
      .preMesa).deserialize .parser (.object
        [("tag", .string "Legacy"), ("transaction", unsignedPaymentJson)]) =
      .ok paymentEnvelope.kind :=
    deserialize_tagged (by decide) rfl
  obtain ⟨signed, read, payload⟩ :=
    @deserialize_signedJson TextForms.reference decimalBigInts .preMesa
      TextForms.knownAddress "1" "2" "" "testnet" _ _ .testnet _ _ () rfl rfl
      rfl rfl kindRead
  unfold fromStrNetwork
  dsimp only
  rw [fromSlice_eq parsed]
  change Outcome.handle ((TransactionSignature.codec TextForms.reference
    decimalBigInts .preMesa).deserialize .parser signedPaymentJson) _ _ = _
  rw [signedPaymentJson, read, Outcome.handle, payload]

end Example

end TransactionEnvelope

end Tx
end MinaMultiSig
