import MinaMultiSig.Library.DecimalText
import MinaMultiSig.Library.SerdeRecord
import MinaMultiSig.Tx.Utf8
import MinaMultiSig.Tx.ZkApp.Types

/-!
# The JSON form of zkApp commands

The derived codecs of the records of `mina-tx/src/transactions/zkapp_tx.rs` and
the written ones of `zkapp_tx/zkapp_serde.rs`. Field elements and most numbers
are decimal texts, keys are addresses, memos and token identifiers are
base58check texts, symbols and URIs are plain texts.
-/

namespace MinaMultiSig
namespace Tx

open Codec Fields

section Texts

/-- A failure with the text of an error. -/
def customError {α : Type} (message : String) : Outcome SerdeError α :=
  fail (.custom message)

/-- A decimal text of a number below a bound. -/
def parseUnsigned (bound : Nat) (text : String) : Outcome SerdeError Nat :=
  match DecimalText.parse bound text with
  | .ok number => .ok number
  | .error reason => customError reason.text

/-- A number of 32 bits as a decimal text. -/
def stringU32 : Codec UInt32 :=
  viaString (fun number => .ok number.toNat.repr) fun text =>
    (parseUnsigned (2 ^ 32) text).map UInt32.ofNat

/-- A number of 64 bits as a decimal text. -/
def stringU64 : Codec UInt64 :=
  viaString (fun number => .ok number.toNat.repr) fun text =>
    (parseUnsigned (2 ^ 64) text).map UInt64.ofNat

/-- The name of a sign; zero has none. -/
def serializeSign (value : Int8) : Outcome SerdeError String :=
  if value = 0 then customError "Sign must be -1 or 1, found 0"
  else .ok (if value > 0 then "Positive" else "Negative")

/-- The sign of a name. -/
def deserializeSign : String → Outcome SerdeError Int8
  | "Positive" => .ok 1
  | "Negative" => .ok (-1)
  | _ => customError "Invalid sign value"

/-- A sign by its name. -/
def sign : Codec Int8 :=
  viaString serializeSign deserializeSign

/-- Bytes that are written as the text they are. -/
def utf8Text (bytes : List UInt8) : Outcome SerdeError String :=
  match fromUtf8 bytes with
  | .ok text => .ok text
  | .error message => customError message

/-- `TokenSymbol::from_str`: at most six bytes. -/
def TokenSymbol.fromStr (text : String) : Except String TokenSymbol :=
  if text.utf8ByteSize ≤ 6 then .ok ⟨asBytes text⟩
  else .error "Token symbol must be at most 6 characters"

/-- A symbol as the text it is. -/
def TokenSymbol.codec : Codec TokenSymbol :=
  viaString (fun symbol => utf8Text symbol.bytes) fun text =>
    match TokenSymbol.fromStr text with
    | .ok symbol => .ok symbol
    | .error message => customError message

/-- A URI as the text it is. -/
def ZkappUri.codec : Codec ZkappUri :=
  viaString (fun uri => utf8Text uri.bytes) fun text => .ok ⟨asBytes text⟩

/-- A needed authorization by its name. -/
def AuthRequired.codec : Codec AuthRequired :=
  unitVariants
    [("None", .none), ("Either", .either), ("Proof", .proof),
      ("Signature", .signature), ("Impossible", .impossible), ("Both", .both)]

section Faithful

theorem stringU32_faithful : stringU32.Faithful := by
  apply viaString_faithful
  intro _ number _
  refine ⟨number.toNat.repr, rfl, ?_⟩
  rw [parseUnsigned, DecimalText.parse_repr number.toNat_lt]
  exact congrArg Except.ok UInt32.ofNat_toNat

theorem stringU64_faithful : stringU64.Faithful := by
  apply viaString_faithful
  intro _ number _
  refine ⟨number.toNat.repr, rfl, ?_⟩
  rw [parseUnsigned, DecimalText.parse_repr number.toNat_lt]
  exact congrArg Except.ok UInt64.ofNat_toNat

theorem sign_faithful : sign.Faithful := by
  apply viaString_faithful
  intro text value parsed
  unfold deserializeSign at parsed
  split at parsed
  · obtain rfl := Except.ok.inj parsed
    exact ⟨"Positive", rfl, rfl⟩
  · obtain rfl := Except.ok.inj parsed
    exact ⟨"Negative", rfl, rfl⟩
  · exact absurd parsed (by simp [customError, fail])

theorem utf8Text_asBytes (text : String) :
    utf8Text (asBytes text) = .ok text := by
  rw [utf8Text, fromUtf8_asBytes]

theorem TokenSymbol.codec_faithful : TokenSymbol.codec.Faithful := by
  apply viaString_faithful
  intro text symbol parsed
  have isBytes : symbol = ⟨asBytes text⟩ := by
    rw [TokenSymbol.fromStr] at parsed
    split at parsed
    next isSymbol =>
      obtain rfl := Except.ok.inj parsed
      split at isSymbol
      · exact (Except.ok.inj isSymbol).symm
      · exact absurd isSymbol (by simp)
    next => exact absurd parsed (by simp [customError, fail])
  refine ⟨text, ?_, parsed⟩
  rw [isBytes, utf8Text_asBytes]

theorem ZkappUri.codec_faithful : ZkappUri.codec.Faithful := by
  apply viaString_faithful
  intro text uri parsed
  obtain rfl := Except.ok.inj parsed
  exact ⟨text, utf8Text_asBytes text, rfl⟩

theorem AuthRequired.codec_faithful : AuthRequired.codec.Faithful :=
  unitVariants_faithful (by decide)

end Faithful

end Texts

section Parameters

variable (signer : MinaSigner) (base58 : Base58) (fieldText : FieldText)

/-- A public key as its address. -/
def PublicKey.codec : Codec PublicKey :=
  viaString (fun key => .ok (signer.intoAddress key)) fun text =>
    match signer.compressedFromAddress text with
    | .ok key => .ok key
    | .error message => customError message

/-- A field element as its decimal text. -/
def Fp.codec : Codec Fp :=
  viaString (fun value => .ok (fieldText.toString value)) fun text =>
    match fieldText.parse text with
    | some value => .ok value
    | none => customError ("Failed to parse Fp from string: " ++ text)

/-- The text of an error about a memo or a token identifier. -/
def base58Message (title name : String) : Base58Error → String
  | .invalidBase58 => "Invalid base58 encoding"
  | .tooShort => title ++ " too short for base58check"
  | .invalidVersionByte expected actual =>
      "Invalid " ++ name ++ " version byte: expected " ++
        toString expected.toNat ++ ", got " ++ toString actual.toNat
  | .invalidChecksum => "Invalid " ++ name ++ " checksum"
  | .invalidLength expected actual =>
      "Invalid " ++ name ++ " length: expected " ++ toString expected ++
        ", got " ++ toString actual

/-- The bytes of a base58check text of a given length. -/
def base58Payload
    (title name : String)
    (versionByte : UInt8)
    (length : Nat)
    (text : String) : Outcome SerdeError (List UInt8) :=
  match fromBase58Check base58 text versionByte with
  | .ok decoded =>
      if decoded.length = length then .ok decoded
      else customError
        (base58Message title name (.invalidLength length decoded.length))
  | .error reason => customError (base58Message title name reason)

/-- The base58check text of a memo. -/
def memoSerde (memo : Vector UInt8 memoBytes) : Outcome SerdeError String :=
  .ok (toBase58Check base58 memo.toList memoVersionByte)

/-- A memo of 34 bytes that begins with its header. -/
def memoDeser (text : String) : Outcome SerdeError (Vector UInt8 memoBytes) := do
  let decoded ←
    base58Payload base58 "Memo" "memo" memoVersionByte memoBytes text
  if decoded.head? ≠ some 1 then
    customError "Invalid memo header: missing 0x01 prefix"
  else if full : decoded.length = memoBytes then
    return ⟨decoded.toArray, full⟩
  else fail .mismatch

/-- A memo as its base58check text. -/
def memoCodec : Codec (Vector UInt8 memoBytes) :=
  viaString (memoSerde base58) (memoDeser base58)

/-- The number of bytes of a token identifier. -/
def tokenBytes : Nat :=
  32

/-- A token identifier as the base58check text of its bytes, which are read as a
number modulo the field. -/
def TokenId.codec : Codec TokenId :=
  viaString
    (fun token =>
      .ok (toBase58Check base58 (leBytes tokenBytes token.field.val)
        tokenIdVersionByte))
    fun text => do
      let decoded ← base58Payload base58 "TokenId" "TokenId" tokenIdVersionByte
        tokenBytes text
      return ⟨(littleEndian decoded : Fp)⟩

/-- An action state as its field element. -/
def ActionState.codec : Codec ActionState :=
  (Fp.codec fieldText).transparent (fun value => ⟨value⟩) fun state => state.field

/-- Events as lists of decimal texts. -/
def Events.codec : Codec Events :=
  (Fp.codec fieldText).list.list.transparent (fun data => ⟨data⟩) fun events =>
    events.data

/-- Actions as lists of decimal texts. -/
def Actions.codec : Codec Actions :=
  (Fp.codec fieldText).list.list.transparent (fun data => ⟨data⟩) fun actions =>
    actions.data

end Parameters

section Records

variable (signer : MinaSigner) (base58 : Base58) (fieldText : FieldText)
  (build : Build)

/-- The derived codec of a range. -/
def RangeCondition.codec
    {α : Type}
    (bound : Codec α) : Codec (RangeCondition α) :=
  record
    (required "lower" bound <|
      required "upper" bound done)
    (fun (lower, upper, ()) => { lower := lower, upper := upper })
    fun range => (range.lower, range.upper, ())

/-- The derived codec of a verification key. -/
def VerificationKeyData.codec : Codec VerificationKeyData :=
  record
    (required "data" string <|
      required "hash" (Fp.codec fieldText) done)
    (fun (data, hash, ()) => { data := data, hash := hash })
    fun key => (key.data, key.hash, ())

/-- The derived codec of a timing, whose numbers are plain. -/
def TimingData.codec : Codec TimingData :=
  record
    (required "initialMinimumBalance" u64 <|
      required "cliffTime" u32 <|
      required "cliffAmount" u64 <|
      required "vestingPeriod" u32 <|
      required "vestingIncrement" u64 done)
    (fun (initialMinimumBalance, cliffTime, cliffAmount, vestingPeriod,
        vestingIncrement, ()) =>
      { initialMinimumBalance := initialMinimumBalance
        cliffTime := cliffTime
        cliffAmount := cliffAmount
        vestingPeriod := vestingPeriod
        vestingIncrement := vestingIncrement })
    fun timing =>
      (timing.initialMinimumBalance, timing.cliffTime, timing.cliffAmount,
        timing.vestingPeriod, timing.vestingIncrement, ())

/-- The derived codec of the permission to set a verification key. -/
def SetVerificationKey.codec : Codec SetVerificationKey :=
  record
    (required "auth" AuthRequired.codec <|
      required "txnVersion" stringU32 done)
    (fun (auth, txnVersion, ()) => { auth := auth, txnVersion := txnVersion })
    fun permission => (permission.auth, permission.txnVersion, ())

/-- The derived codec of the permissions. -/
def Permissions.codec : Codec Permissions :=
  record
    (required "editState" AuthRequired.codec <|
      required "access" AuthRequired.codec <|
      required "send" AuthRequired.codec <|
      required "receive" AuthRequired.codec <|
      required "setDelegate" AuthRequired.codec <|
      required "setPermissions" AuthRequired.codec <|
      required "setVerificationKey" SetVerificationKey.codec <|
      required "setZkappUri" AuthRequired.codec <|
      required "editActionState" AuthRequired.codec <|
      required "setTokenSymbol" AuthRequired.codec <|
      required "incrementNonce" AuthRequired.codec <|
      required "setVotingFor" AuthRequired.codec <|
      required "setTiming" AuthRequired.codec done)
    (fun (editState, access, send, receive, setDelegate, setPermissions,
        setVerificationKey, setZkappUri, editActionState, setTokenSymbol,
        incrementNonce, setVotingFor, setTiming, ()) =>
      { editState := editState
        access := access
        send := send
        receive := receive
        setDelegate := setDelegate
        setPermissions := setPermissions
        setVerificationKey := setVerificationKey
        setZkappUri := setZkappUri
        editActionState := editActionState
        setTokenSymbol := setTokenSymbol
        incrementNonce := incrementNonce
        setVotingFor := setVotingFor
        setTiming := setTiming })
    fun permissions =>
      (permissions.editState, permissions.access, permissions.send,
        permissions.receive, permissions.setDelegate,
        permissions.setPermissions, permissions.setVerificationKey,
        permissions.setZkappUri, permissions.editActionState,
        permissions.setTokenSymbol, permissions.incrementNonce,
        permissions.setVotingFor, permissions.setTiming, ())

/-- The derived codec of the changes of an account. -/
def Update.codec : Codec (Update build) :=
  record
    (required "appState"
        ((Fp.codec fieldText).option.vector build.appStateLength) <|
      optional "delegate" (PublicKey.codec signer) <|
      optional "verificationKey" (VerificationKeyData.codec fieldText) <|
      optional "permissions" Permissions.codec <|
      optional "zkappUri" ZkappUri.codec <|
      optional "tokenSymbol" TokenSymbol.codec <|
      optional "timing" TimingData.codec <|
      optional "votingFor" (Fp.codec fieldText) done)
    (fun (appState, delegate, verificationKey, permissions, zkappUri,
        tokenSymbol, timing, votingFor, ()) =>
      { appState := appState
        delegate := delegate
        verificationKey := verificationKey
        permissions := permissions
        zkappUri := zkappUri
        tokenSymbol := tokenSymbol
        timing := timing
        votingFor := votingFor })
    fun update =>
      (update.appState, update.delegate, update.verificationKey,
        update.permissions, update.zkappUri, update.tokenSymbol, update.timing,
        update.votingFor, ())

/-- The derived codec of a change of a balance. -/
def BalanceChange.codec : Codec BalanceChange :=
  record
    (required "magnitude" stringU64 <|
      required "sgn" sign done)
    (fun (magnitude, sgn, ()) => { magnitude := magnitude, sgn := sgn })
    fun change => (change.magnitude, change.sgn, ())

/-- The derived codec of the conditions on a ledger. -/
def EpochLedger.codec : Codec EpochLedger :=
  record
    (optional "hash" (Fp.codec fieldText) <|
      optional "totalCurrency" (RangeCondition.codec stringU64) done)
    (fun (hash, totalCurrency, ()) =>
      { hash := hash, totalCurrency := totalCurrency })
    fun ledger => (ledger.hash, ledger.totalCurrency, ())

/-- The derived codec of the conditions on an epoch. -/
def EpochData.codec : Codec EpochData :=
  record
    (required "ledger" (EpochLedger.codec fieldText) <|
      optional "seed" (Fp.codec fieldText) <|
      optional "startCheckpoint" (Fp.codec fieldText) <|
      optional "lockCheckpoint" (Fp.codec fieldText) <|
      optional "epochLength" (RangeCondition.codec stringU32) done)
    (fun (ledger, seed, startCheckpoint, lockCheckpoint, epochLength, ()) =>
      { ledger := ledger
        seed := seed
        startCheckpoint := startCheckpoint
        lockCheckpoint := lockCheckpoint
        epochLength := epochLength })
    fun data =>
      (data.ledger, data.seed, data.startCheckpoint, data.lockCheckpoint,
        data.epochLength, ())

/-- The derived codec of the conditions on the network. -/
def NetworkPreconditions.codec : Codec NetworkPreconditions :=
  record
    (optional "snarkedLedgerHash" (Fp.codec fieldText) <|
      optional "blockchainLength" (RangeCondition.codec stringU32) <|
      optional "minWindowDensity" (RangeCondition.codec stringU32) <|
      optional "totalCurrency" (RangeCondition.codec stringU64) <|
      optional "globalSlotSinceGenesis" (RangeCondition.codec stringU32) <|
      required "stakingEpochData" (EpochData.codec fieldText) <|
      required "nextEpochData" (EpochData.codec fieldText) done)
    (fun (snarkedLedgerHash, blockchainLength, minWindowDensity, totalCurrency,
        globalSlotSinceGenesis, stakingEpochData, nextEpochData, ()) =>
      { snarkedLedgerHash := snarkedLedgerHash
        blockchainLength := blockchainLength
        minWindowDensity := minWindowDensity
        totalCurrency := totalCurrency
        globalSlotSinceGenesis := globalSlotSinceGenesis
        stakingEpochData := stakingEpochData
        nextEpochData := nextEpochData })
    fun network =>
      (network.snarkedLedgerHash, network.blockchainLength,
        network.minWindowDensity, network.totalCurrency,
        network.globalSlotSinceGenesis, network.stakingEpochData,
        network.nextEpochData, ())

/-- The derived codec of the conditions on an account. -/
def AccountPreconditions.codec : Codec (AccountPreconditions build) :=
  record
    (optional "balance" (RangeCondition.codec stringU64) <|
      optional "nonce" (RangeCondition.codec stringU32) <|
      optional "receiptChainHash" (Fp.codec fieldText) <|
      optional "delegate" (PublicKey.codec signer) <|
      required "state"
        ((Fp.codec fieldText).option.vector build.appStateLength) <|
      optional "actionState" (ActionState.codec fieldText) <|
      optional "provedState" bool <|
      optional "isNew" bool done)
    (fun (balance, nonce, receiptChainHash, delegate, state, actionState,
        provedState, isNew, ()) =>
      { balance := balance
        nonce := nonce
        receiptChainHash := receiptChainHash
        delegate := delegate
        state := state
        actionState := actionState
        provedState := provedState
        isNew := isNew })
    fun account =>
      (account.balance, account.nonce, account.receiptChainHash,
        account.delegate, account.state, account.actionState,
        account.provedState, account.isNew, ())

/-- The derived codec of all conditions. -/
def Preconditions.codec : Codec (Preconditions build) :=
  record
    (required "network" (NetworkPreconditions.codec fieldText) <|
      required "account" (AccountPreconditions.codec signer fieldText build) <|
      optional "validWhile" (RangeCondition.codec stringU32) done)
    (fun (network, account, validWhile, ()) =>
      { network := network, account := account, validWhile := validWhile })
    fun preconditions =>
      (preconditions.network, preconditions.account, preconditions.validWhile,
        ())

/-- The derived codec of the use of a token. -/
def MayUseToken.codec : Codec MayUseToken :=
  record
    (required "parentsOwnToken" bool <|
      required "inheritFromParent" bool done)
    (fun (parentsOwnToken, inheritFromParent, ()) =>
      { parentsOwnToken := parentsOwnToken
        inheritFromParent := inheritFromParent })
    fun token => (token.parentsOwnToken, token.inheritFromParent, ())

/-- The derived codec of how an update is authorized. -/
def AuthorizationKind.codec : Codec AuthorizationKind :=
  record
    (required "isSigned" bool <|
      required "isProved" bool <|
      required "verificationKeyHash" (Fp.codec fieldText) done)
    (fun (isSigned, isProved, verificationKeyHash, ()) =>
      { isSigned := isSigned
        isProved := isProved
        verificationKeyHash := verificationKeyHash })
    fun kind => (kind.isSigned, kind.isProved, kind.verificationKeyHash, ())

/-- The derived codec of the body of an account update. -/
def AccountUpdateBody.codec : Codec (AccountUpdateBody build) :=
  record
    (required "publicKey" (PublicKey.codec signer) <|
      required "tokenId" (TokenId.codec base58) <|
      required "update" (Update.codec signer fieldText build) <|
      required "balanceChange" BalanceChange.codec <|
      required "incrementNonce" bool <|
      required "events" (Events.codec fieldText) <|
      required "actions" (Actions.codec fieldText) <|
      required "callData" (Fp.codec fieldText) <|
      required "callDepth" u32 <|
      required "preconditions" (Preconditions.codec signer fieldText build) <|
      required "useFullCommitment" bool <|
      required "implicitAccountCreationFee" bool <|
      required "mayUseToken" MayUseToken.codec <|
      required "authorizationKind" (AuthorizationKind.codec fieldText) done)
    (fun (publicKey, tokenId, update, balanceChange, incrementNonce, events,
        actions, callData, callDepth, preconditions, useFullCommitment,
        implicitAccountCreationFee, mayUseToken, authorizationKind, ()) =>
      { publicKey := publicKey
        tokenId := tokenId
        update := update
        balanceChange := balanceChange
        incrementNonce := incrementNonce
        events := events
        actions := actions
        callData := callData
        callDepth := callDepth
        preconditions := preconditions
        useFullCommitment := useFullCommitment
        implicitAccountCreationFee := implicitAccountCreationFee
        mayUseToken := mayUseToken
        authorizationKind := authorizationKind })
    fun body =>
      (body.publicKey, body.tokenId, body.update, body.balanceChange,
        body.incrementNonce, body.events, body.actions, body.callData,
        body.callDepth, body.preconditions, body.useFullCommitment,
        body.implicitAccountCreationFee, body.mayUseToken,
        body.authorizationKind, ())

/-- The derived codec of an authorization. -/
def Authorization.codec : Codec Authorization :=
  record
    (optional "proof" string <|
      optional "signature" string done)
    (fun (proof, signature, ()) => { proof := proof, signature := signature })
    fun authorization => (authorization.proof, authorization.signature, ())

/-- The derived codec of an account update. -/
def AccountUpdate.codec : Codec (AccountUpdate build) :=
  record
    (required "body" (AccountUpdateBody.codec signer base58 fieldText build) <|
      required "authorization" Authorization.codec done)
    (fun (body, authorization, ()) =>
      { body := body, authorization := authorization })
    fun update => (update.body, update.authorization, ())

/-- The slot may be `null` but not missing: it has a reader of its own. -/
def FeePayerBody.codec : Codec FeePayerBody :=
  record
    (required "publicKey" (PublicKey.codec signer) <|
      required "fee" stringU64 <|
      required "validUntil" stringU32.option <|
      required "nonce" stringU32 done)
    (fun (publicKey, fee, validUntil, nonce, ()) =>
      { publicKey := publicKey
        fee := fee
        validUntil := validUntil
        nonce := nonce })
    fun body => (body.publicKey, body.fee, body.validUntil, body.nonce, ())

/-- The derived codec of the fee payer. -/
def FeePayer.codec : Codec FeePayer :=
  record
    (required "body" (FeePayerBody.codec signer) <|
      required "authorization" string done)
    (fun (body, authorization, ()) =>
      { body := body, authorization := authorization })
    fun payer => (payer.body, payer.authorization, ())

/-- The derived codec of a command. -/
def ZKAppCommand.codec : Codec (ZKAppCommand build) :=
  record
    (required "feePayer" (FeePayer.codec signer) <|
      required "accountUpdates"
        (AccountUpdate.codec signer base58 fieldText build).list <|
      required "memo" (memoCodec base58) done)
    (fun (feePayer, accountUpdates, memo, ()) =>
      { feePayer := feePayer, accountUpdates := accountUpdates, memo := memo })
    fun command => (command.feePayer, command.accountUpdates, command.memo, ())

end Records

section RecordsFaithful

variable {signer : MinaSigner} {base58 : Base58} {fieldText : FieldText}
  {build : Build}

theorem PublicKey.codec_faithful
    (lawful : signer.Lawful) :
    (PublicKey.codec signer).Faithful := by
  apply viaString_faithful
  intro text key parsed
  refine ⟨signer.intoAddress key, rfl, ?_⟩
  split at parsed
  next other isKey =>
    obtain rfl := Except.ok.inj parsed
    rw [lawful.compressedFromAddress_intoAddress text other isKey]
  next => exact absurd parsed (by simp [customError, fail])

theorem Fp.codec_faithful
    (lawful : fieldText.Lawful) :
    (Fp.codec fieldText).Faithful := by
  apply viaString_faithful
  intro _ value _
  refine ⟨fieldText.toString value, rfl, ?_⟩
  rw [lawful.parse_toString]

/-- The text of bytes has them as its payload. -/
theorem base58Payload_toBase58Check
    (lawful : base58.Lawful)
    (title name : String)
    (versionByte : UInt8)
    (bytes : List UInt8) :
    base58Payload base58 title name versionByte bytes.length
        (toBase58Check base58 bytes versionByte) = .ok bytes := by
  rw [base58Payload, fromBase58Check_toBase58Check lawful]
  simp

theorem memoCodec_faithful
    (lawful : base58.Lawful) :
    (memoCodec base58).Faithful := by
  apply viaString_faithful
  intro text memo parsed
  refine ⟨_, rfl, ?_⟩
  obtain ⟨decoded, -, built⟩ := Outcome.bind_eq_ok.mp parsed
  split at built
  next => exact absurd built (by simp [customError, fail])
  next header =>
    split at built
    next full =>
      obtain rfl := Except.ok.inj built
      apply Outcome.bind_eq_ok.mpr
      have payload := base58Payload_toBase58Check lawful "Memo" "memo"
        memoVersionByte decoded
      rw [full] at payload
      refine ⟨decoded, payload, ?_⟩
      rw [if_neg header, dif_pos full]
      rfl
    next => exact absurd built (by simp [fail])

theorem TokenId.codec_faithful
    (lawful : base58.Lawful) :
    (TokenId.codec base58).Faithful := by
  apply viaString_faithful
  intro _ token _
  refine ⟨_, rfl, Outcome.bind_eq_ok.mpr ?_⟩
  have payload := base58Payload_toBase58Check lawful "TokenId" "TokenId"
    tokenIdVersionByte (leBytes tokenBytes token.field.val)
  rw [length_leBytes] at payload
  refine ⟨_, payload, ?_⟩
  have below : token.field.val < 256 ^ tokenBytes :=
    (ZMod.val_lt token.field).trans (by decide)
  rw [littleEndian_leBytes below, ZMod.natCast_zmod_val]
  rfl

theorem RangeCondition.codec_faithful
    {α : Type}
    {bound : Codec α}
    (faithful : bound.Faithful) :
    (RangeCondition.codec bound).Faithful :=
  record_faithful
    (required_faithful faithful <|
      required_faithful faithful done_faithful)
    (by simp) fun _ => rfl

theorem VerificationKeyData.codec_faithful
    (texts : fieldText.Lawful) :
    (VerificationKeyData.codec fieldText).Faithful :=
  record_faithful
    (required_faithful string_faithful <|
      required_faithful (Fp.codec_faithful texts) done_faithful)
    (by simp) fun _ => rfl

theorem TimingData.codec_faithful : TimingData.codec.Faithful :=
  record_faithful
    (required_faithful u64_faithful <|
      required_faithful u32_faithful <|
      required_faithful u64_faithful <|
      required_faithful u32_faithful <|
      required_faithful u64_faithful done_faithful)
    (by simp) fun _ => rfl

theorem SetVerificationKey.codec_faithful :
    SetVerificationKey.codec.Faithful :=
  record_faithful
    (required_faithful AuthRequired.codec_faithful <|
      required_faithful stringU32_faithful done_faithful)
    (by simp) fun _ => rfl

theorem Permissions.codec_faithful : Permissions.codec.Faithful :=
  record_faithful
    (required_faithful AuthRequired.codec_faithful <|
      required_faithful AuthRequired.codec_faithful <|
      required_faithful AuthRequired.codec_faithful <|
      required_faithful AuthRequired.codec_faithful <|
      required_faithful AuthRequired.codec_faithful <|
      required_faithful AuthRequired.codec_faithful <|
      required_faithful SetVerificationKey.codec_faithful <|
      required_faithful AuthRequired.codec_faithful <|
      required_faithful AuthRequired.codec_faithful <|
      required_faithful AuthRequired.codec_faithful <|
      required_faithful AuthRequired.codec_faithful <|
      required_faithful AuthRequired.codec_faithful <|
      required_faithful AuthRequired.codec_faithful done_faithful)
    (by simp) fun _ => rfl

theorem Update.codec_faithful
    (keys : signer.Lawful)
    (texts : fieldText.Lawful) :
    (Update.codec signer fieldText build).Faithful :=
  record_faithful
    (required_faithful (vector_faithful
        (option_faithful (Fp.codec_faithful texts) viaString_rejectsNull)) <|
      optional_faithful (PublicKey.codec_faithful keys)
        viaString_rejectsNull <|
      optional_faithful (VerificationKeyData.codec_faithful texts)
        record_rejectsNull <|
      optional_faithful Permissions.codec_faithful record_rejectsNull <|
      optional_faithful ZkappUri.codec_faithful viaString_rejectsNull <|
      optional_faithful TokenSymbol.codec_faithful viaString_rejectsNull <|
      optional_faithful TimingData.codec_faithful record_rejectsNull <|
      optional_faithful (Fp.codec_faithful texts) viaString_rejectsNull
        done_faithful)
    (by simp) fun _ => rfl

theorem BalanceChange.codec_faithful : BalanceChange.codec.Faithful :=
  record_faithful
    (required_faithful stringU64_faithful <|
      required_faithful sign_faithful done_faithful)
    (by simp) fun _ => rfl

theorem EpochLedger.codec_faithful
    (texts : fieldText.Lawful) :
    (EpochLedger.codec fieldText).Faithful :=
  record_faithful
    (optional_faithful (Fp.codec_faithful texts) viaString_rejectsNull <|
      optional_faithful (RangeCondition.codec_faithful stringU64_faithful)
        record_rejectsNull done_faithful)
    (by simp) fun _ => rfl

theorem EpochData.codec_faithful
    (texts : fieldText.Lawful) :
    (EpochData.codec fieldText).Faithful :=
  record_faithful
    (required_faithful (EpochLedger.codec_faithful texts) <|
      optional_faithful (Fp.codec_faithful texts) viaString_rejectsNull <|
      optional_faithful (Fp.codec_faithful texts) viaString_rejectsNull <|
      optional_faithful (Fp.codec_faithful texts) viaString_rejectsNull <|
      optional_faithful (RangeCondition.codec_faithful stringU32_faithful)
        record_rejectsNull done_faithful)
    (by simp) fun _ => rfl

theorem NetworkPreconditions.codec_faithful
    (texts : fieldText.Lawful) :
    (NetworkPreconditions.codec fieldText).Faithful :=
  record_faithful
    (optional_faithful (Fp.codec_faithful texts) viaString_rejectsNull <|
      optional_faithful (RangeCondition.codec_faithful stringU32_faithful)
        record_rejectsNull <|
      optional_faithful (RangeCondition.codec_faithful stringU32_faithful)
        record_rejectsNull <|
      optional_faithful (RangeCondition.codec_faithful stringU64_faithful)
        record_rejectsNull <|
      optional_faithful (RangeCondition.codec_faithful stringU32_faithful)
        record_rejectsNull <|
      required_faithful (EpochData.codec_faithful texts) <|
      required_faithful (EpochData.codec_faithful texts) done_faithful)
    (by simp) fun _ => rfl

theorem AccountPreconditions.codec_faithful
    (keys : signer.Lawful)
    (texts : fieldText.Lawful) :
    (AccountPreconditions.codec signer fieldText build).Faithful :=
  record_faithful
    (optional_faithful (RangeCondition.codec_faithful stringU64_faithful)
        record_rejectsNull <|
      optional_faithful (RangeCondition.codec_faithful stringU32_faithful)
        record_rejectsNull <|
      optional_faithful (Fp.codec_faithful texts) viaString_rejectsNull <|
      optional_faithful (PublicKey.codec_faithful keys)
        viaString_rejectsNull <|
      required_faithful (vector_faithful
        (option_faithful (Fp.codec_faithful texts) viaString_rejectsNull)) <|
      optional_faithful
        (transparent_faithful (Fp.codec_faithful texts) fun _ => rfl)
        (transparent_rejectsNull viaString_rejectsNull) <|
      optional_faithful bool_faithful bool_rejectsNull <|
      optional_faithful bool_faithful bool_rejectsNull done_faithful)
    (by simp) fun _ => rfl

theorem Preconditions.codec_faithful
    (keys : signer.Lawful)
    (texts : fieldText.Lawful) :
    (Preconditions.codec signer fieldText build).Faithful :=
  record_faithful
    (required_faithful (NetworkPreconditions.codec_faithful texts) <|
      required_faithful (AccountPreconditions.codec_faithful keys texts) <|
      optional_faithful (RangeCondition.codec_faithful stringU32_faithful)
        record_rejectsNull done_faithful)
    (by simp) fun _ => rfl

theorem MayUseToken.codec_faithful : MayUseToken.codec.Faithful :=
  record_faithful
    (required_faithful bool_faithful <|
      required_faithful bool_faithful done_faithful)
    (by simp) fun _ => rfl

theorem AuthorizationKind.codec_faithful
    (texts : fieldText.Lawful) :
    (AuthorizationKind.codec fieldText).Faithful :=
  record_faithful
    (required_faithful bool_faithful <|
      required_faithful bool_faithful <|
      required_faithful (Fp.codec_faithful texts) done_faithful)
    (by simp) fun _ => rfl

theorem AccountUpdateBody.codec_faithful
    (keys : signer.Lawful)
    (digits : base58.Lawful)
    (texts : fieldText.Lawful) :
    (AccountUpdateBody.codec signer base58 fieldText build).Faithful :=
  have fieldLists := list_faithful (list_faithful (Fp.codec_faithful texts))
  record_faithful
    (required_faithful (PublicKey.codec_faithful keys) <|
      required_faithful (TokenId.codec_faithful digits) <|
      required_faithful (Update.codec_faithful keys texts) <|
      required_faithful BalanceChange.codec_faithful <|
      required_faithful bool_faithful <|
      required_faithful (transparent_faithful fieldLists fun _ => rfl) <|
      required_faithful (transparent_faithful fieldLists fun _ => rfl) <|
      required_faithful (Fp.codec_faithful texts) <|
      required_faithful u32_faithful <|
      required_faithful (Preconditions.codec_faithful keys texts) <|
      required_faithful bool_faithful <|
      required_faithful bool_faithful <|
      required_faithful MayUseToken.codec_faithful <|
      required_faithful (AuthorizationKind.codec_faithful texts) done_faithful)
    (by simp) fun _ => rfl

theorem Authorization.codec_faithful : Authorization.codec.Faithful :=
  record_faithful
    (optional_faithful string_faithful string_rejectsNull <|
      optional_faithful string_faithful string_rejectsNull done_faithful)
    (by simp) fun _ => rfl

theorem AccountUpdate.codec_faithful
    (keys : signer.Lawful)
    (digits : base58.Lawful)
    (texts : fieldText.Lawful) :
    (AccountUpdate.codec signer base58 fieldText build).Faithful :=
  record_faithful
    (required_faithful (AccountUpdateBody.codec_faithful keys digits texts) <|
      required_faithful Authorization.codec_faithful done_faithful)
    (by simp) fun _ => rfl

theorem FeePayerBody.codec_faithful
    (keys : signer.Lawful) :
    (FeePayerBody.codec signer).Faithful :=
  record_faithful
    (required_faithful (PublicKey.codec_faithful keys) <|
      required_faithful stringU64_faithful <|
      required_faithful
        (option_faithful stringU32_faithful viaString_rejectsNull) <|
      required_faithful stringU32_faithful done_faithful)
    (by simp) fun _ => rfl

theorem FeePayer.codec_faithful
    (keys : signer.Lawful) :
    (FeePayer.codec signer).Faithful :=
  record_faithful
    (required_faithful (FeePayerBody.codec_faithful keys) <|
      required_faithful string_faithful done_faithful)
    (by simp) fun _ => rfl

/-- Each command that is read is written and read again. -/
theorem ZKAppCommand.codec_faithful
    (keys : signer.Lawful)
    (digits : base58.Lawful)
    (texts : fieldText.Lawful) :
    (ZKAppCommand.codec signer base58 fieldText build).Faithful :=
  record_faithful
    (required_faithful (FeePayer.codec_faithful keys) <|
      required_faithful
        (list_faithful (AccountUpdate.codec_faithful keys digits texts)) <|
      required_faithful (memoCodec_faithful digits) done_faithful)
    (by simp) fun _ => rfl

/-- How deep the JSON of a command is. -/
theorem ZKAppCommand.nesting_codec :
    (ZKAppCommand.codec signer base58 fieldText build).nesting = 9 := by
  simp [ZKAppCommand.codec, FeePayer.codec, FeePayerBody.codec,
    AccountUpdate.codec, Authorization.codec, AccountUpdateBody.codec,
    AuthorizationKind.codec, MayUseToken.codec, Preconditions.codec,
    AccountPreconditions.codec, NetworkPreconditions.codec, EpochData.codec,
    EpochLedger.codec, BalanceChange.codec, Update.codec, Permissions.codec,
    SetVerificationKey.codec, TimingData.codec, VerificationKeyData.codec,
    Actions.codec, Events.codec, ActionState.codec, TokenId.codec, Fp.codec,
    PublicKey.codec, AuthRequired.codec, ZkappUri.codec, TokenSymbol.codec,
    RangeCondition.codec, memoCodec, stringU32, stringU64, sign]

end RecordsFaithful

end Tx
end MinaMultiSig
