import MinaMultiSig.Tx.NetworkId
import MinaMultiSig.Tx.ROInput
import MinaMultiSig.Tx.ZkApp.Types

/-!
# Packing account updates for hashing

`mina-tx/src/transactions/zkapp_tx/packing.rs`: the packed input of field
elements and sized bit items, its conversion to field elements, and the packing
of every part of an account update. A packing is `none` where the source
panics.

Poseidon is a parameter.
-/

namespace MinaMultiSig
namespace Tx

/-- The output of the sponge of `mina-poseidon` after absorbing a parameter, and
after absorbing a parameter, one squeeze and absorbing some data. -/
structure Hasher where
  hashParameter : Fp → Fp
  hashParameterData : Fp → List Fp → Fp

section Hashing

variable (hasher : Hasher)

/-- `hash_noinput`: the hash of a parameter alone. -/
def hashNoinput (param : String) : Except MinaTxError Fp :=
  (paramToField param).map hasher.hashParameter

/-- `hash_with_prefix`: the hash of some data under a parameter. -/
def hashWithPrefix (param : String) (data : List Fp) : Except MinaTxError Fp :=
  (paramToField param).map fun field => hasher.hashParameterData field data

end Hashing

/-- Bits as o1js has them: a value with its size. -/
inductive BitData
  | u32 (val : UInt32)
  | u64 (val : UInt64)
  | bool (val : Bool)
  | bytes (val : List UInt8)
  deriving DecidableEq

namespace BitData

/-- How many bits an item takes. -/
def bitDataSize : BitData → Nat
  | u32 _ => 32
  | u64 _ => 64
  | bool _ => 1
  | bytes val => val.length * 8

/-- The field element of the bits, `none` where the source panics. -/
def toField : BitData → Option Fp
  | u32 val => some (val.toNat : Fp)
  | u64 val => some (val.toNat : Fp)
  | bool val => some (if val then 1 else 0)
  | bytes val =>
      let len := min val.length 32
      Fp.fromRandomBytes (val.take len ++ List.replicate (32 - len) 0)

end BitData

/-- A random oracle input whose bit items are not yet packed. -/
@[ext]
structure PackedInput where
  bits : List BitData
  fields : List Fp
  deriving DecidableEq

namespace PackedInput

/-- One turn of the loop of `pack_to_fields`: the packed chunks, the current
chunk and the bits used in it. -/
def packStep
    (state : List Fp × Fp × Nat)
    (bitData : BitData) : Option (List Fp × Fp × Nat) :=
  let (packedBits, currentPackedField, currentSize) := state
  let size := bitData.bitDataSize
  bitData.toField.map fun field =>
    if currentSize + size < 255 then
      (packedBits, currentPackedField * 2 ^ size + field, currentSize + size)
    else (packedBits ++ [currentPackedField], field, size)

/-- Pack the bit items behind the field elements. -/
def packToFields (input : PackedInput) : Option PackedInput :=
  if input.bits.isEmpty then some { bits := [], fields := input.fields }
  else
    (input.bits.foldlM packStep ([], 0, 0)).map
      fun (packedBits, currentPackedField, _) =>
        { bits := []
          fields := input.fields ++ (packedBits ++ [currentPackedField]) }

end PackedInput

/-- A packed input under construction. -/
abbrev Packing : Type :=
  Option PackedInput

namespace Packing

/-- `PackedInput::new`: nothing is packed yet. -/
def new : Packing :=
  some { bits := [], fields := [] }

/-- The bits and the fields of another input behind those of the first. -/
def appendPackedinput (input roi : Packing) : Packing :=
  input.bind fun first => roi.map fun second =>
    { bits := first.bits ++ second.bits
      fields := first.fields ++ second.fields }

/-- A field element behind the others. -/
def appendField (input : Packing) (field : Fp) : Packing :=
  input.map fun roi => { roi with fields := roi.fields ++ [field] }

/-- A sized item behind the others. -/
def appendBitData (input : Packing) (bitData : BitData) : Packing :=
  input.map fun roi => { roi with bits := roi.bits ++ [bitData] }

/-- A single bit. -/
def appendBool (input : Packing) (val : Bool) : Packing :=
  input.appendBitData (.bool val)

/-- A number of 32 bits. -/
def appendU32 (input : Packing) (val : UInt32) : Packing :=
  input.appendBitData (.u32 val)

/-- A number of 64 bits. -/
def appendU64 (input : Packing) (val : UInt64) : Packing :=
  input.appendBitData (.u64 val)

/-- Bytes as one item. -/
def appendBytes (input : Packing) (val : List UInt8) : Packing :=
  input.appendBitData (.bytes val)

/-- An optional part: a flag, then the part or an empty one of its shape. -/
def ofOption
    {α : Type}
    (pack : α → Packing)
    (emptyRoi : Packing) : Option α → Packing
  | some value => (new.appendBool true).appendPackedinput (pack value)
  | none => (new.appendBool false).appendPackedinput emptyRoi

/-- The parts of a list one after the other. -/
def ofList
    {α : Type}
    (pack : α → Packing)
    (items : List α) : Packing :=
  items.foldl (fun roi item => roi.appendPackedinput (pack item)) new

end Packing

section Basic

/-- The abscissa as a field element and the parity as a bit. -/
def PublicKey.pack (publicKey : PublicKey) : Packing :=
  (Packing.new.appendField publicKey.x).appendBool publicKey.isOdd

/-- What stands in place of a missing public key. -/
def PublicKey.emptyRoi : Packing :=
  PublicKey.pack .empty

/-- A field element as it is. -/
def Field.pack (field : Fp) : Packing :=
  Packing.new.appendField field

/-- Zero in place of a missing field element. -/
def Field.emptyRoi : Packing :=
  Field.pack 0

/-- The field element of an action state. -/
def ActionState.pack (actionState : ActionState) : Packing :=
  Packing.new.appendField actionState.field

/-- `lower` and `upper` of 32 bits. -/
def RangeCondition.packU32 (range : RangeCondition UInt32) : Packing :=
  (Packing.new.appendU32 range.lower).appendU32 range.upper

/-- The whole range of 32 bits in place of a missing one. -/
def RangeCondition.emptyRoiU32 : Packing :=
  RangeCondition.packU32 { lower := 0, upper := 4294967295 }

/-- `lower` and `upper` of 64 bits. -/
def RangeCondition.packU64 (range : RangeCondition UInt64) : Packing :=
  (Packing.new.appendU64 range.lower).appendU64 range.upper

/-- The whole range of 64 bits in place of a missing one. -/
def RangeCondition.emptyRoiU64 : Packing :=
  RangeCondition.packU64 { lower := 0, upper := 18446744073709551615 }

/-- An optional flag: whether it is there, and the flag or `false`. -/
def packOptionBool : Option Bool → Packing
  | some val => (Packing.new.appendBool true).appendBool val
  | none => (Packing.new.appendBool false).appendBool false

/-- The parts of a timing in their order, each with its own size. -/
def TimingData.pack (timing : TimingData) : Packing :=
  Packing.new
    |>.appendU64 timing.initialMinimumBalance
    |>.appendU32 timing.cliffTime
    |>.appendU64 timing.cliffAmount
    |>.appendU32 timing.vestingPeriod
    |>.appendU64 timing.vestingIncrement

/-- Zeros in place of a missing timing. -/
def TimingData.emptyRoi : Packing :=
  TimingData.pack
    { initialMinimumBalance := 0
      cliffTime := 0
      cliffAmount := 0
      vestingPeriod := 0
      vestingIncrement := 0 }

/-- A permission as its three flags. -/
def AuthRequired.pack (auth : AuthRequired) : Packing :=
  let encodedAuth := auth.encode
  Packing.new
    |>.appendBool encodedAuth.constant
    |>.appendBool encodedAuth.signatureNecessary
    |>.appendBool encodedAuth.signatureSufficient

/-- The permission to set a verification key, and its version. -/
def SetVerificationKey.pack (permission : SetVerificationKey) : Packing :=
  Packing.new
    |>.appendPackedinput permission.auth.pack
    |>.appendU32 permission.txnVersion

/-- Only the hash of a verification key is packed. -/
def VerificationKeyData.pack (verificationKey : VerificationKeyData) :
    Packing :=
  Packing.new.appendField verificationKey.hash

/-- What stands in place of a missing verification key hash. -/
def VerificationKeyData.emptyRoi : Packing :=
  Field.emptyRoi

/-- The magnitude, and whether the sign is positive. -/
def BalanceChange.pack (balanceChange : BalanceChange) : Packing :=
  let sgn := decide (balanceChange.sgn = 1)
  (Packing.new.appendU64 balanceChange.magnitude).appendBool sgn

/-- The two flags of the use of a token. -/
def MayUseToken.pack (mayUseToken : MayUseToken) : Packing :=
  Packing.new
    |>.appendBool mayUseToken.parentsOwnToken
    |>.appendBool mayUseToken.inheritFromParent

/-- The two flags of an authorization and the hash of its key. -/
def AuthorizationKind.pack (kind : AuthorizationKind) : Packing :=
  Packing.new
    |>.appendBool kind.isSigned
    |>.appendBool kind.isProved
    |>.appendField kind.verificationKeyHash

/-- `to_bytes` into a buffer of six zero bytes, `none` where a longer symbol
makes the slice panic. -/
def TokenSymbol.toBytes (symbol : TokenSymbol) : Option (List UInt8) :=
  if symbol.bytes.isEmpty then some (List.replicate 6 0)
  else if symbol.bytes.length ≤ 6 then
    some (symbol.bytes.take 6 ++ List.replicate (6 - symbol.bytes.length) 0)
  else none

/-- The six bytes of a symbol as one item. -/
def TokenSymbol.pack (symbol : TokenSymbol) : Packing :=
  symbol.toBytes.bind fun bytes => Packing.new.appendBytes bytes

/-- The empty symbol in place of a missing one. -/
def TokenSymbol.emptyRoi : Packing :=
  Packing.new.appendPackedinput (TokenSymbol.pack ⟨[]⟩)

/-- The permissions in the order in which they are hashed. -/
def Permissions.pack (permissions : Permissions) : Packing :=
  Packing.new
    |>.appendPackedinput permissions.editState.pack
    |>.appendPackedinput permissions.access.pack
    |>.appendPackedinput permissions.send.pack
    |>.appendPackedinput permissions.receive.pack
    |>.appendPackedinput permissions.setDelegate.pack
    |>.appendPackedinput permissions.setPermissions.pack
    |>.appendPackedinput permissions.setVerificationKey.pack
    |>.appendPackedinput permissions.setZkappUri.pack
    |>.appendPackedinput permissions.editActionState.pack
    |>.appendPackedinput permissions.setTokenSymbol.pack
    |>.appendPackedinput permissions.incrementNonce.pack
    |>.appendPackedinput permissions.setVotingFor.pack
    |>.appendPackedinput permissions.setTiming.pack

/-- No requirement in place of missing permissions. -/
def Permissions.emptyRoi (build : Build) : Packing :=
  Permissions.pack
    { editState := .none
      send := .none
      receive := .none
      access := .none
      setDelegate := .none
      setPermissions := .none
      setVerificationKey :=
        { auth := .none, txnVersion := build.txnVersionCurrent }
      setZkappUri := .none
      editActionState := .none
      setTokenSymbol := .none
      incrementNonce := .none
      setVotingFor := .none
      setTiming := .none }

end Basic

section Hashed

variable (hasher : Hasher)

/-- The fold from the last event to the first one. -/
def hashEventList
    (emptyParam param : String)
    (data : List (List Fp)) : Option Fp :=
  (hashNoinput hasher emptyParam).toOption.bind fun init =>
    data.foldr
      (fun event acc => acc.bind fun acc =>
        (hashWithPrefix hasher zkAppEventPrefix event).toOption.bind
          fun eventHash =>
            (hashWithPrefix hasher param [acc, eventHash]).toOption)
      (some init)

/-- The hash of the events. -/
def Events.pack (events : Events) : Packing :=
  (hashEventList hasher zkAppEventsEmpty zkAppEventsPrefix events.data).bind
    fun out => Packing.new.appendField out

/-- The hash of the actions. -/
def Actions.pack (actions : Actions) : Packing :=
  (hashEventList hasher zkAppActionsEmpty zkAppActionsPrefix actions.data).bind
    fun out => Packing.new.appendField out

/-- The bits of the URI bytes, least significant first, and a final one. -/
def ZkappUri.bits (uri : ZkappUri) : List Bool :=
  bitsOfBytes uri.bytes ++ [true]

/-- The hash of the bits of a URI. -/
def ZkappUri.hash (uri : ZkappUri) : Option Fp :=
  (PackedInput.packToFields
      { bits := uri.bits.map BitData.bool, fields := [] }).bind fun packed =>
    (hashWithPrefix hasher minaZkappUri packed.fields).toOption

/-- A URI as its hash. -/
def ZkappUri.pack (uri : ZkappUri) : Packing :=
  (uri.hash hasher).bind fun hash => Packing.new.appendField hash

/-- The hash of two zeros in place of a missing URI. -/
def ZkappUri.emptyRoi : Packing :=
  (hashWithPrefix hasher minaZkappUri
      ((ROInput.new.appendField 0).appendField 0).toFields).toOption.bind fun hash =>
    Packing.new.appendField hash

/-- The hash of an empty action state in place of a missing one. -/
def ActionState.emptyRoi : Packing :=
  (hashNoinput hasher zkActionStateEmpty).toOption.bind fun field =>
    Packing.new.appendField field

end Hashed

section Composite

variable {build : Build} (hasher : Hasher)

/-- The changes of an account, each optional. -/
def Update.pack (update : Update build) : Packing :=
  Packing.new
    |>.appendPackedinput (Packing.ofList
      (Packing.ofOption Field.pack Field.emptyRoi) update.appState.toList)
    |>.appendPackedinput (Packing.ofOption
      PublicKey.pack PublicKey.emptyRoi update.delegate)
    |>.appendPackedinput (Packing.ofOption VerificationKeyData.pack
      VerificationKeyData.emptyRoi update.verificationKey)
    |>.appendPackedinput (Packing.ofOption
      Permissions.pack (Permissions.emptyRoi build) update.permissions)
    |>.appendPackedinput (Packing.ofOption
      (ZkappUri.pack hasher) (ZkappUri.emptyRoi hasher) update.zkappUri)
    |>.appendPackedinput (Packing.ofOption
      TokenSymbol.pack TokenSymbol.emptyRoi update.tokenSymbol)
    |>.appendPackedinput (Packing.ofOption
      TimingData.pack TimingData.emptyRoi update.timing)
    |>.appendPackedinput (Packing.ofOption
      Field.pack Field.emptyRoi update.votingFor)

/-- The conditions on the ledger of an epoch. -/
def EpochLedger.pack (ledger : EpochLedger) : Packing :=
  Packing.new
    |>.appendPackedinput (Packing.ofOption
      Field.pack Field.emptyRoi ledger.hash)
    |>.appendPackedinput (Packing.ofOption RangeCondition.packU64
      RangeCondition.emptyRoiU64 ledger.totalCurrency)

/-- The conditions on an epoch. -/
def EpochData.pack (epochData : EpochData) : Packing :=
  Packing.new
    |>.appendPackedinput epochData.ledger.pack
    |>.appendPackedinput (Packing.ofOption
      Field.pack Field.emptyRoi epochData.seed)
    |>.appendPackedinput (Packing.ofOption
      Field.pack Field.emptyRoi epochData.startCheckpoint)
    |>.appendPackedinput (Packing.ofOption
      Field.pack Field.emptyRoi epochData.lockCheckpoint)
    |>.appendPackedinput (Packing.ofOption RangeCondition.packU32
      RangeCondition.emptyRoiU32 epochData.epochLength)

/-- The conditions on the network. -/
def NetworkPreconditions.pack (network : NetworkPreconditions) : Packing :=
  Packing.new
    |>.appendPackedinput (Packing.ofOption
      Field.pack Field.emptyRoi network.snarkedLedgerHash)
    |>.appendPackedinput (Packing.ofOption RangeCondition.packU32
      RangeCondition.emptyRoiU32 network.blockchainLength)
    |>.appendPackedinput (Packing.ofOption RangeCondition.packU32
      RangeCondition.emptyRoiU32 network.minWindowDensity)
    |>.appendPackedinput (Packing.ofOption RangeCondition.packU64
      RangeCondition.emptyRoiU64 network.totalCurrency)
    |>.appendPackedinput (Packing.ofOption RangeCondition.packU32
      RangeCondition.emptyRoiU32 network.globalSlotSinceGenesis)
    |>.appendPackedinput network.stakingEpochData.pack
    |>.appendPackedinput network.nextEpochData.pack

/-- The conditions on the account. -/
def AccountPreconditions.pack (account : AccountPreconditions build) :
    Packing :=
  Packing.new
    |>.appendPackedinput (Packing.ofOption RangeCondition.packU64
      RangeCondition.emptyRoiU64 account.balance)
    |>.appendPackedinput (Packing.ofOption RangeCondition.packU32
      RangeCondition.emptyRoiU32 account.nonce)
    |>.appendPackedinput (Packing.ofOption
      Field.pack Field.emptyRoi account.receiptChainHash)
    |>.appendPackedinput (Packing.ofOption
      PublicKey.pack PublicKey.emptyRoi account.delegate)
    |>.appendPackedinput (Packing.ofList
      (Packing.ofOption Field.pack Field.emptyRoi) account.state.toList)
    |>.appendPackedinput (Packing.ofOption
      ActionState.pack (ActionState.emptyRoi hasher) account.actionState)
    |>.appendPackedinput (packOptionBool account.provedState)
    |>.appendPackedinput (packOptionBool account.isNew)

/-- The conditions on the network, the account and the slot. -/
def Preconditions.pack (preconditions : Preconditions build) : Packing :=
  Packing.new
    |>.appendPackedinput preconditions.network.pack
    |>.appendPackedinput (preconditions.account.pack hasher)
    |>.appendPackedinput (Packing.ofOption RangeCondition.packU32
      RangeCondition.emptyRoiU32 preconditions.validWhile)

/-- The body of an account update in the order in which it is hashed; the call
depth is left out. -/
def AccountUpdateBody.pack (body : AccountUpdateBody build) : Packing :=
  Packing.new
    |>.appendPackedinput (PublicKey.pack body.publicKey)
    |>.appendField body.tokenId.field
    |>.appendPackedinput (body.update.pack hasher)
    |>.appendPackedinput body.balanceChange.pack
    |>.appendBool body.incrementNonce
    |>.appendPackedinput (body.events.pack hasher)
    |>.appendPackedinput (body.actions.pack hasher)
    |>.appendField body.callData
    |>.appendPackedinput (body.preconditions.pack hasher)
    |>.appendBool body.useFullCommitment
    |>.appendBool body.implicitAccountCreationFee
    |>.appendPackedinput body.mayUseToken.pack
    |>.appendPackedinput body.authorizationKind.pack

/-- Only the body of an account update is packed. -/
def AccountUpdate.pack (accountUpdate : AccountUpdate build) : Packing :=
  accountUpdate.body.pack hasher

end Composite

end Tx
end MinaMultiSig
