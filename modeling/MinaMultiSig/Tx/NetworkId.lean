import MinaMultiSig.Library.FixedWidth
import MinaMultiSig.Tx.Field

/-!
# Network identifiers and the prefixes made from them

`NetworkId` of `mina-tx/src/transactions/network_id.rs` with its domain string,
the body prefixes and the fixed prefixes of `zkapp_tx/constants.rs`, and
`param_to_field` of `zkapp_tx/commit.rs`, which turns a prefix into the field
element that separates hash domains.
-/

namespace MinaMultiSig
namespace Tx

/-- `MAX_PREFIX_LENGTH`. -/
def maxPrefixLength : Nat :=
  20

/-- `PADDING_CHAR`. -/
def paddingChar : Char :=
  '*'

/-- The network a transaction is for. -/
inductive NetworkId
  | testnet
  | mainnet
  | custom (name : String)
  deriving DecidableEq

namespace NetworkId

/-- Pad a prefix with `*` to 20 bytes, or cut it to its first 20 characters. -/
def createCustomPrefix (text : String) : String :=
  if text.utf8ByteSize ≤ maxPrefixLength then
    text ++ String.ofList
      (List.replicate (maxPrefixLength - text.utf8ByteSize) paddingChar)
  else String.ofList (text.toList.take maxPrefixLength)

/-- The domain string used for signing. -/
def intoDomainString : NetworkId → String
  | mainnet => "MinaSignatureMainnet"
  | testnet => "CodaSignature"
  | custom name => createCustomPrefix (name ++ "Signature")

end NetworkId

/-- `NetworkIdEnvelope::try_from` on a string. -/
def NetworkId.tryFrom (text : String) : Except String NetworkId :=
  match text with
  | "devnet" => .ok .testnet
  | "testnet" => .ok .testnet
  | "mainnet" => .ok .mainnet
  | name =>
      if name.utf8ByteSize > maxPrefixLength then
        .error ("Custom network ID '" ++ name ++
          "' is too long (max 20 characters)")
      else .ok (.custom name)

/-- The prefix used for hashing the body of an account update. -/
inductive ZkAppBodyPrefix
  | mainnet
  | testnet
  | custom (name : String)
  deriving DecidableEq

/-- The body prefix of each network. -/
def ZkAppBodyPrefix.ofNetworkId : NetworkId → ZkAppBodyPrefix
  | .mainnet => .mainnet
  | .testnet => .testnet
  | .custom name => .custom name

/-- `ZK_APP_BODY_MAINNET`. -/
def zkAppBodyMainnet : String :=
  "MainnetZkappBody****"

/-- `ZK_APP_BODY_TESTNET`. -/
def zkAppBodyTestnet : String :=
  "TestnetZkappBody****"

/-- The text of a body prefix. -/
def ZkAppBodyPrefix.text : ZkAppBodyPrefix → String
  | mainnet => zkAppBodyMainnet
  | testnet => zkAppBodyTestnet
  | custom name => NetworkId.createCustomPrefix (name ++ "ZkappBody")

/-- `PREFIX_ACCOUNT_UPDATE_NODE`. -/
def prefixAccountUpdateNode : String :=
  "MinaAcctUpdateNode**"

/-- `PREFIX_ACCOUNT_UPDATE_CONS`. -/
def prefixAccountUpdateCons : String :=
  "MinaAcctUpdateCons**"

/-- `ZK_APP_MEMO`. -/
def zkAppMemo : String :=
  "MinaZkappMemo"

/-- `ZK_APP_EVENTS_EMPTY`. -/
def zkAppEventsEmpty : String :=
  "MinaZkappEventsEmpty"

/-- `ZK_APP_EVENTS_PREFIX`. -/
def zkAppEventsPrefix : String :=
  "MinaZkappEvents"

/-- `ZK_APP_EVENT_PREFIX`. -/
def zkAppEventPrefix : String :=
  "MinaZkappEvent"

/-- `ZK_APP_ACTIONS_EMPTY`. -/
def zkAppActionsEmpty : String :=
  "MinaZkappActionsEmpty"

/-- `ZK_APP_ACTIONS_PREFIX`. -/
def zkAppActionsPrefix : String :=
  "MinaZkappSeqEvents"

/-- `ZK_ACTION_STATE_EMPTY`. -/
def zkActionStateEmpty : String :=
  "MinaZkappActionStateEmptyElt"

/-- `MINA_ZKAPP_URI`. -/
def minaZkappUri : String :=
  "MinaZkappUri"

/-- The bytes a short parameter is laid over. -/
def defaultParam : List UInt8 :=
  List.replicate 20 42 ++ List.replicate 12 0

/-- The 32 bytes of a parameter. -/
def paramBytes (param : String) : List UInt8 :=
  asBytes param ++ defaultParam.drop (asBytes param).length

/-- The field element that stands for a hash parameter. -/
def paramToField (param : String) : Except MinaTxError Fp :=
  if (asBytes param).length > defaultParam.length then
    .error (.invalidZkAppCommand "must be 32 byte maximum")
  else
    match Fp.fromRandomBytes (paramBytes param) with
    | none =>
        .error (.invalidZkAppCommand "Failed to convert parameter to field")
    | some field => .ok field

/-- A domain string as the signer hashes it: padded with `*` to 20 bytes. -/
def domainParameter (network : NetworkId) : String :=
  network.intoDomainString ++ String.ofList
    (List.replicate
      (maxPrefixLength - network.intoDomainString.utf8ByteSize) paddingChar)

/-- The text of the body prefix of a network. -/
def NetworkId.bodyPrefix (network : NetworkId) : String :=
  (ZkAppBodyPrefix.ofNetworkId network).text

end Tx
end MinaMultiSig
