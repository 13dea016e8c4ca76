import MinaMultiSig.Tx.Legacy

/-!
# zkApp commands

The records of `mina-tx/src/transactions/zkapp_tx.rs` with their defaults. A
build of the crate is for one of two transaction formats; they differ in the
length of the application state and in the version of the permission to set
verification keys.
-/

namespace MinaMultiSig
namespace Tx

/-- Whether the crate is built with the feature `mesa-hardfork`. -/
inductive Build
  | preMesa
  | mesa
  deriving DecidableEq

/-- `TXN_VERSION_CURRENT`. -/
def Build.txnVersionCurrent : Build → UInt32
  | preMesa => 3
  | mesa => 4

/-- `APP_STATE_LENGTH`. -/
def Build.appStateLength : Build → Nat
  | preMesa => 8
  | mesa => 32

/-- The verification key hash of an update that is not proved. -/
def dummyHash : Fp :=
  3392518251768960475377392625298437850623664973002200885669375116181514017494

/-- A public key is compressed. -/
abbrev PublicKey : Type :=
  CompressedPubKey

/-- The identifier of a token. -/
@[ext]
structure TokenId where
  field : Fp
  deriving DecidableEq

/-- The state of the actions of an account. -/
@[ext]
structure ActionState where
  field : Fp
  deriving DecidableEq

/-- Which authorization an action needs. -/
inductive AuthRequired
  | none
  | either
  | proof
  | signature
  | impossible
  | both
  deriving DecidableEq

/-- The flags by which a needed authorization is hashed. -/
@[ext]
structure AuthRequiredEncoded where
  constant : Bool
  signatureNecessary : Bool
  signatureSufficient : Bool
  deriving DecidableEq

/-- The flags of each of them. -/
def AuthRequired.encode : AuthRequired → AuthRequiredEncoded
  | none => ⟨true, false, true⟩
  | either => ⟨false, false, true⟩
  | proof => ⟨false, false, false⟩
  | signature => ⟨false, true, true⟩
  | impossible => ⟨true, true, false⟩
  | both => ⟨false, true, false⟩

/-- The bytes of a token symbol. -/
@[ext]
structure TokenSymbol where
  bytes : List UInt8
  deriving DecidableEq

/-- The bytes of a zkApp URI. -/
@[ext]
structure ZkappUri where
  bytes : List UInt8
  deriving DecidableEq

/-- A value between two bounds. -/
@[ext]
structure RangeCondition (α : Type) where
  lower : α
  upper : α
  deriving DecidableEq

/-- A verification key in base64 with its hash. -/
@[ext]
structure VerificationKeyData where
  data : String
  hash : Fp
  deriving DecidableEq

/-- How the balance of an account is vested. -/
@[ext]
structure TimingData where
  initialMinimumBalance : UInt64
  cliffTime : UInt32
  cliffAmount : UInt64
  vestingPeriod : UInt32
  vestingIncrement : UInt64
  deriving DecidableEq

/-- The permission to set the verification key, for a version of the
transactions. -/
@[ext]
structure SetVerificationKey where
  auth : AuthRequired
  txnVersion : UInt32
  deriving DecidableEq

/-- Which authorization each change of an account needs. -/
@[ext]
structure Permissions where
  editState : AuthRequired
  access : AuthRequired
  send : AuthRequired
  receive : AuthRequired
  setDelegate : AuthRequired
  setPermissions : AuthRequired
  setVerificationKey : SetVerificationKey
  setZkappUri : AuthRequired
  editActionState : AuthRequired
  setTokenSymbol : AuthRequired
  incrementNonce : AuthRequired
  setVotingFor : AuthRequired
  setTiming : AuthRequired
  deriving DecidableEq

/-- The changes of an account; what is absent is kept. -/
@[ext]
structure Update (build : Build) where
  appState : Vector (Option Fp) build.appStateLength
  delegate : Option PublicKey
  verificationKey : Option VerificationKeyData
  permissions : Option Permissions
  zkappUri : Option ZkappUri
  tokenSymbol : Option TokenSymbol
  timing : Option TimingData
  votingFor : Option Fp
  deriving DecidableEq

/-- A signed magnitude: `sgn` is `1` or `-1` when it comes from JSON. -/
@[ext]
structure BalanceChange where
  magnitude : UInt64
  sgn : Int8
  deriving DecidableEq

/-- The events of an update, each a list of field elements. -/
@[ext]
structure Events where
  data : List (List Fp)
  deriving DecidableEq

/-- The actions of an update, each a list of field elements. -/
@[ext]
structure Actions where
  data : List (List Fp)
  deriving DecidableEq

/-- Conditions on the ledger of an epoch. -/
@[ext]
structure EpochLedger where
  hash : Option Fp
  totalCurrency : Option (RangeCondition UInt64)
  deriving DecidableEq

/-- Conditions on an epoch. -/
@[ext]
structure EpochData where
  ledger : EpochLedger
  seed : Option Fp
  startCheckpoint : Option Fp
  lockCheckpoint : Option Fp
  epochLength : Option (RangeCondition UInt32)
  deriving DecidableEq

/-- Conditions on the state of the network. -/
@[ext]
structure NetworkPreconditions where
  snarkedLedgerHash : Option Fp
  blockchainLength : Option (RangeCondition UInt32)
  minWindowDensity : Option (RangeCondition UInt32)
  totalCurrency : Option (RangeCondition UInt64)
  globalSlotSinceGenesis : Option (RangeCondition UInt32)
  stakingEpochData : EpochData
  nextEpochData : EpochData
  deriving DecidableEq

/-- Conditions on the state of the account. -/
@[ext]
structure AccountPreconditions (build : Build) where
  balance : Option (RangeCondition UInt64)
  nonce : Option (RangeCondition UInt32)
  receiptChainHash : Option Fp
  delegate : Option PublicKey
  state : Vector (Option Fp) build.appStateLength
  actionState : Option ActionState
  provedState : Option Bool
  isNew : Option Bool
  deriving DecidableEq

/-- All conditions under which an update is applied. -/
@[ext]
structure Preconditions (build : Build) where
  network : NetworkPreconditions
  account : AccountPreconditions build
  validWhile : Option (RangeCondition UInt32)
  deriving DecidableEq

/-- Whether an update may use the token of its parent. -/
@[ext]
structure MayUseToken where
  parentsOwnToken : Bool
  inheritFromParent : Bool
  deriving DecidableEq

/-- How an update is authorized, and by which verification key. -/
@[ext]
structure AuthorizationKind where
  isSigned : Bool
  isProved : Bool
  verificationKeyHash : Fp
  deriving DecidableEq

/-- What an account update does. -/
@[ext]
structure AccountUpdateBody (build : Build) where
  publicKey : PublicKey
  tokenId : TokenId
  update : Update build
  balanceChange : BalanceChange
  incrementNonce : Bool
  events : Events
  actions : Actions
  callData : Fp
  callDepth : UInt32
  preconditions : Preconditions build
  useFullCommitment : Bool
  implicitAccountCreationFee : Bool
  mayUseToken : MayUseToken
  authorizationKind : AuthorizationKind
  deriving DecidableEq

/-- A proof or a signature, if there is one. -/
@[ext]
structure Authorization where
  proof : Option String
  signature : Option String
  deriving DecidableEq

/-- An account update with its authorization. -/
@[ext]
structure AccountUpdate (build : Build) where
  body : AccountUpdateBody build
  authorization : Authorization
  deriving DecidableEq

/-- Who pays which fee. -/
@[ext]
structure FeePayerBody where
  publicKey : PublicKey
  fee : UInt64
  validUntil : Option UInt32
  nonce : UInt32
  deriving DecidableEq

/-- The fee payer with its signature. -/
@[ext]
structure FeePayer where
  body : FeePayerBody
  authorization : String
  deriving DecidableEq

/-- The final transaction structure. The fee payer may be signed by the same key
as the account updates or by another one. -/
@[ext]
structure ZKAppCommand (build : Build) where
  feePayer : FeePayer
  accountUpdates : List (AccountUpdate build)
  memo : Vector UInt8 memoBytes
  deriving DecidableEq

section Defaults

variable (build : Build)

/-- No change. -/
def BalanceChange.default : BalanceChange :=
  { magnitude := 0, sgn := 1 }

/-- An authorization by signature. -/
def AuthorizationKind.default : AuthorizationKind :=
  { isSigned := true, isProved := false, verificationKeyHash := dummyHash }

/-- Everything is kept. -/
def Update.default : Update build :=
  { appState := Vector.replicate _ none
    delegate := none
    verificationKey := none
    permissions := none
    zkappUri := none
    tokenSymbol := none
    timing := none
    votingFor := none }

/-- No condition on an epoch. -/
def EpochData.default : EpochData :=
  { ledger := { hash := none, totalCurrency := none }
    seed := none
    startCheckpoint := none
    lockCheckpoint := none
    epochLength := none }

/-- No condition on the network. -/
def NetworkPreconditions.default : NetworkPreconditions :=
  { snarkedLedgerHash := none
    blockchainLength := none
    minWindowDensity := none
    totalCurrency := none
    globalSlotSinceGenesis := none
    stakingEpochData := .default
    nextEpochData := .default }

/-- No condition on the account. -/
def AccountPreconditions.default : AccountPreconditions build :=
  { balance := none
    nonce := none
    receiptChainHash := none
    delegate := none
    state := Vector.replicate _ none
    actionState := none
    provedState := none
    isNew := none }

/-- No condition. -/
def Preconditions.default : Preconditions build :=
  { network := .default
    account := .default build
    validWhile := none }

/-- An update of the empty key that changes nothing. -/
def AccountUpdateBody.default : AccountUpdateBody build :=
  { publicKey := .empty
    tokenId := ⟨1⟩
    update := .default build
    balanceChange := .default
    incrementNonce := false
    events := ⟨[]⟩
    actions := ⟨[]⟩
    callData := 0
    callDepth := 0
    preconditions := .default build
    useFullCommitment := false
    implicitAccountCreationFee := false
    mayUseToken := { parentsOwnToken := false, inheritFromParent := false }
    authorizationKind := .default }

end Defaults

end Tx
end MinaMultiSig
