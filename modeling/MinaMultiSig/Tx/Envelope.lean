import MinaMultiSig.Tx.PallasMessage
import MinaMultiSig.Tx.ZkApp.Commitment
import MinaMultiSig.Tx.ZkApp.SignatureInjection

/-!
# Transaction envelopes

`mina-tx/src/transactions.rs`: a transaction of either kind with its network,
the message that is signed for it (`bluepallas_compat.rs`), and a transaction
with its signature (`signatures.rs`).
-/

namespace MinaMultiSig
namespace Tx

variable {build : Build}

/-- A zkApp command or a legacy transaction. -/
inductive TransactionKind (build : Build)
  | zkApp (command : ZKAppCommand build)
  | legacy (transaction : LegacyTransaction)
  deriving DecidableEq

/-- Whether the transaction is a legacy one. -/
def TransactionKind.isLegacy : TransactionKind build → Bool
  | zkApp _ => false
  | legacy _ => true

/-- A transaction and its network: all that is needed to sign it. -/
@[ext]
structure TransactionEnvelope (build : Build) where
  networkId : NetworkId
  kind : TransactionKind build
  deriving DecidableEq

namespace TransactionEnvelope

/-- `TransactionEnvelope::new_zkapp`. -/
def newZkapp
    (networkId : NetworkId)
    (command : ZKAppCommand build) : TransactionEnvelope build :=
  { networkId := networkId, kind := .zkApp command }

/-- `TransactionEnvelope::new_legacy`. -/
def newLegacy
    (networkId : NetworkId)
    (transaction : LegacyTransaction) : TransactionEnvelope build :=
  { networkId := networkId, kind := .legacy transaction }

/-- Whether the transaction of the envelope is a legacy one. -/
def isLegacy (envelope : TransactionEnvelope build) : Bool :=
  envelope.kind.isLegacy

variable (hasher : Hasher)

/-- The input that is hashed: of a command its full commitment, and a panic
without one. -/
def toRoinput (envelope : TransactionEnvelope build) : MinaTxResult ROInput :=
  match envelope.kind with
  | .zkApp command => do
      let (_, commit) ← (zkCommit hasher command envelope.networkId).unwrap
      return ROInput.new.appendField commit
  | .legacy transaction => .ok transaction.toRoinput

/-- The message that is signed for a transaction. -/
def toPallasMessage
    (envelope : TransactionEnvelope build) : MinaTxResult PallasMessage := do
  let input ← envelope.toRoinput hasher
  return .fromParts input envelope.networkId envelope.isLegacy

end TransactionEnvelope

/-- A transaction with the signature of a key. -/
structure TransactionSignature (build : Build) (signer : MinaSigner) where
  publicKey : signer.PubKey
  signature : Sig
  payload : TransactionEnvelope build

/-- Sign a transaction; the signature is injected into a zkApp command. -/
def TransactionSignature.newWithZkappInjection
    (signer : MinaSigner)
    (base58 : Base58)
    (publicKey : signer.PubKey)
    (signature : Sig)
    (payload : TransactionEnvelope build) :
    TransactionSignature build signer × Option SignatureInjectionResult :=
  let (payload, injectionResult) :=
    match payload.kind with
    | .zkApp zkapp =>
        let (zkapp, result) :=
          zkapp.injectSignature signer base58 publicKey signature
        ({ payload with kind := .zkApp zkapp }, some result)
    | .legacy _ => (payload, none)
  ({ publicKey := publicKey, signature := signature, payload := payload },
    injectionResult)

end Tx
end MinaMultiSig
