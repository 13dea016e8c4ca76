import MinaMultiSig.Library.DepthForest
import MinaMultiSig.Tx.ZkApp.Packing

/-!
# The commitment of a zkApp command

`mina-tx/src/transactions/zkapp_tx/commit.rs`: the call depths are checked, the
account updates become a forest of calls, and the forest, the memo and the fee
payer are hashed into the full commitment.
-/

namespace MinaMultiSig
namespace Tx

/-- The hash of a forest without trees. -/
def emptyStackHash : Fp :=
  0

section Depths

variable {build : Build}

/-- The loop of `is_call_depth_valid`: a depth is at most one above the depth
before it. -/
def callDepthsFollow (current : UInt32) : List UInt32 → Bool
  | [] => true
  | callDepth :: rest =>
      if callDepth.toNat ≤ current.toNat + 1 then
        callDepthsFollow callDepth rest
      else false

/-- The first call depth is zero, and each following depth is at most one above
the depth before it. -/
def isCallDepthValid (zkappCommand : ZKAppCommand build) : Bool :=
  let callDepths := zkappCommand.accountUpdates.map (·.body.callDepth)
  let current := callDepths.head?.getD 0
  if current ≠ 0 then false else callDepthsFollow current callDepths.tail

/-- Account updates with the updates they call. -/
abbrev CallForest (build : Build) : Type :=
  DepthForest (AccountUpdate build)

/-- The forest of the updates at a call depth, and the updates left when an
update of a smaller depth comes. -/
def CallForest.accountUpdatesToCallForestStep
    (fuel : Nat)
    (updates : List (AccountUpdate build))
    (callDepth : Nat) : CallForest build × List (AccountUpdate build) :=
  DepthForest.parse (fun update => update.body.callDepth.toNat) fuel updates
    callDepth

/-- Every step takes an update, so their number is enough fuel. -/
def CallForest.ofUpdates (updates : List (AccountUpdate build)) :
    CallForest build :=
  (accountUpdatesToCallForestStep updates.length updates 0).1

end Depths

/-- Only one of the flags may be set, and an update that is not proved has the
dummy verification key hash. -/
def assertAccountUpdateAuthorizationKind
    {build : Build}
    (accountUpdate : AccountUpdate build) : Except MinaTxError Unit :=
  let authorizationKind := accountUpdate.body.authorizationKind
  let isSigned := authorizationKind.isSigned
  let isProved := authorizationKind.isProved
  let verificationKeyHash := authorizationKind.verificationKeyHash
  if isProved && isSigned then
    .error (.invalidZkAppCommand
      ("Invalid authorization kind: Only one of `isProved` and `isSigned` " ++
        "may be true."))
  else if !isProved && verificationKeyHash ≠ dummyHash then
    .error (.invalidZkAppCommand
      ("Invalid authorization kind: If `isProved` is false, verification " ++
        "key hash must be " ++ toString dummyHash.val ++ ", got " ++
          toString verificationKeyHash.val))
  else .ok ()

/-- The account update that pays the fee. -/
def AccountUpdate.ofFeePayer
    (build : Build)
    (feePayer : FeePayer) : AccountUpdate build :=
  let validUntil := feePayer.body.validUntil.getD 4294967295
  let body := AccountUpdateBody.default build
  { body :=
      { body with
        publicKey := feePayer.body.publicKey
        balanceChange := { magnitude := feePayer.body.fee, sgn := -1 }
        incrementNonce := true
        preconditions :=
          { body.preconditions with
            network :=
              { body.preconditions.network with
                globalSlotSinceGenesis :=
                  some { lower := 0, upper := validUntil } }
            account :=
              { body.preconditions.account with
                nonce := some
                  { lower := feePayer.body.nonce
                    upper := feePayer.body.nonce } } }
        useFullCommitment := true
        implicitAccountCreationFee := true
        authorizationKind :=
          { isProved := false
            isSigned := true
            verificationKeyHash := dummyHash } }
    authorization :=
      { proof := none, signature := some feePayer.authorization } }

/-- `pack_bool_to_field_legacy`: 254 bits at a time. -/
def packBoolToFieldLegacy (bits : List Bool) : List Fp :=
  (bits.foldl ROInput.appendBool ROInput.new).toFields

section Hashing

variable {build : Build} (hasher : Hasher)

/-- Check the kind of authorization, pack the account update and hash it with
the prefix of the network. -/
def hashAccountUpdate
    (accountUpdate : AccountUpdate build)
    (network : NetworkId) : MinaTxResult Fp := do
  Outcome.ofExcept (assertAccountUpdateAuthorizationKind accountUpdate)
  let roi ← Outcome.ofOption (accountUpdate.pack hasher)
  let inputs ← Outcome.ofOption roi.packToFields
  Outcome.ofExcept (hashWithPrefix hasher network.bodyPrefix inputs.fields)

/-- The hash of the account update that pays the fee. -/
def hashFeePayer
    (build : Build)
    (fee : FeePayer)
    (network : NetworkId) : MinaTxResult Fp :=
  hashAccountUpdate hasher (AccountUpdate.ofFeePayer build fee) network

/-- The hash of the bits of the memo. -/
def memoHash (tx : ZKAppCommand build) : MinaTxResult Fp :=
  Outcome.ofExcept (hashWithPrefix hasher zkAppMemo
    (packBoolToFieldLegacy (bitsOfBytes tx.memo.toList)))

/-- The trees are hashed from the last to the first. -/
def callForestHash (network : NetworkId) : CallForest build → MinaTxResult Fp
  | .nil => .ok emptyStackHash
  | .cons accountUpdate children siblings => do
      let stackHash ← callForestHash network siblings
      let calls ← callForestHash network children
      let treeHash ← hashAccountUpdate hasher accountUpdate network
      let nodeHash ← Outcome.ofExcept
        (hashWithPrefix hasher prefixAccountUpdateNode [treeHash, calls])
      Outcome.ofExcept
        (hashWithPrefix hasher prefixAccountUpdateCons [nodeHash, stackHash])

/-- The account updates commitment and the full commitment, which covers the
memo and the fee payer too. -/
def zkCommit
    (tx : ZKAppCommand build)
    (network : NetworkId) : MinaTxResult (Fp × Fp) := do
  if !isCallDepthValid tx then
    throw (.error (.invalidZkAppCommand "Call depths are not valid"))
  let forest := CallForest.ofUpdates tx.accountUpdates
  let accountUpdatesCommitment ← callForestHash hasher network forest
  let memoHash ← memoHash hasher tx
  let feePayerHash ← hashFeePayer hasher build tx.feePayer network
  let fullCommit ← Outcome.ofExcept
    (hashWithPrefix hasher prefixAccountUpdateCons
      [memoHash, feePayerHash, accountUpdatesCommitment])
  return (accountUpdatesCommitment, fullCommit)

end Hashing

end Tx
end MinaMultiSig
