import MinaMultiSig.Dkg.Session
import MinaMultiSig.Library.Outcome

/-!
# The coordinator's session state machine

`CoordinatorSessionState` of `mina-frost-client/src/session.rs` with its receive
handlers, its completion tests and its accessors. A handler returns the state it
leaves behind next to its result. What `serde_json` makes of a payload is a
parameter.
-/

namespace MinaMultiSig
namespace Coordinator

variable {PublicKey Identifier Commitments Share Payload α : Type}

/-- How payloads are read in the two phases. -/
structure CoordinatorWire (Payload Commitments Share : Type) where
  fromSliceCommitments : Payload → Option (List Commitments)
  fromSliceShares : Payload → Option (List Share)

/-- How many messages are signed, and by how many signers. -/
structure CoordinatorSessionStateArgs where
  numMessages : Nat
  numSigners : Nat
  deriving DecidableEq

/-- The current state of a signing session. -/
inductive CoordinatorSessionState
    (PublicKey Identifier Commitments Share : Type)
  | waitingForCommitments
      (args : CoordinatorSessionStateArgs)
      (commitments : FiniteMap Identifier (List Commitments))
      (pubkeys : FiniteMap PublicKey Identifier)
  | waitingForSignatureShares
      (args : CoordinatorSessionStateArgs)
      (commitments : FiniteMap Identifier (List Commitments))
      (pubkeys : FiniteMap PublicKey Identifier)
      (signatureShares : FiniteMap Identifier (List Share))
  | signatureSharesReady
      (args : CoordinatorSessionStateArgs)
      (signatureShares : FiniteMap Identifier (List Share))

namespace CoordinatorSessionState

/-- A session for a number of messages and signers. -/
def new
    (numMessages numSigners : Nat)
    (pubkeys : FiniteMap PublicKey Identifier) :
    CoordinatorSessionState PublicKey Identifier Commitments Share :=
  .waitingForCommitments
    { numMessages := numMessages, numSigners := numSigners } ∅ pubkeys

variable [DecidableEq PublicKey] [DecidableEq Identifier]

/-- The state after commitments were stored: advance once the map has as many
entries as there are signers. -/
def advanceCommitments
    (args : CoordinatorSessionStateArgs)
    (commitments : FiniteMap Identifier (List Commitments))
    (pubkeys : FiniteMap PublicKey Identifier) :
    CoordinatorSessionState PublicKey Identifier Commitments Share :=
  if commitments.keys.card = args.numSigners then
    .waitingForSignatureShares args commitments pubkeys ∅
  else .waitingForCommitments args commitments pubkeys

/-- Handle commitments. Earlier ones of the same sender are overwritten. -/
def handleCommitments
    (args : CoordinatorSessionStateArgs)
    (commitmentsMap : FiniteMap Identifier (List Commitments))
    (pubkeys : FiniteMap PublicKey Identifier)
    (pubkey : PublicKey)
    (commitments : List Commitments) :
    CoordinatorSessionState PublicKey Identifier Commitments Share ×
      Except SessionError Unit :=
  let unchanged :
      CoordinatorSessionState PublicKey Identifier Commitments Share :=
    .waitingForCommitments args commitmentsMap pubkeys
  if commitments.length ≠ args.numMessages then
    (unchanged, .error (.report "wrong number of commitments"))
  else
    match pubkeys.lookup pubkey with
    | none => (unchanged, .error (.report "unknown participant"))
    | some identifier =>
        (advanceCommitments args (commitmentsMap.insert identifier commitments)
          pubkeys, .ok ())

/-- The state after signature shares were stored: advance once there are shares
of all signers with commitments. -/
def advanceShares
    (args : CoordinatorSessionStateArgs)
    (commitments : FiniteMap Identifier (List Commitments))
    (pubkeys : FiniteMap PublicKey Identifier)
    (signatureShares : FiniteMap Identifier (List Share)) :
    CoordinatorSessionState PublicKey Identifier Commitments Share :=
  if signatureShares.keys = commitments.keys then
    .signatureSharesReady args signatureShares
  else .waitingForSignatureShares args commitments pubkeys signatureShares

/-- Handle signature shares. -/
def handleSignatureShare
    (args : CoordinatorSessionStateArgs)
    (commitments : FiniteMap Identifier (List Commitments))
    (pubkeys : FiniteMap PublicKey Identifier)
    (signatureSharesMap : FiniteMap Identifier (List Share))
    (pubkey : PublicKey)
    (signatureShares : List Share) :
    CoordinatorSessionState PublicKey Identifier Commitments Share ×
      Except SessionError Unit :=
  let unchanged :
      CoordinatorSessionState PublicKey Identifier Commitments Share :=
    .waitingForSignatureShares args commitments pubkeys signatureSharesMap
  if signatureShares.length ≠ args.numMessages then
    (unchanged, .error (.report "wrong number of signature shares"))
  else
    match pubkeys.lookup pubkey with
    | none => (unchanged, .error (.report "unknown participant"))
    | some identifier =>
        if identifier ∉ commitments.keys then
          (unchanged, .error (.report "invalid identifier"))
        else
          (advanceShares args commitments pubkeys
            (signatureSharesMap.insert identifier signatureShares), .ok ())

/-- Handle a message received from a participant. -/
def recv
    (wire : CoordinatorWire Payload Commitments Share)
    (state : CoordinatorSessionState PublicKey Identifier Commitments Share)
    (msg : Msg PublicKey Payload) :
    CoordinatorSessionState PublicKey Identifier Commitments Share ×
      Except SessionError Unit :=
  match state with
  | .waitingForCommitments args commitments pubkeys =>
      match wire.fromSliceCommitments msg.msg with
      | none => (state, .error .serdeJson)
      | some sendCommitmentsArgs =>
          handleCommitments args commitments pubkeys msg.sender
            sendCommitmentsArgs
  | .waitingForSignatureShares args commitments pubkeys signatureShares =>
      match wire.fromSliceShares msg.msg with
      | none => (state, .error .serdeJson)
      | some sendSignatureSharesArgs =>
          handleSignatureShare args commitments pubkeys signatureShares
            msg.sender sendSignatureSharesArgs
  | .signatureSharesReady _ _ =>
      (state, .error (.report "received message during wrong state"))

/-- All commitments have arrived. -/
def hasCommitments :
    CoordinatorSessionState PublicKey Identifier Commitments Share → Bool
  | .waitingForSignatureShares _ _ _ _ => true
  | _ => false

/-- All signature shares have arrived. -/
def hasSignatureShares :
    CoordinatorSessionState PublicKey Identifier Commitments Share → Bool
  | .signatureSharesReady _ _ => true
  | _ => false

/-- The map for one message; an index out of range panics. -/
def columnAt
    (map : FiniteMap Identifier (List α))
    (index : Nat) : Outcome SessionError (FiniteMap Identifier α) :=
  if ∀ entry ∈ map.entries, index < entry.2.length then
    .ok (FiniteMap.filterMap (fun values => values[index]?) map)
  else .error .panic

/-- One map for each message instead of one list for each signer. -/
def columns
    (numMessages : Nat)
    (map : FiniteMap Identifier (List α)) :
    Outcome SessionError (List (FiniteMap Identifier α)) :=
  (List.range numMessages).mapM (columnAt map)

/-- The commitments for each message, and the identifiers of the keys; panics in
another state. -/
def commitments :
    CoordinatorSessionState PublicKey Identifier Commitments Share →
      Outcome SessionError
        (List (FiniteMap Identifier Commitments) ×
          FiniteMap PublicKey Identifier)
  | .waitingForSignatureShares args commitments pubkeys _ => do
      let commitments ← columns args.numMessages commitments
      return (commitments, pubkeys)
  | _ => .error .panic

/-- The signature shares for each message; panics in another state. -/
def signatureShares :
    CoordinatorSessionState PublicKey Identifier Commitments Share →
      Outcome SessionError (List (FiniteMap Identifier Share))
  | .signatureSharesReady args signatureShares =>
      columns args.numMessages signatureShares
  | _ => .error .panic

end CoordinatorSessionState

end Coordinator
end MinaMultiSig
