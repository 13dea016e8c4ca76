import MinaMultiSig.Coordinator.Session

/-!
# The coordinator's receive loops

`HTTPComms` of `mina-frost-client/src/coordinator/comms/http.rs`, from the point
where it waits for the participants. The server hands out the messages in
batches, and a loop tests after each batch whether it is done. The Noise library
is a parameter: `readMessage` is the next state of a sender and the payload, if
it could be decrypted.
-/

namespace MinaMultiSig
namespace Coordinator

variable {PublicKey Identifier Commitments Share Noise Payload Plain α : Type}

/-- Errors of the cipher. -/
inductive CipherError
  | snowError
  | unkownSender
  deriving DecidableEq

/-- The Noise states for reading, one for each peer. -/
structure Cipher (PublicKey Noise : Type) where
  recvNoiseMap : FiniteMap PublicKey Noise

/-- Decrypt a message. The state of its sender changes even if that fails. -/
def Cipher.decrypt
    [DecidableEq PublicKey]
    (readMessage : Noise → Payload → Noise × Option Plain)
    (cipher : Cipher PublicKey Noise)
    (msg : Msg PublicKey Payload) :
    Cipher PublicKey Noise × Except CipherError (Msg PublicKey Plain) :=
  match cipher.recvNoiseMap.lookup msg.sender with
  | none => (cipher, .error .unkownSender)
  | some noise =>
      let (noise, decrypted) := readMessage noise msg.msg
      let cipher :=
        { recvNoiseMap := cipher.recvNoiseMap.insert msg.sender noise }
      match decrypted with
      | none => (cipher, .error .snowError)
      | some plain => (cipher, .ok { sender := msg.sender, msg := plain })

/-- What a receive loop works on: the session, the cipher and the senders whose
message was accepted. -/
structure LoopState (PublicKey Identifier Commitments Share Noise : Type) where
  session : CoordinatorSessionState PublicKey Identifier Commitments Share
  cipher : Cipher PublicKey Noise
  senders : Finset PublicKey

section Loop

variable [DecidableEq PublicKey] [DecidableEq Identifier]
  (readMessage : Noise → Payload → Noise × Option Plain)
  (wire : CoordinatorWire Plain Commitments Share)

/-- One turn of the loop over a batch. A sender that was accepted is skipped; a
message that is not decrypted or not accepted is ignored. -/
def LoopState.receiveMsg
    (loop : LoopState PublicKey Identifier Commitments Share Noise)
    (msg : Msg PublicKey Payload) :
    LoopState PublicKey Identifier Commitments Share Noise :=
  if msg.sender ∈ loop.senders then loop
  else
    match loop.cipher.decrypt readMessage msg with
    | (cipher, .error _) => { loop with cipher := cipher }
    | (cipher, .ok decrypted) =>
        match loop.session.recv wire decrypted with
        | (session, .ok ()) =>
            { session := session
              cipher := cipher
              senders := insert msg.sender loop.senders }
        | (session, .error _) =>
            { loop with session := session, cipher := cipher }

/-- Receive batches until the session is done; `none` while it is not. -/
def LoopState.receive
    (done :
      CoordinatorSessionState PublicKey Identifier Commitments Share → Bool)
    (loop : LoopState PublicKey Identifier Commitments Share Noise) :
    List (List (Msg PublicKey Payload)) →
      Option (LoopState PublicKey Identifier Commitments Share Noise)
  | [] => none
  | batch :: batches =>
      let next := batch.foldl (receiveMsg readMessage wire) loop
      if done next.session then some next else receive done next batches

/-- The part of `HTTPComms` that outlasts a loop. -/
structure HTTPComms
    (PublicKey Identifier Commitments Share Noise : Type) where
  state : CoordinatorSessionState PublicKey Identifier Commitments Share
  pubkeys : FiniteMap PublicKey Identifier
  cipher : Option (Cipher PublicKey Noise)

/-- Supports just one message. -/
def HTTPComms.new
    (numSigners : Nat)
    (signers : FiniteMap PublicKey Identifier) :
    HTTPComms PublicKey Identifier Commitments Share Noise where
  state := .new 1 numSigners signers
  pubkeys := ∅
  cipher := none

/-- Receive the commitments of all signers, with the cipher made for them. An
index out of range panics. -/
def HTTPComms.getSigningCommitments
    (comms : HTTPComms PublicKey Identifier Commitments Share Noise)
    (cipher : Cipher PublicKey Noise)
    (batches : List (List (Msg PublicKey Payload))) :
    Option (Outcome SessionError
      (FiniteMap Identifier Commitments ×
        HTTPComms PublicKey Identifier Commitments Share Noise)) :=
  let start := { session := comms.state, cipher := cipher, senders := ∅ }
  (LoopState.receive readMessage wire
      CoordinatorSessionState.hasCommitments start batches).map
    fun loop => do
      let (commitments, pubkeys) ← loop.session.commitments
      let first ← Outcome.ofOption commitments[0]?
      return (first,
        { state := loop.session
          pubkeys := pubkeys
          cipher := some loop.cipher })

/-- Receive the signature shares of all signers, once the signing package is
sent. -/
def HTTPComms.sendSigningPackageAndGetSignatureShares
    (comms : HTTPComms PublicKey Identifier Commitments Share Noise)
    (batches : List (List (Msg PublicKey Payload))) :
    Option (Outcome SessionError
      (FiniteMap Identifier Share ×
        HTTPComms PublicKey Identifier Commitments Share Noise)) :=
  match comms.cipher with
  | none => some (.error .panic)
  | some cipher =>
      let start := { session := comms.state, cipher := cipher, senders := ∅ }
      (LoopState.receive readMessage wire
          CoordinatorSessionState.hasSignatureShares start batches).map
        fun loop => do
          let signatureShares ← loop.session.signatureShares
          let first ← Outcome.ofOption signatureShares[0]?
          return (first,
            { comms with state := loop.session, cipher := some loop.cipher })

end Loop

end Coordinator
end MinaMultiSig
