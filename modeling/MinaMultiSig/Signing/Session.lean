import MinaMultiSig.Channel.Sending
import MinaMultiSig.Coordinator.SessionInvariant

/-!
# Signing sessions over ciphers

`coordinate_signing` of `mina-frost-client/src/coordinator` and `sign` of
`mina-frost-client/src/participant`, with the `HTTPComms` of both sides. Any
number of coordinators and participants run, each with a cipher of its own, over a
server that hands out what it likes and tells a participant who its coordinator
is. What is sent in a session, what a participant makes of it and what a
coordinator makes of the answers are parameters.
-/

namespace MinaMultiSig
namespace Signing

open Channel (CipherError)
open Coordinator (CoordinatorWire CoordinatorSessionState Signers)

variable {PublicKey Identifier Commitments Share Args Signature : Type}
  {Payload Ephemeral Message ε Coordination Run : Type}

/-- How payloads are written and read on both sides. -/
structure Wire (Payload Commitments Share Args : Type) extends
    CoordinatorWire Payload Commitments Share where
  toVecCommitments : List Commitments → Option Payload
  toVecShares : List Share → Option Payload
  toVecArgs : Args → Option Payload
  fromSliceArgs : Payload → Option Args

/-- What is written is read again. Arguments are no list of commitments. -/
structure Wire.Lawful (wire : Wire Payload Commitments Share Args) : Prop where
  commitments : ∀ values payload, wire.toVecCommitments values = some payload →
    wire.fromSliceCommitments payload = some values
  shares : ∀ values payload, wire.toVecShares values = some payload →
    wire.fromSliceShares payload = some values
  args : ∀ args payload, wire.toVecArgs args = some payload →
    wire.fromSliceArgs payload = some args
  fromSliceCommitments_args : ∀ args payload,
    wire.toVecArgs args = some payload →
      wire.fromSliceCommitments payload = none
  fromSliceArgs_commitments : ∀ values payload,
    wire.toVecCommitments values = some payload →
      wire.fromSliceArgs payload = none

/-- Payloads that are told apart by their kind. -/
abbrev TaggedPayload (Commitments Share Args : Type) : Type :=
  List Commitments ⊕ List Share ⊕ Args

instance
    [DecidableEq Commitments]
    [DecidableEq Share]
    [DecidableEq Args] :
    DecidableEq (TaggedPayload Commitments Share Args) :=
  inferInstance

/-- Payloads that say which of the three they are. -/
def Wire.tagged :
    Wire (TaggedPayload Commitments Share Args) Commitments Share Args where
  fromSliceCommitments := Sum.getLeft?
  fromSliceShares := fun payload => payload.getRight?.bind Sum.getLeft?
  toVecCommitments := fun values => some (.inl values)
  toVecShares := fun values => some (.inr (.inl values))
  toVecArgs := fun args => some (.inr (.inr args))
  fromSliceArgs := fun payload => payload.getRight?.bind Sum.getRight?

theorem Wire.tagged_lawful :
    (tagged : Wire (TaggedPayload Commitments Share Args) _ _ _).Lawful where
  commitments := by
    rintro values _ ⟨⟩
    rfl
  shares := by
    rintro values _ ⟨⟩
    rfl
  args := by
    rintro args _ ⟨⟩
    rfl
  fromSliceCommitments_args := by
    rintro args _ ⟨⟩
    rfl
  fromSliceArgs_commitments := by
    rintro values _ ⟨⟩
    rfl

/-- The coordinators and the participants: their keys, whom they talk to, what they
send and what they make of what they receive. The order is that of a `HashMap`. -/
structure Setup
    [DecidableEq PublicKey]
    (Identifier Commitments Share Args Signature ε : Type)
    (snow : Channel.Snow PublicKey Ephemeral Payload Message)
    (Coordination Run : Type) where
  noiseK : Channel.NoiseK snow
  honest : Finset PublicKey
  wire : Wire Payload Commitments Share Args
  coordinatorKey : Coordination → snow.PrivateKey
  signers : Coordination → Signers PublicKey Identifier
  order : Coordination → List PublicKey
  order_nodup : ∀ coordination, (order coordination).Nodup
  mem_order : ∀ coordination key,
    key ∈ order coordination ↔ key ∈ (signers coordination).pubkeys.keys
  signingArgs : Coordination → FiniteMap Identifier Commitments → Args
  aggregate : Coordination → FiniteMap Identifier Commitments →
    FiniteMap Identifier Share → Outcome ε Signature
  participantKey : Run → snow.PrivateKey
  contacts : Run → Finset PublicKey
  commitments : Run → Commitments
  sign : Run → Args → Outcome ε Share

/-- Why a coordinator ends before it aggregates. -/
inductive CoordinatorFailure
  | cipher (failure : Failure CipherError)
  | serde
  | session (failure : Failure SessionError)

/-- How far a coordinator is. The receive loops keep the senders they have
accepted. -/
inductive CoordinatorStage
    (PublicKey Identifier Commitments Share Signature ε : Type)
  | starting
  | gettingCommitments
      (session : CoordinatorSessionState PublicKey Identifier Commitments Share)
      (senders : Finset PublicKey)
  | gettingShares
      (commitments : FiniteMap Identifier Commitments)
      (session : CoordinatorSessionState PublicKey Identifier Commitments Share)
      (senders : Finset PublicKey)
  | failed (failure : CoordinatorFailure)
  | concluded
      (commitments : FiniteMap Identifier Commitments)
      (signatureShares : FiniteMap Identifier Share)
      (result : Outcome ε Signature)

/-- Whether the session has come to its end. -/
def CoordinatorStage.isConcluded :
    CoordinatorStage PublicKey Identifier Commitments Share Signature ε → Bool
  | .concluded _ _ _ => true
  | _ => false

theorem CoordinatorStage.exists_of_isConcluded
    {stage :
      CoordinatorStage PublicKey Identifier Commitments Share Signature ε}
    (isConcluded : stage.isConcluded = true) :
    ∃ commitments signatureShares result,
      stage = .concluded commitments signatureShares result := by
  cases stage with
  | concluded commitments signatureShares result =>
      exact ⟨commitments, signatureShares, result, rfl⟩
  | _ => exact absurd isConcluded Bool.false_ne_true

/-- Why a participant ends without having sent a share. -/
inductive ParticipantError (ε : Type)
  | cipher (reason : CipherError)
  | serde
  | unregistered
  | sign (reason : ε)

/-- How far a participant is. -/
inductive ParticipantStage (PublicKey ε : Type)
  | starting
  | waiting (coordinator : PublicKey)
  | ended (result : Outcome (ParticipantError ε) Unit)

/-- The ciphers over the server, the coordinators and the participants. -/
structure World
    (Identifier Commitments Share Signature ε : Type)
    (snow : Channel.Snow PublicKey Ephemeral Payload Message)
    (Coordination Run : Type) where
  channel : Channel.World snow (Coordination ⊕ Run)
  coordinators : Coordination →
    CoordinatorStage PublicKey Identifier Commitments Share Signature ε
  participants : Run → ParticipantStage PublicKey ε

/-- What can happen next. A step draws the ephemeral keys of its messages. -/
inductive Action (PublicKey Ephemeral Message Coordination Run : Type)
  | start (coordination : Coordination)
  | coordinatorReceive
      (coordination : Coordination)
      (batch : List (Msg PublicKey Message))
      (ephemerals : List Ephemeral)
  | join (run : Run) (coordinator : PublicKey) (ephemeral : Ephemeral)
  | participantReceive
      (run : Run)
      (batch : List (Msg PublicKey Message))
      (ephemeral : Ephemeral)

/-- What a receive loop works on. -/
structure Loop
    (Identifier Commitments Share : Type)
    (snow : Channel.Snow PublicKey Ephemeral Payload Message)
    (Instance : Type) where
  channel : Channel.World snow Instance
  session : CoordinatorSessionState PublicKey Identifier Commitments Share
  senders : Finset PublicKey

section Coordinator

variable [DecidableEq PublicKey] [DecidableEq Identifier]
  {snow : Channel.Snow PublicKey Ephemeral Payload Message} {Instance : Type}

/-- One turn of a loop over a batch. A sender that was accepted is skipped; a
message that is not decrypted or not accepted is ignored. -/
def Loop.receiveMsg
    [DecidableEq Instance]
    (network : Channel.Network snow Instance)
    (wire : CoordinatorWire Payload Commitments Share)
    (index : Instance)
    (loop : Loop Identifier Commitments Share snow Instance)
    (msg : Msg PublicKey Message) :
    Loop Identifier Commitments Share snow Instance :=
  if msg.sender ∈ loop.senders then loop
  else
    match loop.channel.decrypt network index msg with
    | (channel, .error _) => { loop with channel := channel }
    | (channel, .ok decrypted) =>
        match loop.session.recv wire decrypted with
        | (session, .ok ()) =>
            { channel := channel
              session := session
              senders := insert msg.sender loop.senders }
        | (session, .error _) =>
            { loop with channel := channel, session := session }

/-- The commitments for the only message, behind the first loop. -/
def onlyCommitments
    (session : CoordinatorSessionState PublicKey Identifier Commitments Share) :
    Outcome SessionError (FiniteMap Identifier Commitments) := do
  let (commitments, _) ← session.commitments
  Outcome.ofOption commitments[0]?

/-- The shares for the only message, behind the second loop. -/
def onlyShares
    (session : CoordinatorSessionState PublicKey Identifier Commitments Share) :
    Outcome SessionError (FiniteMap Identifier Share) := do
  let signatureShares ← session.signatureShares
  Outcome.ofOption signatureShares[0]?

end Coordinator

namespace Setup

variable [DecidableEq PublicKey]
  {snow : Channel.Snow PublicKey Ephemeral Payload Message}
  (setup : Setup Identifier Commitments Share Args Signature ε snow
    Coordination Run)

/-- One cipher for each coordinator and each participant. -/
def network : Channel.Network snow (Coordination ⊕ Run) where
  noiseK := setup.noiseK
  privateKey := Sum.elim setup.coordinatorKey setup.participantKey
  honest := setup.honest

/-- The public key of a coordinator. -/
def coordinatorPubkey (coordination : Coordination) : PublicKey :=
  setup.network.owner (.inl coordination)

/-- The public key of a participant. -/
def participantPubkey (run : Run) : PublicKey :=
  setup.network.owner (.inr run)

variable [DecidableEq Identifier] [DecidableEq Ephemeral] [DecidableEq Message]
  [DecidableEq Coordination] [DecidableEq Run]

/-- Behind the first loop the signing package is sent to every signer. -/
def sendSigningPackage
    (coordination : Coordination)
    (loop : Loop Identifier Commitments Share snow (Coordination ⊕ Run))
    (ephemerals : List Ephemeral) :
    Option (Channel.World snow (Coordination ⊕ Run) ×
      CoordinatorStage PublicKey Identifier Commitments Share Signature ε) :=
  match onlyCommitments loop.session with
  | .error failure => some (loop.channel, .failed (.session failure))
  | .ok commitments =>
      match setup.wire.toVecArgs
          (setup.signingArgs coordination commitments) with
      | none => some (loop.channel, .failed .serde)
      | some payload =>
          (loop.channel.sendAll (.inl coordination) ephemerals
              ((setup.order coordination).map (·, payload))).map fun
            | (channel, .error failure) => (channel, .failed (.cipher failure))
            | (channel, .ok ()) =>
                (channel, .gettingShares commitments loop.session ∅)

/-- Behind the second loop the shares are aggregated. -/
def conclude
    (coordination : Coordination)
    (commitments : FiniteMap Identifier Commitments)
    (session : CoordinatorSessionState PublicKey Identifier Commitments Share) :
    CoordinatorStage PublicKey Identifier Commitments Share Signature ε :=
  match onlyShares session with
  | .error failure => .failed (.session failure)
  | .ok signatureShares =>
      .concluded commitments signatureShares
        (setup.aggregate coordination commitments signatureShares)

/-- A coordinator handles a batch, and leaves its loop if the session is done. -/
def coordinatorReceive
    (coordination : Coordination)
    (channel : Channel.World snow (Coordination ⊕ Run))
    (stage :
      CoordinatorStage PublicKey Identifier Commitments Share Signature ε)
    (batch : List (Msg PublicKey Message))
    (ephemerals : List Ephemeral) :
    Option (Channel.World snow (Coordination ⊕ Run) ×
      CoordinatorStage PublicKey Identifier Commitments Share Signature ε) :=
  let receive := fun session senders =>
    batch.foldl
      (Loop.receiveMsg setup.network setup.wire.toCoordinatorWire
        (.inl coordination))
      { channel := channel, session := session, senders := senders }
  match stage with
  | .gettingCommitments session senders =>
      let loop := receive session senders
      if loop.session.hasCommitments then
        setup.sendSigningPackage coordination loop ephemerals
      else some (loop.channel, .gettingCommitments loop.session loop.senders)
  | .gettingShares commitments session senders =>
      let loop := receive session senders
      if loop.session.hasSignatureShares then
        some (loop.channel,
          setup.conclude coordination commitments loop.session)
      else
        some (loop.channel,
          .gettingShares commitments loop.session loop.senders)
  | _ => none

/-- Encrypt a payload for the coordinator. -/
def sendToCoordinator
    (run : Run)
    (channel : Channel.World snow (Coordination ⊕ Run))
    (ephemeral : Ephemeral)
    (payload : Option Payload) :
    Channel.World snow (Coordination ⊕ Run) ×
      Outcome (ParticipantError ε) Unit :=
  match payload with
  | none => (channel, .error (.error .serde))
  | some payload =>
      let (channel, result) := channel.encrypt (.inr run) ephemeral none payload
      (channel, Outcome.mapError .cipher (result.map fun _ => ()))

/-- A participant joins the session of a coordinator, and sends its
commitments. -/
def join
    (run : Run)
    (channel : Channel.World snow (Coordination ⊕ Run))
    (coordinator : PublicKey)
    (ephemeral : Ephemeral) :
    Channel.World snow (Coordination ⊕ Run) × ParticipantStage PublicKey ε :=
  if coordinator ∈ setup.contacts run then
    match Channel.Cipher.new (setup.participantKey run) [coordinator] with
    | .error reason => (channel, .ended (.error (.error (.cipher reason))))
    | .ok cipher =>
        match sendToCoordinator run (channel.setCipher (.inr run) cipher)
            ephemeral
            (setup.wire.toVecCommitments [setup.commitments run]) with
        | (channel, .error failure) => (channel, .ended (.error failure))
        | (channel, .ok ()) => (channel, .waiting coordinator)
  else (channel, .ended (.error (.error .unregistered)))

/-- A participant signs what it reads in the first message of a batch, and sends
its share. -/
def participantReceive
    (run : Run)
    (channel : Channel.World snow (Coordination ⊕ Run))
    (msg : Msg PublicKey Message)
    (ephemeral : Ephemeral) :
    Channel.World snow (Coordination ⊕ Run) ×
      Outcome (ParticipantError ε) Unit :=
  match channel.decrypt setup.network (.inr run) msg with
  | (channel, .error failure) =>
      (channel, Outcome.mapError .cipher (.error failure))
  | (channel, .ok decrypted) =>
      match setup.wire.fromSliceArgs decrypted.msg with
      | none => (channel, .error (.error .serde))
      | some args =>
          match setup.sign run args with
          | .error failure =>
              (channel, Outcome.mapError .sign (.error failure))
          | .ok share =>
              sendToCoordinator run channel ephemeral
                (setup.wire.toVecShares [share])

/-- Nobody has started. -/
def initial : World Identifier Commitments Share Signature ε snow
    Coordination Run where
  channel := .initial
  coordinators := fun _ => .starting
  participants := fun _ => .starting

/-- One step of the sessions. -/
def step
    (world : World Identifier Commitments Share Signature ε snow
      Coordination Run) :
    Action PublicKey Ephemeral Message Coordination Run →
      Option (World Identifier Commitments Share Signature ε snow
        Coordination Run)
  | .start coordination =>
      match world.coordinators coordination with
      | .starting =>
          let (channel, stage) :=
            match Channel.Cipher.new (setup.coordinatorKey coordination)
                (setup.order coordination) with
            | .error reason =>
                (world.channel, .failed (.cipher (.error reason)))
            | .ok cipher =>
                (world.channel.setCipher (.inl coordination) cipher,
                  .gettingCommitments
                    (.new 1 (setup.signers coordination).numSigners
                      (setup.signers coordination).pubkeys) ∅)
          some { world with
            channel := channel
            coordinators :=
              Function.update world.coordinators coordination stage }
      | _ => none
  | .coordinatorReceive coordination batch ephemerals =>
      if ∀ msg ∈ batch, setup.network.CanDeliver world.channel msg.msg then
        (setup.coordinatorReceive coordination world.channel
            (world.coordinators coordination) batch ephemerals).map
          fun (channel, stage) =>
            { world with
              channel := channel
              coordinators :=
                Function.update world.coordinators coordination stage }
      else none
  | .join run coordinator ephemeral =>
      match world.participants run with
      | .starting =>
          if world.channel.author ephemeral = none then
            let (channel, stage) :=
              setup.join run world.channel coordinator ephemeral
            some { world with
              channel := channel
              participants := Function.update world.participants run stage }
          else none
      | _ => none
  | .participantReceive run batch ephemeral =>
      match world.participants run, batch with
      | .waiting _, msg :: _ =>
          if world.channel.author ephemeral = none ∧
              setup.network.CanDeliver world.channel msg.msg then
            let (channel, result) :=
              setup.participantReceive run world.channel msg ephemeral
            some { world with
              channel := channel
              participants :=
                Function.update world.participants run (.ended result) }
          else none
      | _, _ => none

/-- The sessions as a transition system. -/
def session :
    TransitionSystem
      (World Identifier Commitments Share Signature ε snow Coordination Run)
      (Action PublicKey Ephemeral Message Coordination Run) where
  initial := initial
  step := setup.step

end Setup

end Signing
end MinaMultiSig
