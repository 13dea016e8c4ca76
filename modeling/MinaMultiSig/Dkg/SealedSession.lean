import MinaMultiSig.Channel.OrderedDelivery
import MinaMultiSig.Channel.Sending
import MinaMultiSig.Dkg.Network

/-!
# A DKG session over ciphers

The session of `get_round1_packages` and `get_round2_packages` with the ciphers
the participants make for it. The server stores ciphertexts, hands out what it
likes, and makes up the ciphertexts of dishonest participants. What a step adds to
the outbox of a participant is encrypted recipient by recipient; the first error of
the cipher ends `keygen`.

The honest participants use their communication keys in this run only. Nothing in
`Noise_K` ties a ciphertext to a session, so one that was recorded in another run
under the same keys would decrypt here too; a server that has such ciphertexts is
outside of this module.
-/

namespace MinaMultiSig
namespace Dkg

open Channel (CipherError)

variable {PublicKey Identifier Round1Package Round2Package Payload : Type}
  {Ephemeral Message : Type}

/-- A session with the private keys of the participants, which no other run uses,
and the order in which the `HashMap` of each of them iterates over the public
keys. -/
structure SealedSetup
    [DecidableEq PublicKey]
    (Identifier Round1Package Round2Package : Type)
    (snow : Channel.Snow PublicKey Ephemeral Payload Message) where
  setup : Setup PublicKey Identifier Round1Package Round2Package Payload
  noiseK : Channel.NoiseK snow
  privateKey : PublicKey → snow.PrivateKey
  publicKey_eq : ∀ key, noiseK.publicKey (privateKey key) = key
  order : PublicKey → List PublicKey
  order_nodup : ∀ selfPubkey, (order selfPubkey).Nodup
  mem_order : ∀ selfPubkey key,
    key ∈ order selfPubkey ↔ key ∈ setup.pubkeys.keys

/-- The participants, the ciphers over the server, and which participants have
given up because of an error of their cipher. -/
structure SealedWorld
    (Identifier Round1Package Round2Package : Type)
    (snow : Channel.Snow PublicKey Ephemeral Payload Message) where
  nodes : World PublicKey Identifier Round1Package Round2Package Payload
  channel : Channel.World snow PublicKey
  aborted : PublicKey → Bool

/-- Why handling a batch ends early. -/
inductive ReceiveError
  | cipher (failure : Failure CipherError)
  | session (error : SessionError)

/-- What can happen next. A step draws the ephemeral keys of its messages. -/
inductive SealedAction (PublicKey Ephemeral Message : Type)
  | start (selfPubkey : PublicKey) (ephemerals : List Ephemeral)
  | receive
      (selfPubkey : PublicKey)
      (batch : List (Msg PublicKey Message))
      (ephemerals : List Ephemeral)
  | sendRound2 (selfPubkey : PublicKey) (ephemerals : List Ephemeral)

namespace SealedSetup

variable [DecidableEq PublicKey]
  {snow : Channel.Snow PublicKey Ephemeral Payload Message}
  (sealed : SealedSetup Identifier Round1Package Round2Package snow)

/-- One cipher for each participant, and no ciphers of other runs. -/
def network : Channel.Network snow PublicKey where
  noiseK := sealed.noiseK
  privateKey := sealed.privateKey
  honest := sealed.setup.pubkeys.keys \ sealed.setup.dishonest

/-- What a step of a participant sends, in order. -/
def outgoing
    (selfPubkey : PublicKey)
    (node next : Node PublicKey Identifier Round1Package Round2Package Payload) :
    List (PublicKey × Payload) :=
  (sealed.order selfPubkey).flatMap fun recipient =>
    ((next.outbox recipient).drop (node.outbox recipient).length).map
      (recipient, ·)

variable [DecidableEq Ephemeral]

/-- The `for msg in r.msgs` loop: decrypt a message, then handle it. -/
def recvBatch
    [DecidableEq Identifier]
    [DecidableEq Round1Package]
    (selfPubkey : PublicKey)
    (selfIdentifier : Identifier)
    (channel : Channel.World snow PublicKey)
    (node : Node PublicKey Identifier Round1Package Round2Package Payload) :
    List (Msg PublicKey Message) →
      Channel.World snow PublicKey ×
        Node PublicKey Identifier Round1Package Round2Package Payload ×
          Except ReceiveError Unit
  | [] => (channel, node, .ok ())
  | msg :: batch =>
      match channel.decrypt sealed.network selfPubkey msg with
      | (channel, .error failure) => (channel, node, .error (.cipher failure))
      | (channel, .ok decrypted) =>
          match node.recv sealed.setup selfIdentifier decrypted with
          | (node, .error error) => (channel, node, .error (.session error))
          | (node, .ok ()) =>
              recvBatch selfPubkey selfIdentifier channel node batch

/-- One turn of a receive loop; no participant is left after an error of the
cipher. -/
def receive
    [DecidableEq Identifier]
    [DecidableEq Round1Package]
    (selfPubkey : PublicKey)
    (selfIdentifier : Identifier)
    (channel : Channel.World snow PublicKey)
    (node : Node PublicKey Identifier Round1Package Round2Package Payload)
    (batch : List (Msg PublicKey Message)) :
    Channel.World snow PublicKey ×
      Option (Node PublicKey Identifier Round1Package Round2Package Payload) :=
  match sealed.recvBatch selfPubkey selfIdentifier channel node batch with
  | (channel, _, .error (.cipher _)) => (channel, none)
  | (channel, next, .error (.session error)) =>
      (channel, some { next with stage := .recvFailed error })
  | (channel, next, .ok ()) =>
      (channel, some
        (if next.exitTest then next.leaveLoop sealed.setup selfPubkey else next))

/-- A participant moves on, and what it has to say is sent. -/
def moveTo
    (world : SealedWorld Identifier Round1Package Round2Package snow)
    (selfPubkey : PublicKey)
    (channel : Channel.World snow PublicKey)
    (next :
      Option (Node PublicKey Identifier Round1Package Round2Package Payload))
    (ephemerals : List Ephemeral) :
    Option (SealedWorld Identifier Round1Package Round2Package snow) :=
  match next with
  | none =>
      some { world with
        channel := channel
        aborted := Function.update world.aborted selfPubkey true }
  | some next =>
      (channel.sendAll selfPubkey ephemerals
          (sealed.outgoing selfPubkey (world.nodes selfPubkey) next)).map
        fun (channel, result) =>
          { nodes := Function.update world.nodes selfPubkey next
            channel := channel
            aborted := Function.update world.aborted selfPubkey
              (!result.isOk) }

variable [DecidableEq Identifier] [DecidableEq Round1Package]
  [DecidableEq Message]

/-- Nobody has begun, and the server has nothing. -/
def initial : SealedWorld Identifier Round1Package Round2Package snow where
  nodes := sealed.setup.initial
  channel := .initial
  aborted := fun _ => false

/-- One step of the session. -/
def step
    (world : SealedWorld Identifier Round1Package Round2Package snow) :
    SealedAction PublicKey Ephemeral Message →
      Option (SealedWorld Identifier Round1Package Round2Package snow)
  | .start selfPubkey ephemerals =>
      match (world.nodes selfPubkey).stage with
      | .starting =>
          if sealed.setup.Honest selfPubkey ∧
              world.aborted selfPubkey = false then
            match Channel.Cipher.new (sealed.privateKey selfPubkey)
                (sealed.order selfPubkey) with
            | .error _ =>
                sealed.moveTo world selfPubkey world.channel none ephemerals
            | .ok cipher =>
                sealed.moveTo world selfPubkey
                  (world.channel.setCipher selfPubkey cipher)
                  (some ((world.nodes selfPubkey).start sealed.setup
                    selfPubkey)) ephemerals
          else none
      | _ => none
  | .receive selfPubkey batch ephemerals =>
      match sealed.setup.pubkeys.lookup selfPubkey with
      | none => none
      | some selfIdentifier =>
          if sealed.setup.Honest selfPubkey ∧
              world.aborted selfPubkey = false ∧
              (world.nodes selfPubkey).stage.receiving = true ∧
              ∀ msg ∈ batch,
                sealed.network.CanDeliver world.channel msg.msg then
            match sealed.receive selfPubkey selfIdentifier world.channel
                (world.nodes selfPubkey) batch with
            | (channel, next) =>
                sealed.moveTo world selfPubkey channel next ephemerals
          else none
  | .sendRound2 selfPubkey ephemerals =>
      match (world.nodes selfPubkey).stage with
      | .round1Done round1Packages =>
          if sealed.setup.Honest selfPubkey ∧
              world.aborted selfPubkey = false then
            sealed.moveTo world selfPubkey world.channel
              (some ((world.nodes selfPubkey).sendRound2 sealed.setup
                selfPubkey round1Packages)) ephemerals
          else none
      | _ => none

/-- The session as a transition system. -/
def session :
    TransitionSystem
      (SealedWorld Identifier Round1Package Round2Package snow)
      (SealedAction PublicKey Ephemeral Message) where
  initial := sealed.initial
  step := sealed.step

end SealedSetup

end Dkg
end MinaMultiSig
