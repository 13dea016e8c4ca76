import MinaMultiSig.Dkg.Session
import MinaMultiSig.Library.Outcome

/-!
# The cipher

`Noise` and `Cipher` of `mina-frost-client/src/cipher.rs`. The `snow` crate is a
parameter: its states, and what its functions make of them. A function returns
the state it leaves behind next to its result, because the source mutates `self`
and may still return an error afterwards.
-/

namespace MinaMultiSig
namespace Channel

variable {PublicKey Ephemeral Payload Message α : Type}

/-- What is used of `snow` with the pattern `Noise_K`. Messages are written into
buffers of `MAX_MSG_SIZE` bytes; the randomness of a write is its ephemeral
key. -/
structure Snow (PublicKey Ephemeral Payload Message : Type) where
  PrivateKey : Type
  HandshakeState : Type
  TransportState : Type
  buildInitiator : PrivateKey → PublicKey → Option HandshakeState
  buildResponder : PrivateKey → PublicKey → Option HandshakeState
  handshakeWriteMessage :
    Ephemeral → HandshakeState → Payload → HandshakeState × Option Message
  handshakeReadMessage :
    HandshakeState → Message → HandshakeState × Option Payload
  isHandshakeFinished : HandshakeState → Bool
  intoTransportMode : HandshakeState → Option TransportState
  transportWriteMessage :
    TransportState → Payload → TransportState × Option Message
  transportReadMessage :
    TransportState → Message → TransportState × Option Payload

/-- The errors of the module, with those of `snow` as one. -/
inductive CipherError
  | snowError
  | unkownRecipient
  | unkownSender
  deriving DecidableEq

/-- A result of `snow`. -/
def ofSnow : Option α → Outcome CipherError α
  | some value => .ok value
  | none => .error (.error .snowError)

variable (snow : Snow PublicKey Ephemeral Payload Message)

/-- A Noise state. Only one of the two has a value at any given time. -/
structure Noise where
  handshakeState : Option snow.HandshakeState
  transportState : Option snow.TransportState

variable {snow}

namespace Noise

/-- A Noise object in its handshake. -/
def new (handshakeState : snow.HandshakeState) : Noise snow where
  handshakeState := some handshakeState
  transportState := none

/-- Write or read a message. A handshake state that is finished behind it is
replaced by its transport state; a state with neither panics. -/
def message
    (noise : Noise snow)
    (handshake : snow.HandshakeState → snow.HandshakeState × Option α)
    (transport : snow.TransportState → snow.TransportState × Option α) :
    Noise snow × Outcome CipherError α :=
  match noise.handshakeState, noise.transportState with
  | some handshakeState, _ =>
      let (handshakeState, r) := handshake handshakeState
      if snow.isHandshakeFinished handshakeState then
        match snow.intoTransportMode handshakeState with
        | some transportState =>
            ({ handshakeState := none
               transportState := some transportState }, ofSnow r)
        | none =>
            ({ noise with handshakeState := none },
              .error (.error .snowError))
      else
        ({ noise with handshakeState := some handshakeState }, ofSnow r)
  | none, some transportState =>
      let (transportState, r) := transport transportState
      ({ noise with transportState := some transportState }, ofSnow r)
  | none, none => (noise, .error .panic)

/-- Encrypt a payload. -/
def writeMessage
    (ephemeral : Ephemeral)
    (noise : Noise snow)
    (payload : Payload) : Noise snow × Outcome CipherError Message :=
  noise.message
    (fun handshakeState =>
      snow.handshakeWriteMessage ephemeral handshakeState payload)
    (fun transportState => snow.transportWriteMessage transportState payload)

/-- Decrypt a message. -/
def readMessage
    (noise : Noise snow)
    (payload : Message) : Noise snow × Outcome CipherError Payload :=
  noise.message
    (fun handshakeState => snow.handshakeReadMessage handshakeState payload)
    (fun transportState => snow.transportReadMessage transportState payload)

end Noise

variable (snow) in
/-- A cipher which can encrypt and decrypt messages: one Noise state for each
peer and direction. -/
structure Cipher where
  sendNoiseMap : FiniteMap PublicKey (Noise snow)
  recvNoiseMap : FiniteMap PublicKey (Noise snow)

namespace Cipher

variable [DecidableEq PublicKey]

/-- The loop of `new` over the peers. -/
def addPeers
    (privateKey : snow.PrivateKey)
    (cipher : Cipher snow) : List PublicKey → Except CipherError (Cipher snow)
  | [] => .ok cipher
  | pubkey :: peersPublicKeys =>
      match snow.buildInitiator privateKey pubkey,
          snow.buildResponder privateKey pubkey with
      | some sendNoise, some recvNoise =>
          addPeers privateKey
            { sendNoiseMap := cipher.sendNoiseMap.insert pubkey (.new sendNoise)
              recvNoiseMap := cipher.recvNoiseMap.insert pubkey (.new recvNoise) }
            peersPublicKeys
      | _, _ => .error .snowError

/-- A cipher for the user's private key and the public keys of the peers. -/
def new
    (privateKey : snow.PrivateKey)
    (peersPublicKeys : List PublicKey) : Except CipherError (Cipher snow) :=
  addPeers privateKey { sendNoiseMap := ∅, recvNoiseMap := ∅ } peersPublicKeys

omit [DecidableEq PublicKey] in
/-- The recipient of a message, if none is given the only one there is. -/
def recipientOf
    (cipher : Cipher snow)
    (recipient : Option PublicKey) : Option PublicKey :=
  match recipient with
  | some recipient => some recipient
  | none => FiniteMap.onlyKey cipher.sendNoiseMap

/-- Encrypt a message for a recipient. With no recipient given it panics unless
there is one peer. -/
def encrypt
    (ephemeral : Ephemeral)
    (cipher : Cipher snow)
    (recipient : Option PublicKey)
    (msg : Payload) : Cipher snow × Outcome CipherError Message :=
  match cipher.recipientOf recipient with
  | none => (cipher, .error .panic)
  | some recipient =>
      match cipher.sendNoiseMap.lookup recipient with
      | none => (cipher, .error (.error .unkownRecipient))
      | some noise =>
          let (noise, encrypted) := noise.writeMessage ephemeral msg
          ({ cipher with
              sendNoiseMap := cipher.sendNoiseMap.insert recipient noise },
            encrypted)

/-- Decrypt a message. Its sender is authenticated. -/
def decrypt
    (cipher : Cipher snow)
    (msg : Msg PublicKey Message) :
    Cipher snow × Outcome CipherError (Msg PublicKey Payload) :=
  match cipher.recvNoiseMap.lookup msg.sender with
  | none => (cipher, .error (.error .unkownSender))
  | some noise =>
      let (noise, decrypted) := noise.readMessage msg.msg
      ({ cipher with
          recvNoiseMap := cipher.recvNoiseMap.insert msg.sender noise },
        decrypted.map fun plain => { sender := msg.sender, msg := plain })

end Cipher

end Channel
end MinaMultiSig
