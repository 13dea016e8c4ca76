import MinaMultiSig.Channel.Cipher
import MinaMultiSig.Library.Streams

/-!
# The one-way pattern K

What `snow` documents about `Noise_K`, in terms of ideal ciphertexts. A message
belongs to a channel from one static key to another that is opened by an ephemeral
key; the first message of a channel is the handshake. A write or a read that fails
leaves the state where it was.
-/

namespace MinaMultiSig
namespace Channel

variable {PublicKey Ephemeral Payload Message α : Type}

/-- What a message is encrypted for besides its number. -/
structure ChannelId (PublicKey Ephemeral : Type) where
  sender : PublicKey
  recipient : PublicKey
  ephemeral : Ephemeral
  deriving DecidableEq

/-- The maximum size of a message. -/
def maxMsgSize : Nat :=
  65535

/-- What the encryption adds to a payload: a tag, and in the handshake the
ephemeral key. -/
def overhead (number : Nat) : Nat :=
  if number = 0 then 32 + 16 else 16

/-- A payload of so many bytes can be message number `number` of a channel: it
fits into the largest message, and the counter of 64 bits is not exhausted. -/
def MessageFits (number bytes : Nat) : Prop :=
  bytes + overhead number ≤ maxMsgSize ∧ number < 2 ^ 64

instance (number bytes : Nat) : Decidable (MessageFits number bytes) :=
  inferInstanceAs (Decidable (_ ∧ _))

variable (snow : Snow PublicKey Ephemeral Payload Message)

/-- How the states of `snow` are read: the ciphertexts, and which static keys,
channel and number a state stands for. -/
structure NoiseK where
  sealing : Sealing (ChannelId PublicKey Ephemeral) Payload Message
  size : Payload → Nat
  publicKey : snow.PrivateKey → PublicKey
  Initiates : PublicKey → PublicKey → snow.HandshakeState → Prop
  Responds : PublicKey → PublicKey → snow.HandshakeState → Prop
  Sends : ChannelId PublicKey Ephemeral → Nat → snow.TransportState → Prop
  Receives : ChannelId PublicKey Ephemeral → Nat → snow.TransportState → Prop

variable {snow}

namespace NoiseK

variable (noiseK : NoiseK snow)

/-- A payload can be message number `number` of a channel. -/
abbrev Fits (number : Nat) (payload : Payload) : Prop :=
  MessageFits number (noiseK.size payload)

/-- What `snow` documents. -/
structure Documented : Prop where
  buildInitiator : ∀ privateKey remote, ∃ state,
    snow.buildInitiator privateKey remote = some state ∧
      noiseK.Initiates (noiseK.publicKey privateKey) remote state
  buildResponder : ∀ privateKey remote, ∃ state,
    snow.buildResponder privateKey remote = some state ∧
      noiseK.Responds remote (noiseK.publicKey privateKey) state
  handshakeWrite : ∀ {sender recipient state} ephemeral payload,
    noiseK.Initiates sender recipient state → noiseK.Fits 0 payload →
      ∃ next transport,
        snow.handshakeWriteMessage ephemeral state payload =
            (next, some (noiseK.sealing.ciphertext
              ⟨sender, recipient, ephemeral⟩ 0 payload)) ∧
          snow.isHandshakeFinished next = true ∧
          snow.intoTransportMode next = some transport ∧
          noiseK.Sends ⟨sender, recipient, ephemeral⟩ 1 transport
  handshakeWrite_fails : ∀ {sender recipient state} ephemeral payload,
    noiseK.Initiates sender recipient state → ¬noiseK.Fits 0 payload →
      ∃ next,
        snow.handshakeWriteMessage ephemeral state payload = (next, none) ∧
          snow.isHandshakeFinished next = false ∧
          noiseK.Initiates sender recipient next
  handshakeRead : ∀ {sender recipient state message ephemeral payload},
    noiseK.Responds sender recipient state →
      noiseK.sealing.origin message =
        some (⟨sender, recipient, ephemeral⟩, 0, payload) →
      noiseK.Fits 0 payload →
        ∃ next transport,
          snow.handshakeReadMessage state message = (next, some payload) ∧
            snow.isHandshakeFinished next = true ∧
            snow.intoTransportMode next = some transport ∧
            noiseK.Receives ⟨sender, recipient, ephemeral⟩ 1 transport
  handshakeRead_fails : ∀ {sender recipient state message},
    noiseK.Responds sender recipient state →
      (∀ ephemeral payload,
        noiseK.sealing.origin message =
            some (⟨sender, recipient, ephemeral⟩, 0, payload) →
          ¬noiseK.Fits 0 payload) →
        ∃ next,
          snow.handshakeReadMessage state message = (next, none) ∧
            snow.isHandshakeFinished next = false ∧
            noiseK.Responds sender recipient next
  transportWrite : ∀ {channel number state} payload,
    noiseK.Sends channel number state → noiseK.Fits number payload →
      ∃ next,
        snow.transportWriteMessage state payload =
            (next, some (noiseK.sealing.ciphertext channel number payload)) ∧
          noiseK.Sends channel (number + 1) next
  transportWrite_fails : ∀ {channel number state} payload,
    noiseK.Sends channel number state → ¬noiseK.Fits number payload →
      ∃ next,
        snow.transportWriteMessage state payload = (next, none) ∧
          noiseK.Sends channel number next
  transportRead : ∀ {channel number state message payload},
    noiseK.Receives channel number state →
      noiseK.sealing.origin message = some (channel, number, payload) →
      noiseK.Fits number payload →
        ∃ next,
          snow.transportReadMessage state message = (next, some payload) ∧
            noiseK.Receives channel (number + 1) next
  transportRead_fails : ∀ {channel number state message},
    noiseK.Receives channel number state →
      (∀ payload,
        noiseK.sealing.origin message = some (channel, number, payload) →
          ¬noiseK.Fits number payload) →
        ∃ next,
          snow.transportReadMessage state message = (next, none) ∧
            noiseK.Receives channel number next

end NoiseK

/-- A Noise state that has not started, or one in the channel that an ephemeral
key opened, before a message number. -/
inductive Noise.At
    (Handshake : snow.HandshakeState → Prop)
    (Transport : Ephemeral → Nat → snow.TransportState → Prop) :
    Noise snow → Option Ephemeral → Nat → Prop
  | fresh {state : snow.HandshakeState} :
      Handshake state → At Handshake Transport (.new state) none 0
  | started
      {state : snow.TransportState}
      {ephemeral : Ephemeral}
      {number : Nat} :
      Transport ephemeral number state →
        At Handshake Transport
          { handshakeState := none, transportState := some state }
          (some ephemeral) number

section Message

variable {Handshake : snow.HandshakeState → Prop}
  {Transport : Ephemeral → Nat → snow.TransportState → Prop}
  {noise : Noise snow} {opened : Option Ephemeral} {number : Nat}
  {handshake : snow.HandshakeState → snow.HandshakeState × Option α}
  {transport : snow.TransportState → snow.TransportState × Option α}

/-- A message that both kinds of states accept takes the Noise state to the next
number. -/
theorem Noise.At.message_ok
    {ephemeral : Ephemeral}
    {result : α}
    (isAt : Noise.At Handshake Transport noise opened number)
    (fresh : ∀ state, opened = none → number = 0 → Handshake state →
      ∃ next started, handshake state = (next, some result) ∧
        snow.isHandshakeFinished next = true ∧
        snow.intoTransportMode next = some started ∧
        Transport ephemeral 1 started)
    (started : ∀ state key, opened = some key → Transport key number state →
      ∃ next, transport state = (next, some result) ∧
        Transport ephemeral (number + 1) next) :
    ∃ next, noise.message handshake transport = (next, .ok result) ∧
      Noise.At Handshake Transport next (some ephemeral) (number + 1) := by
  cases isAt with
  | fresh holds =>
      obtain ⟨next, other, isNext, finished, into, holdsNext⟩ :=
        fresh _ rfl rfl holds
      refine ⟨{ handshakeState := none, transportState := some other }, ?_,
        .started holdsNext⟩
      simp only [Noise.message, Noise.new, isNext, finished, into, if_true,
        ofSnow]
  | started holds =>
      obtain ⟨next, isNext, holdsNext⟩ := started _ _ rfl holds
      refine ⟨{ handshakeState := none, transportState := some next }, ?_,
        .started holdsNext⟩
      simp only [Noise.message, isNext, ofSnow]

/-- A message that both kinds of states refuse leaves the Noise state where it
was. -/
theorem Noise.At.message_fails
    (isAt : Noise.At Handshake Transport noise opened number)
    (fresh : ∀ state, opened = none → number = 0 → Handshake state →
      ∃ next, handshake state = (next, none) ∧
        snow.isHandshakeFinished next = false ∧ Handshake next)
    (started : ∀ state key, opened = some key → Transport key number state →
      ∃ next, transport state = (next, none) ∧ Transport key number next) :
    ∃ next,
      noise.message handshake transport =
          (next, .error (.error .snowError)) ∧
        Noise.At Handshake Transport next opened number := by
  cases isAt with
  | fresh holds =>
      obtain ⟨next, isNext, unfinished, holdsNext⟩ := fresh _ rfl rfl holds
      refine ⟨.new next, ?_, .fresh holdsNext⟩
      simp [Noise.message, Noise.new, isNext, unfinished, ofSnow]
  | started holds =>
      obtain ⟨next, isNext, holdsNext⟩ := started _ _ rfl holds
      refine ⟨{ handshakeState := none, transportState := some next }, ?_,
        .started holdsNext⟩
      simp only [Noise.message, isNext, ofSnow]

end Message

namespace NoiseK

variable (noiseK : NoiseK snow) (sender recipient : PublicKey)

/-- A Noise state for writing from one key to another. -/
def Writes : Noise snow → Option Ephemeral → Nat → Prop :=
  Noise.At (noiseK.Initiates sender recipient) fun ephemeral number =>
    noiseK.Sends ⟨sender, recipient, ephemeral⟩ number

/-- A Noise state for reading what one key sends to another. -/
def Reads : Noise snow → Option Ephemeral → Nat → Prop :=
  Noise.At (noiseK.Responds sender recipient) fun ephemeral number =>
    noiseK.Receives ⟨sender, recipient, ephemeral⟩ number

/-- The message is the next one of a channel that is, or may become, the one
read from. -/
def Accepts
    (opened : Option Ephemeral)
    (number : Nat)
    (message : Message)
    (ephemeral : Ephemeral)
    (payload : Payload) : Prop :=
  noiseK.sealing.origin message =
      some (⟨sender, recipient, ephemeral⟩, number, payload) ∧
    (∀ key ∈ opened, key = ephemeral) ∧ noiseK.Fits number payload

variable {noiseK sender recipient}
  {noise : Noise snow} {opened : Option Ephemeral} {number : Nat}

/-- A write of a payload that fits. -/
theorem Writes.writeMessage
    (documented : noiseK.Documented)
    (writes : noiseK.Writes sender recipient noise opened number)
    (ephemeral : Ephemeral)
    {payload : Payload}
    (fits : noiseK.Fits number payload) :
    ∃ next,
      noise.writeMessage ephemeral payload =
          (next, .ok (noiseK.sealing.ciphertext
            ⟨sender, recipient, opened.getD ephemeral⟩ number payload)) ∧
        noiseK.Writes sender recipient next (some (opened.getD ephemeral))
          (number + 1) := by
  apply Noise.At.message_ok writes
  · rintro state rfl rfl initiates
    exact documented.handshakeWrite ephemeral payload initiates fits
  · rintro state key rfl sends
    exact documented.transportWrite payload sends fits

theorem Writes.writeMessage_fails
    (documented : noiseK.Documented)
    (writes : noiseK.Writes sender recipient noise opened number)
    (ephemeral : Ephemeral)
    {payload : Payload}
    (tooLarge : ¬noiseK.Fits number payload) :
    ∃ next,
      noise.writeMessage ephemeral payload =
          (next, .error (.error .snowError)) ∧
        noiseK.Writes sender recipient next opened number := by
  apply Noise.At.message_fails writes
  · rintro state rfl rfl initiates
    exact documented.handshakeWrite_fails ephemeral payload initiates tooLarge
  · rintro state key rfl sends
    exact documented.transportWrite_fails payload sends tooLarge

/-- A read of the next message. -/
theorem Reads.readMessage
    (documented : noiseK.Documented)
    (reads : noiseK.Reads sender recipient noise opened number)
    {message : Message}
    {ephemeral : Ephemeral}
    {payload : Payload}
    (accepts : noiseK.Accepts sender recipient opened number message ephemeral
      payload) :
    ∃ next,
      noise.readMessage message = (next, .ok payload) ∧
        noiseK.Reads sender recipient next (some ephemeral) (number + 1) := by
  obtain ⟨made, same, fits⟩ := accepts
  apply Noise.At.message_ok reads
  · rintro state rfl rfl responds
    exact documented.handshakeRead responds made fits
  · rintro state key rfl receives
    obtain rfl := same key rfl
    exact documented.transportRead receives made fits

theorem Reads.readMessage_fails
    (documented : noiseK.Documented)
    (reads : noiseK.Reads sender recipient noise opened number)
    {message : Message}
    (refused : ∀ ephemeral payload,
      ¬noiseK.Accepts sender recipient opened number message ephemeral
        payload) :
    ∃ next,
      noise.readMessage message = (next, .error (.error .snowError)) ∧
        noiseK.Reads sender recipient next opened number := by
  apply Noise.At.message_fails reads
  · rintro state rfl rfl responds
    apply documented.handshakeRead_fails responds
    intro ephemeral payload made fits
    exact refused ephemeral payload ⟨made, by simp, fits⟩
  · rintro state key rfl receives
    apply documented.transportRead_fails receives
    intro payload made fits
    exact refused key payload ⟨made, by simp, fits⟩

end NoiseK

end Channel
end MinaMultiSig
