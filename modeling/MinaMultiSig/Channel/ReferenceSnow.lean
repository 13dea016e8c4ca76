import MinaMultiSig.Channel.NoiseK

/-!
# A `snow` with ideal ciphertexts

A ciphertext is the channel, the number and the payload it was made for, or
garbage. A key pair is its public key. Everything documented holds.
-/

namespace MinaMultiSig
namespace Channel
namespace Reference

variable {PublicKey Ephemeral Payload : Type}

/-- A ciphertext, or garbage. -/
abbrev Ciphertext (PublicKey Ephemeral Payload : Type) :=
  Option (ChannelId PublicKey Ephemeral × Nat × Payload)

/-- Both ends of a channel, and its ephemeral key once that is known. -/
structure HandshakeState (PublicKey Ephemeral : Type) where
  sender : PublicKey
  recipient : PublicKey
  ephemeral : Option Ephemeral

/-- A channel and the number of its next message. -/
structure TransportState (PublicKey Ephemeral : Type) where
  channel : ChannelId PublicKey Ephemeral
  number : Nat

variable (size : Payload → Nat)

/-- Encrypt a message of a channel, if it fits. -/
def encrypt
    (channel : ChannelId PublicKey Ephemeral)
    (number : Nat)
    (payload : Payload) : Option (Ciphertext PublicKey Ephemeral Payload) :=
  if MessageFits number (size payload) then
    some (some (channel, number, payload))
  else none

/-- Decrypt a message with a number, if its channel is one of those expected. -/
def decrypt
    (expected : ChannelId PublicKey Ephemeral → Bool)
    (number : Nat) :
    Ciphertext PublicKey Ephemeral Payload →
      Option (ChannelId PublicKey Ephemeral × Payload)
  | none => none
  | some (channel, other, payload) =>
      if expected channel ∧ other = number ∧ MessageFits number (size payload)
      then some (channel, payload)
      else none

theorem encrypt_of_fits
    {number : Nat}
    {payload : Payload}
    (channel : ChannelId PublicKey Ephemeral)
    (fits : MessageFits number (size payload)) :
    encrypt size channel number payload =
      some (some (channel, number, payload)) :=
  if_pos fits

theorem encrypt_of_tooLarge
    {number : Nat}
    {payload : Payload}
    (channel : ChannelId PublicKey Ephemeral)
    (tooLarge : ¬MessageFits number (size payload)) :
    encrypt size channel number payload = none :=
  if_neg tooLarge

theorem decrypt_eq_some_iff
    {expected : ChannelId PublicKey Ephemeral → Bool}
    {number : Nat}
    {message : Ciphertext PublicKey Ephemeral Payload}
    {channel : ChannelId PublicKey Ephemeral}
    {payload : Payload} :
    decrypt size expected number message = some (channel, payload) ↔
      message = some (channel, number, payload) ∧ expected channel = true ∧
        MessageFits number (size payload) := by
  rcases message with _ | ⟨other, otherNumber, content⟩
  · simp [decrypt]
  · simp only [decrypt, Option.some.injEq, Prod.mk.injEq]
    split_ifs with accepted
    · obtain ⟨isExpected, rfl, fits⟩ := accepted
      constructor
      · intro same
        obtain ⟨rfl, rfl⟩ := Prod.mk.inj (Option.some.inj same)
        exact ⟨⟨rfl, rfl, rfl⟩, isExpected, fits⟩
      · rintro ⟨⟨rfl, -, rfl⟩, -, -⟩
        rfl
    · constructor
      · intro same
        exact absurd same (by simp)
      · rintro ⟨⟨rfl, rfl, rfl⟩, isExpected, fits⟩
        exact absurd ⟨isExpected, rfl, fits⟩ accepted

/-- Nothing is decrypted if no message would be. -/
theorem decrypt_eq_none
    {expected : ChannelId PublicKey Ephemeral → Bool}
    {number : Nat}
    {message : Ciphertext PublicKey Ephemeral Payload}
    (refused : ∀ channel payload,
      message = some (channel, number, payload) → expected channel = true →
        ¬MessageFits number (size payload)) :
    decrypt size expected number message = none := by
  cases decrypted : decrypt size expected number message with
  | none => rfl
  | some result =>
      obtain ⟨isMessage, isExpected, fits⟩ :=
        (decrypt_eq_some_iff size).mp decrypted
      exact absurd fits (refused _ _ isMessage isExpected)

variable (PublicKey Ephemeral)
variable [DecidableEq PublicKey] [DecidableEq Ephemeral]

/-- The reference crate: a message names its channel and its number. -/
def snow :
    Snow PublicKey Ephemeral Payload
      (Ciphertext PublicKey Ephemeral Payload) where
  PrivateKey := PublicKey
  HandshakeState := HandshakeState PublicKey Ephemeral
  TransportState := TransportState PublicKey Ephemeral
  buildInitiator := fun privateKey remote =>
    some { sender := privateKey, recipient := remote, ephemeral := none }
  buildResponder := fun privateKey remote =>
    some { sender := remote, recipient := privateKey, ephemeral := none }
  handshakeWriteMessage := fun ephemeral state payload =>
    match encrypt size ⟨state.sender, state.recipient, ephemeral⟩ 0 payload with
    | some message =>
        ({ state with ephemeral := some ephemeral }, some message)
    | none => (state, none)
  handshakeReadMessage := fun state message =>
    match decrypt size (fun channel => channel.sender = state.sender ∧
        channel.recipient = state.recipient) 0 message with
    | some (channel, payload) =>
        ({ state with ephemeral := some channel.ephemeral }, some payload)
    | none => (state, none)
  isHandshakeFinished := fun state => state.ephemeral.isSome
  intoTransportMode := fun state =>
    state.ephemeral.map fun ephemeral =>
      { channel := ⟨state.sender, state.recipient, ephemeral⟩
        number := 1 }
  transportWriteMessage := fun state payload =>
    match encrypt size state.channel state.number payload with
    | some message =>
        ({ state with number := state.number + 1 }, some message)
    | none => (state, none)
  transportReadMessage := fun state message =>
    match decrypt size (· = state.channel) state.number message with
    | some (_, payload) =>
        ({ state with number := state.number + 1 }, some payload)
    | none => (state, none)

/-- The reference crate does what is documented of the pattern. -/
def noiseK : NoiseK (snow PublicKey Ephemeral size) where
  sealing :=
    { ciphertext := fun channel number payload =>
        some (channel, number, payload)
      origin := fun message => message
      origin_eq_some_iff := fun _ _ _ _ => Iff.rfl }
  size := size
  publicKey := fun privateKey => privateKey
  Initiates := fun sender recipient state =>
    state = { sender := sender, recipient := recipient, ephemeral := none }
  Responds := fun sender recipient state =>
    state = { sender := sender, recipient := recipient, ephemeral := none }
  Sends := fun channel number state =>
    state = { channel := channel, number := number }
  Receives := fun channel number state =>
    state = { channel := channel, number := number }

theorem documented : (noiseK PublicKey Ephemeral size).Documented where
  buildInitiator := fun _ _ => ⟨_, rfl, rfl⟩
  buildResponder := fun _ _ => ⟨_, rfl, rfl⟩
  handshakeWrite := by
    rintro sender recipient _ ephemeral payload rfl fits
    refine ⟨⟨sender, recipient, some ephemeral⟩, _, ?_, rfl, rfl, rfl⟩
    simp only [snow, encrypt_of_fits size _ fits]
    rfl
  handshakeWrite_fails := by
    rintro sender recipient _ ephemeral payload rfl tooLarge
    refine ⟨_, ?_, rfl, rfl⟩
    simp only [snow, encrypt_of_tooLarge size _ tooLarge]
  handshakeRead := by
    rintro sender recipient _ message ephemeral payload rfl made fits
    have decrypted :
        decrypt size (fun channel => channel.sender = sender ∧
          channel.recipient = recipient) 0 message =
            some (⟨sender, recipient, ephemeral⟩, payload) :=
      (decrypt_eq_some_iff size).mpr ⟨made, by simp, fits⟩
    refine ⟨⟨sender, recipient, some ephemeral⟩, _, ?_, rfl, rfl, rfl⟩
    simp only [snow, decrypted]
  handshakeRead_fails := by
    rintro sender recipient _ message rfl refused
    refine ⟨_, ?_, rfl, rfl⟩
    simp only [snow]
    rw [decrypt_eq_none]
    rintro ⟨_, _, ephemeral⟩ payload made isExpected
    obtain ⟨rfl, rfl⟩ := of_decide_eq_true isExpected
    exact refused ephemeral payload made
  transportWrite := by
    rintro channel number _ payload rfl fits
    refine ⟨_, ?_, rfl⟩
    simp only [snow, encrypt_of_fits size _ fits]
    rfl
  transportWrite_fails := by
    rintro channel number _ payload rfl tooLarge
    refine ⟨_, ?_, rfl⟩
    simp only [snow, encrypt_of_tooLarge size _ tooLarge]
  transportRead := by
    rintro channel number _ message payload rfl made fits
    have decrypted : decrypt size (· = channel) number message =
        some (channel, payload) :=
      (decrypt_eq_some_iff size).mpr ⟨made, by simp, fits⟩
    refine ⟨_, ?_, rfl⟩
    simp only [snow, decrypted]
  transportRead_fails := by
    rintro channel number _ message rfl refused
    refine ⟨_, ?_, rfl⟩
    simp only [snow]
    rw [decrypt_eq_none]
    rintro other payload made isExpected
    obtain rfl := of_decide_eq_true isExpected
    exact refused payload made

end Reference
end Channel
end MinaMultiSig
