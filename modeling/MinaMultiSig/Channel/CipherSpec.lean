import MinaMultiSig.Channel.NoiseK

/-!
# What the cipher does

A cipher counts the messages of each direction and peer. A message is encrypted
when its recipient is a peer and it fits, and decrypted when it is the next one of
a channel from its sender; whatever fails leaves all the counters as they are.
-/

namespace MinaMultiSig
namespace Channel

variable {PublicKey Ephemeral Payload Message : Type}
  {snow : Snow PublicKey Ephemeral Payload Message}

/-- Where the channels of a user with its peers stand, one direction each: the
ephemeral key that opened the channel, and the number of messages so far. -/
structure Counters (PublicKey Ephemeral : Type) where
  opened : PublicKey → Option Ephemeral
  sent : PublicKey → Nat
  reading : PublicKey → Option Ephemeral
  received : PublicKey → Nat

namespace Counters

/-- No channel is opened, and nothing sent or received. -/
def initial : Counters PublicKey Ephemeral where
  opened := fun _ => none
  sent := fun _ => 0
  reading := fun _ => none
  received := fun _ => 0

variable [DecidableEq PublicKey]

/-- The counters with another state of the channel to a recipient. -/
def setSent
    (counters : Counters PublicKey Ephemeral)
    (recipient : PublicKey)
    (opened : Option Ephemeral)
    (sent : Nat) : Counters PublicKey Ephemeral :=
  { counters with
    opened := Function.update counters.opened recipient opened
    sent := Function.update counters.sent recipient sent }

/-- The counters with another state of the channel from a sender. -/
def setReceived
    (counters : Counters PublicKey Ephemeral)
    (sender : PublicKey)
    (reading : Option Ephemeral)
    (received : Nat) : Counters PublicKey Ephemeral :=
  { counters with
    reading := Function.update counters.reading sender reading
    received := Function.update counters.received sender received }

/-- One more message was sent; it opens the channel if none is. -/
def addSent
    (counters : Counters PublicKey Ephemeral)
    (recipient : PublicKey)
    (ephemeral : Ephemeral) : Counters PublicKey Ephemeral :=
  counters.setSent recipient
    (some ((counters.opened recipient).getD ephemeral))
    (counters.sent recipient + 1)

/-- One more message was received. -/
def addReceived
    (counters : Counters PublicKey Ephemeral)
    (sender : PublicKey)
    (ephemeral : Ephemeral) : Counters PublicKey Ephemeral :=
  counters.setReceived sender (some ephemeral) (counters.received sender + 1)

theorem setSent_self
    (counters : Counters PublicKey Ephemeral)
    (recipient : PublicKey) :
    counters.setSent recipient (counters.opened recipient)
      (counters.sent recipient) = counters := by
  simp only [setSent, Function.update_eq_self]

theorem setReceived_self
    (counters : Counters PublicKey Ephemeral)
    (sender : PublicKey) :
    counters.setReceived sender (counters.reading sender)
      (counters.received sender) = counters := by
  simp only [setReceived, Function.update_eq_self]

end Counters

variable [DecidableEq PublicKey]

/-- Each Noise state of a cipher is where the counters say. -/
structure NoiseK.Ready
    (noiseK : NoiseK snow)
    (user : PublicKey)
    (counters : Counters PublicKey Ephemeral)
    (cipher : Cipher snow) : Prop where
  keys : cipher.recvNoiseMap.keys = cipher.sendNoiseMap.keys
  writes : ∀ recipient noise,
    cipher.sendNoiseMap.lookup recipient = some noise →
      noiseK.Writes user recipient noise (counters.opened recipient)
        (counters.sent recipient)
  reads : ∀ sender noise,
    cipher.recvNoiseMap.lookup sender = some noise →
      noiseK.Reads sender user noise (counters.reading sender)
        (counters.received sender)

namespace NoiseK

variable {noiseK : NoiseK snow}
  (documented : noiseK.Documented)
  {user : PublicKey} {counters : Counters PublicKey Ephemeral}
  {cipher : Cipher snow}

/-- Another state for writing to a peer. -/
theorem Ready.setSent
    (ready : noiseK.Ready user counters cipher)
    {recipient : PublicKey}
    (peer : recipient ∈ cipher.sendNoiseMap.keys)
    {noise : Noise snow}
    {opened : Option Ephemeral}
    {sent : Nat}
    (writes : noiseK.Writes user recipient noise opened sent) :
    noiseK.Ready user (counters.setSent recipient opened sent)
        { cipher with
          sendNoiseMap := cipher.sendNoiseMap.insert recipient noise } ∧
      (cipher.sendNoiseMap.insert recipient noise).keys =
        cipher.sendNoiseMap.keys := by
  have keys : (cipher.sendNoiseMap.insert recipient noise).keys =
      cipher.sendNoiseMap.keys := by
    rw [FiniteMap.keys_insert, Finset.insert_eq_of_mem peer]
  refine ⟨⟨ready.keys.trans keys.symm, ?_, ready.reads⟩, keys⟩
  intro other otherNoise lookup
  rw [FiniteMap.lookup_insert_eq] at lookup
  split_ifs at lookup with same
  · obtain rfl := Option.some.inj lookup
    subst same
    simpa only [Counters.setSent, Function.update_self] using writes
  · simpa only [Counters.setSent, Function.update_of_ne same] using
      ready.writes other otherNoise lookup

/-- Another state for reading from a peer. -/
theorem Ready.setReceived
    (ready : noiseK.Ready user counters cipher)
    {sender : PublicKey}
    (peer : sender ∈ cipher.recvNoiseMap.keys)
    {noise : Noise snow}
    {reading : Option Ephemeral}
    {received : Nat}
    (reads : noiseK.Reads sender user noise reading received) :
    noiseK.Ready user (counters.setReceived sender reading received)
      { cipher with
        recvNoiseMap := cipher.recvNoiseMap.insert sender noise } := by
  refine ⟨?_, ready.writes, ?_⟩
  · rw [FiniteMap.keys_insert, Finset.insert_eq_of_mem peer, ready.keys]
  intro other otherNoise lookup
  rw [FiniteMap.lookup_insert_eq] at lookup
  split_ifs at lookup with same
  · obtain rfl := Option.some.inj lookup
    subst same
    simpa only [Counters.setReceived, Function.update_self] using reads
  · simpa only [Counters.setReceived, Function.update_of_ne same] using
      ready.reads other otherNoise lookup

include documented

/-- Adding peers with fresh states. -/
theorem Ready.addPeers
    {privateKey : snow.PrivateKey}
    (ready : noiseK.Ready (noiseK.publicKey privateKey) .initial cipher)
    (peers : List PublicKey) :
    ∃ next, Cipher.addPeers privateKey cipher peers = .ok next ∧
      noiseK.Ready (noiseK.publicKey privateKey) .initial next ∧
      next.sendNoiseMap.keys = cipher.sendNoiseMap.keys ∪ peers.toFinset := by
  induction peers generalizing cipher with
  | nil => exact ⟨cipher, rfl, ready, by simp⟩
  | cons peer peers ih =>
      obtain ⟨sendState, isSend, initiates⟩ :=
        documented.buildInitiator privateKey peer
      obtain ⟨recvState, isRecv, responds⟩ :=
        documented.buildResponder privateKey peer
      have added : noiseK.Ready (noiseK.publicKey privateKey) .initial
          { sendNoiseMap := cipher.sendNoiseMap.insert peer (.new sendState)
            recvNoiseMap :=
              cipher.recvNoiseMap.insert peer (.new recvState) } := by
        constructor
        · simp only [FiniteMap.keys_insert, ready.keys]
        · intro recipient noise lookup
          rw [FiniteMap.lookup_insert_eq] at lookup
          split_ifs at lookup with same
          · obtain rfl := Option.some.inj lookup
            subst same
            exact .fresh initiates
          · exact ready.writes recipient noise lookup
        · intro sender noise lookup
          rw [FiniteMap.lookup_insert_eq] at lookup
          split_ifs at lookup with same
          · obtain rfl := Option.some.inj lookup
            subst same
            exact .fresh responds
          · exact ready.reads sender noise lookup
      obtain ⟨next, isNext, holds, keys⟩ := ih added
      refine ⟨next, ?_, holds, ?_⟩
      · rw [Cipher.addPeers, isSend, isRecv]
        exact isNext
      · rw [keys, FiniteMap.keys_insert, List.toFinset_cons,
          Finset.insert_union, Finset.union_insert]

/-- A new cipher has fresh states for all the peers. -/
theorem exists_new
    (privateKey : snow.PrivateKey)
    (peers : List PublicKey) :
    ∃ cipher, Cipher.new privateKey peers = .ok cipher ∧
      noiseK.Ready (noiseK.publicKey privateKey) .initial cipher ∧
      cipher.sendNoiseMap.keys = peers.toFinset := by
  have empty : noiseK.Ready (noiseK.publicKey privateKey) .initial
      { sendNoiseMap := ∅, recvNoiseMap := ∅ } := by
    constructor
    · rfl
    · intro recipient noise lookup
      simp at lookup
    · intro sender noise lookup
      simp at lookup
  obtain ⟨cipher, isCipher, ready, keys⟩ :=
    Ready.addPeers documented empty peers
  exact ⟨cipher, isCipher, ready, by simpa using keys⟩

/-- A payload that fits is encrypted as the next message to its recipient. -/
theorem Ready.encrypt
    (ready : noiseK.Ready user counters cipher)
    (ephemeral : Ephemeral)
    {chosen : Option PublicKey}
    {recipient : PublicKey}
    {payload : Payload}
    (isRecipient : cipher.recipientOf chosen = some recipient)
    (peer : recipient ∈ cipher.sendNoiseMap.keys)
    (fits : noiseK.Fits (counters.sent recipient) payload) :
    ∃ next,
      cipher.encrypt ephemeral chosen payload =
          (next, .ok (noiseK.sealing.ciphertext
            ⟨user, recipient, (counters.opened recipient).getD ephemeral⟩
            (counters.sent recipient) payload)) ∧
        noiseK.Ready user (counters.addSent recipient ephemeral) next ∧
        next.sendNoiseMap.keys = cipher.sendNoiseMap.keys := by
  obtain ⟨noise, lookup⟩ := FiniteMap.mem_keys_iff_lookup.mp peer
  obtain ⟨noiseNext, written, writes⟩ :=
    (ready.writes recipient noise lookup).writeMessage documented ephemeral fits
  obtain ⟨next, keys⟩ := ready.setSent peer writes
  refine ⟨_, ?_, next, keys⟩
  simp only [Cipher.encrypt, isRecipient, lookup, written]

/-- A payload that does not fit is refused. -/
theorem Ready.encrypt_fails
    (ready : noiseK.Ready user counters cipher)
    (ephemeral : Ephemeral)
    {chosen : Option PublicKey}
    {recipient : PublicKey}
    {payload : Payload}
    (isRecipient : cipher.recipientOf chosen = some recipient)
    (peer : recipient ∈ cipher.sendNoiseMap.keys)
    (tooLarge : ¬noiseK.Fits (counters.sent recipient) payload) :
    ∃ next,
      cipher.encrypt ephemeral chosen payload =
          (next, .error (.error .snowError)) ∧
        noiseK.Ready user counters next ∧
        next.sendNoiseMap.keys = cipher.sendNoiseMap.keys := by
  obtain ⟨noise, lookup⟩ := FiniteMap.mem_keys_iff_lookup.mp peer
  obtain ⟨noiseNext, refused, writes⟩ :=
    (ready.writes recipient noise lookup).writeMessage_fails documented
      ephemeral tooLarge
  obtain ⟨next, keys⟩ := ready.setSent peer writes
  rw [Counters.setSent_self] at next
  refine ⟨_, ?_, next, keys⟩
  simp only [Cipher.encrypt, isRecipient, lookup, refused]

omit documented in
/-- A message to somebody who is no peer is not encrypted. -/
theorem encrypt_unknown
    (ephemeral : Ephemeral)
    {chosen : Option PublicKey}
    {recipient : PublicKey}
    {payload : Payload}
    (isRecipient : cipher.recipientOf chosen = some recipient)
    (unknown : recipient ∉ cipher.sendNoiseMap.keys) :
    cipher.encrypt ephemeral chosen payload =
      (cipher, .error (.error .unkownRecipient)) := by
  simp only [Cipher.encrypt, isRecipient,
    FiniteMap.lookup_eq_none_of_notMem unknown]

omit documented in
theorem encrypt_unchosen
    (ephemeral : Ephemeral)
    {chosen : Option PublicKey}
    {payload : Payload}
    (unchosen : cipher.recipientOf chosen = none) :
    cipher.encrypt ephemeral chosen payload = (cipher, .error .panic) := by
  simp only [Cipher.encrypt, unchosen]

/-- The next message of a channel from its sender is decrypted. -/
theorem Ready.decrypt
    (ready : noiseK.Ready user counters cipher)
    {msg : Msg PublicKey Message}
    {ephemeral : Ephemeral}
    {payload : Payload}
    (peer : msg.sender ∈ cipher.sendNoiseMap.keys)
    (accepts : noiseK.Accepts msg.sender user (counters.reading msg.sender)
      (counters.received msg.sender) msg.msg ephemeral payload) :
    ∃ next,
      cipher.decrypt msg =
          (next, .ok { sender := msg.sender, msg := payload }) ∧
        noiseK.Ready user (counters.addReceived msg.sender ephemeral) next ∧
        next.sendNoiseMap.keys = cipher.sendNoiseMap.keys := by
  rw [← ready.keys] at peer
  obtain ⟨noise, lookup⟩ := FiniteMap.mem_keys_iff_lookup.mp peer
  obtain ⟨noiseNext, isRead, reads⟩ :=
    (ready.reads msg.sender noise lookup).readMessage documented accepts
  refine ⟨_, ?_, ready.setReceived peer reads, rfl⟩
  simp only [Cipher.decrypt, lookup, isRead]
  rfl

/-- Any other message is refused. -/
theorem Ready.decrypt_fails
    (ready : noiseK.Ready user counters cipher)
    {msg : Msg PublicKey Message}
    (refused : msg.sender ∈ cipher.sendNoiseMap.keys →
      ∀ ephemeral payload,
        ¬noiseK.Accepts msg.sender user (counters.reading msg.sender)
          (counters.received msg.sender) msg.msg ephemeral payload) :
    ∃ next error,
      cipher.decrypt msg = (next, .error (.error error)) ∧
        noiseK.Ready user counters next ∧
        next.sendNoiseMap.keys = cipher.sendNoiseMap.keys := by
  cases lookup : cipher.recvNoiseMap.lookup msg.sender with
  | none =>
      refine ⟨cipher, .unkownSender, ?_, ready, rfl⟩
      simp only [Cipher.decrypt, lookup]
  | some noise =>
      have peer : msg.sender ∈ cipher.recvNoiseMap.keys :=
        FiniteMap.mem_keys_iff_lookup.mpr ⟨noise, lookup⟩
      obtain ⟨noiseNext, isRead, reads⟩ :=
        (ready.reads msg.sender noise lookup).readMessage_fails documented
          (refused (ready.keys ▸ peer))
      have next := ready.setReceived peer reads
      rw [Counters.setReceived_self] at next
      refine ⟨_, .snowError, ?_, next, rfl⟩
      simp only [Cipher.decrypt, lookup, isRead]
      rfl

end NoiseK

end Channel
end MinaMultiSig
