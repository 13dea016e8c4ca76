import MinaMultiSig.Channel.Network

/-!
# The notes of a network are right

Every step keeps the ciphers where the notes say they are, and the ciphertexts at
the server those of the payloads noted as sent. From this follows when a cipher
encrypts, when it decrypts, and what.
-/

namespace MinaMultiSig
namespace Channel

variable {PublicKey Ephemeral Payload Message : Type}
  {snow : Snow PublicKey Ephemeral Payload Message} {Instance : Type}

namespace Network

/-- The ciphertext of a payload. -/
def sealed
    (network : Network snow Instance)
    (stream : Instance × PublicKey)
    (ephemeral : Ephemeral)
    (number : Nat)
    (payload : Payload) : Message :=
  network.noiseK.sealing.ciphertext
    ⟨network.owner stream.1, stream.2, ephemeral⟩ number payload

/-- A reader is a cipher and a sender; it reads what a cipher of that sender
writes to it. -/
def Meant
    (network : Network snow Instance)
    (reader stream : Instance × PublicKey) : Prop :=
  network.owner stream.1 = reader.2 ∧ stream.2 = network.owner reader.1

instance
    [DecidableEq PublicKey]
    (network : Network snow Instance)
    (reader stream : Instance × PublicKey) :
    Decidable (network.Meant reader stream) :=
  inferInstanceAs (Decidable (_ ∧ _))

end Network

variable [DecidableEq PublicKey]

/-- The notes are right: the ciphers count as they say, and the ciphertexts at the
server are those of the payloads sent. -/
structure Synced
    (network : Network snow Instance)
    (world : World snow Instance) : Prop where
  ready : ∀ index cipher, world.ciphers index = some cipher →
    network.noiseK.Ready (network.owner index) (world.counters index) cipher
  unmade : ∀ index, world.ciphers index = none →
    world.counters index = .initial
  posted : ∀ message ∈ world.posted, ∃ stream number ephemeral payload,
    world.opened stream = some ephemeral ∧
      (world.sent stream)[number]? = some payload ∧
      message = network.sealed stream ephemeral number payload
  stored : ∀ stream number payload,
    (world.sent stream)[number]? = some payload →
      network.noiseK.Fits number payload ∧
        ∃ ephemeral, world.opened stream = some ephemeral ∧
          network.sealed stream ephemeral number payload ∈ world.posted
  author : ∀ stream ephemeral, world.opened stream = some ephemeral →
    world.author ephemeral = some stream
  source : ∀ reader ephemeral,
    network.Protected reader.2 (network.owner reader.1) →
      world.reading reader = some ephemeral →
        ∃ stream, world.opened stream = some ephemeral ∧
          network.Meant reader stream

namespace Synced

variable {network : Network snow Instance} {world : World snow Instance}

theorem initial : Synced network (World.initial : World snow Instance) where
  ready := by simp [World.initial]
  unmade := fun _ _ => rfl
  posted := by simp [World.initial]
  stored := by simp [World.initial]
  author := by simp [World.initial]
  source := by simp [World.initial]

/-- A delivered message of a protected channel is one that was sent on it. -/
theorem exists_sent
    (synced : Synced network world)
    {message : Message}
    {sender recipient : PublicKey}
    {ephemeral : Ephemeral}
    {number : Nat}
    {payload : Payload}
    (delivered : network.CanDeliver world message)
    (isProtected : network.Protected sender recipient)
    (made : network.noiseK.sealing.origin message =
      some (⟨sender, recipient, ephemeral⟩, number, payload)) :
    ∃ stream, world.opened stream = some ephemeral ∧
      network.owner stream.1 = sender ∧ stream.2 = recipient ∧
      (world.sent stream)[number]? = some payload := by
  obtain ⟨stream, other, key, content, opened, sent, rfl⟩ :=
    synced.posted message (delivered.mem_posted made isProtected)
  rw [Network.sealed, Sealing.origin_ciphertext] at made
  simp only [Option.some.injEq, Prod.mk.injEq, ChannelId.mk.injEq] at made
  obtain ⟨⟨isSender, isRecipient, rfl⟩, rfl, rfl⟩ := made
  exact ⟨stream, opened, isSender, isRecipient, sent⟩

variable [DecidableEq Instance]

/-- Another state of a cipher that counts the same. -/
theorem setCipher
    (synced : Synced network world)
    {index : Instance}
    {cipher : Cipher snow}
    (ready : network.noiseK.Ready (network.owner index) (world.counters index)
      cipher) :
    Synced network (world.setCipher index cipher) := by
  refine { synced with ready := ?_, unmade := ?_ }
  · intro other otherCipher made
    by_cases same : other = index
    · subst same
      simp only [World.setCipher, Function.update_self,
        Option.some.injEq] at made
      subst made
      exact ready
    · simp only [World.setCipher, Function.update_of_ne same] at made
      exact synced.ready other otherCipher made
  · intro other absent
    by_cases same : other = index
    · subst same
      simp [World.setCipher] at absent
    · simp only [World.setCipher, Function.update_of_ne same] at absent
      exact synced.unmade other absent

/-- A value noted for one direction of one cipher. -/
theorem update_pair
    {α : Type}
    (notes : Instance × PublicKey → α)
    (index other : Instance)
    (key : PublicKey)
    (value : α) :
    (fun peer => Function.update notes (index, key) value (other, peer)) =
      if other = index then
        Function.update (fun peer => notes (index, peer)) key value
      else fun peer => notes (other, peer) := by
  funext peer
  by_cases same : other = index
  · subst same
    rw [if_pos rfl]
    by_cases isKey : peer = key
    · subst isKey
      simp
    · rw [Function.update_of_ne isKey, Function.update_of_ne]
      simp [isKey]
  · rw [if_neg same, Function.update_of_ne]
    simp [same]

/-- The number of payloads noted for one direction of one cipher. -/
theorem length_update_pair
    (notes : Instance × PublicKey → List Payload)
    (index other : Instance)
    (key : PublicKey)
    (payload : Payload) :
    (fun peer => (Function.update notes (index, key)
      (notes (index, key) ++ [payload]) (other, peer)).length) =
      if other = index then
        Function.update (fun peer => (notes (index, peer)).length) key
          ((notes (index, key)).length + 1)
      else fun peer => (notes (other, peer)).length := by
  rw [← update_pair fun stream => (notes stream).length]
  funext peer
  rw [Function.apply_update fun _ => List.length, List.length_append]
  rfl

variable [DecidableEq Ephemeral]

theorem counters_noteSent
    (world : World snow Instance)
    (index other : Instance)
    (recipient : PublicKey)
    (ephemeral : Ephemeral)
    (payload : Payload)
    (message : Message) :
    (world.noteSent (index, recipient) ephemeral payload message).counters
        other =
      if other = index then
        (world.counters index).addSent recipient ephemeral
      else world.counters other := by
  simp only [World.counters, World.noteSent, update_pair, length_update_pair]
  split_ifs with same
  · subst same
    rfl
  · rfl

omit [DecidableEq Ephemeral] in
theorem counters_noteReceived
    (world : World snow Instance)
    (index other : Instance)
    (sender : PublicKey)
    (ephemeral : Ephemeral)
    (payload : Payload) :
    (world.noteReceived (index, sender) (some ephemeral) payload).counters
        other =
      if other = index then
        (world.counters index).addReceived sender ephemeral
      else world.counters other := by
  simp only [World.counters, World.noteReceived, update_pair,
    length_update_pair]
  split_ifs with same
  · subst same
    rfl
  · rfl

omit [DecidableEq Instance] [DecidableEq Ephemeral] in
/-- The ephemeral key of a write is that of no other channel. -/
theorem eq_of_opened
    (synced : Synced network world)
    {stream other : Instance × PublicKey}
    {ephemeral : Ephemeral}
    (fresh : world.author ephemeral = none)
    (opened : world.opened other =
      some ((world.opened stream).getD ephemeral)) :
    other = stream := by
  have author := synced.author other _ opened
  cases before : world.opened stream with
  | none =>
      rw [before, Option.getD_none, fresh] at author
      exact absurd author (by simp)
  | some key =>
      rw [before, Option.getD_some, synced.author stream key before] at author
      exact (Option.some.inj author).symm

omit [DecidableEq Ephemeral] in
/-- A write leaves open what was open. -/
theorem opened_update
    {stream other : Instance × PublicKey}
    {ephemeral key : Ephemeral}
    (opened : world.opened other = some key) :
    Function.update world.opened stream
      (some ((world.opened stream).getD ephemeral)) other = some key := by
  by_cases same : other = stream
  · subst same
    rw [Function.update_self, opened, Option.getD_some]
  · rw [Function.update_of_ne same, opened]

omit [DecidableEq Ephemeral] in
/-- A write keeps the earlier payloads. -/
theorem getElem?_sent_update
    {stream other : Instance × PublicKey}
    {payload earlier : Payload}
    {number : Nat}
    (sent : (world.sent other)[number]? = some earlier) :
    (Function.update world.sent stream
      (world.sent stream ++ [payload]) other)[number]? = some earlier := by
  by_cases same : other = stream
  · subst same
    rw [Function.update_self, List.getElem?_append_left, sent]
    exact (List.getElem?_eq_some_iff.mp sent).1
  · rw [Function.update_of_ne same, sent]

omit [DecidableEq Ephemeral] in
/-- What is noted behind a write was noted before, or it is the payload. -/
theorem getElem?_sent_cases
    {stream other : Instance × PublicKey}
    {payload earlier : Payload}
    {number : Nat}
    (sent : (Function.update world.sent stream
      (world.sent stream ++ [payload]) other)[number]? = some earlier) :
    (world.sent other)[number]? = some earlier ∨
      other = stream ∧ number = (world.sent stream).length ∧
        earlier = payload := by
  by_cases same : other = stream
  · subst same
    rw [Function.update_self] at sent
    rcases Nat.lt_or_ge number (world.sent other).length with before | behind
    · rw [List.getElem?_append_left before] at sent
      exact .inl sent
    · rw [List.getElem?_append_right behind] at sent
      obtain ⟨inRange, isPayload⟩ := List.getElem?_eq_some_iff.mp sent
      rw [List.length_singleton] at inRange
      refine .inr ⟨rfl, by omega, ?_⟩
      rw [← isPayload, List.getElem_singleton]
  · rw [Function.update_of_ne same] at sent
    exact .inl sent

/-- A cipher encrypts one more payload. -/
theorem sent
    (synced : Synced network world)
    {index : Instance}
    {recipient : PublicKey}
    {ephemeral : Ephemeral}
    {payload : Payload}
    {cipher : Cipher snow}
    (fresh : world.author ephemeral = none)
    (fits : network.noiseK.Fits (world.sent (index, recipient)).length payload)
    (ready : network.noiseK.Ready (network.owner index)
      ((world.counters index).addSent recipient ephemeral) cipher) :
    Synced network
      ((world.setCipher index cipher).noteSent (index, recipient) ephemeral
        payload (network.sealed (index, recipient)
          ((world.opened (index, recipient)).getD ephemeral)
          (world.sent (index, recipient)).length payload)) where
  ready := by
    intro other otherCipher made
    rw [counters_noteSent]
    by_cases same : other = index
    · subst same
      rw [if_pos rfl]
      simp only [World.noteSent, World.setCipher, Function.update_self,
        Option.some.injEq] at made
      subst made
      exact ready
    · rw [if_neg same]
      simp only [World.noteSent, World.setCipher,
        Function.update_of_ne same] at made
      exact synced.ready other otherCipher made
  unmade := by
    intro other absent
    have different : other ≠ index := by
      rintro rfl
      simp [World.noteSent, World.setCipher] at absent
    rw [counters_noteSent, if_neg different]
    simp only [World.noteSent, World.setCipher,
      Function.update_of_ne different] at absent
    exact synced.unmade other absent
  posted := by
    intro message member
    rcases List.mem_append.mp member with before | isNew
    · obtain ⟨stream, number, key, content, opened, isSent, rfl⟩ :=
        synced.posted message before
      exact ⟨stream, number, key, content, opened_update opened,
        getElem?_sent_update isSent, rfl⟩
    · refine ⟨(index, recipient), _, _, payload, ?_, ?_,
        List.mem_singleton.mp isNew⟩
      · simp only [World.noteSent, World.setCipher, Function.update_self]
      · simp [World.noteSent, World.setCipher]
  stored := by
    intro stream number content isSent
    rcases getElem?_sent_cases isSent with before | ⟨rfl, rfl, rfl⟩
    · obtain ⟨itFits, key, opened, member⟩ :=
        synced.stored stream number content before
      exact ⟨itFits, key, opened_update opened,
        List.mem_append_left _ member⟩
    · refine ⟨fits, _, Function.update_self _ _ _, ?_⟩
      exact List.mem_append_right _ (List.mem_singleton.mpr rfl)
  author := by
    intro stream key opened
    by_cases same : stream = (index, recipient)
    · subst same
      simp only [World.noteSent, World.setCipher, Function.update_self,
        Option.some.injEq] at opened ⊢
      rw [opened, Function.update_self]
    · simp only [World.noteSent, World.setCipher,
        Function.update_of_ne same] at opened ⊢
      rw [Function.update_of_ne]
      · exact synced.author stream key opened
      · rintro rfl
        exact same (synced.eq_of_opened fresh opened)
  source := by
    intro reader key isProtected reading
    obtain ⟨stream, opened, meant⟩ :=
      synced.source reader key isProtected reading
    exact ⟨stream, opened_update opened, meant⟩

omit [DecidableEq Ephemeral] in
/-- A cipher decrypts one more payload. -/
theorem received
    (synced : Synced network world)
    {index : Instance}
    {sender : PublicKey}
    {ephemeral : Ephemeral}
    {payload : Payload}
    {cipher : Cipher snow}
    (fromStream : network.Protected sender (network.owner index) →
      ∃ stream, world.opened stream = some ephemeral ∧
        network.Meant (index, sender) stream)
    (ready : network.noiseK.Ready (network.owner index)
      ((world.counters index).addReceived sender ephemeral) cipher) :
    Synced network
      ((world.setCipher index cipher).noteReceived (index, sender)
        (some ephemeral) payload) where
  ready := by
    intro other otherCipher made
    rw [counters_noteReceived]
    by_cases same : other = index
    · subst same
      rw [if_pos rfl]
      simp only [World.noteReceived, World.setCipher, Function.update_self,
        Option.some.injEq] at made
      subst made
      exact ready
    · rw [if_neg same]
      simp only [World.noteReceived, World.setCipher,
        Function.update_of_ne same] at made
      exact synced.ready other otherCipher made
  unmade := by
    intro other absent
    have different : other ≠ index := by
      rintro rfl
      simp [World.noteReceived, World.setCipher] at absent
    rw [counters_noteReceived, if_neg different]
    simp only [World.noteReceived, World.setCipher,
      Function.update_of_ne different] at absent
    exact synced.unmade other absent
  posted := synced.posted
  stored := synced.stored
  author := synced.author
  source := by
    intro reader key isProtected reading
    by_cases same : reader = (index, sender)
    · subst same
      simp only [World.noteReceived, Function.update_self,
        Option.some.injEq] at reading
      subst reading
      exact fromStream isProtected
    · simp only [World.noteReceived, Function.update_of_ne same] at reading
      exact synced.source reader key isProtected reading

variable (documented : network.noiseK.Documented)
  {index : Instance} {cipher : Cipher snow}

include documented

/-- A payload that fits is encrypted for a peer, and stored at the server. -/
theorem encrypt_ok
    (synced : Synced network world)
    (made : world.ciphers index = some cipher)
    (ephemeral : Ephemeral)
    {chosen : Option PublicKey}
    {recipient : PublicKey}
    {payload : Payload}
    (isRecipient : cipher.recipientOf chosen = some recipient)
    (peer : recipient ∈ cipher.sendNoiseMap.keys)
    (fits : network.noiseK.Fits (world.sent (index, recipient)).length
      payload) :
    ∃ next message,
      message = network.sealed (index, recipient)
          ((world.opened (index, recipient)).getD ephemeral)
          (world.sent (index, recipient)).length payload ∧
        world.encrypt index ephemeral chosen payload =
          ((world.setCipher index next).noteSent (index, recipient) ephemeral
            payload message, .ok message) ∧
        network.noiseK.Ready (network.owner index)
          ((world.counters index).addSent recipient ephemeral) next ∧
        next.sendNoiseMap.keys = cipher.sendNoiseMap.keys := by
  obtain ⟨next, encrypted, ready, keys⟩ :=
    (synced.ready index cipher made).encrypt documented ephemeral isRecipient
      peer fits
  refine ⟨next, _, rfl, ?_, ready, keys⟩
  simp only [World.encrypt, made, encrypted, isRecipient]
  rfl

/-- Nothing else is encrypted; without a recipient the code panics. -/
theorem encrypt_fails
    (synced : Synced network world)
    (made : world.ciphers index = some cipher)
    (ephemeral : Ephemeral)
    {chosen : Option PublicKey}
    {payload : Payload}
    (refused : ∀ recipient, cipher.recipientOf chosen = some recipient →
      recipient ∈ cipher.sendNoiseMap.keys →
        ¬network.noiseK.Fits (world.sent (index, recipient)).length payload) :
    ∃ next failure,
      world.encrypt index ephemeral chosen payload =
          (world.setCipher index next, .error failure) ∧
        (failure = .panic ↔ cipher.recipientOf chosen = none) ∧
        network.noiseK.Ready (network.owner index) (world.counters index)
          next ∧
        next.sendNoiseMap.keys = cipher.sendNoiseMap.keys := by
  have ready := synced.ready index cipher made
  cases isRecipient : cipher.recipientOf chosen with
  | none =>
      refine ⟨cipher, .panic, ?_, by simp, ready, rfl⟩
      simp only [World.encrypt, made, isRecipient,
        NoiseK.encrypt_unchosen ephemeral isRecipient]
  | some recipient =>
      by_cases peer : recipient ∈ cipher.sendNoiseMap.keys
      · obtain ⟨next, failed, nextReady, keys⟩ :=
          ready.encrypt_fails documented ephemeral isRecipient peer
            (refused recipient isRecipient peer)
        refine ⟨next, .error .snowError, ?_, by simp, nextReady, keys⟩
        simp only [World.encrypt, made, isRecipient, failed]
      · refine ⟨cipher, .error .unkownRecipient, ?_, by simp, ready, rfl⟩
        simp only [World.encrypt, made, isRecipient,
          NoiseK.encrypt_unknown ephemeral isRecipient peer]

omit [DecidableEq Ephemeral] in
/-- The next message of a channel is decrypted. -/
theorem decrypt_ok
    (synced : Synced network world)
    (made : world.ciphers index = some cipher)
    {msg : Msg PublicKey Message}
    {ephemeral : Ephemeral}
    {payload : Payload}
    (peer : msg.sender ∈ cipher.sendNoiseMap.keys)
    (accepts : network.noiseK.Accepts msg.sender (network.owner index)
      (world.reading (index, msg.sender))
      (world.received (index, msg.sender)).length msg.msg ephemeral payload) :
    ∃ next,
      world.decrypt network index msg =
          ((world.setCipher index next).noteReceived (index, msg.sender)
            (some ephemeral) payload,
            .ok { sender := msg.sender, msg := payload }) ∧
        network.noiseK.Ready (network.owner index)
          ((world.counters index).addReceived msg.sender ephemeral) next ∧
        next.sendNoiseMap.keys = cipher.sendNoiseMap.keys := by
  obtain ⟨next, decrypted, ready, keys⟩ :=
    (synced.ready index cipher made).decrypt documented peer accepts
  refine ⟨next, ?_, ready, keys⟩
  simp only [World.decrypt, made, decrypted, accepts.1, Option.map_some]

omit [DecidableEq Ephemeral] in
/-- Any other message is refused, and all the counters stay. -/
theorem decrypt_fails
    (synced : Synced network world)
    (made : world.ciphers index = some cipher)
    {msg : Msg PublicKey Message}
    (refused : msg.sender ∈ cipher.sendNoiseMap.keys →
      ∀ ephemeral payload,
        ¬network.noiseK.Accepts msg.sender (network.owner index)
          (world.reading (index, msg.sender))
          (world.received (index, msg.sender)).length msg.msg ephemeral
          payload) :
    ∃ next error,
      world.decrypt network index msg =
          (world.setCipher index next, .error (.error error)) ∧
        network.noiseK.Ready (network.owner index) (world.counters index)
          next ∧
        next.sendNoiseMap.keys = cipher.sendNoiseMap.keys := by
  obtain ⟨next, error, failed, ready, keys⟩ :=
    (synced.ready index cipher made).decrypt_fails documented refused
  refine ⟨next, error, ?_, ready, keys⟩
  simp only [World.decrypt, made, failed]

/-- A cipher encrypts, or it refuses and all the counters stay. -/
theorem encrypt_cases
    (synced : Synced network world)
    (made : world.ciphers index = some cipher)
    (ephemeral : Ephemeral)
    (chosen : Option PublicKey)
    (payload : Payload) :
    (∃ recipient next message,
      (recipient ∈ cipher.sendNoiseMap.keys ∧
          cipher.recipientOf chosen = some recipient ∧
          network.noiseK.Fits (world.sent (index, recipient)).length payload) ∧
        message = network.sealed (index, recipient)
          ((world.opened (index, recipient)).getD ephemeral)
          (world.sent (index, recipient)).length payload ∧
        world.encrypt index ephemeral chosen payload =
          ((world.setCipher index next).noteSent (index, recipient) ephemeral
            payload message, .ok message) ∧
        network.noiseK.Ready (network.owner index)
          ((world.counters index).addSent recipient ephemeral) next ∧
        next.sendNoiseMap.keys = cipher.sendNoiseMap.keys) ∨
      (¬∃ recipient ∈ cipher.sendNoiseMap.keys,
          cipher.recipientOf chosen = some recipient ∧
          network.noiseK.Fits (world.sent (index, recipient)).length
            payload) ∧
        ∃ next failure,
          world.encrypt index ephemeral chosen payload =
              (world.setCipher index next, .error failure) ∧
            (failure = .panic ↔ cipher.recipientOf chosen = none) ∧
            network.noiseK.Ready (network.owner index) (world.counters index)
              next ∧
            next.sendNoiseMap.keys = cipher.sendNoiseMap.keys := by
  by_cases accepted : ∃ recipient ∈ cipher.sendNoiseMap.keys,
      cipher.recipientOf chosen = some recipient ∧
        network.noiseK.Fits (world.sent (index, recipient)).length payload
  · left
    obtain ⟨recipient, peer, isRecipient, fits⟩ := accepted
    obtain ⟨next, message, isSealed, encrypted, ready, keys⟩ :=
      synced.encrypt_ok documented made ephemeral isRecipient peer fits
    exact ⟨recipient, next, message, ⟨peer, isRecipient, fits⟩, isSealed,
      encrypted, ready, keys⟩
  · right
    obtain ⟨next, failure, failed, isPanic, ready, keys⟩ :=
      synced.encrypt_fails documented made ephemeral
        fun recipient isRecipient peer fits =>
          accepted ⟨recipient, peer, isRecipient, fits⟩
    exact ⟨accepted, next, failure, failed, isPanic, ready, keys⟩

omit [DecidableEq Ephemeral] in
/-- A cipher decrypts, or it refuses and all the counters stay. -/
theorem decrypt_cases
    (synced : Synced network world)
    (made : world.ciphers index = some cipher)
    (msg : Msg PublicKey Message) :
    (∃ ephemeral payload next,
      msg.sender ∈ cipher.sendNoiseMap.keys ∧
        network.noiseK.Accepts msg.sender (network.owner index)
          (world.reading (index, msg.sender))
          (world.received (index, msg.sender)).length msg.msg ephemeral
          payload ∧
        world.decrypt network index msg =
          ((world.setCipher index next).noteReceived (index, msg.sender)
            (some ephemeral) payload,
            .ok { sender := msg.sender, msg := payload }) ∧
        network.noiseK.Ready (network.owner index)
          ((world.counters index).addReceived msg.sender ephemeral) next ∧
        next.sendNoiseMap.keys = cipher.sendNoiseMap.keys) ∨
      ∃ next error,
        world.decrypt network index msg =
            (world.setCipher index next, .error (.error error)) ∧
          network.noiseK.Ready (network.owner index) (world.counters index)
            next ∧
          next.sendNoiseMap.keys = cipher.sendNoiseMap.keys := by
  by_cases accepted : msg.sender ∈ cipher.sendNoiseMap.keys ∧
      ∃ ephemeral payload,
        network.noiseK.Accepts msg.sender (network.owner index)
          (world.reading (index, msg.sender))
          (world.received (index, msg.sender)).length msg.msg ephemeral payload
  · left
    obtain ⟨peer, ephemeral, payload, accepts⟩ := accepted
    obtain ⟨next, decrypted, ready, keys⟩ :=
      synced.decrypt_ok documented made peer accepts
    exact ⟨ephemeral, payload, next, peer, accepts, decrypted, ready, keys⟩
  · right
    obtain ⟨next, error, failed, ready, keys⟩ :=
      synced.decrypt_fails documented made
        fun peer ephemeral payload accepts =>
          accepted ⟨peer, ephemeral, payload, accepts⟩
    exact ⟨next, error, failed, ready, keys⟩

/-- An encryption with a new ephemeral key keeps the notes right. -/
theorem encrypt
    (synced : Synced network world)
    {ephemeral : Ephemeral}
    (fresh : world.author ephemeral = none)
    (chosen : Option PublicKey)
    (payload : Payload) :
    Synced network (world.encrypt index ephemeral chosen payload).1 := by
  cases made : world.ciphers index with
  | none => simpa only [World.encrypt, made] using synced
  | some cipher =>
      rcases synced.encrypt_cases documented made ephemeral chosen payload with
        ⟨recipient, next, _, ⟨-, -, fits⟩, rfl, encrypted, ready, -⟩ |
        ⟨-, next, failure, failed, -, ready, -⟩
      · rw [encrypted]
        exact synced.sent fresh fits ready
      · rw [failed]
        exact synced.setCipher ready

omit [DecidableEq Ephemeral] in
/-- A decryption keeps the notes right. -/
theorem decrypt
    (synced : Synced network world)
    {msg : Msg PublicKey Message}
    (delivered : network.CanDeliver world msg.msg) :
    Synced network (world.decrypt network index msg).1 := by
  cases made : world.ciphers index with
  | none => simpa only [World.decrypt, made] using synced
  | some cipher =>
      rcases synced.decrypt_cases documented made msg with
        ⟨ephemeral, payload, next, -, accepts, decrypted, ready, -⟩ |
        ⟨next, error, failed, ready, -⟩
      · rw [decrypted]
        refine synced.received ?_ ready
        intro isProtected
        obtain ⟨stream, opened, isSender, isRecipient, -⟩ :=
          synced.exists_sent delivered isProtected accepts.1
        exact ⟨stream, opened, isSender, isRecipient⟩
      · rw [failed]
        exact synced.setCipher ready

theorem step
    [DecidableEq Message]
    (synced : Synced network world)
    {action : Action PublicKey Ephemeral Payload Message Instance}
    {next : World snow Instance}
    (stepped : network.step world action = some next) :
    Synced network next := by
  cases action with
  | new index peers =>
      obtain ⟨cipher, isNew, ready, -⟩ :=
        NoiseK.exists_new documented (network.privateKey index) peers
      simp only [Network.step, isNew] at stepped
      cases made : world.ciphers index with
      | none =>
          rw [made] at stepped
          obtain rfl := Option.some.inj stepped
          apply synced.setCipher
          rw [synced.unmade index made]
          exact ready
      | some other => simp [made] at stepped
  | encrypt index ephemeral chosen payload =>
      simp only [Network.step] at stepped
      split_ifs at stepped with fresh
      obtain rfl := Option.some.inj stepped
      exact synced.encrypt documented fresh chosen payload
  | decrypt index msg =>
      simp only [Network.step] at stepped
      split_ifs at stepped with delivered
      obtain rfl := Option.some.inj stepped
      exact synced.decrypt documented delivered

theorem of_reachable
    [DecidableEq Message]
    (reachable : network.system.Reachable world) :
    Synced network world := by
  apply reachable.invariant
  · exact .initial
  · intro state action next synced stepped
    exact synced.step documented stepped

end Synced

/-- Only one of the ciphers has done anything. -/
structure World.OnlyMoved
    (index : Instance)
    (world next : World snow Instance) : Prop where
  ciphers : ∀ other, other ≠ index → next.ciphers other = world.ciphers other
  sent : ∀ stream : Instance × PublicKey, stream.1 ≠ index →
    next.sent stream = world.sent stream
  received : ∀ reader : Instance × PublicKey, reader.1 ≠ index →
    next.received reader = world.received reader

namespace World

variable {index : Instance} {world middle next : World snow Instance}

omit [DecidableEq PublicKey] in
theorem OnlyMoved.refl (world : World snow Instance) :
    OnlyMoved index world world :=
  ⟨fun _ _ => rfl, fun _ _ => rfl, fun _ _ => rfl⟩

omit [DecidableEq PublicKey] in
theorem OnlyMoved.trans
    (first : OnlyMoved index world middle)
    (second : OnlyMoved index middle next) :
    OnlyMoved index world next where
  ciphers := fun other different =>
    (second.ciphers other different).trans (first.ciphers other different)
  sent := fun stream different =>
    (second.sent stream different).trans (first.sent stream different)
  received := fun reader different =>
    (second.received reader different).trans (first.received reader different)

variable [DecidableEq Instance]

omit [DecidableEq PublicKey] in
theorem OnlyMoved.setCipher (cipher : Cipher snow) :
    OnlyMoved index world (world.setCipher index cipher) :=
  ⟨fun _ different => Function.update_of_ne different _ _, fun _ _ => rfl,
    fun _ _ => rfl⟩

theorem OnlyMoved.noteSent
    [DecidableEq Ephemeral]
    (recipient : PublicKey)
    (ephemeral : Ephemeral)
    (payload : Payload)
    (message : Message) :
    OnlyMoved index world
      (world.noteSent (index, recipient) ephemeral payload message) := by
  refine ⟨fun _ _ => rfl, ?_, fun _ _ => rfl⟩
  intro stream different
  apply Function.update_of_ne
  rintro rfl
  exact different rfl

theorem OnlyMoved.noteReceived
    (sender : PublicKey)
    (ephemeral : Option Ephemeral)
    (payload : Payload) :
    OnlyMoved index world
      (world.noteReceived (index, sender) ephemeral payload) := by
  refine ⟨fun _ _ => rfl, fun _ _ => rfl, ?_⟩
  intro reader different
  apply Function.update_of_ne
  rintro rfl
  exact different rfl

end World

namespace Synced

variable {network : Network snow Instance} {world : World snow Instance}
variable [DecidableEq Instance] (documented : network.noiseK.Documented)
  {index : Instance} {cipher : Cipher snow}

include documented

/-- What an encryption for a given peer changes: the payload is sent, or nothing
is. -/
theorem encrypt_effect
    [DecidableEq Ephemeral]
    (synced : Synced network world)
    (made : world.ciphers index = some cipher)
    (ephemeral : Ephemeral)
    (recipient : PublicKey)
    (payload : Payload) :
    ∃ next result,
      world.encrypt index ephemeral (some recipient) payload = (next, result) ∧
        (∃ nextCipher, next.ciphers index = some nextCipher ∧
          nextCipher.sendNoiseMap.keys = cipher.sendNoiseMap.keys) ∧
        World.OnlyMoved index world next ∧
        next.received = world.received ∧
        ((∃ message, result = .ok message ∧
          next.sent = Function.update world.sent (index, recipient)
            (world.sent (index, recipient) ++ [payload])) ∨
          ∃ failure, result = .error failure ∧ next.sent = world.sent) := by
  rcases synced.encrypt_cases documented made ephemeral (some recipient)
      payload with
    ⟨other, nextCipher, message, ⟨-, isRecipient, -⟩, -, encrypted, -, keys⟩ |
    ⟨-, nextCipher, failure, failed, -, -, keys⟩
  · obtain rfl := Option.some.inj isRecipient
    exact ⟨_, _, encrypted,
      ⟨nextCipher, Function.update_self _ _ _, keys⟩,
      (World.OnlyMoved.setCipher nextCipher).trans
        (World.OnlyMoved.noteSent recipient ephemeral payload message),
      rfl, .inl ⟨message, rfl, rfl⟩⟩
  · exact ⟨_, _, failed, ⟨nextCipher, Function.update_self _ _ _, keys⟩,
      World.OnlyMoved.setCipher nextCipher, rfl, .inr ⟨failure, rfl, rfl⟩⟩

/-- What a decryption changes: a payload of a peer is received, or none is. -/
theorem decrypt_effect
    (synced : Synced network world)
    (made : world.ciphers index = some cipher)
    (msg : Msg PublicKey Message) :
    ∃ next result,
      world.decrypt network index msg = (next, result) ∧
        (∃ nextCipher, next.ciphers index = some nextCipher ∧
          nextCipher.sendNoiseMap.keys = cipher.sendNoiseMap.keys) ∧
        World.OnlyMoved index world next ∧
        next.sent = world.sent ∧ next.posted = world.posted ∧
        ((∃ payload, result = .ok { sender := msg.sender, msg := payload } ∧
          msg.sender ∈ cipher.sendNoiseMap.keys ∧
          next.received = Function.update world.received (index, msg.sender)
            (world.received (index, msg.sender) ++ [payload])) ∨
          ∃ failure, result = .error failure ∧
            next.received = world.received) := by
  rcases synced.decrypt_cases documented made msg with
    ⟨ephemeral, payload, nextCipher, peer, -, decrypted, -, keys⟩ |
    ⟨nextCipher, error, failed, -, keys⟩
  · exact ⟨_, _, decrypted, ⟨nextCipher, Function.update_self _ _ _, keys⟩,
      (World.OnlyMoved.setCipher nextCipher).trans
        (World.OnlyMoved.noteReceived msg.sender (some ephemeral) payload),
      rfl, rfl, .inl ⟨payload, rfl, peer, rfl⟩⟩
  · exact ⟨_, _, failed, ⟨nextCipher, Function.update_self _ _ _, keys⟩,
      World.OnlyMoved.setCipher nextCipher, rfl, rfl,
      .inr ⟨.error error, rfl, rfl⟩⟩

end Synced

end Channel
end MinaMultiSig
