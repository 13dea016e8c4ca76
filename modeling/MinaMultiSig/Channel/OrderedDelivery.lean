import MinaMultiSig.Channel.NetworkInvariant
import MinaMultiSig.Channel.ReferenceSnow

/-!
# Ordered authenticated delivery

The ciphers over the server are streams with readers: what a cipher decrypts from
an honest sender is what one cipher of that sender encrypted to it, each payload
once and in order, whatever the server does. Which cipher that is the server can
choose, with the first message it hands out; afterwards it can only hold messages
back.
-/

namespace MinaMultiSig
namespace Channel

variable {PublicKey Ephemeral Payload Message : Type}
  {snow : Snow PublicKey Ephemeral Payload Message} {Instance : Type}
variable [DecidableEq PublicKey]

/-- The streams between honest users. -/
def Network.streams
    (network : Network snow Instance)
    (world : World snow Instance) :
    Streams (Instance × PublicKey) (Instance × PublicKey) Payload where
  written := world.sent
  source := fun reader =>
    if network.Protected reader.2 (network.owner reader.1) then
      (world.reading reader).bind world.author
    else none
  received := fun reader =>
    if network.Protected reader.2 (network.owner reader.1) then
      world.received reader
    else []

namespace Synced

variable {network : Network snow Instance} {world : World snow Instance}

/-- The stream an honest reader follows is the one with the ephemeral key it has
read. -/
theorem source_eq_some_iff
    (synced : Synced network world)
    {reader stream : Instance × PublicKey}
    (isProtected : network.Protected reader.2 (network.owner reader.1)) :
    (network.streams world).source reader = some stream ↔
      ∃ ephemeral, world.reading reader = some ephemeral ∧
        world.opened stream = some ephemeral := by
  simp only [Network.streams, if_pos isProtected, Option.bind_eq_some_iff]
  constructor
  · rintro ⟨ephemeral, reading, author⟩
    obtain ⟨other, opened, -⟩ :=
      synced.source reader ephemeral isProtected reading
    have same : some other = some stream :=
      (synced.author other ephemeral opened).symm.trans author
    obtain rfl := Option.some.inj same
    exact ⟨ephemeral, reading, opened⟩
  · rintro ⟨ephemeral, reading, opened⟩
    exact ⟨ephemeral, reading, synced.author stream ephemeral opened⟩

/-- A reader may take a message of a stream exactly if it has read nothing else
than the ephemeral key of that stream. -/
theorem follows_iff
    (synced : Synced network world)
    {reader stream : Instance × PublicKey}
    {ephemeral : Ephemeral}
    (isProtected : network.Protected reader.2 (network.owner reader.1))
    (opened : world.opened stream = some ephemeral) :
    (network.streams world).Follows reader stream ↔
      ∀ key ∈ world.reading reader, key = ephemeral := by
  constructor
  · intro follows key reading
    obtain ⟨other, otherOpened, -⟩ :=
      synced.source reader key isProtected reading
    have isSource : (network.streams world).source reader = some other :=
      (synced.source_eq_some_iff isProtected).mpr ⟨key, reading, otherOpened⟩
    obtain rfl := follows other isSource
    exact Option.some.inj (otherOpened.symm.trans opened)
  · intro only other isSource
    obtain ⟨key, reading, otherOpened⟩ :=
      (synced.source_eq_some_iff isProtected).mp isSource
    obtain rfl := only key reading
    have author := synced.author other key otherOpened
    rw [synced.author stream key opened] at author
    exact (Option.some.inj author).symm

variable [DecidableEq Instance]

/-- A write of a cipher is a write to a stream. -/
theorem streams_noteSent
    [DecidableEq Ephemeral]
    (synced : Synced network world)
    {stream : Instance × PublicKey}
    {ephemeral : Ephemeral}
    (fresh : world.author ephemeral = none)
    (index : Instance)
    (cipher : Cipher snow)
    (payload : Payload)
    (message : Message) :
    (Streams.system network.Meant).step (network.streams world)
        (.write stream payload) =
      some (network.streams ((world.setCipher index cipher).noteSent stream
        ephemeral payload message)) := by
  simp only [Streams.system, Streams.step, Network.streams, World.noteSent,
    World.setCipher, Option.some.injEq, Streams.mk.injEq, true_and, and_true]
  funext reader
  split_ifs with isProtected
  · cases reading : world.reading reader with
    | none => rfl
    | some key =>
        obtain ⟨other, opened, -⟩ :=
          synced.source reader key isProtected reading
        rw [Option.bind_some, Option.bind_some]
        by_cases same : key = (world.opened stream).getD ephemeral
        · rw [same] at opened ⊢
          rw [Function.update_self, synced.author other _ opened,
            synced.eq_of_opened fresh opened]
        · rw [Function.update_of_ne same]
  · rfl

/-- A read of a message of a stream. -/
theorem streams_noteReceived
    (synced : Synced network world)
    {index : Instance}
    {sender : PublicKey}
    {stream : Instance × PublicKey}
    {ephemeral : Ephemeral}
    {payload : Payload}
    (isProtected : network.Protected sender (network.owner index))
    (meant : network.Meant (index, sender) stream)
    (opened : world.opened stream = some ephemeral)
    (only : ∀ key ∈ world.reading (index, sender), key = ephemeral)
    (isNext : (world.sent stream)[(world.received (index, sender)).length]? =
      some payload)
    (cipher : Cipher snow) :
    (Streams.system network.Meant).step (network.streams world)
        (.read (index, sender) stream) =
      some (network.streams ((world.setCipher index cipher).noteReceived
        (index, sender) (some ephemeral) payload)) := by
  have follows : (network.streams world).Follows (index, sender) stream :=
    (synced.follows_iff isProtected opened).mpr only
  have received : (network.streams world).received (index, sender) =
      world.received (index, sender) := if_pos isProtected
  have written : (network.streams world).written = world.sent := rfl
  simp only [Streams.system]
  rw [Streams.step, if_pos ⟨meant, follows⟩, received, written, isNext,
    Option.map_some, Option.some.injEq]
  simp only [Network.streams, World.noteReceived, World.setCipher,
    Streams.mk.injEq, true_and]
  constructor
  · funext reader
    by_cases same : reader = (index, sender)
    · subst same
      rw [Function.update_self, if_pos isProtected, Function.update_self,
        Option.bind_some, synced.author stream ephemeral opened]
    · rw [Function.update_of_ne same, Function.update_of_ne same]
  · funext reader
    by_cases same : reader = (index, sender)
    · subst same
      rw [Function.update_self, if_pos isProtected, Function.update_self]
    · rw [Function.update_of_ne same, Function.update_of_ne same]

omit [DecidableEq PublicKey] in
/-- A read from a sender that is not honest, or by a reader that is not. -/
theorem streams_noteReceived_of_not
    [DecidableEq PublicKey]
    {index : Instance}
    {sender : PublicKey}
    (unprotected : ¬network.Protected sender (network.owner index))
    (ephemeral : Option Ephemeral)
    (payload : Payload)
    (cipher : Cipher snow) :
    network.streams ((world.setCipher index cipher).noteReceived
      (index, sender) ephemeral payload) = network.streams world := by
  simp only [Network.streams, World.noteReceived, World.setCipher,
    Streams.mk.injEq, true_and]
  constructor
  · funext reader
    split_ifs with isProtected
    · rw [Function.update_of_ne]
      rintro rfl
      exact unprotected isProtected
    · rfl
  · funext reader
    split_ifs with isProtected
    · rw [Function.update_of_ne]
      rintro rfl
      exact unprotected isProtected
    · rfl

variable [DecidableEq Ephemeral] [DecidableEq Message]
  (documented : network.noiseK.Documented)
include documented

omit [DecidableEq Message] in
theorem streams_encrypt
    (synced : Synced network world)
    {ephemeral : Ephemeral}
    (fresh : world.author ephemeral = none)
    (index : Instance)
    (chosen : Option PublicKey)
    (payload : Payload) :
    (Streams.system network.Meant).Reaches (network.streams world)
      (network.streams (world.encrypt index ephemeral chosen payload).1) := by
  cases made : world.ciphers index with
  | none =>
      rw [World.encrypt, made]
      exact .refl _
  | some cipher =>
      rcases synced.encrypt_cases documented made ephemeral chosen payload with
        ⟨recipient, next, message, -, -, encrypted, -⟩ |
        ⟨-, next, failure, failed, -, -⟩
      · rw [encrypted]
        exact .single (synced.streams_noteSent fresh index next payload message)
      · rw [failed]
        exact .refl _

omit [DecidableEq Message] [DecidableEq Ephemeral] in
theorem streams_decrypt
    (synced : Synced network world)
    (index : Instance)
    {msg : Msg PublicKey Message}
    (delivered : network.CanDeliver world msg.msg) :
    (Streams.system network.Meant).Reaches (network.streams world)
      (network.streams (world.decrypt network index msg).1) := by
  cases made : world.ciphers index with
  | none =>
      rw [World.decrypt, made]
      exact .refl _
  | some cipher =>
      rcases synced.decrypt_cases documented made msg with
        ⟨ephemeral, payload, next, -, accepts, decrypted, -⟩ |
        ⟨next, error, failed, -⟩
      · rw [decrypted]
        by_cases isProtected :
            network.Protected msg.sender (network.owner index)
        · obtain ⟨stream, opened, isSender, isRecipient, sent⟩ :=
            synced.exists_sent delivered isProtected accepts.1
          exact .single (synced.streams_noteReceived isProtected
            ⟨isSender, isRecipient⟩ opened accepts.2.1 sent next)
        · rw [streams_noteReceived_of_not isProtected]
          exact .refl _
      · rw [failed]
        exact .refl _

/-- Every step of the network is one of the streams, or none. -/
theorem streams_step
    (synced : Synced network world)
    {action : Action PublicKey Ephemeral Payload Message Instance}
    {next : World snow Instance}
    (stepped : network.step world action = some next) :
    (Streams.system network.Meant).Reaches (network.streams world)
      (network.streams next) := by
  cases action with
  | new index peers =>
      simp only [Network.step] at stepped
      split at stepped
      · obtain rfl := Option.some.inj stepped
        exact .refl _
      · exact absurd stepped (by simp)
  | encrypt index ephemeral chosen payload =>
      simp only [Network.step] at stepped
      split_ifs at stepped with fresh
      obtain rfl := Option.some.inj stepped
      exact synced.streams_encrypt documented fresh index chosen payload
  | decrypt index msg =>
      simp only [Network.step] at stepped
      split_ifs at stepped with delivered
      obtain rfl := Option.some.inj stepped
      exact synced.streams_decrypt documented index delivered

end Synced

namespace Network

variable {network : Network snow Instance} {world : World snow Instance}
variable [DecidableEq Instance] [DecidableEq Ephemeral] [DecidableEq Message]
  (documented : network.noiseK.Documented)

include documented

/-- The network refines the streams. -/
theorem streams_reachable
    (reachable : network.system.Reachable world) :
    (Streams.system network.Meant).Reachable (network.streams world) := by
  have initially : (Streams.system network.Meant).initial =
      network.streams World.initial := by
    simp [Streams.system, streams, World.initial]
  obtain ⟨streams, simulates, -, rfl⟩ := reachable.simulated
    (fun world streams =>
      Synced network world ∧ streams = network.streams world)
    ⟨.initial, initially⟩
    (by
      rintro state action next _ - ⟨synced, rfl⟩ stepped
      exact ⟨_, synced.streams_step documented stepped,
        synced.step documented stepped, rfl⟩)
  exact simulates

/-- What a cipher of an honest user has read from an honest sender is nothing or
the start of a stream meant for it. -/
theorem received_cases
    (reachable : network.system.Reachable world)
    (reader : Instance × PublicKey)
    (isProtected : network.Protected reader.2 (network.owner reader.1)) :
    world.received reader = [] ∨
      ∃ stream, network.Meant reader stream ∧
        world.received reader <+: world.sent stream := by
  have inOrder :=
    Streams.inOrder_of_reachable (streams_reachable documented reachable)
  have received : (network.streams world).received reader =
      world.received reader := if_pos isProtected
  rw [← received]
  cases source : (network.streams world).source reader with
  | none => exact .inl (inOrder.idle _ source)
  | some stream => exact .inr ⟨stream, inOrder.follows _ stream source⟩

/-- What a cipher of an honest user has read from an honest sender is the start of
what one cipher of that sender wrote to it. -/
theorem received_in_order
    (reachable : network.system.Reachable world)
    {index : Instance}
    {sender : PublicKey}
    (isProtected : network.Protected sender (network.owner index)) :
    world.received (index, sender) = [] ∨
      ∃ writer, network.owner writer = sender ∧
        world.received (index, sender) <+:
          world.sent (writer, network.owner index) := by
  rcases received_cases documented reachable (index, sender) isProtected with
    nothing | ⟨⟨writer, _⟩, ⟨isSender, rfl⟩, start⟩
  · exact .inl nothing
  · exact .inr ⟨writer, isSender, start⟩

/-- A message of an honest sender is decrypted exactly if the cipher knows the
sender and the message is the ciphertext of the next payload of a stream to it:
the one it follows, or any if it has read nothing. -/
theorem decrypt_eq_ok_iff
    (reachable : network.system.Reachable world)
    {index : Instance}
    {cipher : Cipher snow}
    (made : world.ciphers index = some cipher)
    {msg : Msg PublicKey Message}
    (delivered : network.CanDeliver world msg.msg)
    (isProtected : network.Protected msg.sender (network.owner index))
    (payload : Payload) :
    (world.decrypt network index msg).2 =
        .ok { sender := msg.sender, msg := payload } ↔
      msg.sender ∈ cipher.sendNoiseMap.keys ∧
        ∃ stream ephemeral, network.Meant (index, msg.sender) stream ∧
          (network.streams world).Follows (index, msg.sender) stream ∧
          world.opened stream = some ephemeral ∧
          msg.msg = network.sealed stream ephemeral
            (world.received (index, msg.sender)).length payload ∧
          (world.sent stream)[(world.received (index, msg.sender)).length]? =
            some payload := by
  have synced := Synced.of_reachable documented reachable
  constructor
  · intro succeeds
    rcases synced.decrypt_cases documented made msg with
      ⟨ephemeral, content, next, peer, accepts, decrypted, -⟩ |
      ⟨next, error, failed, -⟩
    · rw [decrypted] at succeeds
      obtain rfl : content = payload := by simpa using succeeds
      obtain ⟨stream, opened, isSender, isRecipient, sent⟩ :=
        synced.exists_sent delivered isProtected accepts.1
      refine ⟨peer, stream, ephemeral, ⟨isSender, isRecipient⟩,
        (synced.follows_iff isProtected opened).mpr accepts.2.1, opened, ?_,
        sent⟩
      rw [sealed, isSender, isRecipient]
      exact (network.noiseK.sealing.origin_eq_some_iff _ _ _ _).mp accepts.1
    · rw [failed] at succeeds
      exact absurd succeeds (by simp)
  · rintro ⟨peer, stream, ephemeral, ⟨isSender, isRecipient⟩, follows, opened,
      isSealed, sent⟩
    have accepts : network.noiseK.Accepts msg.sender (network.owner index)
        (world.reading (index, msg.sender))
        (world.received (index, msg.sender)).length msg.msg ephemeral
        payload := by
      refine ⟨?_, (synced.follows_iff isProtected opened).mp follows,
        (synced.stored stream _ payload sent).1⟩
      rw [isSealed, sealed, isSender, isRecipient, Sealing.origin_ciphertext]
    obtain ⟨next, decrypted, -, -⟩ :=
      synced.decrypt_ok documented made peer accepts
    rw [decrypted]

/-- Whatever the server has handed out before, it can hand out the next payload
of the stream that a cipher follows. -/
theorem next_deliverable
    (reachable : network.system.Reachable world)
    {index : Instance}
    {cipher : Cipher snow}
    (made : world.ciphers index = some cipher)
    (stream : Instance × PublicKey)
    (isRecipient : stream.2 = network.owner index)
    (isProtected : network.Protected (network.owner stream.1)
      (network.owner index))
    (peer : network.owner stream.1 ∈ cipher.sendNoiseMap.keys)
    (follows : (network.streams world).Follows
      (index, network.owner stream.1) stream)
    {payload : Payload}
    (isNext : (world.sent stream)[(world.received
      (index, network.owner stream.1)).length]? = some payload) :
    ∃ message ∈ world.posted,
      (world.decrypt network index
        { sender := network.owner stream.1, msg := message }).2 =
          .ok { sender := network.owner stream.1, msg := payload } := by
  have synced := Synced.of_reachable documented reachable
  obtain ⟨-, ephemeral, opened, stored⟩ :=
    synced.stored stream _ payload isNext
  refine ⟨_, stored, ?_⟩
  rw [decrypt_eq_ok_iff documented reachable made (.inl stored) isProtected]
  exact ⟨peer, stream, ephemeral, ⟨rfl, isRecipient⟩, follows, opened, rfl,
    isNext⟩

/-- Encrypting panics only if no recipient is given where there is not one peer,
and succeeds exactly for a peer and a payload that fits. Decrypting does not
panic. -/
theorem cipher_outcomes
    (reachable : network.system.Reachable world)
    {index : Instance}
    {cipher : Cipher snow}
    (made : world.ciphers index = some cipher) :
    (∀ ephemeral chosen payload,
      (world.encrypt index ephemeral chosen payload).2 = .error .panic ↔
        chosen = none ∧ cipher.sendNoiseMap.keys.card ≠ 1) ∧
      (∀ ephemeral chosen payload,
        (∃ message,
          (world.encrypt index ephemeral chosen payload).2 = .ok message) ↔
          ∃ recipient ∈ cipher.sendNoiseMap.keys,
            cipher.recipientOf chosen = some recipient ∧
              network.noiseK.Fits (world.sent (index, recipient)).length
                payload) ∧
      ∀ msg, (world.decrypt network index msg).2 ≠ .error .panic := by
  have synced := Synced.of_reachable documented reachable
  have unchosen : ∀ chosen, cipher.recipientOf chosen = none ↔
      chosen = none ∧ cipher.sendNoiseMap.keys.card ≠ 1 := by
    intro chosen
    cases chosen with
    | none => simp [Cipher.recipientOf, FiniteMap.onlyKey_eq_none]
    | some recipient => simp [Cipher.recipientOf]
  have encrypted : ∀ ephemeral chosen payload,
      ((world.encrypt index ephemeral chosen payload).2 = .error .panic ↔
        cipher.recipientOf chosen = none) ∧
      ((∃ message,
        (world.encrypt index ephemeral chosen payload).2 = .ok message) ↔
          ∃ recipient ∈ cipher.sendNoiseMap.keys,
            cipher.recipientOf chosen = some recipient ∧
              network.noiseK.Fits (world.sent (index, recipient)).length
                payload) := by
    intro ephemeral chosen payload
    rcases synced.encrypt_cases documented made ephemeral chosen payload with
      ⟨recipient, next, message, ⟨peer, isRecipient, fits⟩, -, isEncrypted,
        -⟩ |
      ⟨refused, next, failure, failed, isPanic, -⟩
    · rw [isEncrypted, isRecipient]
      exact ⟨by simp, fun _ => ⟨recipient, peer, rfl, fits⟩,
        fun _ => ⟨message, rfl⟩⟩
    · rw [failed]
      exact ⟨by simpa using isPanic, fun succeeds => absurd succeeds (by simp),
        fun accepted => absurd accepted refused⟩
  refine ⟨?_, fun ephemeral chosen payload =>
    (encrypted ephemeral chosen payload).2, ?_⟩
  · intro ephemeral chosen payload
    rw [(encrypted ephemeral chosen payload).1, unchosen]
  · intro msg
    rcases synced.decrypt_cases documented made msg with
      ⟨ephemeral, payload, next, -, -, decrypted, -⟩ |
      ⟨next, error, failed, -⟩
    · rw [decrypted]
      simp
    · rw [failed]
      simp

end Network

section TwoUsers

/-- Ciphers of two honest users: the third one is of the user `20`, the others
are of the user `10`. A private key is its public key. -/
def twoUsers :
    Network (Reference.snow Nat Nat (@List.length Nat)) Nat where
  noiseK := Reference.noiseK Nat Nat List.length
  privateKey := fun index : Nat => if index = 2 then (20 : Nat) else (10 : Nat)
  honest := {10, 20}

/-- The user `10` writes with two ciphers. The server hands out garbage, then the
first message of the second cipher, then that of the first; and it makes up a
message of the user `30`. -/
def twoSessions :
    List (Action Nat Nat (List Nat)
      (Reference.Ciphertext Nat Nat (List Nat)) Nat) :=
  [.new 0 [20], .new 1 [20], .new 2 [10, 30],
    .encrypt 0 100 none [1], .encrypt 1 101 none [3],
    .encrypt 1 102 (some 20) [4],
    .decrypt 2 ⟨10, none⟩,
    .decrypt 2 ⟨10, some (⟨10, 20, 101⟩, 0, [3])⟩,
    .decrypt 2 ⟨10, some (⟨10, 20, 100⟩, 0, [1])⟩,
    .decrypt 2 ⟨30, some (⟨30, 20, 7⟩, 0, [9])⟩]

/-- What has happened behind that run. -/
theorem exists_twoSessions :
    ∃ world cipher, twoUsers.system.Reachable world ∧
      world.ciphers 2 = some cipher ∧
      cipher.sendNoiseMap.keys = {10, 30} ∧
      world.sent (2, 10) = [] ∧
      world.received (2, 10) = [[3]] ∧
      world.sent (1, 20) = [[3], [4]] ∧
      world.opened (1, 20) = some 101 ∧
      (twoUsers.streams world).Follows (2, 10) (1, 20) := by
  have evaluated : ((twoUsers.system.run .initial twoSessions).any
      fun world => ((world.ciphers 2).any fun cipher =>
          cipher.sendNoiseMap.keys = {10, 30}) ∧
        world.sent (2, 10) = [] ∧ world.received (2, 10) = [[3]] ∧
        world.sent (1, 20) = [[3], [4]] ∧ world.opened (1, 20) = some 101 ∧
        (twoUsers.streams world).source (2, 10) = some (1, 20)) = true := by
    decide +kernel
  obtain ⟨world, ran, results⟩ := (Option.any_eq_true _ _).mp evaluated
  obtain ⟨made, unsent, received, sent, opened, source⟩ := of_decide_eq_true results
  obtain ⟨cipher, isCipher, keys⟩ := (Option.any_eq_true _ _).mp made
  refine ⟨world, cipher, ⟨twoSessions, ran⟩, isCipher, of_decide_eq_true keys,
    unsent, received, sent, opened, ?_⟩
  intro other isSource
  exact (Option.some.inj (source.symm.trans isSource)).symm

/-- The reader has the start of what the second cipher wrote. -/
theorem received_in_order_twoSessions :
    ∃ world, twoUsers.system.Reachable world ∧
      world.received (2, 10) = [[3]] ∧
      (world.received (2, 10) = [] ∨
        ∃ writer, twoUsers.owner writer = (10 : Nat) ∧
          world.received (2, 10) <+: world.sent (writer, (20 : Nat))) := by
  obtain ⟨world, cipher, reachable, -, -, -, received, -⟩ :=
    exists_twoSessions
  exact ⟨world, reachable, received,
    Network.received_in_order (Reference.documented Nat Nat List.length)
      reachable (by decide)⟩

/-- The second message of the second cipher is decrypted next. -/
theorem decrypt_eq_ok_iff_twoSessions :
    ∃ world, twoUsers.system.Reachable world ∧
      (world.decrypt twoUsers 2
        { sender := 10, msg := some (⟨10, 20, 101⟩, 1, [4]) }).2 =
          .ok { sender := 10, msg := [4] } := by
  obtain ⟨world, cipher, reachable, made, keys, -, received, sent,
    opened, follows⟩ := exists_twoSessions
  have documented := Reference.documented Nat Nat (@List.length Nat)
  have isNext : (world.sent (1, 20))[(world.received (2, 10)).length]? =
      some [4] := by
    rw [sent, received]
    rfl
  obtain ⟨-, ephemeral, isOpen, stored⟩ :=
    (Synced.of_reachable documented reachable).stored _ _ _ isNext
  obtain rfl := Option.some.inj (opened.symm.trans isOpen)
  rw [received] at stored
  refine ⟨world, reachable, ?_⟩
  rw [Network.decrypt_eq_ok_iff documented reachable made (.inl stored)
    (by decide)]
  refine ⟨by simp [keys], (1, 20), 101, by decide, follows, opened, ?_, isNext⟩
  rw [received]
  rfl

/-- Nor does the garbage before keep that message from being delivered. -/
theorem next_deliverable_twoSessions :
    ∃ world, twoUsers.system.Reachable world ∧
      ∃ message ∈ world.posted,
        (world.decrypt twoUsers 2 { sender := (10 : Nat), msg := message }).2 =
          .ok { sender := 10, msg := [4] } := by
  obtain ⟨world, cipher, reachable, made, keys, -, received, sent, -,
    follows⟩ := exists_twoSessions
  have isNext : (world.sent (1, 20))[(world.received (2, 10)).length]? =
      some [4] := by
    rw [sent, received]
    rfl
  have isProtected : twoUsers.Protected (twoUsers.owner 1) (twoUsers.owner 2) :=
    by decide
  have peer : twoUsers.owner 1 ∈ cipher.sendNoiseMap.keys := by
    rw [keys]
    decide
  exact ⟨world, reachable,
    Network.next_deliverable (Reference.documented Nat Nat (@List.length Nat))
      reachable made (1, 20) rfl isProtected peer follows isNext⟩

/-- With two peers a recipient has to be given. -/
theorem cipher_outcomes_twoSessions :
    ∃ world, twoUsers.system.Reachable world ∧
      (world.encrypt 2 200 none [5]).2 = .error .panic ∧
      ∃ message, (world.encrypt 2 200 (some 10) [5]).2 = .ok message := by
  obtain ⟨world, cipher, reachable, made, keys, unsent, -⟩ :=
    exists_twoSessions
  obtain ⟨panics, succeeds, -⟩ := Network.cipher_outcomes
    (Reference.documented Nat Nat (@List.length Nat)) reachable made
  refine ⟨world, reachable, (panics 200 none [5]).mpr ⟨rfl, ?_⟩,
    (succeeds 200 (some 10) [5]).mpr ⟨10, ?_, rfl, ?_⟩⟩
  · rw [keys]
    decide
  · rw [keys]
    decide
  · rw [unsent]
    decide

end TwoUsers

end Channel
end MinaMultiSig
