import MinaMultiSig.Coordinator.ReceiveLoop
import MinaMultiSig.Signing.Session

/-!
# What a coordinator has read

One invariant covers both receive loops of a coordinator over its cipher. The
entry of a signer is the last payload that was decrypted from it in the loop, and
those before it could not be read: behind an entry nothing of its sender is
decrypted.
-/

namespace MinaMultiSig
namespace Signing

open Coordinator (CoordinatorWire CoordinatorSessionState Signers
  ReceivingPhase)

variable {PublicKey Identifier Commitments Share Payload : Type}
  {Ephemeral Message Instance α β : Type}

section Scanned

/-- What reading payloads in turn comes to: none of them can be read, or only the
last one can. -/
inductive Scanned (read : Payload → Option β) :
    List Payload → Option β → Prop
  | nothing
      {payloads : List Payload}
      (unread : ∀ payload ∈ payloads, read payload = none) :
      Scanned read payloads none
  | found
      {payloads : List Payload}
      {last : Payload}
      {value : β}
      (unread : ∀ payload ∈ payloads, read payload = none)
      (isRead : read last = some value) :
      Scanned read (payloads ++ [last]) (some value)

variable {read : Payload → Option β} {payloads : List Payload}

theorem Scanned.nil : Scanned read [] none :=
  .nothing (by simp)

/-- One more payload where none could be read. -/
theorem Scanned.concat
    (scanned : Scanned read payloads none)
    (payload : Payload) :
    Scanned read (payloads ++ [payload]) (read payload) := by
  cases scanned with
  | nothing unread =>
      cases isRead : read payload with
      | none =>
          refine .nothing ?_
          intro other member
          rcases List.mem_append.mp member with before | isLast
          · exact unread other before
          · rw [List.mem_singleton.mp isLast]
            exact isRead
      | some value => exact .found unread isRead

/-- A payload that can be read is the only one. -/
theorem Scanned.eq_singleton
    {first : Payload}
    {value result : β}
    (scanned : Scanned read (first :: payloads) (some result))
    (isRead : read first = some value) :
    payloads = [] ∧ result = value := by
  generalize isAll : first :: payloads = all at scanned
  generalize isResult : some result = entry at scanned
  cases scanned with
  | nothing => exact absurd isResult (by simp)
  | @found before last other unread lastRead =>
      cases before with
      | nil =>
          obtain ⟨rfl, rfl⟩ := List.cons.inj isAll
          rw [isRead, ← isResult] at lastRead
          exact ⟨rfl, (Option.some.inj lastRead).symm⟩
      | cons head tail =>
          obtain ⟨rfl, -⟩ := List.cons.inj isAll
          rw [unread first List.mem_cons_self] at isRead
          exact absurd isRead (by simp)

/-- An entry was read from some payload. -/
theorem Scanned.exists_read
    {result : β}
    (scanned : Scanned read payloads (some result)) :
    ∃ payload ∈ payloads, read payload = some result := by
  generalize isResult : some result = entry at scanned
  cases scanned with
  | nothing => exact absurd isResult (by simp)
  | found unread isRead =>
      exact ⟨_, List.mem_append_right _ List.mem_cons_self, isRead⟩

end Scanned

section Collected

variable [DecidableEq PublicKey] [DecidableEq Identifier]

/-- What a loop has collected from the payloads of its signers. -/
structure Collected
    (signers : Signers PublicKey Identifier)
    (read : Payload → Option (List α))
    (received : PublicKey → List Payload)
    (senders : Finset PublicKey)
    (map : FiniteMap Identifier (List α)) : Prop where
  entry : ∀ {key identifier},
    signers.pubkeys.lookup key = some identifier →
      Scanned read (received key) (map.lookup identifier)
  seen : ∀ {key identifier},
    signers.pubkeys.lookup key = some identifier →
      (key ∈ senders ↔ identifier ∈ map.keys)
  keys_subset : map.keys ⊆ signers.identifiers

namespace Collected

variable {signers : Signers PublicKey Identifier}
  {read : Payload → Option (List α)}
  {received : PublicKey → List Payload}
  {senders : Finset PublicKey}
  {map : FiniteMap Identifier (List α)}
  {key : PublicKey} {identifier : Identifier} {payload : Payload}

theorem empty : Collected signers read (fun _ => []) ∅ ∅ where
  entry := by
    intro key identifier _
    rw [Finmap.lookup_empty]
    exact .nil
  seen := by simp
  keys_subset := by simp

/-- Nothing of a sender that is not accepted could be read. -/
theorem lookup_eq_none
    (collected : Collected signers read received senders map)
    (known : signers.pubkeys.lookup key = some identifier)
    (notSeen : key ∉ senders) :
    map.lookup identifier = none :=
  FiniteMap.lookup_eq_none_of_notMem fun member =>
    notSeen ((collected.seen known).mpr member)

/-- A payload that cannot be read. -/
theorem reject
    (collected : Collected signers read received senders map)
    (notSeen : key ∉ senders)
    (unread : read payload = none) :
    Collected signers read
      (Function.update received key (received key ++ [payload])) senders map
    where
  entry := by
    intro other otherIdentifier known
    by_cases same : other = key
    · subst same
      have before := collected.entry known
      rw [collected.lookup_eq_none known notSeen] at before ⊢
      rw [Function.update_self, ← unread]
      exact before.concat payload
    · rw [Function.update_of_ne same]
      exact collected.entry known
  seen := collected.seen
  keys_subset := collected.keys_subset

/-- The payload that is read. -/
theorem store
    {values : List α}
    (collected : Collected signers read received senders map)
    (known : signers.pubkeys.lookup key = some identifier)
    (notSeen : key ∉ senders)
    (isRead : read payload = some values) :
    Collected signers read
      (Function.update received key (received key ++ [payload]))
      (insert key senders) (map.insert identifier values) where
  entry := by
    intro other otherIdentifier otherKnown
    rw [FiniteMap.lookup_insert_eq]
    by_cases same : other = key
    · subst same
      obtain rfl := Option.some.inj (known.symm.trans otherKnown)
      have before := collected.entry known
      rw [collected.lookup_eq_none known notSeen] at before
      rw [Function.update_self, if_pos rfl, ← isRead]
      exact before.concat payload
    · rw [Function.update_of_ne same, if_neg]
      · exact collected.entry otherKnown
      · rintro rfl
        exact same (signers.injective _ _ _ otherKnown known)
  seen := by
    intro other otherIdentifier otherKnown
    rw [FiniteMap.keys_insert, Finset.mem_insert, Finset.mem_insert,
      collected.seen otherKnown]
    apply or_congr_left
    constructor
    · rintro rfl
      exact Option.some.inj (otherKnown.symm.trans known)
    · rintro rfl
      exact signers.injective _ _ _ otherKnown known
  keys_subset := by
    rw [FiniteMap.keys_insert]
    exact Finset.insert_subset (Signers.mem_identifiers known)
      collected.keys_subset

/-- In a full map every signer has an entry. -/
theorem exists_entry
    (collected : Collected signers read received senders map)
    (full : map.keys = signers.identifiers)
    (known : signers.pubkeys.lookup key = some identifier) :
    ∃ values, map.lookup identifier = some values ∧
      Scanned read (received key) (some values) := by
  have member : identifier ∈ map.keys := by
    rw [full]
    exact Signers.mem_identifiers known
  obtain ⟨values, isValues⟩ := FiniteMap.mem_keys_iff_lookup.mp member
  refine ⟨values, isValues, ?_⟩
  rw [← isValues]
  exact collected.entry known

end Collected

end Collected

section Loop

variable [DecidableEq PublicKey] [DecidableEq Identifier]
  [DecidableEq Ephemeral] [DecidableEq Message] [DecidableEq Instance]
  {snow : Channel.Snow PublicKey Ephemeral Payload Message}

/-- What the receive loops of the coordinator make of a Noise state. -/
def readOption
    (noise : Channel.Noise snow)
    (message : Message) : Channel.Noise snow × Option Payload :=
  ((noise.readMessage message).1, (noise.readMessage message).2.toOption)

/-- The loop over the Noise states of its cipher alone. -/
def Loop.toLoopState
    (loop : Loop Identifier Commitments Share snow Instance)
    (cipher : Channel.Cipher snow) :
    Coordinator.LoopState PublicKey Identifier Commitments Share
      (Channel.Noise snow) where
  session := loop.session
  cipher := { recvNoiseMap := cipher.recvNoiseMap }
  senders := loop.senders

omit [DecidableEq Ephemeral] [DecidableEq Message] in
/-- A turn over the network is a turn over the Noise states. -/
theorem Loop.toLoopState_receiveMsg
    (network : Channel.Network snow Instance)
    (wire : CoordinatorWire Payload Commitments Share)
    {index : Instance}
    {loop : Loop Identifier Commitments Share snow Instance}
    {cipher : Channel.Cipher snow}
    (made : loop.channel.ciphers index = some cipher)
    (msg : Msg PublicKey Message) :
    ∃ next, (loop.receiveMsg network wire index msg).channel.ciphers index =
        some next ∧
      (loop.receiveMsg network wire index msg).toLoopState next =
        (loop.toLoopState cipher).receiveMsg readOption wire msg := by
  unfold Loop.receiveMsg Coordinator.LoopState.receiveMsg
  by_cases seen : msg.sender ∈ loop.senders
  · rw [if_pos seen]
    refine ⟨cipher, made, ?_⟩
    rw [if_pos (show msg.sender ∈ (loop.toLoopState cipher).senders from seen)]
  · rw [if_neg seen,
      if_neg (show msg.sender ∉ (loop.toLoopState cipher).senders from seen)]
    cases isNoise : cipher.recvNoiseMap.lookup msg.sender with
    | none =>
        refine ⟨cipher, ?_, ?_⟩
        · simp [Channel.World.decrypt, made, Channel.Cipher.decrypt, isNoise,
            Channel.World.setCipher]
        · simp [Channel.World.decrypt, made, Channel.Cipher.decrypt, isNoise,
            Coordinator.Cipher.decrypt, Loop.toLoopState]
    | some noise =>
        cases isRead : noise.readMessage msg.msg with
        | mk noiseNext result =>
          refine ⟨{ cipher with
            recvNoiseMap := cipher.recvNoiseMap.insert msg.sender noiseNext },
            ?_, ?_⟩
          · cases result with
            | error failure =>
                simp [Channel.World.decrypt, made, Channel.Cipher.decrypt,
                  isNoise, isRead, Channel.World.setCipher, Except.map]
            | ok plain =>
                cases received : loop.session.recv wire
                    { sender := msg.sender, msg := plain } with
                | mk session outcome =>
                  cases outcome <;>
                    simp [Channel.World.decrypt, made, Channel.Cipher.decrypt,
                      isNoise, isRead, Channel.World.setCipher, Except.map,
                      Channel.World.noteReceived, received]
          · cases result with
            | error failure =>
                simp [Channel.World.decrypt, made, Channel.Cipher.decrypt,
                  isNoise, isRead, Except.map, Coordinator.Cipher.decrypt,
                  Loop.toLoopState, readOption, Except.toOption]
            | ok plain =>
                cases received : loop.session.recv wire
                    { sender := msg.sender, msg := plain } with
                | mk session outcome =>
                  cases outcome <;>
                    simp [Channel.World.decrypt, made, Channel.Cipher.decrypt,
                      isNoise, isRead, Except.map, Coordinator.Cipher.decrypt,
                      Loop.toLoopState, readOption, Except.toOption, received]

/-- A receive loop since some state of the network: what it has read from a signer
comes behind what was read before. -/
structure Looping
    (network : Channel.Network snow Instance)
    (index : Instance)
    (signers : Signers PublicKey Identifier)
    (read : Payload → Option (List α))
    (advance : FiniteMap Identifier (List α) →
      CoordinatorSessionState PublicKey Identifier Commitments Share)
    (base : PublicKey → List Payload)
    (start : Channel.World snow Instance)
    (loop : Loop Identifier Commitments Share snow Instance) : Prop where
  reads : network.Read index signers.pubkeys.keys start loop.channel
  collected : ∃ received map,
    (∀ key, loop.channel.received (index, key) = base key ++ received key) ∧
      Collected signers read received loop.senders map ∧
      loop.session = advance map

variable {network : Channel.Network snow Instance} {index : Instance}
  {signers : Signers PublicKey Identifier}
  {wire : CoordinatorWire Payload Commitments Share}
  {read : Payload → Option (List α)}
  {advance : FiniteMap Identifier (List α) →
    CoordinatorSessionState PublicKey Identifier Commitments Share}
  {done : CoordinatorSessionState PublicKey Identifier Commitments Share → Bool}
  {base : PublicKey → List Payload}
  {start : Channel.World snow Instance}
  {loop : Loop Identifier Commitments Share snow Instance}

/-- One more message. -/
theorem Looping.receiveMsg
    (documented : network.noiseK.Documented)
    (phase : ReceivingPhase signers wire read advance done)
    (looping : Looping network index signers read advance base start loop)
    {msg : Msg PublicKey Message}
    (delivered : network.CanDeliver start msg.msg) :
    Looping network index signers read advance base start
      (loop.receiveMsg network wire index msg) := by
  unfold Loop.receiveMsg
  split_ifs with seen
  · exact looping
  · obtain ⟨next, result, decrypted, reads, effect⟩ :=
      Channel.Network.read_of_decrypt documented looping.reads.reachable
        looping.reads.made (looping.reads.canDeliver delivered)
    obtain ⟨received, map, before, collected, isSession⟩ := looping.collected
    rw [decrypted]
    rcases effect with ⟨payload, rfl, peer, isReceived⟩ |
      ⟨failure, rfl, isReceived⟩
    · obtain ⟨identifier, known⟩ := FiniteMap.mem_keys_iff_lookup.mp peer
      have incomplete : map.keys ≠ signers.identifiers := by
        intro complete
        apply seen
        rw [collected.seen known, complete]
        exact Signers.mem_identifiers known
      have after : ∀ key, next.received (index, key) = base key ++
          Function.update received msg.sender
            (received msg.sender ++ [payload]) key := by
        intro key
        rw [isReceived]
        by_cases same : key = msg.sender
        · subst same
          rw [Function.update_self, Function.update_self, before,
            List.append_assoc]
        · rw [Function.update_of_ne same, Function.update_of_ne, before]
          simp [same]
      cases isRead : read payload with
      | none =>
          obtain ⟨error, rejected⟩ := phase.rejected
            { sender := msg.sender, msg := payload } collected.keys_subset
            incomplete isRead
          rw [isSession]
          dsimp only
          rw [rejected]
          exact ⟨looping.reads.trans reads, _, map, after,
            collected.reject seen isRead, rfl⟩
      | some values =>
          have accepted := phase.accepted
            { sender := msg.sender, msg := payload } collected.keys_subset
            incomplete known isRead
          rw [isSession]
          dsimp only
          rw [accepted]
          exact ⟨looping.reads.trans reads, _, _, after,
            collected.store known seen isRead, rfl⟩
    · refine ⟨looping.reads.trans reads, received, map, ?_, collected,
        isSession⟩
      intro key
      rw [isReceived]
      exact before key

/-- A batch of messages. -/
theorem Looping.foldl_receiveMsg
    (documented : network.noiseK.Documented)
    (phase : ReceivingPhase signers wire read advance done)
    (looping : Looping network index signers read advance base start loop)
    {batch : List (Msg PublicKey Message)}
    (delivered : ∀ msg ∈ batch, network.CanDeliver start msg.msg) :
    Looping network index signers read advance base start
      (batch.foldl (Loop.receiveMsg network wire index) loop) := by
  induction batch generalizing loop with
  | nil => exact looping
  | cons msg batch ih =>
      rw [List.foldl_cons]
      apply ih
      · exact looping.receiveMsg documented phase
          (delivered msg List.mem_cons_self)
      · intro other member
        exact delivered other (List.mem_cons_of_mem msg member)

end Loop

end Signing
end MinaMultiSig
