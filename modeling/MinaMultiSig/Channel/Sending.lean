import MinaMultiSig.Channel.NetworkInvariant

/-!
# Sending and receiving with one cipher

The payloads of a step are encrypted one after the other, until the cipher
refuses one. What this does to the network, and what decrypting one message does
to it.
-/

namespace MinaMultiSig
namespace Channel

variable {PublicKey Ephemeral Payload Message : Type}
  {snow : Snow PublicKey Ephemeral Payload Message} {Instance : Type}
variable [DecidableEq PublicKey]

/-- Encrypt and send one payload after the other. The ephemeral keys are new. -/
def World.sendAll
    [DecidableEq Ephemeral]
    [DecidableEq Instance]
    (index : Instance)
    (world : World snow Instance) :
    List Ephemeral → List (PublicKey × Payload) →
      Option (World snow Instance × Outcome CipherError Unit)
  | _, [] => some (world, .ok ())
  | [], _ :: _ => none
  | ephemeral :: ephemerals, (recipient, payload) :: rest =>
      if world.author ephemeral = none then
        match world.encrypt index ephemeral (some recipient) payload with
        | (world, .ok _) => sendAll index world ephemerals rest
        | (world, .error failure) => some (world, .error failure)
      else none

section PayloadsTo

/-- The payloads for one recipient among some with their recipients. -/
def payloadsTo
    (recipient : PublicKey)
    (items : List (PublicKey × Payload)) : List Payload :=
  (items.filter (·.1 = recipient)).map Prod.snd

theorem payloadsTo_cons
    (recipient other : PublicKey)
    (payload : Payload)
    (items : List (PublicKey × Payload)) :
    payloadsTo recipient ((other, payload) :: items) =
      if other = recipient then payload :: payloadsTo recipient items
      else payloadsTo recipient items := by
  unfold payloadsTo
  by_cases same : other = recipient
  · simp [same]
  · simp [same]

theorem payloadsTo_append
    (recipient : PublicKey)
    (first second : List (PublicKey × Payload)) :
    payloadsTo recipient (first ++ second) =
      payloadsTo recipient first ++ payloadsTo recipient second := by
  simp [payloadsTo]

theorem payloadsTo_map
    (recipient other : PublicKey)
    (payloads : List Payload) :
    payloadsTo recipient (payloads.map (other, ·)) =
      if other = recipient then payloads else [] := by
  induction payloads with
  | nil => simp [payloadsTo]
  | cons payload payloads ih =>
      rw [List.map_cons, payloadsTo_cons, ih]
      split_ifs
      · rfl
      · rfl

/-- Sending to the recipients of a list in turn. -/
theorem payloadsTo_flatMap
    (recipient : PublicKey)
    (payloads : PublicKey → List Payload)
    {order : List PublicKey}
    (nodup : order.Nodup) :
    payloadsTo recipient
        (order.flatMap fun other => (payloads other).map (other, ·)) =
      if recipient ∈ order then payloads recipient else [] := by
  induction order with
  | nil => rfl
  | cons first order ih =>
      obtain ⟨absent, rest⟩ := List.nodup_cons.mp nodup
      rw [List.flatMap_cons, payloadsTo_append, payloadsTo_map, ih rest]
      by_cases same : first = recipient
      · subst same
        simp [absent]
      · simp [same, Ne.symm same]

end PayloadsTo

namespace Network

variable {network : Network snow Instance} {index : Instance}
  {peers : Finset PublicKey}

/-- A cipher is made for some peers. -/
def MadeFor
    (index : Instance)
    (peers : Finset PublicKey)
    (world : World snow Instance) : Prop :=
  ∃ cipher, world.ciphers index = some cipher ∧
    cipher.sendNoiseMap.keys = peers

omit [DecidableEq PublicKey] in
theorem MadeFor.of_onlyMoved
    {other : Instance}
    {world next : World snow Instance}
    (made : MadeFor other peers world)
    (onlyMoved : World.OnlyMoved index world next)
    (different : other ≠ index) :
    MadeFor other peers next := by
  obtain ⟨cipher, isCipher, keys⟩ := made
  exact ⟨cipher, (onlyMoved.ciphers other different).trans isCipher, keys⟩

variable [DecidableEq Ephemeral] [DecidableEq Message] [DecidableEq Instance]

omit [DecidableEq Message] in
/-- Without a given recipient a payload is for the only peer. -/
theorem encrypt_none
    {recipient : PublicKey}
    {world : World snow Instance}
    (made : MadeFor index {recipient} world)
    (ephemeral : Ephemeral)
    (payload : Payload) :
    world.encrypt index ephemeral none payload =
      world.encrypt index ephemeral (some recipient) payload := by
  obtain ⟨cipher, isCipher, keys⟩ := made
  have isOnly : cipher.recipientOf none = some recipient := by
    unfold Cipher.recipientOf
    cases chosen : FiniteMap.onlyKey cipher.sendNoiseMap with
    | none =>
        have many := FiniteMap.onlyKey_eq_none.mp chosen
        rw [keys, Finset.card_singleton] at many
        exact absurd rfl many
    | some key =>
        have member := FiniteMap.onlyKey_eq_some chosen
        rw [keys, Finset.mem_singleton] at member
        rw [member]
  have sameChoice : cipher.recipientOf none =
      cipher.recipientOf (some recipient) := isOnly
  unfold World.encrypt Cipher.encrypt
  rw [isCipher]
  dsimp only
  rw [sameChoice]

/-- What sending does to the network. -/
structure Sent
    (network : Network snow Instance)
    (index : Instance)
    (peers : Finset PublicKey)
    (items : List (PublicKey × Payload))
    (world next : World snow Instance) : Prop where
  reachable : network.system.Reachable next
  made : MadeFor index peers next
  onlyMoved : World.OnlyMoved index world next
  received : next.received = world.received
  sent_isPrefix : ∀ recipient,
    next.sent (index, recipient) <+:
      world.sent (index, recipient) ++ payloadsTo recipient items

/-- Sending is encrypting the payloads in order; only an error of the cipher cuts
it short. -/
theorem sent_of_sendAll
    (documented : network.noiseK.Documented)
    {items : List (PublicKey × Payload)}
    {world after : World snow Instance}
    {ephemerals : List Ephemeral}
    {result : Outcome CipherError Unit}
    (reachable : network.system.Reachable world)
    (made : MadeFor index peers world)
    (sent : world.sendAll index ephemerals items = some (after, result)) :
    network.Sent index peers items world after ∧
      (result = .ok () → ∀ recipient,
        after.sent (index, recipient) =
          world.sent (index, recipient) ++ payloadsTo recipient items) := by
  induction items generalizing world ephemerals with
  | nil =>
      cases ephemerals <;>
      · simp only [World.sendAll, Option.some.injEq, Prod.mk.injEq] at sent
        obtain ⟨rfl, rfl⟩ := sent
        exact ⟨⟨reachable, made, .refl _, rfl, fun recipient => by
          simp [payloadsTo]⟩, fun _ recipient => by simp [payloadsTo]⟩
  | cons item items ih =>
      obtain ⟨recipient, payload⟩ := item
      cases ephemerals with
      | nil => exact absurd sent (by simp [World.sendAll])
      | cons ephemeral ephemerals =>
          rw [World.sendAll] at sent
          split_ifs at sent with fresh
          obtain ⟨cipher, isCipher, keys⟩ := made
          have synced := Synced.of_reachable documented reachable
          obtain ⟨middle, outcome, encrypted, ⟨nextCipher, isNext, nextKeys⟩,
            onlyMoved, received, effect⟩ :=
            synced.encrypt_effect documented isCipher ephemeral recipient
              payload
          have stepped : network.system.step world
              (.encrypt index ephemeral (some recipient) payload) =
                some middle := by
            simp only [system, step]
            rw [if_pos fresh, encrypted]
          have middleReachable := reachable.step stepped
          have middleMade : MadeFor index peers middle :=
            ⟨nextCipher, isNext, nextKeys.trans keys⟩
          rw [encrypted] at sent
          rcases effect with ⟨message, rfl, isSent⟩ | ⟨failure, rfl, isSent⟩
          · obtain ⟨rest, complete⟩ := ih middleReachable middleMade sent
            have step : ∀ other, middle.sent (index, other) ++
                payloadsTo other items =
                  world.sent (index, other) ++
                    payloadsTo other ((recipient, payload) :: items) := by
              intro other
              rw [isSent, payloadsTo_cons]
              by_cases same : recipient = other
              · subst same
                simp
              · rw [if_neg same, Function.update_of_ne]
                simp [Ne.symm same]
            refine ⟨⟨rest.reachable, rest.made,
              onlyMoved.trans rest.onlyMoved, rest.received.trans received,
              fun other => ?_⟩, fun ok other => ?_⟩
            · rw [← step]
              exact rest.sent_isPrefix other
            · rw [← step]
              exact complete ok other
          · simp only [Option.some.injEq, Prod.mk.injEq] at sent
            obtain ⟨rfl, rfl⟩ := sent
            refine ⟨⟨middleReachable, middleMade, onlyMoved, received,
              fun other => ?_⟩, fun ok => absurd ok (by simp)⟩
            rw [isSent]
            exact List.prefix_append _ _

/-- What decrypting one message does to the network. -/
structure Read
    (network : Network snow Instance)
    (index : Instance)
    (peers : Finset PublicKey)
    (world next : World snow Instance) : Prop where
  reachable : network.system.Reachable next
  made : MadeFor index peers next
  onlyMoved : World.OnlyMoved index world next
  sent : next.sent = world.sent
  posted : next.posted = world.posted

theorem Read.refl
    {world : World snow Instance}
    (reachable : network.system.Reachable world)
    (made : MadeFor index peers world) :
    network.Read index peers world world :=
  ⟨reachable, made, .refl _, rfl, rfl⟩

theorem Read.trans
    {world middle next : World snow Instance}
    (first : network.Read index peers world middle)
    (second : network.Read index peers middle next) :
    network.Read index peers world next where
  reachable := second.reachable
  made := second.made
  onlyMoved := first.onlyMoved.trans second.onlyMoved
  sent := second.sent.trans first.sent
  posted := second.posted.trans first.posted

theorem Read.canDeliver
    {world next : World snow Instance}
    {message : Message}
    (read : network.Read index peers world next)
    (delivered : network.CanDeliver world message) :
    network.CanDeliver next message := by
  unfold CanDeliver at delivered ⊢
  rwa [read.posted]

omit [DecidableEq Ephemeral] [DecidableEq Message] in
/-- Decrypting draws no ephemeral key. -/
theorem author_decrypt
    (network : Network snow Instance)
    (world : World snow Instance)
    (index : Instance)
    (msg : Msg PublicKey Message) :
    (world.decrypt network index msg).1.author = world.author := by
  unfold World.decrypt
  cases world.ciphers index with
  | none => rfl
  | some cipher =>
      cases decrypted : cipher.decrypt msg with
      | mk next result =>
        cases result <;> simp only [decrypted] <;> rfl

/-- A message of a peer is read, or nothing is. -/
theorem read_of_decrypt
    (documented : network.noiseK.Documented)
    {world : World snow Instance}
    (reachable : network.system.Reachable world)
    (made : MadeFor index peers world)
    {msg : Msg PublicKey Message}
    (delivered : network.CanDeliver world msg.msg) :
    ∃ next result,
      world.decrypt network index msg = (next, result) ∧
        network.Read index peers world next ∧
        ((∃ payload, result = .ok { sender := msg.sender, msg := payload } ∧
          msg.sender ∈ peers ∧
          next.received = Function.update world.received (index, msg.sender)
            (world.received (index, msg.sender) ++ [payload])) ∨
          ∃ failure, result = .error failure ∧
            next.received = world.received) := by
  obtain ⟨cipher, isCipher, rfl⟩ := made
  have synced := Synced.of_reachable documented reachable
  obtain ⟨next, result, decrypted, nextMade, onlyMoved, sent, posted, effect⟩ :=
    synced.decrypt_effect documented isCipher msg
  have stepped : network.system.step world (.decrypt index msg) =
      some next := by
    simp only [system, step]
    rw [if_pos delivered, decrypted]
  exact ⟨next, result, decrypted,
    ⟨reachable.step stepped, nextMade, onlyMoved, sent, posted⟩, effect⟩

end Network

end Channel
end MinaMultiSig
