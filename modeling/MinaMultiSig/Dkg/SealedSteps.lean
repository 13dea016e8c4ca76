import MinaMultiSig.Dkg.SealedSession
import MinaMultiSig.Dkg.WorldInvariant

/-!
# What a step does to the ciphers

Sending encrypts what the outbox of a participant grows by, and receiving is
decrypting some messages and handling those; only an error of the cipher cuts
either of them short.
-/

namespace MinaMultiSig
namespace Dkg

open Channel (CipherError payloadsTo payloadsTo_flatMap)
open Channel.Network (MadeFor)

variable {PublicKey Identifier Round1Package Round2Package Payload : Type}
  {Ephemeral Message : Type}
variable [DecidableEq PublicKey]

section Sending

variable
  {setup : Setup PublicKey Identifier Round1Package Round2Package Payload}
  {selfPubkey : PublicKey}
  {node next : Node PublicKey Identifier Round1Package Round2Package Payload}

/-- All that a step sends is for other participants. -/
def SendsOnly
    (setup : Setup PublicKey Identifier Round1Package Round2Package Payload)
    (selfPubkey : PublicKey)
    (node next :
      Node PublicKey Identifier Round1Package Round2Package Payload) : Prop :=
  ∃ payloads, next.outbox = setup.sendEach selfPubkey payloads node.outbox

theorem SendsOnly.of_eq
    (same : next.outbox = node.outbox) :
    SendsOnly setup selfPubkey node next := by
  refine ⟨fun _ => [], ?_⟩
  rw [same]
  funext recipient
  unfold Setup.sendEach
  split_ifs
  · rfl
  · split
    · rfl
    · rw [List.append_nil]

theorem sendsOnly_start :
    SendsOnly setup selfPubkey node (node.start setup selfPubkey) :=
  ⟨_, rfl⟩

theorem sendsOnly_leaveLoop
    [DecidableEq Identifier] :
    SendsOnly setup selfPubkey node (node.leaveLoop setup selfPubkey) := by
  unfold Node.leaveLoop
  split
  · split
    · exact .of_eq rfl
    · split_ifs
      · exact .of_eq rfl
      · exact ⟨_, rfl⟩
  · split
    · exact .of_eq rfl
    · exact .of_eq rfl
  · split
    · exact .of_eq rfl
    · exact .of_eq rfl
  · exact .of_eq rfl

theorem sendsOnly_sendRound2
    (round1Packages : FiniteMap Identifier Round1Package) :
    SendsOnly setup selfPubkey node
      (node.sendRound2 setup selfPubkey round1Packages) := by
  unfold Node.sendRound2
  split
  · exact .of_eq rfl
  · exact ⟨_, rfl⟩

/-- A step appends to the outbox, and only for other participants. -/
theorem SendsOnly.exists_payloads
    (sends : SendsOnly setup selfPubkey node next)
    (recipient : PublicKey) :
    ∃ payloads, next.outbox recipient = node.outbox recipient ++ payloads ∧
      (payloads = [] ∨
        recipient ≠ selfPubkey ∧ recipient ∈ setup.pubkeys.keys) := by
  obtain ⟨payloads, outbox⟩ := sends
  rw [outbox, Setup.sendEach]
  split_ifs with isSelf
  · exact ⟨[], by simp, .inl rfl⟩
  · cases lookup : setup.pubkeys.lookup recipient with
    | none => exact ⟨[], by simp, .inl rfl⟩
    | some identifier =>
        exact ⟨payloads identifier, rfl,
          .inr ⟨isSelf, FiniteMap.mem_keys_iff_lookup.mpr ⟨_, lookup⟩⟩⟩

theorem SendsOnly.receive
    [DecidableEq Identifier]
    [DecidableEq Round1Package]
    (selfIdentifier : Identifier)
    (batch : List (Msg PublicKey Payload)) :
    SendsOnly setup selfPubkey node
      (node.receive setup selfPubkey selfIdentifier batch) := by
  unfold Node.receive
  split
  · rename_i after error received
    exact .of_eq (Node.recvBatch_frame received).1
  · rename_i after received
    have outbox := (Node.recvBatch_frame received).1
    split_ifs
    · obtain ⟨payloads, left⟩ :
          SendsOnly setup selfPubkey after (after.leaveLoop setup selfPubkey) :=
        sendsOnly_leaveLoop
      exact ⟨payloads, by rw [left, outbox]⟩
    · exact .of_eq outbox

end Sending

namespace SealedSetup

variable {snow : Channel.Snow PublicKey Ephemeral Payload Message}
  {sealed : SealedSetup Identifier Round1Package Round2Package snow}
  {selfPubkey : PublicKey}
  {node next : Node PublicKey Identifier Round1Package Round2Package Payload}

/-- What is sent to a recipient is what its part of the outbox grows by. -/
theorem outbox_eq
    (sends : SendsOnly sealed.setup selfPubkey node next)
    (recipient : PublicKey) :
    next.outbox recipient = node.outbox recipient ++
      payloadsTo recipient (sealed.outgoing selfPubkey node next) := by
  obtain ⟨payloads, outbox, others⟩ := sends.exists_payloads recipient
  rw [outgoing, payloadsTo_flatMap recipient _ (sealed.order_nodup selfPubkey),
    outbox, List.drop_left]
  rcases others with rfl | ⟨-, known⟩
  · simp
  · rw [if_pos ((sealed.mem_order selfPubkey recipient).mpr known)]

theorem owner_eq (key : PublicKey) : sealed.network.owner key = key :=
  sealed.publicKey_eq key

variable [DecidableEq Ephemeral] [DecidableEq Message]

omit [DecidableEq Ephemeral] [DecidableEq Message] in
theorem payloadsFrom_cons
    (sender : PublicKey)
    (msg : Msg PublicKey Payload)
    (msgs : List (Msg PublicKey Payload)) :
    payloadsFrom sender (msg :: msgs) =
      if msg.sender = sender then msg.msg :: payloadsFrom sender msgs
      else payloadsFrom sender msgs := by
  unfold payloadsFrom
  by_cases same : msg.sender = sender
  · simp [same]
  · simp [same]

/-- What decrypting some messages does to the ciphers. -/
structure Decrypted
    (sealed : SealedSetup Identifier Round1Package Round2Package snow)
    (selfPubkey : PublicKey)
    (msgs : List (Msg PublicKey Payload))
    (channel next : Channel.World snow PublicKey) : Prop where
  reachable : sealed.network.system.Reachable next
  made : MadeFor selfPubkey sealed.setup.pubkeys.keys next
  onlyMoved : Channel.World.OnlyMoved selfPubkey channel next
  sent : next.sent = channel.sent
  received : ∀ sender, next.received (selfPubkey, sender) =
    channel.received (selfPubkey, sender) ++ payloadsFrom sender msgs
  known : ∀ msg ∈ msgs, msg.sender ∈ sealed.setup.pubkeys.keys

theorem Decrypted.append
    {first second : List (Msg PublicKey Payload)}
    {channel middle after : Channel.World snow PublicKey}
    (before : sealed.Decrypted selfPubkey first channel middle)
    (behind : sealed.Decrypted selfPubkey second middle after) :
    sealed.Decrypted selfPubkey (first ++ second) channel after where
  reachable := behind.reachable
  made := behind.made
  onlyMoved := before.onlyMoved.trans behind.onlyMoved
  sent := behind.sent.trans before.sent
  received := by
    intro sender
    rw [behind.received, before.received, List.append_assoc,
      payloadsFrom_append]
  known := by
    intro msg member
    rcases List.mem_append.mp member with inFirst | inSecond
    · exact before.known msg inFirst
    · exact behind.known msg inSecond

/-- Decrypting one message. -/
theorem decrypted_of_decrypt
    (documented : sealed.noiseK.Documented)
    {channel : Channel.World snow PublicKey}
    (reachable : sealed.network.system.Reachable channel)
    (made : MadeFor selfPubkey sealed.setup.pubkeys.keys channel)
    {msg : Msg PublicKey Message}
    (delivered : sealed.network.CanDeliver channel msg.msg) :
    ∃ middle outcome,
      channel.decrypt sealed.network selfPubkey msg = (middle, outcome) ∧
        sealed.network.Read selfPubkey sealed.setup.pubkeys.keys channel
          middle ∧
        ((∃ plain, outcome = .ok plain ∧
          sealed.Decrypted selfPubkey [plain] channel middle) ∨
          ∃ failure, outcome = .error failure ∧
            sealed.Decrypted selfPubkey [] channel middle) := by
  obtain ⟨middle, outcome, decrypted, read, effect⟩ :=
    Channel.Network.read_of_decrypt documented reachable made delivered
  refine ⟨middle, outcome, decrypted, read, ?_⟩
  rcases effect with ⟨payload, rfl, peer, received⟩ | ⟨failure, rfl, received⟩
  · refine .inl ⟨_, rfl,
      ⟨read.reachable, read.made, read.onlyMoved, read.sent, ?_, ?_⟩⟩
    · intro sender
      rw [received, payloadsFrom_cons]
      by_cases same : msg.sender = sender
      · subst same
        simp [payloadsFrom]
      · rw [if_neg same, Function.update_of_ne]
        · simp [payloadsFrom]
        · simp [Ne.symm same]
    · intro other member
      rw [List.mem_singleton.mp member]
      exact peer
  · refine .inr ⟨failure, rfl,
      ⟨read.reachable, read.made, read.onlyMoved, read.sent, ?_, by simp⟩⟩
    intro sender
    rw [received]
    simp [payloadsFrom]

variable [DecidableEq Identifier] [DecidableEq Round1Package]

/-- Handling a batch is decrypting some of it and handling what comes out; it is
cut short only by the cipher. -/
theorem decrypted_of_recvBatch
    (documented : sealed.noiseK.Documented)
    {selfIdentifier : Identifier}
    {channel after : Channel.World snow PublicKey}
    {batch : List (Msg PublicKey Message)}
    {result : Except ReceiveError Unit}
    (reachable : sealed.network.system.Reachable channel)
    (made : MadeFor selfPubkey sealed.setup.pubkeys.keys channel)
    (delivered : ∀ msg ∈ batch, sealed.network.CanDeliver channel msg.msg)
    (handled : sealed.recvBatch selfPubkey selfIdentifier channel node batch =
      (after, next, result)) :
    ∃ msgs, sealed.Decrypted selfPubkey msgs channel after ∧
      ((∃ failure, result = .error (.cipher failure)) ∨
        ∃ plain, Node.recvBatch sealed.setup selfIdentifier node msgs =
            (next, plain) ∧
          result = plain.mapError .session) := by
  induction batch generalizing channel node with
  | nil =>
      obtain ⟨rfl, rfl, rfl⟩ :
          channel = after ∧ node = next ∧ .ok () = result := by
        simpa [recvBatch] using handled
      exact ⟨[], ⟨reachable, made, .refl _, rfl, fun _ => by
        simp [payloadsFrom], by simp⟩, .inr ⟨.ok (), rfl, rfl⟩⟩
  | cons msg batch ih =>
      obtain ⟨middle, outcome, decrypted, read, effect⟩ :=
        decrypted_of_decrypt documented reachable made
          (delivered msg List.mem_cons_self)
      rw [recvBatch, decrypted] at handled
      rcases effect with ⟨plain, rfl, first⟩ | ⟨failure, rfl, first⟩
      · cases isRecv : node.recv sealed.setup selfIdentifier plain with
        | mk nodeNext recvResult =>
          simp only [isRecv] at handled
          cases recvResult with
          | error error =>
              obtain ⟨rfl, rfl, rfl⟩ : middle = after ∧ nodeNext = next ∧
                  .error (.session error) = result := by
                simpa using handled
              refine ⟨_, first, .inr ⟨.error error, ?_, rfl⟩⟩
              rw [Node.recvBatch, isRecv]
          | ok value =>
              have stillDelivered : ∀ other ∈ batch,
                  sealed.network.CanDeliver middle other.msg :=
                fun other member => read.canDeliver
                  (delivered other (List.mem_cons_of_mem msg member))
              obtain ⟨msgs, rest, agrees⟩ :=
                ih first.reachable first.made stillDelivered handled
              refine ⟨plain :: msgs, first.append rest, ?_⟩
              rcases agrees with cut | ⟨plainResult, plainBatch, same⟩
              · exact .inl cut
              · refine .inr ⟨plainResult, ?_, same⟩
                rw [Node.recvBatch, isRecv]
                exact plainBatch
      · obtain ⟨rfl, rfl, rfl⟩ : middle = after ∧ node = next ∧
            .error (.cipher failure) = result := by
          simpa using handled
        exact ⟨[], first, .inl ⟨failure, rfl⟩⟩

/-- One turn of a receive loop is one over the decrypted messages, unless the
cipher cuts it short. -/
theorem decrypted_of_receive
    (documented : sealed.noiseK.Documented)
    {selfIdentifier : Identifier}
    {channel after : Channel.World snow PublicKey}
    {batch : List (Msg PublicKey Message)}
    {result :
      Option (Node PublicKey Identifier Round1Package Round2Package Payload)}
    (reachable : sealed.network.system.Reachable channel)
    (made : MadeFor selfPubkey sealed.setup.pubkeys.keys channel)
    (delivered : ∀ msg ∈ batch, sealed.network.CanDeliver channel msg.msg)
    (handled : sealed.receive selfPubkey selfIdentifier channel node batch =
      (after, result)) :
    ∃ msgs, sealed.Decrypted selfPubkey msgs channel after ∧
      (result = none ∨
        result = some
          (node.receive sealed.setup selfPubkey selfIdentifier msgs)) := by
  cases isBatch : sealed.recvBatch selfPubkey selfIdentifier channel node
      batch with
  | mk middle rest =>
    obtain ⟨nodeNext, outcome⟩ := rest
    obtain ⟨msgs, decrypted, agrees⟩ :=
      decrypted_of_recvBatch documented reachable made delivered isBatch
    rw [receive, isBatch] at handled
    rcases agrees with ⟨failure, rfl⟩ | ⟨plain, plainBatch, rfl⟩
    · obtain ⟨rfl, rfl⟩ := Prod.mk.inj handled
      exact ⟨msgs, decrypted, .inl rfl⟩
    · refine ⟨msgs, ?_⟩
      cases plain with
      | error error =>
          obtain ⟨rfl, rfl⟩ := Prod.mk.inj handled
          refine ⟨decrypted, .inr ?_⟩
          rw [Node.receive, plainBatch]
      | ok value =>
          obtain ⟨rfl, rfl⟩ := Prod.mk.inj handled
          refine ⟨decrypted, .inr ?_⟩
          rw [Node.receive, plainBatch]

end SealedSetup

end Dkg
end MinaMultiSig
