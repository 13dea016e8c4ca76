import MinaMultiSig.Dkg.Agreement

/-!
# When a session accepts a message

In a session of honest participants with messages delivered in order, `recv`
rejects a message exactly when it arrives before its phase: an echo before the
receiver has all Round 1 Packages, or a Round 2 Package before it has all Round 1
Packages and all echoes. Nothing buffers such a message.
-/

namespace MinaMultiSig
namespace Dkg

variable {PublicKey Identifier Round1Package Round2Package Payload : Type}
variable [DecidableEq PublicKey] [DecidableEq Identifier]

section Acceptance

variable [DecidableEq Round1Package]
variable {membership : Membership PublicKey Identifier}
variable {wire : DkgWire Payload Identifier Round1Package Round2Package}
variable {log : List (Msg PublicKey Payload)}
variable {msg : Msg PublicKey Payload}
variable {state :
  DKGSessionState PublicKey Identifier Round1Package Round2Package}
variable {senderIdentifier original : Identifier}

/-- The first Round 1 Package of a participant is accepted: the session still
waits for it. -/
theorem Consistent.recv_round1
    {package : Round1Package}
    (consistent : Consistent membership wire log state)
    (known : membership.pubkeys.lookup msg.sender = some senderIdentifier)
    (notSelf : msg.sender ≠ membership.selfPubkey)
    (decoded : wire.fromSliceRound1 msg.msg = some package)
    (first : ∀ earlier, ¬ReceivedRound1 wire log msg.sender earlier) :
    ∃ next, state.recv wire msg membership.selfIdentifier =
      (next, .ok ()) := by
  have missing : ¬FromAll membership (ReceivedRound1 wire log) := by
    intro all
    obtain ⟨earlier, received⟩ := all _ _ notSelf known
    exact first earlier received
  have phase := consistent.phase
  cases state with
  | waitingForRound1Packages pubkeys packages =>
      obtain ⟨rfl, -⟩ := consistent
      exact ⟨_, DKGSessionState.recv_of_accepts (.round1 decoded known)⟩
  | waitingForRound1PackagesBroadcast => exact absurd phase.1 missing
  | waitingForRound2Packages => exact absurd phase.1 missing
  | round2PackagesReady => exact absurd phase.1 missing

/-- The first echo by a participant about another one is accepted exactly when
the session has all Round 1 Packages, provided it agrees with them. -/
theorem Consistent.recv_broadcast_iff
    {package : Round1Package}
    (consistent : Consistent membership wire log state)
    (known : membership.pubkeys.lookup msg.sender = some senderIdentifier)
    (notSelf : msg.sender ≠ membership.selfPubkey)
    (decoded : wire.fromSliceBroadcast msg.msg = some (original, package))
    (originalMember : original ∈ membership.others)
    (notRedundant : original ≠ senderIdentifier)
    (matching : ∀ packages,
      Collected membership (ReceivedRound1 wire log) packages →
        packages.keys = membership.others →
          packages.lookup original = some package)
    (first : ∀ earlier,
      ¬ReceivedBroadcast wire log msg.sender original earlier) :
    (∃ next, state.recv wire msg membership.selfIdentifier =
        (next, .ok ())) ↔
      FromAll membership (ReceivedRound1 wire log) := by
  have phase := consistent.phase
  have missing : ¬AllBroadcast membership wire log := by
    intro all
    obtain ⟨earlier, received⟩ :=
      all _ _ _ notSelf known originalMember notRedundant
    exact first earlier received
  constructor
  · rintro ⟨next, received⟩
    cases DKGSessionState.accepts_of_recv received with
    | round1 round1 =>
        simp [wire.broadcast_of_round1 round1] at decoded
    | broadcast => exact phase.1
    | round2 round2 =>
        simp [wire.broadcast_of_round2 round2] at decoded
  · intro all
    cases state with
    | waitingForRound1Packages => exact absurd all phase
    | waitingForRound1PackagesBroadcast pubkeys packages broadcasted =>
        obtain ⟨rfl, collected, full, stored, -, -⟩ := consistent
        obtain ⟨notOwn, originalKnown⟩ := Finset.mem_erase.mp originalMember
        have fresh : DKGSessionState.broadcastedBy broadcasted original
            senderIdentifier = none := by
          cases stored' : DKGSessionState.broadcastedBy broadcasted original
              senderIdentifier with
          | none => rfl
          | some earlier =>
              exact absurd ((stored.received known).mp stored') (first earlier)
        exact ⟨_, DKGSessionState.recv_of_accepts
          (.broadcast decoded known originalKnown notOwn notRedundant
            (matching packages collected full) fresh)⟩
    | waitingForRound2Packages => exact absurd phase.2.1 missing
    | round2PackagesReady => exact absurd phase.2.1 missing

/-- The first Round 2 Package of a participant is accepted exactly when the
session has all Round 1 Packages and all echoes. -/
theorem Consistent.recv_round2_iff
    {package : Round2Package}
    (consistent : Consistent membership wire log state)
    (known : membership.pubkeys.lookup msg.sender = some senderIdentifier)
    (notSelf : msg.sender ≠ membership.selfPubkey)
    (decoded : wire.fromSliceRound2 msg.msg = some package)
    (first : ∀ earlier, ¬ReceivedRound2 wire log msg.sender earlier) :
    (∃ next, state.recv wire msg membership.selfIdentifier =
        (next, .ok ())) ↔
      FromAll membership (ReceivedRound1 wire log) ∧
        AllBroadcast membership wire log := by
  have phase := consistent.phase
  constructor
  · rintro ⟨next, received⟩
    cases DKGSessionState.accepts_of_recv received with
    | round1 round1 => simp [wire.round2_of_round1 round1] at decoded
    | broadcast broadcast =>
        simp [wire.round2_of_broadcast broadcast] at decoded
    | round2 => exact ⟨phase.1, phase.2.1⟩
  · rintro ⟨allRound1, allBroadcast⟩
    cases state with
    | waitingForRound1Packages => exact absurd allRound1 phase
    | waitingForRound1PackagesBroadcast => exact absurd allBroadcast phase.2
    | waitingForRound2Packages pubkeys packages round2Packages =>
        obtain ⟨rfl, -, full, -⟩ := consistent
        have participates : senderIdentifier ∈ packages.keys := by
          rw [full]
          exact Membership.mem_others_of_lookup known notSelf
        exact ⟨_, DKGSessionState.recv_of_accepts
          (.round2 decoded known participates)⟩
    | round2PackagesReady =>
        obtain ⟨earlier, received⟩ := phase.2.2 _ _ notSelf known
        exact absurd received (first earlier)

end Acceptance

section Timely

variable
  (setup : Setup PublicKey Identifier Round1Package Round2Package Payload)
variable {selfPubkey : PublicKey} {selfIdentifier : Identifier}
variable (known : setup.pubkeys.lookup selfPubkey = some selfIdentifier)

/-- The Round 1 Packages of all the other participants are in the log. -/
def AllRound1 (log : List (Msg PublicKey Payload)) : Prop :=
  FromAll (setup.membership known) (ReceivedRound1 setup.wire log)

/-- The Round 2 Packages of all the other participants are in the log. -/
def AllRound2 (log : List (Msg PublicKey Payload)) : Prop :=
  FromAll (setup.membership known) (ReceivedRound2 setup.wire log)

/-- All the echoes are in the log. -/
def AllEchoes (log : List (Msg PublicKey Payload)) : Prop :=
  AllBroadcast (setup.membership known) setup.wire log

/-- The message does not come before its phase. -/
def Timely
    (log : List (Msg PublicKey Payload))
    (msg : Msg PublicKey Payload) : Prop :=
  ((setup.wire.fromSliceBroadcast msg.msg).isSome →
    AllRound1 setup known log) ∧
  ((setup.wire.fromSliceRound2 msg.msg).isSome →
    AllRound1 setup known log ∧ AllEchoes setup known log)

/-- No message of the batch comes before its phase. -/
def TimelyBatch :
    List (Msg PublicKey Payload) → List (Msg PublicKey Payload) → Prop
  | _, [] => True
  | log, msg :: batch =>
      Timely setup known log msg ∧ TimelyBatch (log ++ [msg]) batch

end Timely

/-- The messages were sent to the participant by their senders, those of one
sender in the order sent. -/
structure InOrder
    (world : World PublicKey Identifier Round1Package Round2Package Payload)
    (selfPubkey : PublicKey)
    (messages : List (Msg PublicKey Payload)) : Prop where
  authentic : ∀ {msg}, msg ∈ messages →
    msg.sender ≠ selfPubkey ∧ msg.msg ∈ (world msg.sender).outbox selfPubkey
  ordered : ∀ sender,
    payloadsFrom sender messages <+: (world sender).outbox selfPubkey

section AllHonest

variable [DecidableEq Round1Package] [DecidableEq Payload]
variable
  {setup : Setup PublicKey Identifier Round1Package Round2Package Payload}
variable {fifo : Bool}
variable
  {world : World PublicKey Identifier Round1Package Round2Package Payload}
variable {selfPubkey : PublicKey} {selfIdentifier : Identifier}
variable {known : setup.pubkeys.lookup selfPubkey = some selfIdentifier}
variable
  {node next : Node PublicKey Identifier Round1Package Round2Package Payload}
variable {script : Script Identifier Round1Package Round2Package}
variable {log : List (Msg PublicKey Payload)}
variable {msg : Msg PublicKey Payload} {batch : List (Msg PublicKey Payload)}

omit [DecidableEq Identifier] [DecidableEq Round1Package]
  [DecidableEq Payload] in
theorem InOrder.isPrefix
    {messages : List (Msg PublicKey Payload)}
    (inOrder : InOrder world selfPubkey messages)
    (isPrefix : log <+: messages) :
    InOrder world selfPubkey log where
  authentic := fun member => inOrder.authentic (isPrefix.subset member)
  ordered := fun sender =>
    (payloadsFrom_isPrefix isPrefix sender).trans (inOrder.ordered sender)

omit [DecidableEq Round1Package] [DecidableEq Payload] in
/-- A deliverable batch continues the log in order. -/
theorem WorldInvariant.inOrder
    (invariant : WorldInvariant setup true world)
    (deliverable : Deliverable true world selfPubkey batch) :
    InOrder world selfPubkey ((world selfPubkey).log ++ batch) where
  authentic := by
    intro msg member
    rcases List.mem_append.mp member with earlier | now
    · exact invariant.authentic earlier
    · exact deliverable.1 msg now
  ordered := fun sender =>
    deliverable.ordered rfl sender
      (invariant.ordered rfl selfPubkey sender)

omit [DecidableEq Round1Package] [DecidableEq Payload] in
/-- Among honest participants every sender of a message is one of them, and its
outbox is a script. -/
theorem WorldInvariant.sender_script
    {payload : Payload}
    {sender : PublicKey}
    (invariant : WorldInvariant setup fifo world)
    (allHonest : setup.dishonest = ∅)
    (known : setup.pubkeys.lookup selfPubkey = some selfIdentifier)
    (notSelf : sender ≠ selfPubkey)
    (sent : payload ∈ (world sender).outbox selfPubkey) :
    ∃ senderIdentifier,
      ∃ senderKnown : setup.pubkeys.lookup sender = some senderIdentifier,
        ∃ script, NodeInvariant setup senderKnown (world sender) script ∧
          (world sender).outbox selfPubkey =
            setup.payloads sender script selfIdentifier := by
  have honest : sender ∉ setup.dishonest := by simp [allHonest]
  have participates : sender ∈ setup.pubkeys.keys := by
    by_contra outside
    rw [invariant.silent outside honest] at sent
    exact absurd sent List.not_mem_nil
  obtain ⟨senderIdentifier, senderKnown⟩ :=
    FiniteMap.mem_keys_iff_lookup.mp participates
  obtain ⟨script, senderNode⟩ := invariant.node senderKnown honest
  exact ⟨senderIdentifier, senderKnown, script, senderNode,
    senderNode.outbox selfPubkey selfIdentifier (Ne.symm notSelf) known⟩

omit [DecidableEq Identifier] [DecidableEq Round1Package]
  [DecidableEq Payload] in
/-- What one sender sends without repetition arrives without repetition. -/
theorem InOrder.fresh
    (inOrder : InOrder world selfPubkey (log ++ [msg]))
    (nodup : ((world msg.sender).outbox selfPubkey).Nodup)
    {earlier : Msg PublicKey Payload}
    (member : earlier ∈ log)
    (sameSender : earlier.sender = msg.sender) :
    earlier.msg ≠ msg.msg := by
  have once : (payloadsFrom msg.sender (log ++ [msg])).Nodup :=
    nodup.sublist (inOrder.ordered msg.sender).sublist
  rw [payloadsFrom_append] at once
  have inFirst : earlier.msg ∈ payloadsFrom msg.sender log :=
    List.mem_map.mpr ⟨earlier, List.mem_filter.mpr
      ⟨member, by simpa using sameSender⟩, rfl⟩
  have inSecond : msg.msg ∈ payloadsFrom msg.sender [msg] := by
    simp [payloadsFrom]
  exact (List.nodup_append.mp once).2.2 _ inFirst _ inSecond

section First

variable {original : Identifier}
variable {packages : FiniteMap Identifier Round1Package}
variable {package : Round1Package}
-- The earlier messages of the sender are other payloads of its script.
variable
  (earlier : ∀ other ∈ log, other.sender = msg.sender →
    other.msg ∈ setup.payloads msg.sender script selfIdentifier ∧
      other.msg ≠ msg.msg)

include earlier

omit [DecidableEq Round1Package] [DecidableEq Payload] in
theorem Setup.not_receivedRound1
    (payload : msg.msg =
      setup.wire.toVecRound1 (setup.round1Package msg.sender))
    (other : Round1Package) :
    ¬ReceivedRound1 setup.wire log msg.sender other := by
  rintro ⟨otherMsg, member, sameSender, decoded⟩
  obtain ⟨inScript, different⟩ := earlier otherMsg member sameSender
  exact different ((Setup.eq_of_round1 inScript decoded).1.trans payload.symm)

omit [DecidableEq Round1Package] [DecidableEq Payload] in
theorem Setup.not_receivedBroadcast
    (echoed : script.echoed = some packages)
    (lookup : packages.lookup original = some package)
    (payload : msg.msg = setup.wire.toVecBroadcast original package)
    (other : Round1Package) :
    ¬ReceivedBroadcast setup.wire log msg.sender original other := by
  rintro ⟨otherMsg, member, sameSender, decoded⟩
  obtain ⟨inScript, different⟩ := earlier otherMsg member sameSender
  obtain ⟨others, othersEchoed, -, otherLookup, otherPayload⟩ :=
    Setup.eq_of_broadcast inScript decoded
  obtain rfl : others = packages :=
    Option.some.inj (othersEchoed.symm.trans echoed)
  obtain rfl : other = package :=
    Option.some.inj (otherLookup.symm.trans lookup)
  exact different (otherPayload.trans payload.symm)

omit [DecidableEq Round1Package] [DecidableEq Payload] in
theorem Setup.not_receivedRound2
    {shared : Identifier → Round2Package}
    (isShared : script.shared = some shared)
    (payload : msg.msg = setup.wire.toVecRound2 (shared selfIdentifier))
    (other : Round2Package) :
    ¬ReceivedRound2 setup.wire log msg.sender other := by
  rintro ⟨otherMsg, member, sameSender, decoded⟩
  obtain ⟨inScript, different⟩ := earlier otherMsg member sameSender
  obtain ⟨others, othersShared, otherPayload⟩ :=
    Setup.eq_of_round2 inScript decoded
  obtain rfl : others = shared :=
    Option.some.inj (othersShared.symm.trans isShared)
  exact different (otherPayload.trans payload.symm)

end First

omit [DecidableEq Round1Package] [DecidableEq Payload] in
/-- An honest participant echoes to another one what a third one has sent. -/
theorem WorldInvariant.exists_original
    {sender : PublicKey}
    {senderIdentifier original : Identifier}
    {senderKnown : setup.pubkeys.lookup sender = some senderIdentifier}
    {packages : FiniteMap Identifier Round1Package}
    {package : Round1Package}
    (invariant : WorldInvariant setup fifo world)
    (allHonest : setup.dishonest = ∅)
    (known : setup.pubkeys.lookup selfPubkey = some selfIdentifier)
    (senderNode : NodeInvariant setup senderKnown (world sender) script)
    (echoed : script.echoed = some packages)
    (notReceiver : original ≠ selfIdentifier)
    (lookup : packages.lookup original = some package) :
    ∃ originalKey, setup.pubkeys.lookup originalKey = some original ∧
      originalKey ≠ selfPubkey ∧ original ≠ senderIdentifier ∧
        package = setup.round1Package originalKey := by
  have held := senderNode.echoed packages echoed
  obtain ⟨originalKey, notSender, originalKnown, received⟩ :=
    held.provenance lookup
  refine ⟨originalKey, originalKnown, ?_, ?_, ?_⟩
  · rintro rfl
    exact notReceiver (Option.some.inj (originalKnown.symm.trans known))
  · rintro rfl
    exact notSender (setup.injective _ _ _ originalKnown senderKnown)
  · obtain ⟨other, member, rfl, decoded⟩ := received
    exact invariant.sentRound1_eq originalKnown senderKnown
      (by simp [allHonest]) (Ne.symm notSender)
      (invariant.authentic member).2 decoded

omit [DecidableEq Payload] in
/-- Among honest participants a message delivered in order is accepted exactly
when it does not come before its phase. -/
theorem WorldInvariant.recv_ok_iff_timely
    (invariant : WorldInvariant setup fifo world)
    (allHonest : setup.dishonest = ∅)
    (nodeInvariant : NodeInvariant setup known node script)
    (inOrder : InOrder world selfPubkey (node.log ++ [msg])) :
    (∃ next, node.state.recv setup.wire msg selfIdentifier =
        (next, .ok ())) ↔
      Timely setup known node.log msg := by
  have consistent := nodeInvariant.consistent
  obtain ⟨notSelf, sent⟩ := inOrder.authentic
    (List.mem_append.mpr (Or.inr (List.mem_singleton_self msg)))
  obtain ⟨senderIdentifier, senderKnown, senderScript, senderNode, outbox⟩ :=
    invariant.sender_script allHonest known notSelf sent
  have nodup : ((world msg.sender).outbox selfPubkey).Nodup := by
    rw [outbox]
    exact Setup.payloads_nodup
  -- an earlier message of the same sender is another payload of its script
  have earlier : ∀ other ∈ node.log, other.sender = msg.sender →
      other.msg ∈ setup.payloads msg.sender senderScript selfIdentifier ∧
        other.msg ≠ msg.msg := by
    intro other member sameSender
    have otherSent := (inOrder.authentic
      (List.mem_append.mpr (Or.inl member))).2
    rw [sameSender, outbox] at otherSent
    exact ⟨otherSent, inOrder.fresh nodup member sameSender⟩
  rw [outbox] at sent
  rcases Setup.mem_payloads.mp sent with
    ⟨-, payload⟩ | ⟨packages, original, package, echoed, -, notReceiver,
      lookup, payload⟩ | ⟨packages, shared, payload⟩
  · have decoded : setup.wire.fromSliceRound1 msg.msg =
        some (setup.round1Package msg.sender) := by
      rw [payload, setup.wire.round1_roundTrip]
    exact iff_of_true
      (consistent.recv_round1 senderKnown notSelf decoded
        (Setup.not_receivedRound1 earlier payload))
      (by simp [Timely, payload])
  · have decoded : setup.wire.fromSliceBroadcast msg.msg =
        some (original, package) := by
      rw [payload, setup.wire.broadcast_roundTrip]
    obtain ⟨originalKey, originalKnown, notSelfKey, notRedundant,
      sentByOriginal⟩ := invariant.exists_original allHonest known senderNode
        echoed notReceiver lookup
    have matching : ∀ stored,
        Collected (setup.membership known)
            (ReceivedRound1 setup.wire node.log) stored →
          stored.keys = (setup.membership known).others →
            stored.lookup original = some package := by
      intro stored collected full
      rw [sentByOriginal]
      exact invariant.lookup_honest originalKnown known (by simp [allHonest])
        notSelfKey
        (fun other member => (inOrder.authentic
          (List.mem_append.mpr (Or.inl member))).2)
        collected full
    have accepted : (∃ next, node.state.recv setup.wire msg selfIdentifier =
        (next, .ok ())) ↔ AllRound1 setup known node.log :=
      consistent.recv_broadcast_iff senderKnown notSelf decoded
        (Membership.mem_others_of_lookup originalKnown notSelfKey)
        notRedundant matching
        (Setup.not_receivedBroadcast earlier echoed lookup payload)
    rw [accepted]
    simp [Timely, payload]
  · have decoded : setup.wire.fromSliceRound2 msg.msg =
        some (packages selfIdentifier) := by
      rw [payload, setup.wire.round2_roundTrip]
    have accepted : (∃ next, node.state.recv setup.wire msg selfIdentifier =
        (next, .ok ())) ↔
          AllRound1 setup known node.log ∧ AllEchoes setup known node.log :=
      consistent.recv_round2_iff senderKnown notSelf decoded
        (Setup.not_receivedRound2 earlier shared payload)
    rw [accepted]
    simp [Timely, payload]

omit [DecidableEq Payload] in
/-- A batch delivered in order is handled without error exactly when none of its
messages comes before its phase. -/
theorem WorldInvariant.recvBatch_ok_iff_timely
    (invariant : WorldInvariant setup fifo world)
    (allHonest : setup.dishonest = ∅)
    (nodeInvariant : NodeInvariant setup known node script)
    (receiving : node.stage.receiving = true)
    (inOrder : InOrder world selfPubkey (node.log ++ batch)) :
    (∃ next, Node.recvBatch setup selfIdentifier node batch =
        (next, .ok ())) ↔
      TimelyBatch setup known node.log batch := by
  induction batch generalizing node with
  | nil => exact iff_of_true ⟨node, rfl⟩ trivial
  | cons msg batch ih =>
      have inOrderHead : InOrder world selfPubkey (node.log ++ [msg]) :=
        inOrder.isPrefix (by simp)
      have notSelf : msg.sender ≠ selfPubkey :=
        (inOrder.authentic (by simp)).1
      have head :=
        invariant.recv_ok_iff_timely allHonest nodeInvariant inOrderHead
      cases received : Node.recv setup selfIdentifier node msg with
      | mk after result =>
          rcases Node.recv_cases received with
            ⟨state, error, stateReceived, -, rfl⟩ |
            ⟨state, firstLoop, stateReceived, afterEq, -, rfl⟩
          · have rejected : ¬Timely setup known node.log msg := by
              rw [← head]
              rintro ⟨next, accepted⟩
              rw [stateReceived] at accepted
              simp at accepted
            refine iff_of_false ?_ (fun timely => rejected timely.1)
            rintro ⟨next, handled⟩
            simp [Node.recvBatch, received] at handled
          · have timely : Timely setup known node.log msg :=
              head.mp ⟨state, stateReceived⟩
            have afterInvariant :=
              nodeInvariant.recv receiving notSelf received
            have afterLog : after.log = node.log ++ [msg] := by
              rw [afterEq]
            have afterReceiving : after.stage.receiving = true := by
              rw [(Node.recv_frame received).1]
              exact receiving
            have tail := ih afterInvariant afterReceiving
              (by rw [afterLog]; simpa using inOrder)
            rw [afterLog] at tail
            simp only [Node.recvBatch, received, TimelyBatch, timely,
              true_and]
            exact tail

end AllHonest

end Dkg
end MinaMultiSig
