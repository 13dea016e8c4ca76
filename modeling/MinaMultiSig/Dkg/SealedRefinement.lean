import MinaMultiSig.Dkg.SealedSteps

/-!
# The session over ciphers is the session over ordered links

Every step over ciphers is one over links that hand out the messages of a sender
in order, each at most once, and nothing in the name of an honest participant that
it has not sent. What holds of the participants in every reachable state there
holds here.
-/

namespace MinaMultiSig
namespace Dkg

open Channel (payloadsTo)
open Channel.Network (MadeFor)

variable {PublicKey Identifier Round1Package Round2Package Payload : Type}
  {Ephemeral Message : Type}
variable [DecidableEq PublicKey] [DecidableEq Identifier]
  [DecidableEq Round1Package] [DecidableEq Payload]

section Inject

variable
  (setup : Setup PublicKey Identifier Round1Package Round2Package Payload)
  (fifo : Bool)

/-- Dishonest senders can send whatever was decrypted in their names. -/
theorem exists_injected
    (recipient : PublicKey)
    (msgs : List (Msg PublicKey Payload))
    (world : World PublicKey Identifier Round1Package Round2Package Payload) :
    ∃ injected, (setup.session fifo).Reaches world injected ∧
      (∀ key, key ∉ setup.dishonest → injected key = world key) ∧
      ∀ sender ∈ setup.dishonest, ∀ other,
        (injected sender).outbox other =
          (world sender).outbox other ++
            if other = recipient then payloadsFrom sender msgs else [] := by
  induction msgs generalizing world with
  | nil =>
      refine ⟨world, .refl _, fun _ _ => rfl, ?_⟩
      intro sender _ other
      simp [payloadsFrom]
  | cons msg msgs ih =>
      by_cases dishonest : msg.sender ∈ setup.dishonest
      · let middle := Function.update world msg.sender
          { world msg.sender with
            outbox := Function.update (world msg.sender).outbox recipient
              ((world msg.sender).outbox recipient ++ [msg.msg]) }
        have stepped : (setup.session fifo).step world
            (.inject msg.sender recipient msg.msg) = some middle :=
          if_pos dishonest
        obtain ⟨injected, reaches, honest, outbox⟩ := ih middle
        refine ⟨injected,
          (TransitionSystem.Reaches.single stepped).trans reaches, ?_, ?_⟩
        · intro key isHonest
          rw [honest key isHonest]
          apply Function.update_of_ne
          rintro rfl
          exact isHonest dishonest
        · intro sender isDishonest other
          rw [outbox sender isDishonest other]
          by_cases same : sender = msg.sender
          · subst same
            simp only [middle, Function.update_self,
              SealedSetup.payloadsFrom_cons, if_true]
            by_cases isRecipient : other = recipient
            · subst isRecipient
              simp
            · simp [isRecipient]
          · simp only [middle, Function.update_of_ne same,
              SealedSetup.payloadsFrom_cons, if_neg (Ne.symm same)]
      · obtain ⟨injected, reaches, honest, outbox⟩ := ih world
        refine ⟨injected, reaches, honest, ?_⟩
        intro sender isDishonest other
        have different : msg.sender ≠ sender := by
          rintro rfl
          exact dishonest isDishonest
        rw [outbox sender isDishonest other, SealedSetup.payloadsFrom_cons,
          if_neg different]

end Inject

variable {snow : Channel.Snow PublicKey Ephemeral Payload Message}

/-- A state over ciphers and one over ordered links: the honest participants are
the same, what they have sent over their ciphers is what their outboxes hold, or a
part of it if they have given up, and what they have decrypted is what they have
handled. -/
structure Refines
    [DecidableEq Ephemeral]
    [DecidableEq Message]
    (sealed : SealedSetup Identifier Round1Package Round2Package snow)
    (world : SealedWorld Identifier Round1Package Round2Package snow)
    (plain : World PublicKey Identifier Round1Package Round2Package Payload) :
    Prop where
  reachable : sealed.network.system.Reachable world.channel
  nodes : ∀ key, sealed.setup.Honest key → plain key = world.nodes key
  unmade : ∀ key, sealed.setup.Honest key → world.aborted key = false →
    (world.nodes key).stage = .starting → world.channel.ciphers key = none
  made : ∀ key, sealed.setup.Honest key → world.aborted key = false →
    (world.nodes key).stage ≠ .starting →
      MadeFor key sealed.setup.pubkeys.keys world.channel
  silent : ∀ key, sealed.setup.Honest key → (world.nodes key).outbox key = []
  sent : ∀ key recipient, sealed.setup.Honest key →
    world.aborted key = false →
      world.channel.sent (key, recipient) = (world.nodes key).outbox recipient
  sent_isPrefix : ∀ key recipient, sealed.setup.Honest key →
    world.channel.sent (key, recipient) <+: (world.nodes key).outbox recipient
  received : ∀ key sender, sealed.setup.Honest key →
    world.aborted key = false →
      (∀ error, (world.nodes key).stage ≠ .recvFailed error) →
        world.channel.received (key, sender) =
          payloadsFrom sender (world.nodes key).log
  injected : ∀ key sender, sealed.setup.Honest key →
    world.aborted key = false → sender ∈ sealed.setup.dishonest →
      (plain sender).outbox key = world.channel.received (key, sender)

namespace Refines

variable [DecidableEq Ephemeral] [DecidableEq Message]
  {sealed : SealedSetup Identifier Round1Package Round2Package snow}
  {world next : SealedWorld Identifier Round1Package Round2Package snow}
  {plain plainNext :
    World PublicKey Identifier Round1Package Round2Package Payload}
  {key : PublicKey}

omit [DecidableEq Identifier] [DecidableEq Round1Package]
  [DecidableEq Payload] in
theorem initial : Refines sealed sealed.initial sealed.setup.initial where
  reachable := .initial
  nodes := fun _ _ => rfl
  unmade := fun _ _ _ _ => rfl
  made := fun _ _ _ started => absurd rfl started
  silent := fun _ _ => rfl
  sent := fun _ _ _ _ => rfl
  sent_isPrefix := fun _ _ _ => List.prefix_rfl
  received := fun _ _ _ _ _ => rfl
  injected := fun _ _ _ _ _ => rfl

omit [DecidableEq Identifier] [DecidableEq Round1Package]
  [DecidableEq Payload] in
/-- What an honest participant has decrypted from another is the start of what
that one has sent to it. -/
theorem received_isPrefix
    (documented : sealed.noiseK.Documented)
    (refines : Refines sealed world plain)
    {sender : PublicKey}
    (honest : sealed.setup.Honest key)
    (honestSender : sealed.setup.Honest sender)
    {msgs : List (Msg PublicKey Payload)}
    {channel : Channel.World snow PublicKey}
    (decrypted : sealed.Decrypted key msgs world.channel channel) :
    channel.received (key, sender) <+: (world.nodes sender).outbox key := by
  have isProtected : sealed.network.Protected sender
      (sealed.network.owner key) := by
    rw [SealedSetup.owner_eq]
    exact ⟨Finset.mem_sdiff.mpr honestSender, Finset.mem_sdiff.mpr honest⟩
  rcases Channel.Network.received_cases documented decrypted.reachable
      (key, sender) isProtected with nothing | ⟨⟨writer, _⟩, ⟨isWriter, rfl⟩, start⟩
  · rw [nothing]
    exact List.nil_prefix
  · rw [SealedSetup.owner_eq] at isWriter start
    obtain rfl : writer = sender := isWriter
    rw [decrypted.sent] at start
    exact start.trans (refines.sent_isPrefix writer key honestSender)

omit [DecidableEq Identifier] [DecidableEq Round1Package]
  [DecidableEq Payload] in
/-- The decrypted messages are deliverable over ordered links, once dishonest
senders have sent theirs. -/
theorem deliverable
    (documented : sealed.noiseK.Documented)
    (refines : Refines sealed world plain)
    (honest : sealed.setup.Honest key)
    (active : world.aborted key = false)
    (notFailed : ∀ error, (world.nodes key).stage ≠ .recvFailed error)
    {msgs : List (Msg PublicKey Payload)}
    {channel : Channel.World snow PublicKey}
    (decrypted : sealed.Decrypted key msgs world.channel channel)
    (unchanged : ∀ other, other ∉ sealed.setup.dishonest →
      plainNext other = plain other)
    (outbox : ∀ sender ∈ sealed.setup.dishonest,
      (plainNext sender).outbox key =
        (plain sender).outbox key ++ payloadsFrom sender msgs) :
    Deliverable true plainNext key msgs := by
  have isLog : (plainNext key).log = (world.nodes key).log := by
    rw [unchanged key honest.2, refines.nodes key honest]
  have total : ∀ sender, channel.received (key, sender) =
      payloadsFrom sender ((plainNext key).log ++ msgs) := by
    intro sender
    rw [decrypted.received, refines.received key sender honest active notFailed,
      isLog, payloadsFrom_append]
  have fromSender : ∀ msg ∈ msgs, msg.sender ≠ key ∧
      payloadsFrom msg.sender ((plainNext key).log ++ msgs) <+:
        (plainNext msg.sender).outbox key := by
    intro msg member
    by_cases dishonest : msg.sender ∈ sealed.setup.dishonest
    · refine ⟨?_, ?_⟩
      · intro isSelf
        exact honest.2 (isSelf ▸ dishonest)
      · rw [outbox msg.sender dishonest, refines.injected key msg.sender honest
          active dishonest, ← total, decrypted.received]
    · have honestSender : sealed.setup.Honest msg.sender :=
        ⟨decrypted.known msg member, dishonest⟩
      have start := refines.received_isPrefix documented honest honestSender
        decrypted
      rw [total] at start
      refine ⟨?_, ?_⟩
      · intro isSelf
        rw [isSelf, refines.silent key honest, List.prefix_nil] at start
        have inAll : msg.msg ∈
            payloadsFrom key ((plainNext key).log ++ msgs) :=
          List.mem_map.mpr ⟨msg, List.mem_filter.mpr
            ⟨List.mem_append_right _ member, by simpa using isSelf⟩, rfl⟩
        rw [start] at inAll
        exact absurd inAll List.not_mem_nil
      · rw [unchanged msg.sender dishonest, refines.nodes msg.sender
          honestSender]
        exact start
  refine ⟨?_, fun _ msg member => (fromSender msg member).2⟩
  intro msg member
  obtain ⟨notSelf, start⟩ := fromSender msg member
  refine ⟨notSelf, start.subset ?_⟩
  exact List.mem_map.mpr ⟨msg, List.mem_filter.mpr
    ⟨List.mem_append_right _ member, by simp⟩, rfl⟩

omit [DecidableEq Identifier] [DecidableEq Round1Package]
  [DecidableEq Payload] in
/-- A participant moves on and sends what it has to say. -/
theorem moveTo
    (documented : sealed.noiseK.Documented)
    (refines : Refines sealed world plain)
    (honest : sealed.setup.Honest key)
    (active : world.aborted key = false)
    {channel : Channel.World snow PublicKey}
    (reachable : sealed.network.system.Reachable channel)
    (made : MadeFor key sealed.setup.pubkeys.keys channel)
    (onlyMoved : Channel.World.OnlyMoved key world.channel channel)
    (unsent : channel.sent = world.channel.sent)
    {node : Node PublicKey Identifier Round1Package Round2Package Payload}
    (sends : SendsOnly sealed.setup key (world.nodes key) node)
    (started : node.stage ≠ .starting)
    (received : (∀ error, node.stage ≠ .recvFailed error) → ∀ sender,
      channel.received (key, sender) = payloadsFrom sender node.log)
    (nodes : ∀ other, sealed.setup.Honest other →
      plainNext other = Function.update world.nodes key node other)
    (injected : ∀ other sender, sealed.setup.Honest other →
      world.aborted other = false → sender ∈ sealed.setup.dishonest →
        (plainNext sender).outbox other = channel.received (other, sender))
    {ephemerals : List Ephemeral}
    (moved : sealed.moveTo world key channel (some node) ephemerals =
      some next) :
    Refines sealed next plainNext := by
  obtain ⟨⟨after, result⟩, isSent, rfl⟩ := Option.map_eq_some_iff.mp moved
  obtain ⟨sent, complete⟩ :=
    Channel.Network.sent_of_sendAll documented reachable made isSent
  have others : ∀ other, other ≠ key →
      Function.update world.nodes key node other = world.nodes other ∧
        Function.update world.aborted key (!result.isOk) other =
          world.aborted other :=
    fun other different => ⟨Function.update_of_ne different _ _,
      Function.update_of_ne different _ _⟩
  have grows : ∀ recipient, world.channel.sent (key, recipient) ++
      payloadsTo recipient (sealed.outgoing key (world.nodes key) node) =
        node.outbox recipient := by
    intro recipient
    rw [refines.sent key recipient honest active, SealedSetup.outbox_eq sends]
  have moves := onlyMoved.trans sent.onlyMoved
  refine
    { reachable := sent.reachable
      nodes := nodes
      unmade := ?_
      made := ?_
      silent := ?_
      sent := ?_
      sent_isPrefix := ?_
      received := ?_
      injected := ?_ }
  · intro other honestOther activeOther starting
    by_cases same : other = key
    · subst same
      simp only [Function.update_self] at starting
      exact absurd starting started
    · simp only [others other same] at activeOther starting
      rw [moves.ciphers other same]
      exact refines.unmade other honestOther activeOther starting
  · intro other honestOther activeOther startedOther
    by_cases same : other = key
    · subst same
      exact sent.made
    · simp only [others other same] at activeOther startedOther
      exact (refines.made other honestOther activeOther
        startedOther).of_onlyMoved moves same
  · intro other honestOther
    by_cases same : other = key
    · subst same
      simp only [Function.update_self]
      obtain ⟨payloads, outbox, nothing⟩ := sends.exists_payloads other
      rw [outbox, refines.silent other honest]
      simpa using nothing
    · simp only [others other same]
      exact refines.silent other honestOther
  · intro other recipient honestOther activeOther
    by_cases same : other = key
    · subst same
      simp only [Function.update_self, Bool.not_eq_false'] at activeOther ⊢
      rw [complete, unsent, grows]
      cases result with
      | ok value => rfl
      | error failure => simp [Except.isOk, Except.toBool] at activeOther
    · simp only [others other same] at activeOther ⊢
      rw [moves.sent (other, recipient) same]
      exact refines.sent other recipient honestOther activeOther
  · intro other recipient honestOther
    by_cases same : other = key
    · subst same
      simp only [Function.update_self]
      rw [← grows, ← unsent]
      exact sent.sent_isPrefix recipient
    · simp only [others other same]
      rw [moves.sent (other, recipient) same]
      exact refines.sent_isPrefix other recipient honestOther
  · intro other sender honestOther activeOther notFailed
    rw [sent.received]
    by_cases same : other = key
    · subst same
      simp only [Function.update_self] at notFailed ⊢
      exact received notFailed sender
    · simp only [others other same] at activeOther notFailed ⊢
      rw [onlyMoved.received (other, sender) same]
      exact refines.received other sender honestOther activeOther notFailed
  · intro other sender honestOther activeOther dishonest
    rw [sent.received]
    by_cases same : other = key
    · subst same
      exact injected other sender honest active dishonest
    · simp only [others other same] at activeOther
      exact injected other sender honestOther activeOther dishonest

omit [DecidableEq Identifier] [DecidableEq Round1Package]
  [DecidableEq Payload] in
/-- A participant gives up. -/
theorem abort
    (refines : Refines sealed world plain)
    {channel : Channel.World snow PublicKey}
    (reachable : sealed.network.system.Reachable channel)
    (onlyMoved : Channel.World.OnlyMoved key world.channel channel)
    (unsent : channel.sent = world.channel.sent) :
    Refines sealed
      { world with
        channel := channel
        aborted := Function.update world.aborted key true } plain := by
  have others : ∀ other,
      Function.update world.aborted key true other = false →
        other ≠ key ∧ world.aborted other = false := by
    intro other active
    have different : other ≠ key := by
      rintro rfl
      simp at active
    exact ⟨different, by rwa [Function.update_of_ne different] at active⟩
  refine
    { reachable := reachable
      nodes := refines.nodes
      unmade := ?_
      made := ?_
      silent := refines.silent
      sent := ?_
      sent_isPrefix := ?_
      received := ?_
      injected := ?_ }
  · intro other honest active starting
    obtain ⟨different, active⟩ := others other active
    rw [onlyMoved.ciphers other different]
    exact refines.unmade other honest active starting
  · intro other honest active started
    obtain ⟨different, active⟩ := others other active
    exact (refines.made other honest active started).of_onlyMoved onlyMoved
      different
  · intro other recipient honest active
    obtain ⟨different, active⟩ := others other active
    rw [unsent]
    exact refines.sent other recipient honest active
  · intro other recipient honest
    rw [unsent]
    exact refines.sent_isPrefix other recipient honest
  · intro other sender honest active notFailed
    obtain ⟨different, active⟩ := others other active
    rw [onlyMoved.received (other, sender) different]
    exact refines.received other sender honest active notFailed
  · intro other sender honest active dishonest
    obtain ⟨different, active⟩ := others other active
    rw [onlyMoved.received (other, sender) different]
    exact refines.injected other sender honest active dishonest

section Stages

variable
  {setup : Setup PublicKey Identifier Round1Package Round2Package Payload}
  {node : Node PublicKey Identifier Round1Package Round2Package Payload}

omit [DecidableEq Round1Package] [DecidableEq Payload] in
theorem leaveLoop_stage_ne_starting
    (receiving : node.stage.receiving = true) :
    (node.leaveLoop setup key).stage ≠ .starting := by
  cases isStage : node.stage with
  | receivingRound1 =>
      simp only [Node.leaveLoop, isStage]
      split
      · simp
      · split_ifs
        · simp
        · simp
  | receivingBroadcast =>
      simp only [Node.leaveLoop, isStage]
      split
      · simp
      · simp
  | receivingRound2 round1Packages =>
      simp only [Node.leaveLoop, isStage]
      split
      · simp
      · simp
  | _ => simp [isStage, Stage.receiving] at receiving

omit [DecidableEq Payload] in
/-- A receive loop does not lead back to the start, and it has handled all of a
batch unless handling failed. -/
theorem receive_stage
    (setup : Setup PublicKey Identifier Round1Package Round2Package Payload)
    (key : PublicKey)
    (selfIdentifier : Identifier)
    (batch : List (Msg PublicKey Payload))
    (receiving : node.stage.receiving = true) :
    (node.receive setup key selfIdentifier batch).stage ≠ .starting ∧
      ((∀ error, (node.receive setup key selfIdentifier batch).stage ≠
          .recvFailed error) →
        (node.receive setup key selfIdentifier batch).log =
          node.log ++ batch) := by
  cases handled : Node.recvBatch setup selfIdentifier node batch with
  | mk after result =>
    obtain ⟨-, stage, accepted, -, log, all⟩ := Node.recvBatch_frame handled
    cases result with
    | error error =>
        simp only [Node.receive, handled]
        exact ⟨by simp, fun notFailed => absurd rfl (notFailed error)⟩
    | ok value =>
        simp only [Node.receive, handled]
        rw [← stage] at receiving
        rw [all rfl] at log
        split_ifs
        · exact ⟨leaveLoop_stage_ne_starting receiving, fun _ =>
            Node.leaveLoop_frame.1.trans log⟩
        · refine ⟨?_, fun _ => log⟩
          intro starting
          simp [starting, Stage.receiving] at receiving

end Stages

omit [DecidableEq Identifier] [DecidableEq Round1Package]
  [DecidableEq Payload] in
/-- What the notes of dishonest senders are compared with does not change for the
honest participants. -/
theorem injected_update
    (refines : Refines sealed world plain)
    (honest : sealed.setup.Honest key)
    {channel : Channel.World snow PublicKey}
    (unread : channel.received = world.channel.received)
    (node : Node PublicKey Identifier Round1Package Round2Package Payload)
    (other sender : PublicKey)
    (honestOther : sealed.setup.Honest other)
    (active : world.aborted other = false)
    (dishonest : sender ∈ sealed.setup.dishonest) :
    (Function.update plain key node sender).outbox other =
      channel.received (other, sender) := by
  have different : sender ≠ key := by
    rintro rfl
    exact honest.2 dishonest
  rw [Function.update_of_ne different, unread]
  exact refines.injected other sender honestOther active dishonest

omit [DecidableEq Identifier] [DecidableEq Round1Package]
  [DecidableEq Payload] [DecidableEq Ephemeral] [DecidableEq Message] in
/-- A step of one participant is the same for all honest ones. -/
theorem nodes_update
    {nodes : World PublicKey Identifier Round1Package Round2Package Payload}
    (same : ∀ other, sealed.setup.Honest other → plain other = nodes other)
    (node : Node PublicKey Identifier Round1Package Round2Package Payload)
    (other : PublicKey)
    (honest : sealed.setup.Honest other) :
    Function.update plain key node other =
      Function.update nodes key node other := by
  by_cases isKey : other = key
  · subst isKey
    rw [Function.update_self, Function.update_self]
  · rw [Function.update_of_ne isKey, Function.update_of_ne isKey]
    exact same other honest

theorem start
    (documented : sealed.noiseK.Documented)
    (refines : Refines sealed world plain)
    (honest : sealed.setup.Honest key)
    (active : world.aborted key = false)
    (starting : (world.nodes key).stage = .starting)
    {cipher : Channel.Cipher snow}
    (isNew : Channel.Cipher.new (sealed.privateKey key) (sealed.order key) =
      .ok cipher)
    {ephemerals : List Ephemeral}
    (moved : sealed.moveTo world key (world.channel.setCipher key cipher)
      (some ((world.nodes key).start sealed.setup key)) ephemerals =
        some next) :
    ∃ plainNext, (sealed.setup.session true).Reaches plain plainNext ∧
      Refines sealed next plainNext := by
  have plainStep : (sealed.setup.session true).step plain (.start key) =
      some (Function.update plain key
        ((world.nodes key).start sealed.setup key)) := by
    simp only [Setup.session, Setup.step, refines.nodes key honest, starting,
      if_pos honest]
  have unmade := refines.unmade key honest active starting
  have channelStep : sealed.network.system.step world.channel
      (.new key (sealed.order key)) = some (world.channel.setCipher key cipher) := by
    simp only [Channel.Network.system, Channel.Network.step, unmade]
    rw [show sealed.network.privateKey key = sealed.privateKey key from rfl,
      isNew]
  obtain ⟨made, isMade, -, keys⟩ := Channel.NoiseK.exists_new documented
    (sealed.privateKey key) (sealed.order key)
  obtain rfl := Except.ok.inj (isNew.symm.trans isMade)
  have peers : cipher.sendNoiseMap.keys = sealed.setup.pubkeys.keys := by
    rw [keys]
    ext other
    rw [List.mem_toFinset, sealed.mem_order]
  refine ⟨_, .single plainStep, refines.moveTo documented honest active
    (refines.reachable.step channelStep)
    ⟨cipher, Function.update_self _ _ _, peers⟩ (.setCipher cipher) rfl
    sendsOnly_start ?_ ?_ (nodes_update refines.nodes _)
    (refines.injected_update honest rfl _) moved⟩
  · simp [Node.start]
  · intro _ sender
    apply refines.received key sender honest active
    simp [starting]

theorem sendRound2
    (documented : sealed.noiseK.Documented)
    (refines : Refines sealed world plain)
    (honest : sealed.setup.Honest key)
    (active : world.aborted key = false)
    {round1Packages : FiniteMap Identifier Round1Package}
    (done : (world.nodes key).stage = .round1Done round1Packages)
    {ephemerals : List Ephemeral}
    (moved : sealed.moveTo world key world.channel
      (some ((world.nodes key).sendRound2 sealed.setup key round1Packages))
        ephemerals = some next) :
    ∃ plainNext, (sealed.setup.session true).Reaches plain plainNext ∧
      Refines sealed next plainNext := by
  have plainStep : (sealed.setup.session true).step plain (.sendRound2 key) =
      some (Function.update plain key
        ((world.nodes key).sendRound2 sealed.setup key round1Packages)) := by
    simp only [Setup.session, Setup.step, refines.nodes key honest, done,
      if_pos honest]
  have made := refines.made key honest active (by simp [done])
  refine ⟨_, .single plainStep, refines.moveTo documented honest active
    refines.reachable made (.refl _) rfl
    (sendsOnly_sendRound2 round1Packages) ?_ ?_ (nodes_update refines.nodes _)
    (refines.injected_update honest rfl _) moved⟩
  · unfold Node.sendRound2
    split
    · simp
    · simp
  · intro _ sender
    rw [Node.sendRound2_frame.1]
    apply refines.received key sender honest active
    simp [done]

theorem receive
    (documented : sealed.noiseK.Documented)
    (refines : Refines sealed world plain)
    (honest : sealed.setup.Honest key)
    (active : world.aborted key = false)
    (receiving : (world.nodes key).stage.receiving = true)
    {selfIdentifier : Identifier}
    (known : sealed.setup.pubkeys.lookup key = some selfIdentifier)
    {msgs : List (Msg PublicKey Payload)}
    {channel : Channel.World snow PublicKey}
    (decrypted : sealed.Decrypted key msgs world.channel channel)
    {ephemerals : List Ephemeral}
    (moved : sealed.moveTo world key channel
      (some ((world.nodes key).receive sealed.setup key selfIdentifier msgs))
        ephemerals = some next) :
    ∃ plainNext, (sealed.setup.session true).Reaches plain plainNext ∧
      Refines sealed next plainNext := by
  have notFailed : ∀ error, (world.nodes key).stage ≠ .recvFailed error := by
    intro error failed
    simp [failed, Stage.receiving] at receiving
  obtain ⟨injected, reaches, unchanged, outbox⟩ :=
    exists_injected sealed.setup true key msgs plain
  have isNode : injected key = world.nodes key := by
    rw [unchanged key honest.2, refines.nodes key honest]
  have deliverable := refines.deliverable documented honest active notFailed
    decrypted unchanged fun sender dishonest => by
      rw [outbox sender dishonest key, if_pos rfl]
  have plainStep : (sealed.setup.session true).step injected
      (.receive key msgs) = some (Function.update injected key
        ((world.nodes key).receive sealed.setup key selfIdentifier msgs)) := by
    simp only [Setup.session, Setup.step, known, isNode]
    rw [if_pos ⟨honest, receiving, deliverable⟩]
  obtain ⟨stage, log⟩ :=
    receive_stage sealed.setup key selfIdentifier msgs receiving
  refine ⟨_, reaches.trans (.single plainStep),
    refines.moveTo documented honest active decrypted.reachable decrypted.made
      decrypted.onlyMoved decrypted.sent (.receive selfIdentifier msgs) stage
      ?_ (nodes_update ?_ _) ?_ moved⟩
  · intro handled sender
    rw [decrypted.received, refines.received key sender honest active notFailed,
      log handled, payloadsFrom_append]
  · intro other honestOther
    rw [unchanged other honestOther.2, refines.nodes other honestOther]
  · intro other sender honestOther activeOther dishonest
    have different : sender ≠ key := by
      rintro rfl
      exact honest.2 dishonest
    rw [Function.update_of_ne different, outbox sender dishonest other,
      refines.injected other sender honestOther activeOther dishonest]
    by_cases same : other = key
    · subst same
      rw [if_pos rfl, decrypted.received]
    · rw [if_neg same, List.append_nil]
      exact (decrypted.onlyMoved.received (other, sender) same).symm

/-- Every step over ciphers is some steps over ordered links. -/
theorem step
    (documented : sealed.noiseK.Documented)
    (refines : Refines sealed world plain)
    {action : SealedAction PublicKey Ephemeral Message}
    (stepped : sealed.step world action = some next) :
    ∃ plainNext, (sealed.setup.session true).Reaches plain plainNext ∧
      Refines sealed next plainNext := by
  cases action with
  | start key ephemerals =>
      simp only [SealedSetup.step] at stepped
      split at stepped
      · rename_i starting
        split_ifs at stepped with guard
        split at stepped
        · obtain rfl := Option.some.inj stepped
          exact ⟨plain, .refl _,
            refines.abort refines.reachable (.refl _) rfl⟩
        · rename_i isNew
          exact refines.start documented guard.1 guard.2 starting isNew stepped
      · exact absurd stepped (by simp)
  | receive key batch ephemerals =>
      simp only [SealedSetup.step] at stepped
      cases known : sealed.setup.pubkeys.lookup key with
      | none => simp [known] at stepped
      | some selfIdentifier =>
          simp only [known] at stepped
          split_ifs at stepped with guard
          obtain ⟨honest, active, receiving, delivered⟩ := guard
          have made := refines.made key honest active (by
            intro starting
            simp [starting, Stage.receiving] at receiving)
          cases handled : sealed.receive key selfIdentifier world.channel
              (world.nodes key) batch with
          | mk channel result =>
            simp only [handled] at stepped
            obtain ⟨msgs, decrypted, rfl | rfl⟩ :=
              SealedSetup.decrypted_of_receive documented refines.reachable
                made delivered handled
            · obtain rfl := Option.some.inj stepped
              exact ⟨plain, .refl _, refines.abort decrypted.reachable
                decrypted.onlyMoved decrypted.sent⟩
            · exact refines.receive documented honest active receiving known
                decrypted stepped
  | sendRound2 key ephemerals =>
      simp only [SealedSetup.step] at stepped
      split at stepped
      · rename_i done
        split_ifs at stepped with guard
        exact refines.sendRound2 documented guard.1 guard.2 done stepped
      · exact absurd stepped (by simp)

end Refines

/-- Every state that the honest participants can be in over ciphers, they can be
in over ordered links. -/
theorem SealedSetup.session_refines
    [DecidableEq Ephemeral]
    [DecidableEq Message]
    {sealed : SealedSetup Identifier Round1Package Round2Package snow}
    (documented : sealed.noiseK.Documented)
    {world : SealedWorld Identifier Round1Package Round2Package snow}
    (reachable : sealed.session.Reachable world) :
    ∃ plain, (sealed.setup.session true).Reachable plain ∧
      ∀ key, sealed.setup.Honest key → plain key = world.nodes key := by
  have simulated : ∃ plain, (sealed.setup.session true).Reachable plain ∧
      Refines sealed world plain :=
    reachable.simulated (Refines sealed) .initial
      fun _ refines stepped => refines.step documented stepped
  obtain ⟨plain, plainReachable, refines⟩ := simulated
  exact ⟨plain, plainReachable, refines.nodes⟩

end Dkg
end MinaMultiSig
