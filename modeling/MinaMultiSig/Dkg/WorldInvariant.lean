import MinaMultiSig.Dkg.NodeInvariant

/-!
# What holds in every reachable state of a DKG session

The steps of a session move one participant each, and outboxes only grow. Every
honest participant therefore keeps its own invariant, and every message it has
accepted stays in the outbox of its sender.
-/

namespace MinaMultiSig
namespace Dkg

variable {PublicKey Identifier Round1Package Round2Package Payload : Type}
variable [DecidableEq PublicKey] [DecidableEq Identifier]

section Frames

variable
  {setup : Setup PublicKey Identifier Round1Package Round2Package Payload}
variable {selfPubkey : PublicKey} {selfIdentifier : Identifier}
variable
  {node next : Node PublicKey Identifier Round1Package Round2Package Payload}
variable {batch : List (Msg PublicKey Payload)}

/-- Handling a batch accepts a prefix of it and sends nothing. -/
theorem Node.recvBatch_frame
    [DecidableEq Round1Package]
    {result : Except SessionError Unit}
    (received :
      Node.recvBatch setup selfIdentifier node batch = (next, result)) :
    next.outbox = node.outbox ∧ next.stage = node.stage ∧
      ∃ accepted, accepted <+: batch ∧ next.log = node.log ++ accepted ∧
        (result = .ok () → accepted = batch) := by
  induction batch generalizing node with
  | nil =>
      obtain ⟨rfl, rfl⟩ := Prod.mk.inj received
      exact ⟨rfl, rfl, [], List.prefix_rfl, by simp, fun _ => rfl⟩
  | cons msg batch ih =>
      unfold Node.recvBatch at received
      split at received
      · rename_i after error stepReceived
        obtain ⟨rfl, rfl⟩ := Prod.mk.inj received
        have frame := Node.recv_frame stepReceived
        rcases Node.recv_cases stepReceived with
          ⟨state, _, -, rfl, -⟩ | ⟨_, _, -, -, -, impossible⟩
        · exact ⟨frame.2, frame.1, [], List.nil_prefix, by simp,
            fun accepted => by cases accepted⟩
        · cases impossible
      · rename_i after stepReceived
        have frame := Node.recv_frame stepReceived
        rcases Node.recv_cases stepReceived with
          ⟨_, _, -, -, impossible⟩ | ⟨state, firstLoop, -, rfl, -, -⟩
        · cases impossible
        · obtain ⟨outbox, stage, accepted, isPrefix, log, all⟩ := ih received
          refine ⟨outbox.trans frame.2, stage.trans frame.1, msg :: accepted,
            (List.prefix_cons_inj msg).mpr isPrefix, ?_, ?_⟩
          · rw [log]
            simp
          · intro ok
            rw [all ok]

/-- Leaving a receive loop only sends. -/
theorem Node.leaveLoop_frame :
    (Node.leaveLoop setup selfPubkey node).log = node.log ∧
      ∀ recipient, node.outbox recipient <+:
        (Node.leaveLoop setup selfPubkey node).outbox recipient := by
  unfold Node.leaveLoop
  split
  · split
    · exact ⟨rfl, fun _ => List.prefix_rfl⟩
    · split_ifs
      · exact ⟨rfl, fun _ => List.prefix_rfl⟩
      · exact ⟨rfl, fun recipient => Setup.prefix_sendEach _ recipient _ _⟩
  · split
    · exact ⟨rfl, fun _ => List.prefix_rfl⟩
    · exact ⟨rfl, fun _ => List.prefix_rfl⟩
  · split
    · exact ⟨rfl, fun _ => List.prefix_rfl⟩
    · exact ⟨rfl, fun _ => List.prefix_rfl⟩
  · exact ⟨rfl, fun _ => List.prefix_rfl⟩

/-- One turn of a receive loop accepts a prefix of its batch and only sends. -/
theorem Node.receive_frame
    [DecidableEq Round1Package] :
    (∃ accepted, accepted <+: batch ∧
      (node.receive setup selfPubkey selfIdentifier batch).log =
        node.log ++ accepted) ∧
    ∀ recipient, node.outbox recipient <+:
      (node.receive setup selfPubkey selfIdentifier batch).outbox
        recipient := by
  unfold Node.receive
  split
  · rename_i next error received
    obtain ⟨outbox, -, accepted, isPrefix, log, -⟩ :=
      Node.recvBatch_frame received
    exact ⟨⟨accepted, isPrefix, log⟩, fun recipient => by simp [outbox]⟩
  · rename_i next received
    obtain ⟨outbox, -, accepted, isPrefix, log, -⟩ :=
      Node.recvBatch_frame received
    split_ifs
    · refine ⟨⟨accepted, isPrefix, Node.leaveLoop_frame.1.trans log⟩,
        fun recipient => ?_⟩
      rw [← outbox]
      exact Node.leaveLoop_frame.2 recipient
    · exact ⟨⟨accepted, isPrefix, log⟩, fun recipient => by simp [outbox]⟩

omit [DecidableEq Identifier] in
/-- Sending the Round 2 Packages only sends. -/
theorem Node.sendRound2_frame
    {packages : FiniteMap Identifier Round1Package} :
    (node.sendRound2 setup selfPubkey packages).log = node.log ∧
      ∀ recipient, node.outbox recipient <+:
        (node.sendRound2 setup selfPubkey packages).outbox recipient := by
  unfold Node.sendRound2
  split
  · exact ⟨rfl, fun _ => List.prefix_rfl⟩
  · exact ⟨rfl, fun recipient => Setup.prefix_sendEach _ recipient _ _⟩

end Frames

/-- Everything sent in the first state is still there in the second. -/
def SentExtends
    (world next :
      World PublicKey Identifier Round1Package Round2Package Payload) :
    Prop :=
  ∀ sender recipient,
    (world sender).outbox recipient <+: (next sender).outbox recipient

section Steps

variable [DecidableEq Round1Package] [DecidableEq Payload]
variable
  (setup : Setup PublicKey Identifier Round1Package Round2Package Payload)
variable (fifo : Bool)
variable
  (world : World PublicKey Identifier Round1Package Round2Package Payload)

/-- The steps of a session with their guards. -/
inductive Moves :
    Action PublicKey Payload →
      World PublicKey Identifier Round1Package Round2Package Payload → Prop
  | start
      {selfPubkey}
      (honest : setup.Honest selfPubkey)
      (starting : (world selfPubkey).stage = .starting) :
      Moves (.start selfPubkey)
        (Function.update world selfPubkey
          ((world selfPubkey).start setup selfPubkey))
  | receive
      {selfPubkey selfIdentifier batch}
      (honest : setup.Honest selfPubkey)
      (known : setup.pubkeys.lookup selfPubkey = some selfIdentifier)
      (receiving : (world selfPubkey).stage.receiving = true)
      (deliverable : Deliverable fifo world selfPubkey batch) :
      Moves (.receive selfPubkey batch)
        (Function.update world selfPubkey
          ((world selfPubkey).receive setup selfPubkey selfIdentifier batch))
  | sendRound2
      {selfPubkey round1Packages}
      (honest : setup.Honest selfPubkey)
      (done : (world selfPubkey).stage = .round1Done round1Packages) :
      Moves (.sendRound2 selfPubkey)
        (Function.update world selfPubkey
          ((world selfPubkey).sendRound2 setup selfPubkey round1Packages))
  | inject
      {sender recipient payload}
      (dishonest : sender ∈ setup.dishonest) :
      Moves (.inject sender recipient payload)
        (Function.update world sender
          { world sender with
            outbox := Function.update (world sender).outbox recipient
              ((world sender).outbox recipient ++ [payload]) })

variable {setup fifo world} {action : Action PublicKey Payload}
variable
  {next : World PublicKey Identifier Round1Package Round2Package Payload}

theorem moves_of_step
    (stepped : setup.step fifo world action = some next) :
    Moves setup fifo world action next := by
  cases action with
  | start selfPubkey =>
      simp only [Setup.step] at stepped
      split at stepped
      · split_ifs at stepped with honest
        obtain rfl := Option.some.inj stepped
        exact .start honest (by assumption)
      · simp at stepped
  | receive selfPubkey batch =>
      simp only [Setup.step] at stepped
      split at stepped
      · simp at stepped
      · split_ifs at stepped with guard
        obtain rfl := Option.some.inj stepped
        exact .receive guard.1 (by assumption) guard.2.1 guard.2.2
  | sendRound2 selfPubkey =>
      simp only [Setup.step] at stepped
      split at stepped
      · split_ifs at stepped with honest
        obtain rfl := Option.some.inj stepped
        exact .sendRound2 honest (by assumption)
      · simp at stepped
  | inject sender recipient payload =>
      simp only [Setup.step] at stepped
      split_ifs at stepped with dishonest
      obtain rfl := Option.some.inj stepped
      exact .inject dishonest

omit [DecidableEq Payload] in
/-- Outboxes only grow. -/
theorem Moves.sentExtends
    (moves : Moves setup fifo world action next) :
    SentExtends world next := by
  intro sender recipient
  have updated : ∀ {moved}
      {node : Node PublicKey Identifier Round1Package Round2Package Payload},
      (world moved).outbox recipient <+: node.outbox recipient →
        (world sender).outbox recipient <+:
          (Function.update world moved node sender).outbox recipient := by
    intro moved node grows
    by_cases same : sender = moved
    · subst same
      rwa [Function.update_self]
    · rw [Function.update_of_ne same]
  cases moves with
  | start honest starting =>
      exact updated (Setup.prefix_sendEach _ recipient _ _)
  | receive honest known receiving deliverable =>
      exact updated (Node.receive_frame.2 recipient)
  | sendRound2 honest done =>
      exact updated (Node.sendRound2_frame.2 recipient)
  | @inject _ injected payload dishonest =>
      apply updated
      by_cases same : recipient = injected
      · subst same
        simp
      · simp [same]

omit [DecidableEq Payload] in
/-- A log changes by a prefix of a delivered batch only. -/
theorem Moves.log_cases
    (moves : Moves setup fifo world action next)
    (key : PublicKey) :
    (next key).log = (world key).log ∨
      ∃ batch accepted, Deliverable fifo world key batch ∧
        accepted <+: batch ∧ (next key).log = (world key).log ++ accepted := by
  have updated : ∀ {moved}
      {node : Node PublicKey Identifier Round1Package Round2Package Payload},
      node.log = (world moved).log →
        (Function.update world moved node key).log = (world key).log := by
    intro moved node same
    by_cases equal : key = moved
    · subst equal
      rwa [Function.update_self]
    · rw [Function.update_of_ne equal]
  cases moves with
  | start honest starting => exact Or.inl (updated rfl)
  | @receive selfPubkey selfIdentifier batch honest known receiving
      deliverable =>
      by_cases same : key = selfPubkey
      · subst same
        obtain ⟨accepted, isPrefix, log⟩ : ∃ accepted, accepted <+: batch ∧
            ((world key).receive setup key selfIdentifier batch).log =
              (world key).log ++ accepted :=
          Node.receive_frame.1
        refine Or.inr ⟨batch, accepted, deliverable, isPrefix, ?_⟩
        rwa [Function.update_self]
      · exact Or.inl (by rw [Function.update_of_ne same])
  | sendRound2 honest done =>
      exact Or.inl (updated Node.sendRound2_frame.1)
  | inject dishonest => exact Or.inl (updated rfl)

/-- The invariant of a session: every honest participant keeps its own, a key
outside the session sends nothing unless it is dishonest, and the messages
accepted are still in the outboxes of their senders, with `fifo` as a prefix for
each sender. -/
structure WorldInvariant
    (setup : Setup PublicKey Identifier Round1Package Round2Package Payload)
    (fifo : Bool)
    (world : World PublicKey Identifier Round1Package Round2Package Payload) :
    Prop where
  node : ∀ {key identifier}
    (known : setup.pubkeys.lookup key = some identifier),
    key ∉ setup.dishonest →
      ∃ script, NodeInvariant setup known (world key) script
  silent : ∀ {key recipient}, key ∉ setup.pubkeys.keys →
    key ∉ setup.dishonest → (world key).outbox recipient = []
  authentic : ∀ {key msg}, msg ∈ (world key).log →
    msg.sender ≠ key ∧ msg.msg ∈ (world msg.sender).outbox key
  ordered : fifo = true → ∀ key sender,
    payloadsFrom sender (world key).log <+: (world sender).outbox key

omit [DecidableEq Identifier] [DecidableEq Round1Package]
  [DecidableEq Payload] in
theorem payloadsFrom_append
    (sender : PublicKey)
    (first second : List (Msg PublicKey Payload)) :
    payloadsFrom sender (first ++ second) =
      payloadsFrom sender first ++ payloadsFrom sender second := by
  simp [payloadsFrom]

omit [DecidableEq Identifier] [DecidableEq Round1Package]
  [DecidableEq Payload] in
theorem payloadsFrom_isPrefix
    {first second : List (Msg PublicKey Payload)}
    (isPrefix : first <+: second)
    (sender : PublicKey) :
    payloadsFrom sender first <+: payloadsFrom sender second := by
  obtain ⟨rest, rfl⟩ := isPrefix
  rw [payloadsFrom_append]
  exact List.prefix_append _ _

omit [DecidableEq Identifier] [DecidableEq Round1Package]
  [DecidableEq Payload] in
/-- With `fifo` what was accepted with the batch is a prefix for each sender. -/
theorem Deliverable.ordered
    {key : PublicKey}
    {batch : List (Msg PublicKey Payload)}
    (deliverable : Deliverable fifo world key batch)
    (inOrder : fifo = true)
    (sender : PublicKey)
    (before : payloadsFrom sender (world key).log <+:
      (world sender).outbox key) :
    payloadsFrom sender ((world key).log ++ batch) <+:
      (world sender).outbox key := by
  by_cases sends : ∃ msg ∈ batch, msg.sender = sender
  · obtain ⟨msg, member, rfl⟩ := sends
    exact deliverable.2 inOrder msg member
  · have nothing : payloadsFrom sender batch = [] := by
      simp only [payloadsFrom, List.map_eq_nil_iff, List.filter_eq_nil_iff,
        decide_eq_true_eq]
      exact fun msg member same => sends ⟨msg, member, same⟩
    rw [payloadsFrom_append, nothing, List.append_nil]
    exact before

omit [DecidableEq Round1Package] [DecidableEq Payload] in
theorem WorldInvariant.initial :
    WorldInvariant setup fifo setup.initial where
  node := fun _ _ => ⟨_, NodeInvariant.initial⟩
  silent := fun _ _ => rfl
  authentic := fun member => absurd member List.not_mem_nil
  ordered := fun _ _ _ => List.nil_prefix

omit [DecidableEq Payload] in
/-- Every step preserves the invariant. -/
theorem WorldInvariant.step
    (invariant : WorldInvariant setup fifo world)
    (moves : Moves setup fifo world action next) :
    WorldInvariant setup fifo next where
  node := by
    intro key identifier known honest
    obtain ⟨script, before⟩ := invariant.node known honest
    cases moves with
    | @start selfPubkey selfHonest starting =>
        by_cases same : key = selfPubkey
        · subst same
          rw [Function.update_self]
          exact ⟨_, before.start starting⟩
        · rw [Function.update_of_ne same]
          exact ⟨script, before⟩
    | @receive selfPubkey selfIdentifier batch selfHonest selfKnown receiving
        deliverable =>
        by_cases same : key = selfPubkey
        · subst same
          obtain rfl := Option.some.inj (known.symm.trans selfKnown)
          rw [Function.update_self]
          exact before.receive receiving
            (fun msg member => (deliverable.1 msg member).1)
        · rw [Function.update_of_ne same]
          exact ⟨script, before⟩
    | @sendRound2 selfPubkey round1Packages selfHonest done =>
        by_cases same : key = selfPubkey
        · subst same
          rw [Function.update_self]
          exact before.sendRound2 done
        · rw [Function.update_of_ne same]
          exact ⟨script, before⟩
    | @inject sender recipient payload dishonest =>
        have different : key ≠ sender := by
          rintro rfl
          exact honest dishonest
        rw [Function.update_of_ne different]
        exact ⟨script, before⟩
  silent := by
    intro key recipient outside honest
    have unmoved : ∀ {moved}
        {node : Node PublicKey Identifier Round1Package Round2Package Payload},
        key ≠ moved →
          (Function.update world moved node key).outbox recipient = [] := by
      intro moved node different
      rw [Function.update_of_ne different]
      exact invariant.silent outside honest
    cases moves with
    | start selfHonest starting =>
        exact unmoved (ne_of_mem_of_not_mem selfHonest.1 outside).symm
    | receive selfHonest selfKnown receiving deliverable =>
        exact unmoved (ne_of_mem_of_not_mem selfHonest.1 outside).symm
    | sendRound2 selfHonest done =>
        exact unmoved (ne_of_mem_of_not_mem selfHonest.1 outside).symm
    | inject dishonest =>
        exact unmoved (ne_of_mem_of_not_mem dishonest honest).symm
  authentic := by
    intro key msg member
    have sent : msg.sender ≠ key ∧
        msg.msg ∈ (world msg.sender).outbox key := by
      rcases moves.log_cases key with same |
        ⟨batch, accepted, deliverable, isPrefix, log⟩
      · rw [same] at member
        exact invariant.authentic member
      · rw [log] at member
        rcases List.mem_append.mp member with earlier | now
        · exact invariant.authentic earlier
        · exact deliverable.1 msg (isPrefix.subset now)
    exact ⟨sent.1, (moves.sentExtends _ _).subset sent.2⟩
  ordered := by
    intro inOrder key sender
    refine List.IsPrefix.trans ?_ (moves.sentExtends sender key)
    have before := invariant.ordered inOrder key sender
    rcases moves.log_cases key with same |
      ⟨batch, accepted, deliverable, isPrefix, log⟩
    · rw [same]
      exact before
    · rw [log]
      exact (payloadsFrom_isPrefix ((List.prefix_append_right_inj _).mpr isPrefix)
        sender).trans (deliverable.ordered inOrder sender before)

/-- The invariant holds in every reachable state. -/
theorem WorldInvariant.of_reachable
    (reachable : (setup.session fifo).Reachable world) :
    WorldInvariant setup fifo world := by
  refine reachable.invariant WorldInvariant.initial ?_
  intro state action next invariant stepped
  exact invariant.step (moves_of_step stepped)

/-- Along a run outboxes only grow. -/
theorem sentExtends_of_reaches
    (reaches : (setup.session fifo).Reaches world next) :
    SentExtends world next := by
  have kept : ∀ {state action after},
      (setup.session fifo).step state action = some after →
        SentExtends state after := by
    intro state action after stepped
    exact (moves_of_step stepped).sentExtends
  exact reaches.relation (fun _ _ _ => List.prefix_rfl)
    (fun first second sender recipient =>
      (first sender recipient).trans (second sender recipient)) kept

end Steps

end Dkg
end MinaMultiSig
