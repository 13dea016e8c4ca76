import MinaMultiSig.Dkg.Agreement

/-!
# What the two rounds return

The packages that `get_round1_packages` and `get_round2_packages` return, for
every stage behind them. Two honest participants that are behind the first round
at the same time hold the same Round 1 Package for every participant, and a
Round 2 Package an honest participant has sent is one of its second part.
-/

namespace MinaMultiSig
namespace Dkg

variable {PublicKey Identifier Round1Package Round2Package Payload : Type}
variable [DecidableEq PublicKey] [DecidableEq Identifier]
variable
  {setup : Setup PublicKey Identifier Round1Package Round2Package Payload}
variable {selfPubkey : PublicKey} {selfIdentifier : Identifier}
variable {known : setup.pubkeys.lookup selfPubkey = some selfIdentifier}
variable
  {node next : Node PublicKey Identifier Round1Package Round2Package Payload}
variable {script : Script Identifier Round1Package Round2Package}
variable {msg : Msg PublicKey Payload} {batch : List (Msg PublicKey Payload)}
variable {packages : FiniteMap Identifier Round1Package}

/-- A session state behind the first round. -/
def BehindRound1
    (packages : FiniteMap Identifier Round1Package) :
    DKGSessionState PublicKey Identifier Round1Package Round2Package → Prop
  | .waitingForRound2Packages _ round1Packages _ => round1Packages = packages
  | .round2PackagesReady _ _ => True
  | _ => False

/-- What holds of the packages of the first round, from its end on. -/
structure Round1Concluded
    (known : setup.pubkeys.lookup selfPubkey = some selfIdentifier)
    (node : Node PublicKey Identifier Round1Package Round2Package Payload)
    (packages : FiniteMap Identifier Round1Package) : Prop where
  behind : BehindRound1 packages node.state
  collected : Collected (setup.membership known)
    (ReceivedRound1 setup.wire node.log) packages
  full : packages.keys = (setup.membership known).others
  settled : BroadcastSettled (setup.membership known) setup.wire node.log
    packages

/-- What holds of a participant that is behind one of the rounds. -/
structure Concluded
    (known : setup.pubkeys.lookup selfPubkey = some selfIdentifier)
    (node : Node PublicKey Identifier Round1Package Round2Package Payload) :
    Prop where
  round1 : ∀ packages, node.stage.round1Result = some packages →
    Round1Concluded known node packages
  round2 : ∀ round1Packages round2Packages,
    node.stage = .round2Done round1Packages round2Packages →
      node.state = .round2PackagesReady setup.pubkeys round2Packages

/-- A participant inside the first round has concluded nothing. -/
theorem Concluded.of_none
    (noResult : node.stage.round1Result = none) :
    Concluded known node where
  round1 := by
    intro packages result
    simp [noResult] at result
  round2 := by
    intro round1Packages round2Packages done
    simp [done, Stage.round1Result] at noResult

/-- The end of the first round is concluded with its packages. -/
theorem NodeInvariant.round1Concluded
    {pubkeys : FiniteMap PublicKey Identifier}
    {round2Packages : FiniteMap Identifier Round2Package}
    (invariant : NodeInvariant setup known node script)
    (state : node.state =
      .waitingForRound2Packages pubkeys packages round2Packages) :
    Round1Concluded known node packages := by
  have consistent := invariant.consistent
  rw [state] at consistent
  obtain ⟨-, collected, full, settled, -⟩ := consistent
  exact ⟨by rw [state]; rfl, collected, full, settled⟩

/-- Receiving behind the first round changes nothing about it. -/
theorem Round1Concluded.recv
    [DecidableEq Round1Package]
    {result : Except SessionError Unit}
    (concluded : Round1Concluded known node packages)
    (received : Node.recv setup selfIdentifier node msg = (next, result)) :
    Round1Concluded known next packages := by
  obtain ⟨behind, collected, full, settled⟩ := concluded
  rcases Node.recv_cases received with
    ⟨state, error, stateReceived, rfl, rfl⟩ |
    ⟨state, firstLoop, stateReceived, rfl, -, rfl⟩
  · refine ⟨?_, collected, full, settled⟩
    rcases DKGSessionState.state_of_recv_error stateReceived with rfl |
      ⟨_, _, _, _, _, _, waiting, -, -, -⟩
    · exact behind
    · rw [waiting] at behind
      exact absurd behind id
  · -- only a Round 2 Package is accepted
    generalize stateEq : node.state = before at stateReceived behind
    cases DKGSessionState.accepts_of_recv stateReceived with
    | round1 => exact absurd behind id
    | broadcast => exact absurd behind id
    | round2 decoded sender participates =>
        have noRound1 := setup.wire.round1_of_round2 decoded
        have noBroadcast := setup.wire.broadcast_of_round2 decoded
        refine ⟨?_, ?_, full, ?_⟩
        · change BehindRound1 packages (DKGSessionState.advanceRound2 _ _ _)
          unfold DKGSessionState.advanceRound2
          split_ifs
          · trivial
          · exact behind
        · change Collected _ (ReceivedRound1 _ (node.log ++ [msg])) packages
          rw [receivedRound1_append_of_none noRound1]
          exact collected
        · refine ⟨?_, ?_⟩
          · intro key identifier original notSelf keyKnown member different
            change ∃ package, ReceivedBroadcast setup.wire (node.log ++ [msg])
              key original package
            rw [receivedBroadcast_append_of_none noBroadcast]
            exact settled.all key identifier original notSelf keyKnown member
              different
          · intro key identifier original package keyKnown echoed
            change ReceivedBroadcast setup.wire (node.log ++ [msg]) key original
              package at echoed
            rw [receivedBroadcast_append_of_none noBroadcast] at echoed
            exact settled.agree keyKnown echoed

theorem Round1Concluded.recvBatch
    [DecidableEq Round1Package]
    {result : Except SessionError Unit}
    (concluded : Round1Concluded known node packages)
    (received :
      Node.recvBatch setup selfIdentifier node batch = (next, result)) :
    Round1Concluded known next packages := by
  induction batch generalizing node with
  | nil =>
      obtain ⟨rfl, -⟩ := Prod.mk.inj received
      exact concluded
  | cons msg batch ih =>
      unfold Node.recvBatch at received
      split at received
      · rename_i after error stepReceived
        obtain ⟨rfl, -⟩ := Prod.mk.inj received
        exact concluded.recv stepReceived
      · rename_i after stepReceived
        exact ih (concluded.recv stepReceived) received

/-- Only the stage changes. -/
theorem Round1Concluded.setStage
    (concluded : Round1Concluded known node packages)
    (stage : Stage Identifier Round1Package Round2Package) :
    Round1Concluded known { node with stage := stage } packages :=
  ⟨concluded.behind, concluded.collected, concluded.full, concluded.settled⟩

/-- Handling a batch concludes nothing new. -/
theorem Concluded.recvBatch
    [DecidableEq Round1Package]
    {result : Except SessionError Unit}
    (concluded : Concluded known node)
    (invariant : NodeInvariant setup known node script)
    (receiving : node.stage.receiving = true)
    (notSelf : ∀ msg ∈ batch, msg.sender ≠ selfPubkey)
    (received :
      Node.recvBatch setup selfIdentifier node batch = (next, result)) :
    Concluded known next := by
  obtain ⟨-, sameStage⟩ := invariant.recvBatch receiving notSelf received
  refine ⟨?_, ?_⟩
  · intro packages returned
    rw [sameStage] at returned
    exact (concluded.round1 packages returned).recvBatch received
  · intro round1Packages round2Packages done
    rw [← sameStage, done] at receiving
    simp [Stage.receiving] at receiving

/-- Leaving a receive loop concludes what it returns. -/
theorem Concluded.leaveLoop
    (concluded : Concluded known node)
    (invariant : NodeInvariant setup known node script)
    (exits : Node.exitTest node = true) :
    Concluded known (Node.leaveLoop setup selfPubkey node) := by
  cases stageCase : node.stage with
  | receivingRound1 =>
      simp only [Node.exitTest, stageCase] at exits
      simp only [Node.leaveLoop, stageCase]
      cases stateCase : node.state with
      | waitingForRound2Packages pubkeys packages round2Packages =>
          have returned := invariant.round1Concluded stateCase
          simp only [DKGSessionState.round1Packages,
            DKGSessionState.hasRound1BroadcastPackages, if_true]
          refine ⟨?_, ?_⟩
          · rintro _ ⟨rfl⟩
            have after := returned.setStage (.round1Done packages)
            rwa [stateCase] at after
          · intro _ _ done
            simp at done
      | waitingForRound1PackagesBroadcast =>
          simp only [DKGSessionState.round1Packages,
            DKGSessionState.hasRound1BroadcastPackages, Bool.false_eq_true,
            if_false]
          exact .of_none rfl
      | waitingForRound1Packages =>
          simp [stateCase, DKGSessionState.hasRound1Packages] at exits
      | round2PackagesReady =>
          simp [stateCase, DKGSessionState.hasRound1Packages] at exits
  | receivingBroadcast =>
      simp only [Node.exitTest, stageCase] at exits
      simp only [Node.leaveLoop, stageCase]
      cases stateCase : node.state with
      | waitingForRound2Packages pubkeys packages round2Packages =>
          have returned := invariant.round1Concluded stateCase
          simp only [DKGSessionState.round1Packages]
          refine ⟨?_, ?_⟩
          · rintro _ ⟨rfl⟩
            have after := returned.setStage (.round1Done packages)
            rwa [stateCase] at after
          · intro _ _ done
            simp at done
      | _ =>
          simp [stateCase, DKGSessionState.hasRound1BroadcastPackages] at exits
  | receivingRound2 packages =>
      simp only [Node.exitTest, stageCase] at exits
      simp only [Node.leaveLoop, stageCase]
      have returned := concluded.round1 packages (by rw [stageCase]; rfl)
      have consistent := invariant.consistent
      cases stateCase : node.state with
      | round2PackagesReady pubkeys round2Packages =>
          rw [stateCase] at consistent
          obtain ⟨rfl, -⟩ := consistent
          simp only [DKGSessionState.round2Packages]
          refine ⟨?_, ?_⟩
          · rintro _ ⟨rfl⟩
            have after :=
              returned.setStage (.round2Done packages round2Packages)
            rwa [stateCase] at after
          · rintro _ _ ⟨rfl, rfl⟩
            rfl
      | _ => simp [stateCase, DKGSessionState.hasRound2Packages] at exits
  | _ => simp [Node.exitTest, stageCase] at exits

/-- One turn of a receive loop. -/
theorem Concluded.receive
    [DecidableEq Round1Package]
    (concluded : Concluded known node)
    (invariant : NodeInvariant setup known node script)
    (receiving : node.stage.receiving = true)
    (notSelf : ∀ msg ∈ batch, msg.sender ≠ selfPubkey) :
    Concluded known (node.receive setup selfPubkey selfIdentifier batch) := by
  unfold Node.receive
  split
  · exact .of_none rfl
  · rename_i next received
    have after := concluded.recvBatch invariant receiving notSelf received
    obtain ⟨afterwards, -⟩ := invariant.recvBatch receiving notSelf received
    split_ifs with exits
    · exact after.leaveLoop afterwards exits
    · exact after

/-- Sending the Round 2 Packages. -/
theorem Concluded.sendRound2
    (concluded : Concluded known node)
    (done : node.stage = .round1Done packages) :
    Concluded known (node.sendRound2 setup selfPubkey packages) := by
  have returned := concluded.round1 packages (by rw [done]; rfl)
  unfold Node.sendRound2
  split
  · exact .of_none rfl
  · refine ⟨?_, ?_⟩
    · rintro _ ⟨rfl⟩
      exact ⟨returned.behind, returned.collected, returned.full,
        returned.settled⟩
    · intro _ _ finished
      simp at finished

section Shares

/-- The Round 2 Packages in an outbox are those of the second part, each in the
outbox of its recipient. -/
def SharesSent
    (known : setup.pubkeys.lookup selfPubkey = some selfIdentifier)
    (outbox : PublicKey → List Payload) : Prop :=
  ∀ recipient identifier payload share, recipient ≠ selfPubkey →
    setup.pubkeys.lookup recipient = some identifier →
      payload ∈ outbox recipient →
        setup.wire.fromSliceRound2 payload = some share →
          ∃ packages shares,
            packages.keys = (setup.membership known).others ∧
              setup.part2 selfPubkey packages = some shares ∧
                share = shares identifier

variable {outbox : PublicKey → List Payload}
variable {payloads : Identifier → List Payload}

/-- Sending adds what is sent. -/
theorem SharesSent.sendEach
    (sent : SharesSent known outbox)
    (added : ∀ identifier payload share, payload ∈ payloads identifier →
      setup.wire.fromSliceRound2 payload = some share →
        ∃ packages shares,
          packages.keys = (setup.membership known).others ∧
            setup.part2 selfPubkey packages = some shares ∧
              share = shares identifier) :
    SharesSent known (setup.sendEach selfPubkey payloads outbox) := by
  intro recipient identifier payload share notSelf recipientKnown member decoded
  rw [Setup.sendEach_of_lookup notSelf recipientKnown] at member
  rcases List.mem_append.mp member with earlier | now
  · exact sent recipient identifier payload share notSelf recipientKnown earlier
      decoded
  · exact added identifier payload share now decoded

/-- Sending something else adds no Round 2 Package. -/
theorem SharesSent.sendOther
    (sent : SharesSent known outbox)
    (other : ∀ identifier payload, payload ∈ payloads identifier →
      setup.wire.fromSliceRound2 payload = none) :
    SharesSent known (setup.sendEach selfPubkey payloads outbox) := by
  apply sent.sendEach
  intro identifier payload share member decoded
  rw [other identifier payload member] at decoded
  exact absurd decoded.symm (Option.some_ne_none share)

theorem SharesSent.start
    (sent : SharesSent known node.outbox) :
    SharesSent known (node.start setup selfPubkey).outbox := by
  apply sent.sendOther
  intro identifier payload member
  rw [List.mem_singleton.mp member]
  exact setup.wire.fromSliceRound2_toVecRound1 _

theorem SharesSent.leaveLoop
    (sent : SharesSent known node.outbox) :
    SharesSent known (Node.leaveLoop setup selfPubkey node).outbox := by
  have echoed : ∀ packages, SharesSent known
      (setup.sendEach selfPubkey (setup.echoes packages) node.outbox) := by
    intro packages
    apply sent.sendOther
    intro identifier payload member
    obtain ⟨_, _, -, -, -, rfl⟩ := Setup.mem_echoes.mp member
    exact setup.wire.fromSliceRound2_toVecBroadcast _ _
  unfold Node.leaveLoop
  split
  · split
    · exact sent
    · split_ifs
      · exact sent
      · exact echoed _
  · split
    · exact sent
    · exact sent
  · split
    · exact sent
    · exact sent
  · exact sent

theorem SharesSent.receive
    [DecidableEq Round1Package]
    (sent : SharesSent known node.outbox) :
    SharesSent known
      (node.receive setup selfPubkey selfIdentifier batch).outbox := by
  unfold Node.receive
  split
  · rename_i next error received
    obtain ⟨outbox, -⟩ := Node.recvBatch_frame received
    rw [← outbox] at sent
    exact sent
  · rename_i next received
    obtain ⟨outbox, -⟩ := Node.recvBatch_frame received
    rw [← outbox] at sent
    split_ifs
    · exact sent.leaveLoop
    · exact sent

theorem SharesSent.sendRound2
    (sent : SharesSent known node.outbox)
    (full : packages.keys = (setup.membership known).others) :
    SharesSent known
      (node.sendRound2 setup selfPubkey packages).outbox := by
  unfold Node.sendRound2
  split
  · exact sent
  · rename_i shares computed
    apply sent.sendEach
    intro identifier payload share member decoded
    rw [List.mem_singleton.mp member, setup.wire.round2_roundTrip] at decoded
    exact ⟨packages, shares, full, computed, (Option.some.inj decoded).symm⟩

end Shares

section Worlds

variable [DecidableEq Round1Package] [DecidableEq Payload]
variable {fifo : Bool} {action : Action PublicKey Payload}
variable
  {world after : World PublicKey Identifier Round1Package Round2Package Payload}

/-- The invariant of a session with what honest participants have concluded and
the Round 2 Packages they have sent. -/
structure ConcludedInvariant
    (setup : Setup PublicKey Identifier Round1Package Round2Package Payload)
    (fifo : Bool)
    (world : World PublicKey Identifier Round1Package Round2Package Payload) :
    Prop where
  session : WorldInvariant setup fifo world
  concluded : ∀ {key identifier}
    (keyKnown : setup.pubkeys.lookup key = some identifier),
    key ∉ setup.dishonest → Concluded keyKnown (world key)
  shares : ∀ {key identifier}
    (keyKnown : setup.pubkeys.lookup key = some identifier),
    key ∉ setup.dishonest → SharesSent keyKnown (world key).outbox

omit [DecidableEq Round1Package] [DecidableEq Payload] in
theorem ConcludedInvariant.initial :
    ConcludedInvariant setup fifo setup.initial where
  session := .initial
  concluded := fun _ _ => .of_none rfl
  shares := by
    intro key identifier keyKnown _ recipient _ payload _ _ _ member
    exact absurd member List.not_mem_nil

omit [DecidableEq Payload] in
/-- Every step keeps it. -/
theorem ConcludedInvariant.step
    (invariant : ConcludedInvariant setup fifo world)
    (moves : Moves setup fifo world action after) :
    ConcludedInvariant setup fifo after := by
  have moved : ∀ {key identifier}
      (keyKnown : setup.pubkeys.lookup key = some identifier),
      key ∉ setup.dishonest → Concluded keyKnown (after key) ∧
        SharesSent keyKnown (after key).outbox := by
    intro key identifier keyKnown honest
    have concluded := invariant.concluded keyKnown honest
    have shares := invariant.shares keyKnown honest
    obtain ⟨script, nodeInvariant⟩ := invariant.session.node keyKnown honest
    have updated : ∀ {mover node},
        (key = mover → Concluded keyKnown node ∧
          SharesSent keyKnown node.outbox) →
        Concluded keyKnown (Function.update world mover node key) ∧
          SharesSent keyKnown (Function.update world mover node key).outbox := by
      intro mover node holds
      by_cases same : key = mover
      · subst same
        rw [Function.update_self]
        exact holds rfl
      · rw [Function.update_of_ne same]
        exact ⟨concluded, shares⟩
    cases moves with
    | start selfHonest starting =>
        apply updated
        rintro rfl
        exact ⟨.of_none rfl, shares.start⟩
    | receive selfHonest selfKnown receiving deliverable =>
        apply updated
        rintro rfl
        obtain rfl := Option.some.inj (keyKnown.symm.trans selfKnown)
        exact ⟨concluded.receive nodeInvariant receiving
          fun msg member => (deliverable.1 msg member).1, shares.receive⟩
    | sendRound2 selfHonest done =>
        apply updated
        rintro rfl
        have returned := concluded.round1 _ (by rw [done]; rfl)
        exact ⟨concluded.sendRound2 done, shares.sendRound2 returned.full⟩
    | inject dishonest =>
        apply updated
        rintro rfl
        exact absurd dishonest honest
  exact
    { session := invariant.session.step moves
      concluded := fun keyKnown honest => (moved keyKnown honest).1
      shares := fun keyKnown honest => (moved keyKnown honest).2 }

/-- It holds in every reachable state. -/
theorem ConcludedInvariant.of_reachable
    (reachable : (setup.session fifo).Reachable world) :
    ConcludedInvariant setup fifo world := by
  refine reachable.invariant ConcludedInvariant.initial ?_
  intro state action next invariant stepped
  exact invariant.step (moves_of_step stepped)

omit [DecidableEq Round1Package] [DecidableEq Payload] in
/-- A stage behind the first round has its packages in the script. -/
theorem StageAgrees.returned
    {log firstLoop : List (Msg PublicKey Payload)}
    {stage : Stage Identifier Round1Package Round2Package}
    (agrees : StageAgrees setup known script log firstLoop stage)
    (result : stage.round1Result = some packages) :
    Returned setup known script firstLoop packages := by
  cases stage with
  | round1Done =>
      obtain rfl := Option.some.inj result
      exact agrees.2.2
  | receivingRound2 =>
      obtain rfl := Option.some.inj result
      exact agrees.2.2
  | round2Done =>
      obtain rfl := Option.some.inj result
      exact agrees.2.2
  | _ => simp [Stage.round1Result] at result

omit [DecidableEq Round1Package] [DecidableEq Payload] in
/-- Behind the first round a participant holds the package each honest one
sent. -/
theorem ConcludedInvariant.lookup_honest
    {sender receiver : PublicKey}
    {senderIdentifier receiverIdentifier : Identifier}
    (invariant : ConcludedInvariant setup fifo world)
    (senderKnown : setup.pubkeys.lookup sender = some senderIdentifier)
    (receiverKnown : setup.pubkeys.lookup receiver = some receiverIdentifier)
    (senderHonest : sender ∉ setup.dishonest)
    (receiverHonest : receiver ∉ setup.dishonest)
    (different : sender ≠ receiver)
    (returned : (world receiver).stage.round1Result = some packages) :
    packages.lookup senderIdentifier = some (setup.round1Package sender) := by
  have concluded :=
    (invariant.concluded receiverKnown receiverHonest).round1 packages returned
  exact invariant.session.lookup_honest senderKnown receiverKnown senderHonest
    different (fun _ member => (invariant.session.authentic member).2)
    concluded.collected concluded.full

omit [DecidableEq Round1Package] [DecidableEq Payload] in
/-- A package of a third participant that an honest one has echoed is the one
it returned. -/
theorem ConcludedInvariant.lookup_echoed
    {first second : PublicKey}
    {firstIdentifier secondIdentifier identifier : Identifier}
    {returned : FiniteMap Identifier Round1Package}
    (invariant : ConcludedInvariant setup fifo world)
    (firstKnown : setup.pubkeys.lookup first = some firstIdentifier)
    (secondKnown : setup.pubkeys.lookup second = some secondIdentifier)
    (firstHonest : first ∉ setup.dishonest)
    (secondHonest : second ∉ setup.dishonest)
    (different : second ≠ first)
    (firstReturned : (world first).stage.round1Result = some packages)
    (secondReturned : (world second).stage.round1Result = some returned)
    (member : identifier ∈ (setup.membership firstKnown).others)
    (notSecond : identifier ≠ secondIdentifier) :
    ∃ package, packages.lookup identifier = some package ∧
      returned.lookup identifier = some package := by
  have concluded :=
    (invariant.concluded firstKnown firstHonest).round1 packages firstReturned
  obtain ⟨package, received⟩ := concluded.settled.all second secondIdentifier
    identifier different secondKnown member notSecond
  have firstLookup : packages.lookup identifier = some package :=
    concluded.settled.agree secondKnown received
  obtain ⟨msg, inLog, rfl, decoded⟩ := received
  obtain ⟨script, node, inScript⟩ := invariant.session.sent_script secondKnown
    firstKnown secondHonest (Ne.symm different)
    (invariant.session.authentic inLog).2
  obtain ⟨echoed, isEchoed, -, lookup, -⟩ :=
    Setup.eq_of_broadcast inScript decoded
  obtain rfl := (node.stage.returned secondReturned).echoed echoed isEchoed
  exact ⟨package, firstLookup, lookup⟩

omit [DecidableEq Round1Package] [DecidableEq Payload] in
/-- Two honest participants that are behind the first round hold the same
Round 1 Package for every participant. -/
theorem ConcludedInvariant.held_agree
    {first second key : PublicKey}
    {packages' : FiniteMap Identifier Round1Package}
    (invariant : ConcludedInvariant setup fifo world)
    (firstHonest : setup.Honest first)
    (secondHonest : setup.Honest second)
    (firstReturned : (world first).stage.round1Result = some packages)
    (secondReturned : (world second).stage.round1Result = some packages')
    (participates : key ∈ setup.pubkeys.keys) :
    ∃ package, setup.heldRound1 first packages key = some package ∧
      setup.heldRound1 second packages' key = some package := by
  obtain ⟨firstIdentifier, firstKnown⟩ :=
    FiniteMap.mem_keys_iff_lookup.mp firstHonest.1
  obtain ⟨secondIdentifier, secondKnown⟩ :=
    FiniteMap.mem_keys_iff_lookup.mp secondHonest.1
  obtain ⟨identifier, known⟩ := FiniteMap.mem_keys_iff_lookup.mp participates
  simp only [Setup.heldRound1, known, Option.bind_some]
  by_cases isFirst : key = first
  · subst isFirst
    refine ⟨setup.round1Package key, if_pos rfl, ?_⟩
    split_ifs with isSecond
    · rw [isSecond]
    · exact invariant.lookup_honest known secondKnown firstHonest.2
        secondHonest.2 isSecond secondReturned
  · rw [if_neg isFirst]
    by_cases isSecond : key = second
    · subst isSecond
      exact ⟨setup.round1Package key, invariant.lookup_honest known firstKnown
        secondHonest.2 firstHonest.2 isFirst firstReturned, if_pos rfl⟩
    · rw [if_neg isSecond]
      have member : identifier ∈ (setup.membership firstKnown).others :=
        Membership.mem_others_of_lookup known isFirst
      by_cases same : second = first
      · -- one participant returns once
        subst same
        obtain rfl := Option.some.inj (firstReturned.symm.trans secondReturned)
        have concluded := (invariant.concluded firstKnown firstHonest.2).round1
          packages firstReturned
        rw [← concluded.full] at member
        obtain ⟨package, found⟩ := FiniteMap.mem_keys_iff_lookup.mp member
        exact ⟨package, found, found⟩
      · apply invariant.lookup_echoed firstKnown secondKnown firstHonest.2
          secondHonest.2 same firstReturned secondReturned member
        rintro rfl
        exact isSecond (setup.injective _ _ _ known secondKnown)

end Worlds

end Dkg
end MinaMultiSig
