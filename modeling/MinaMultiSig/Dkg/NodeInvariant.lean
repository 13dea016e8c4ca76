import MinaMultiSig.Dkg.Network
import MinaMultiSig.Dkg.SessionInvariant

/-!
# What holds of an honest participant at any time

`Script` says what a participant has sent so far; its outbox is the script read
for each recipient. `NodeInvariant` ties the script, the stage of `keygen` and
the session state together. The three moves of an honest participant preserve
it; none of them depends on what the other participants do.
-/

namespace MinaMultiSig
namespace Dkg

variable {PublicKey Identifier Round1Package Round2Package Payload : Type}
variable [DecidableEq PublicKey] [DecidableEq Identifier]

/-- What a participant has sent so far: its Round 1 Package, the echoes of the
packages it then held, its Round 2 Packages. -/
structure Script (Identifier Round1Package Round2Package : Type) where
  started : Bool
  echoed : Option (FiniteMap Identifier Round1Package)
  shared : Option (Identifier → Round2Package)

namespace Setup

variable
  (setup : Setup PublicKey Identifier Round1Package Round2Package Payload)

/-- The session as one participant sees it. -/
def membership
    {selfPubkey : PublicKey}
    {selfIdentifier : Identifier}
    (known : setup.pubkeys.lookup selfPubkey = some selfIdentifier) :
    Membership PublicKey Identifier where
  pubkeys := setup.pubkeys
  injective := setup.injective
  atLeastTwo := setup.atLeastTwo
  selfPubkey := selfPubkey
  selfIdentifier := selfIdentifier
  self_lookup := known

/-- The script as the list of payloads for one recipient. -/
def payloads
    (selfPubkey : PublicKey)
    (script : Script Identifier Round1Package Round2Package)
    (recipient : Identifier) : List Payload :=
  (if script.started then
      [setup.wire.toVecRound1 (setup.round1Package selfPubkey)] else []) ++
    (script.echoed.elim [] fun packages => setup.echoes packages recipient) ++
    (script.shared.elim [] fun packages =>
      [setup.wire.toVecRound2 (packages recipient)])

variable {setup}

/-- The echoes for one recipient. -/
theorem mem_echoes
    {packages : FiniteMap Identifier Round1Package}
    {recipient : Identifier}
    {payload : Payload} :
    payload ∈ setup.echoes packages recipient ↔
      ∃ sender package, sender ∈ setup.identifiers ∧ sender ≠ recipient ∧
        packages.lookup sender = some package ∧
        payload = setup.wire.toVecBroadcast sender package := by
  simp only [echoes, List.mem_filterMap]
  constructor
  · rintro ⟨sender, member, found⟩
    split_ifs at found with same
    obtain ⟨package, lookup, rfl⟩ := Option.map_eq_some_iff.mp found
    exact ⟨sender, package, member, same, lookup, rfl⟩
  · rintro ⟨sender, package, member, different, lookup, rfl⟩
    exact ⟨sender, member, by rw [if_neg different, lookup]; rfl⟩

/-- The three kinds of payloads in a script. -/
theorem mem_payloads
    {selfPubkey : PublicKey}
    {script : Script Identifier Round1Package Round2Package}
    {recipient : Identifier}
    {payload : Payload} :
    payload ∈ setup.payloads selfPubkey script recipient ↔
      (script.started = true ∧
        payload = setup.wire.toVecRound1 (setup.round1Package selfPubkey)) ∨
      (∃ packages sender package, script.echoed = some packages ∧
        sender ∈ setup.identifiers ∧ sender ≠ recipient ∧
        packages.lookup sender = some package ∧
        payload = setup.wire.toVecBroadcast sender package) ∨
      (∃ packages, script.shared = some packages ∧
        payload = setup.wire.toVecRound2 (packages recipient)) := by
  unfold payloads
  rw [List.mem_append, List.mem_append, or_assoc]
  refine or_congr ?_ (or_congr ?_ ?_)
  · cases script.started <;> simp
  · cases script.echoed with
    | none => simp
    | some packages => simp [mem_echoes]
  · cases script.shared <;> simp

section Kinds

variable {selfPubkey : PublicKey}
variable {script : Script Identifier Round1Package Round2Package}
variable {recipient : Identifier} {payload : Payload}

/-- The Round 1 Package of a script. -/
theorem eq_of_round1
    {package : Round1Package}
    (inScript : payload ∈ setup.payloads selfPubkey script recipient)
    (decoded : setup.wire.fromSliceRound1 payload = some package) :
    payload = setup.wire.toVecRound1 (setup.round1Package selfPubkey) ∧
      package = setup.round1Package selfPubkey := by
  rcases mem_payloads.mp inScript with
    ⟨-, rfl⟩ | ⟨_, _, _, _, _, _, _, rfl⟩ | ⟨_, _, rfl⟩
  · rw [setup.wire.round1_roundTrip] at decoded
    exact ⟨rfl, (Option.some.inj decoded).symm⟩
  · simp at decoded
  · simp at decoded

/-- An echo of a script. -/
theorem eq_of_broadcast
    {original : Identifier}
    {package : Round1Package}
    (inScript : payload ∈ setup.payloads selfPubkey script recipient)
    (decoded :
      setup.wire.fromSliceBroadcast payload = some (original, package)) :
    ∃ packages, script.echoed = some packages ∧ original ≠ recipient ∧
      packages.lookup original = some package ∧
      payload = setup.wire.toVecBroadcast original package := by
  rcases mem_payloads.mp inScript with
    ⟨-, rfl⟩ | ⟨packages, _, _, echoed, -, notRecipient, lookup, rfl⟩ |
    ⟨_, _, rfl⟩
  · simp at decoded
  · rw [setup.wire.broadcast_roundTrip] at decoded
    obtain ⟨rfl, rfl⟩ := Prod.mk.inj (Option.some.inj decoded)
    exact ⟨packages, echoed, notRecipient, lookup, rfl⟩
  · simp at decoded

/-- The Round 2 Package of a script. -/
theorem eq_of_round2
    {package : Round2Package}
    (inScript : payload ∈ setup.payloads selfPubkey script recipient)
    (decoded : setup.wire.fromSliceRound2 payload = some package) :
    ∃ packages, script.shared = some packages ∧
      payload = setup.wire.toVecRound2 (packages recipient) := by
  rcases mem_payloads.mp inScript with
    ⟨-, rfl⟩ | ⟨_, _, _, _, _, _, _, rfl⟩ | ⟨packages, shared, rfl⟩
  · simp at decoded
  · simp at decoded
  · exact ⟨packages, shared, rfl⟩

/-- No payload is sent twice to one recipient. -/
theorem payloads_nodup :
    (setup.payloads selfPubkey script recipient).Nodup := by
  have echoesNodup : ∀ packages, (setup.echoes packages recipient).Nodup := by
    intro packages
    refine List.Nodup.filterMap ?_ setup.identifiers_nodup
    intro first second echo firstEcho secondEcho
    rw [Option.mem_def] at firstEcho secondEcho
    split_ifs at firstEcho secondEcho
    obtain ⟨firstPackage, -, rfl⟩ := Option.map_eq_some_iff.mp firstEcho
    obtain ⟨secondPackage, -, same⟩ := Option.map_eq_some_iff.mp secondEcho
    have decoded := congrArg setup.wire.fromSliceBroadcast same
    rw [setup.wire.broadcast_roundTrip, setup.wire.broadcast_roundTrip]
      at decoded
    exact (Prod.mk.inj (Option.some.inj decoded)).1.symm
  unfold payloads
  refine List.nodup_append.mpr ⟨List.nodup_append.mpr ⟨?_, ?_, ?_⟩, ?_, ?_⟩
  · split_ifs <;> simp
  · cases script.echoed with
    | none => simp
    | some packages => exact echoesNodup packages
  · -- a Round 1 Package is no echo
    intro first firstMember second secondMember same
    subst same
    cases echoed : script.echoed with
    | none => simp [echoed] at secondMember
    | some packages =>
        rw [echoed] at secondMember
        obtain ⟨_, _, -, -, -, rfl⟩ := mem_echoes.mp secondMember
        split_ifs at firstMember
        · have decoded := congrArg setup.wire.fromSliceRound1
            (List.mem_singleton.mp firstMember)
          simp at decoded
        · simp at firstMember
  · cases script.shared <;> simp
  · -- a Round 2 Package is neither
    intro first firstMember second secondMember same
    subst same
    cases shared : script.shared with
    | none => simp [shared] at secondMember
    | some packages =>
        rw [shared] at secondMember
        obtain rfl := List.mem_singleton.mp secondMember
        rcases List.mem_append.mp firstMember with round1 | broadcast
        · split_ifs at round1
          · have decoded := congrArg setup.wire.fromSliceRound2
              (List.mem_singleton.mp round1)
            simp at decoded
          · simp at round1
        · cases echoed : script.echoed with
          | none => simp [echoed] at broadcast
          | some stored =>
              rw [echoed] at broadcast
              obtain ⟨_, _, -, -, -, payload⟩ := mem_echoes.mp broadcast
              have decoded := congrArg setup.wire.fromSliceRound2 payload
              simp at decoded

end Kinds

omit [DecidableEq Identifier] in
theorem sendEach_of_lookup
    {selfPubkey recipient : PublicKey}
    {identifier : Identifier}
    {payloads : Identifier → List Payload}
    {outbox : PublicKey → List Payload}
    (notSelf : recipient ≠ selfPubkey)
    (known : setup.pubkeys.lookup recipient = some identifier) :
    setup.sendEach selfPubkey payloads outbox recipient =
      outbox recipient ++ payloads identifier := by
  rw [sendEach, if_neg notSelf, known]

omit [DecidableEq Identifier] in
/-- Sending only appends. -/
theorem prefix_sendEach
    (selfPubkey recipient : PublicKey)
    (payloads : Identifier → List Payload)
    (outbox : PublicKey → List Payload) :
    outbox recipient <+: setup.sendEach selfPubkey payloads outbox recipient := by
  unfold sendEach
  split_ifs
  · exact List.prefix_rfl
  · split
    · exact List.prefix_rfl
    · exact List.prefix_append _ _

end Setup

section Invariant

variable
  (setup : Setup PublicKey Identifier Round1Package Round2Package Payload)
variable {selfPubkey : PublicKey} {selfIdentifier : Identifier}
variable (known : setup.pubkeys.lookup selfPubkey = some selfIdentifier)
variable (node : Node PublicKey Identifier Round1Package Round2Package Payload)
variable (script : Script Identifier Round1Package Round2Package)

/-- The packages a participant echoed: one for every other participant, each
received from that participant, not changed since. They were echoed because
some echo was missing when the first receive loop ended. -/
structure Echoed (packages : FiniteMap Identifier Round1Package) : Prop where
  frozen : DKGSessionState.Frozen packages node.state
  full : packages.keys = (setup.membership known).others
  provenance : ∀ {identifier package},
    packages.lookup identifier = some package →
      ∃ key, key ≠ selfPubkey ∧ setup.pubkeys.lookup key = some identifier ∧
        ReceivedRound1 setup.wire node.log key package
  needed : ¬AllBroadcast (setup.membership known) setup.wire node.firstLoop

/-- What `get_round1_packages` returned: a package for every other participant,
those echoed if any were, and otherwise all echoes had already arrived in the
first receive loop. -/
structure Returned
    (firstLoop : List (Msg PublicKey Payload))
    (packages : FiniteMap Identifier Round1Package) : Prop where
  full : packages.keys = (setup.membership known).others
  echoed : ∀ other, script.echoed = some other → packages = other
  skipped : script.echoed = none →
    AllBroadcast (setup.membership known) setup.wire firstLoop

/-- The script a participant has gone through at each stage. -/
def StageAgrees
    (log firstLoop : List (Msg PublicKey Payload)) :
    Stage Identifier Round1Package Round2Package → Prop
  | .starting =>
      script = ⟨false, none, none⟩ ∧ log = [] ∧ firstLoop = []
  | .receivingRound1 =>
      script = ⟨true, none, none⟩ ∧ firstLoop = log
  | .receivingBroadcast =>
      script.started = true ∧ script.echoed.isSome ∧ script.shared = none
  | .round1Done packages =>
      script.started = true ∧ script.shared = none ∧
        Returned setup known script firstLoop packages
  | .receivingRound2 packages =>
      script.started = true ∧ script.shared = setup.part2 selfPubkey packages ∧
        Returned setup known script firstLoop packages
  | .round2Done packages _ =>
      script.started = true ∧ script.shared = setup.part2 selfPubkey packages ∧
        Returned setup known script firstLoop packages
  | .recvFailed _ => script.started = true
  | .part2Failed => script.started = true
  | .panicked => script.started = true

/-- The invariant of an honest participant. -/
structure NodeInvariant : Prop where
  consistent :
    Consistent (setup.membership known) setup.wire node.log node.state
  outbox : ∀ recipient identifier,
    recipient ≠ selfPubkey → setup.pubkeys.lookup recipient = some identifier →
      node.outbox recipient = setup.payloads selfPubkey script identifier
  echoed : ∀ packages, script.echoed = some packages →
    Echoed setup known node packages
  stage :
    StageAgrees setup known script node.log node.firstLoop node.stage

end Invariant

section Preservation

variable
  {setup : Setup PublicKey Identifier Round1Package Round2Package Payload}
variable {selfPubkey : PublicKey} {selfIdentifier : Identifier}
variable {known : setup.pubkeys.lookup selfPubkey = some selfIdentifier}
variable
  {node next : Node PublicKey Identifier Round1Package Round2Package Payload}
variable {script : Script Identifier Round1Package Round2Package}
variable {msg : Msg PublicKey Payload} {batch : List (Msg PublicKey Payload)}

/-- Receiving concerns neither the stage nor the outbox. -/
theorem Node.recv_frame
    [DecidableEq Round1Package]
    {result : Except SessionError Unit}
    (received : Node.recv setup selfIdentifier node msg = (next, result)) :
    next.stage = node.stage ∧ next.outbox = node.outbox := by
  unfold Node.recv at received
  split at received
  · obtain ⟨rfl, -⟩ := Prod.mk.inj received
    exact ⟨rfl, rfl⟩
  · obtain ⟨rfl, -⟩ := Prod.mk.inj received
    exact ⟨rfl, rfl⟩

/-- The two outcomes of receiving one message. -/
theorem Node.recv_cases
    [DecidableEq Round1Package]
    {result : Except SessionError Unit}
    (received : Node.recv setup selfIdentifier node msg = (next, result)) :
    (∃ state error,
      node.state.recv setup.wire msg selfIdentifier = (state, .error error) ∧
        next = { node with state := state } ∧ result = .error error) ∨
    (∃ state firstLoop,
      node.state.recv setup.wire msg selfIdentifier = (state, .ok ()) ∧
        next = { node with
          state := state, log := node.log ++ [msg], firstLoop := firstLoop } ∧
        ((node.stage = .receivingRound1 ∧
            firstLoop = node.firstLoop ++ [msg]) ∨
          (node.stage ≠ .receivingRound1 ∧ firstLoop = node.firstLoop)) ∧
        result = .ok ()) := by
  unfold Node.recv at received
  split at received
  · rename_i state error stateReceived
    obtain ⟨rfl, rfl⟩ := Prod.mk.inj received
    exact Or.inl ⟨state, error, stateReceived, rfl, rfl⟩
  · rename_i state stateReceived
    obtain ⟨rfl, rfl⟩ := Prod.mk.inj received
    refine Or.inr ⟨state, _, stateReceived, rfl, ?_, rfl⟩
    cases stage : node.stage <;> simp

omit [DecidableEq PublicKey] [DecidableEq Identifier] in
theorem ReceivedRound1.append
    {wire : DkgWire Payload Identifier Round1Package Round2Package}
    {log : List (Msg PublicKey Payload)}
    {sender : PublicKey}
    {package : Round1Package}
    (received : ReceivedRound1 wire log sender package) :
    ReceivedRound1 wire (log ++ [msg]) sender package :=
  receivedRound1_append.mpr (Or.inl received)

/-- Handling one message of somebody else preserves the invariant. -/
theorem NodeInvariant.recv
    [DecidableEq Round1Package]
    {result : Except SessionError Unit}
    (invariant : NodeInvariant setup known node script)
    (receiving : node.stage.receiving = true)
    (notSelf : msg.sender ≠ selfPubkey)
    (received : Node.recv setup selfIdentifier node msg = (next, result)) :
    NodeInvariant setup known next script := by
  have stage := invariant.stage
  rcases Node.recv_cases received with
    ⟨state, error, stateReceived, rfl, rfl⟩ |
    ⟨state, firstLoop, stateReceived, rfl, firstLoopCase, rfl⟩
  · exact
      { consistent := consistent_recv_error invariant.consistent stateReceived
        outbox := invariant.outbox
        echoed := fun packages echoed =>
          let before := invariant.echoed packages echoed
          { frozen := before.frozen.recv stateReceived
            full := before.full
            provenance := before.provenance
            needed := before.needed }
        stage := stage }
  · refine
      { consistent := consistent_recv invariant.consistent notSelf stateReceived
        outbox := invariant.outbox
        echoed := ?_
        stage := ?_ }
    · intro packages echoed
      have before := invariant.echoed packages echoed
      refine
        { frozen := before.frozen.recv stateReceived
          full := before.full
          provenance := ?_
          needed := ?_ }
      · intro identifier package lookup
        obtain ⟨key, keyNotSelf, keyKnown, receivedBefore⟩ :=
          before.provenance lookup
        exact ⟨key, keyNotSelf, keyKnown, receivedBefore.append⟩
      · rcases firstLoopCase with ⟨inFirstLoop, -⟩ | ⟨-, rfl⟩
        · -- nothing is echoed inside the first receive loop
          rw [inFirstLoop] at stage
          simp [stage.1] at echoed
        · exact before.needed
    · change StageAgrees setup known script (node.log ++ [msg]) firstLoop
        node.stage
      rcases firstLoopCase with ⟨inFirstLoop, rfl⟩ | ⟨notFirstLoop, rfl⟩
      · rw [inFirstLoop] at stage ⊢
        exact ⟨stage.1, by rw [stage.2]⟩
      · cases stageCase : node.stage with
        | receivingRound1 => exact absurd stageCase notFirstLoop
        | receivingBroadcast =>
            rw [stageCase] at stage
            exact stage
        | receivingRound2 packages =>
            rw [stageCase] at stage
            exact stage
        | _ => simp [stageCase, Stage.receiving] at receiving

/-- Handling a batch preserves the invariant, whether or not it is cut short. -/
theorem NodeInvariant.recvBatch
    [DecidableEq Round1Package]
    {result : Except SessionError Unit}
    (invariant : NodeInvariant setup known node script)
    (receiving : node.stage.receiving = true)
    (notSelf : ∀ msg ∈ batch, msg.sender ≠ selfPubkey)
    (received :
      Node.recvBatch setup selfIdentifier node batch = (next, result)) :
    NodeInvariant setup known next script ∧ next.stage = node.stage := by
  induction batch generalizing node with
  | nil =>
      obtain ⟨rfl, -⟩ := Prod.mk.inj received
      exact ⟨invariant, rfl⟩
  | cons msg batch ih =>
      have headNotSelf : msg.sender ≠ selfPubkey :=
        notSelf msg (List.mem_cons_self ..)
      unfold Node.recvBatch at received
      split at received
      · rename_i after error stepReceived
        obtain ⟨rfl, -⟩ := Prod.mk.inj received
        exact ⟨invariant.recv receiving headNotSelf stepReceived,
          (Node.recv_frame stepReceived).1⟩
      · rename_i after stepReceived
        have sameStage := (Node.recv_frame stepReceived).1
        have afterwards := ih
          (invariant.recv receiving headNotSelf stepReceived)
          (by rw [sameStage]; exact receiving)
          (fun other member => notSelf other (List.mem_cons_of_mem _ member))
          received
        exact ⟨afterwards.1, afterwards.2.trans sameStage⟩

/-- A participant that has not moved agrees with the empty script. -/
theorem NodeInvariant.initial :
    NodeInvariant setup known (setup.initial selfPubkey)
      ⟨false, none, none⟩ where
  consistent := consistent_initial
  outbox := fun _ _ _ _ => rfl
  echoed := fun _ echoed => by simp at echoed
  stage := ⟨rfl, rfl, rfl⟩

/-- Sending the Round 1 Package preserves the invariant. -/
theorem NodeInvariant.start
    (invariant : NodeInvariant setup known node script)
    (starting : node.stage = .starting) :
    NodeInvariant setup known (node.start setup selfPubkey)
      ⟨true, none, none⟩ := by
  have stage := invariant.stage
  rw [starting] at stage
  obtain ⟨rfl, logEmpty, firstLoopEmpty⟩ := stage
  refine
    { consistent := invariant.consistent
      outbox := ?_
      echoed := fun _ echoed => by simp at echoed
      stage := ⟨rfl, firstLoopEmpty.trans logEmpty.symm⟩ }
  intro recipient identifier notSelf recipientKnown
  change setup.sendEach selfPubkey _ node.outbox recipient = _
  rw [Setup.sendEach_of_lookup notSelf recipientKnown,
    invariant.outbox recipient identifier notSelf recipientKnown]
  simp [Setup.payloads]

/-- Leaving the first receive loop, with or without echoing. -/
theorem NodeInvariant.leaveFirstLoop
    (invariant : NodeInvariant setup known node script)
    (inLoop : node.stage = .receivingRound1)
    (exits : Node.exitTest node = true) :
    ∃ after,
      NodeInvariant setup known (Node.leaveLoop setup selfPubkey node)
        after := by
  have stage := invariant.stage
  have consistent := invariant.consistent
  rw [inLoop] at stage
  obtain ⟨rfl, sameLog⟩ := stage
  simp only [Node.exitTest, inLoop] at exits
  unfold Node.leaveLoop
  simp only [inLoop]
  cases stateCase : node.state with
  | waitingForRound1Packages pubkeys packages =>
      simp [stateCase, DKGSessionState.hasRound1Packages] at exits
  | waitingForRound1PackagesBroadcast pubkeys packages broadcasted =>
      -- some echo is missing, so this participant echoes
      rw [stateCase] at consistent
      obtain ⟨rfl, collected, full, -, missing, -⟩ := consistent
      refine ⟨⟨true, some packages, none⟩, ?_⟩
      simp only [DKGSessionState.round1Packages,
        DKGSessionState.hasRound1BroadcastPackages, Bool.false_eq_true, if_false]
      refine
        { consistent := by
            have consistent := invariant.consistent
            rwa [stateCase] at consistent
          outbox := ?_
          echoed := ?_
          stage := ⟨rfl, rfl, rfl⟩ }
      · intro recipient identifier notSelf recipientKnown
        change setup.sendEach selfPubkey _ node.outbox recipient = _
        rw [Setup.sendEach_of_lookup notSelf recipientKnown,
          invariant.outbox recipient identifier notSelf recipientKnown]
        simp [Setup.payloads]
      · intro echoed same
        obtain rfl := Option.some.inj same
        exact
          { frozen := rfl
            full := full
            provenance := fun lookup => collected.provenance lookup
            needed := by rwa [sameLog] }
  | waitingForRound2Packages pubkeys packages round2Packages =>
      -- all echoes have arrived already, so none is sent
      rw [stateCase] at consistent
      obtain ⟨rfl, -, full, settled, -⟩ := consistent
      refine ⟨⟨true, none, none⟩, ?_⟩
      simp only [DKGSessionState.round1Packages,
        DKGSessionState.hasRound1BroadcastPackages, if_true]
      exact
        { consistent := by
            have consistent := invariant.consistent
            rwa [stateCase] at consistent
          outbox := invariant.outbox
          echoed := fun _ echoed => by simp at echoed
          stage := ⟨rfl, rfl, full, fun _ echoed => by simp at echoed,
            fun _ => by rw [sameLog]; exact settled.all⟩ }
  | round2PackagesReady pubkeys round2Packages =>
      simp [stateCase, DKGSessionState.hasRound1Packages] at exits

/-- A script that has reached its end of `get_round1_packages` has sent the
Round 1 Package. -/
theorem StageAgrees.started
    {log firstLoop : List (Msg PublicKey Payload)}
    {stage : Stage Identifier Round1Package Round2Package}
    (agrees : StageAgrees setup known script log firstLoop stage)
    (moved : stage ≠ .starting) :
    script.started = true := by
  cases stage with
  | starting => exact absurd rfl moved
  | receivingRound1 => rw [agrees.1]
  | receivingBroadcast => exact agrees.1
  | round1Done => exact agrees.1
  | receivingRound2 => exact agrees.1
  | round2Done => exact agrees.1
  | recvFailed => exact agrees
  | part2Failed => exact agrees
  | panicked => exact agrees

/-- Only the stage changes. -/
theorem NodeInvariant.setStage
    {stage : Stage Identifier Round1Package Round2Package}
    (invariant : NodeInvariant setup known node script)
    (agrees : StageAgrees setup known script node.log node.firstLoop stage) :
    NodeInvariant setup known { node with stage := stage } script where
  consistent := invariant.consistent
  outbox := invariant.outbox
  echoed := fun packages echoed =>
    let before := invariant.echoed packages echoed
    { frozen := before.frozen
      full := before.full
      provenance := before.provenance
      needed := before.needed }
  stage := agrees

/-- Leaving a receive loop preserves the invariant. -/
theorem NodeInvariant.leaveLoop
    (invariant : NodeInvariant setup known node script)
    (exits : Node.exitTest node = true) :
    ∃ after,
      NodeInvariant setup known (Node.leaveLoop setup selfPubkey node)
        after := by
  have stage := invariant.stage
  cases stageCase : node.stage with
  | receivingRound1 => exact invariant.leaveFirstLoop stageCase exits
  | receivingBroadcast =>
      rw [stageCase] at stage
      obtain ⟨started, echoes, shared⟩ := stage
      obtain ⟨echoed, echoedEq⟩ := Option.isSome_iff_exists.mp echoes
      have before := invariant.echoed echoed echoedEq
      simp only [Node.exitTest, stageCase] at exits
      cases stateCase : node.state with
      | waitingForRound2Packages pubkeys packages round2Packages =>
          have frozen := before.frozen
          rw [stateCase] at frozen
          refine ⟨script, ?_⟩
          simp only [Node.leaveLoop, stageCase, stateCase,
            DKGSessionState.round1Packages]
          have returned :
              Returned setup known script node.firstLoop packages :=
            { full := by
                rw [show packages = echoed from frozen]
                exact before.full
              echoed := fun other otherEq =>
                frozen.trans (Option.some.inj (echoedEq.symm.trans otherEq))
              skipped := fun none => by simp [echoedEq] at none }
          have agrees : StageAgrees setup known script node.log node.firstLoop
              (.round1Done packages) :=
            ⟨started, shared, returned⟩
          have after := invariant.setStage agrees
          rwa [stateCase] at after
      | _ =>
          simp [stateCase, DKGSessionState.hasRound1BroadcastPackages] at exits
  | receivingRound2 packages =>
      rw [stageCase] at stage
      refine ⟨script, ?_⟩
      simp only [Node.leaveLoop, stageCase]
      split
      · exact invariant.setStage stage.1
      · exact invariant.setStage stage
  | _ => simp [Node.exitTest, stageCase] at exits

/-- One turn of a receive loop preserves the invariant. -/
theorem NodeInvariant.receive
    [DecidableEq Round1Package]
    (invariant : NodeInvariant setup known node script)
    (receiving : node.stage.receiving = true)
    (notSelf : ∀ msg ∈ batch, msg.sender ≠ selfPubkey) :
    ∃ after,
      NodeInvariant setup known
        (node.receive setup selfPubkey selfIdentifier batch) after := by
  have moved : node.stage ≠ .starting := by
    intro starting
    simp [starting, Stage.receiving] at receiving
  unfold Node.receive
  split
  · rename_i next error received
    obtain ⟨afterwards, -⟩ := invariant.recvBatch receiving notSelf received
    exact ⟨script, afterwards.setStage (invariant.stage.started moved)⟩
  · rename_i next received
    obtain ⟨afterwards, -⟩ := invariant.recvBatch receiving notSelf received
    split_ifs with exits
    · exact afterwards.leaveLoop exits
    · exact ⟨script, afterwards⟩

/-- Sending the Round 2 Packages preserves the invariant. -/
theorem NodeInvariant.sendRound2
    {packages : FiniteMap Identifier Round1Package}
    (invariant : NodeInvariant setup known node script)
    (done : node.stage = .round1Done packages) :
    ∃ after,
      NodeInvariant setup known
        (node.sendRound2 setup selfPubkey packages) after := by
  have stage := invariant.stage
  rw [done] at stage
  obtain ⟨started, shared, returned⟩ := stage
  unfold Node.sendRound2
  split
  · exact ⟨script, invariant.setStage started⟩
  · rename_i round2Packages computed
    refine ⟨{ script with shared := some round2Packages }, ?_⟩
    refine
      { consistent := invariant.consistent
        outbox := ?_
        echoed := ?_
        stage := ⟨started, computed.symm,
          ⟨returned.full, returned.echoed, returned.skipped⟩⟩ }
    · intro recipient identifier notSelf recipientKnown
      change setup.sendEach selfPubkey _ node.outbox recipient = _
      rw [Setup.sendEach_of_lookup notSelf recipientKnown,
        invariant.outbox recipient identifier notSelf recipientKnown]
      simp [Setup.payloads, shared]
    · intro echoed same
      have before := invariant.echoed echoed same
      exact
        { frozen := before.frozen
          full := before.full
          provenance := before.provenance
          needed := before.needed }

end Preservation

end Dkg
end MinaMultiSig
