import MinaMultiSig.Dkg.Timeliness

/-!
# Aborts and missed phases of honest sessions

Two ways in which the order of messages alone can stop a session of honest
participants. A message that arrives before its phase makes `recv` return an
error, which ends `keygen`. A batch that completes Round 2 inside one of the two
loops of `get_round1_packages` leaves the session in a state in which the exit
test of that loop is false. Both conditions are exact.
-/

namespace MinaMultiSig
namespace Dkg

variable {PublicKey Identifier Round1Package Round2Package Payload : Type}
variable [DecidableEq PublicKey] [DecidableEq Identifier]
variable [DecidableEq Round1Package] [DecidableEq Payload]

section Aborts

variable
  (setup : Setup PublicKey Identifier Round1Package Round2Package Payload)
variable
  (world : World PublicKey Identifier Round1Package Round2Package Payload)

/-- No call of `recv` has returned an error. -/
def NoRecvFailed : Prop :=
  ∀ key error, (world key).stage ≠ .recvFailed error

/-- No message comes before its phase in this action. -/
def TimelyAction : Action PublicKey Payload → Prop
  | .receive selfPubkey batch =>
      ∀ selfIdentifier
        (known : setup.pubkeys.lookup selfPubkey = some selfIdentifier),
        TimelyBatch setup known (world selfPubkey).log batch
  | _ => True

variable {setup world} {fifo : Bool} {action : Action PublicKey Payload}
variable
  {next : World PublicKey Identifier Round1Package Round2Package Payload}
variable {selfPubkey : PublicKey} {selfIdentifier : Identifier}
variable
  {node : Node PublicKey Identifier Round1Package Round2Package Payload}
variable {batch : List (Msg PublicKey Payload)}

omit [DecidableEq Identifier] [DecidableEq Round1Package]
  [DecidableEq Payload] in
/-- Replacing a participant that has not failed. -/
theorem noRecvFailed_update
    (alive : ∀ error, (world selfPubkey).stage ≠ .recvFailed error) :
    NoRecvFailed (Function.update world selfPubkey node) ↔
      NoRecvFailed world ∧ ∀ error, node.stage ≠ .recvFailed error := by
  constructor
  · intro after
    refine ⟨?_, ?_⟩
    · intro key
      by_cases same : key = selfPubkey
      · subst same
        exact alive
      · have unmoved := after key
        rwa [Function.update_of_ne same] at unmoved
    · have moved := after selfPubkey
      rwa [Function.update_self] at moved
  · rintro ⟨before, moved⟩ key
    by_cases same : key = selfPubkey
    · subst same
      rwa [Function.update_self]
    · rw [Function.update_of_ne same]
      exact before key

omit [DecidableEq Payload] in
/-- A turn of a receive loop fails exactly when handling its batch does. -/
theorem Node.receive_alive_iff
    (receiving : node.stage.receiving = true) :
    (∀ error, (node.receive setup selfPubkey selfIdentifier batch).stage ≠
        .recvFailed error) ↔
      ∃ next, Node.recvBatch setup selfIdentifier node batch =
        (next, .ok ()) := by
  unfold Node.receive
  split
  · rename_i after error received
    refine iff_of_false (fun alive => alive error rfl) ?_
    rintro ⟨other, handled⟩
    rw [received] at handled
    simp at handled
  · rename_i after received
    refine iff_of_true ?_ ⟨after, received⟩
    have sameStage := (Node.recvBatch_frame received).2.1
    rw [← sameStage] at receiving
    intro error
    split_ifs
    · cases stage : after.stage with
      | receivingRound1 =>
          simp only [Node.leaveLoop, stage]
          split
          · simp
          · split_ifs <;> simp
      | receivingBroadcast =>
          simp only [Node.leaveLoop, stage]
          split <;> simp
      | receivingRound2 =>
          simp only [Node.leaveLoop, stage]
          split <;> simp
      | _ => simp [stage, Stage.receiving] at receiving
    · intro failed
      simp [failed, Stage.receiving] at receiving

omit [DecidableEq Payload] in
/-- A step of honest participants aborts a session exactly when it delivers a
message before its phase. -/
theorem noRecvFailed_step
    (invariant : WorldInvariant setup true world)
    (allHonest : setup.dishonest = ∅)
    (moves : Moves setup true world action next) :
    NoRecvFailed next ↔ NoRecvFailed world ∧ TimelyAction setup world action := by
  cases moves with
  | @start selfPubkey honest starting =>
      rw [noRecvFailed_update (by simp [starting])]
      simp [TimelyAction, Node.start]
  | @receive selfPubkey selfIdentifier batch honest known receiving
      deliverable =>
      obtain ⟨script, nodeInvariant⟩ := invariant.node known honest.2
      have alive : ∀ error,
          (world selfPubkey).stage ≠ .recvFailed error := by
        intro error failed
        simp [failed, Stage.receiving] at receiving
      have timely : TimelyAction setup world (.receive selfPubkey batch) ↔
          TimelyBatch setup known (world selfPubkey).log batch := by
        constructor
        · intro all
          exact all selfIdentifier known
        · intro batchTimely other otherKnown
          obtain rfl : other = selfIdentifier :=
            Option.some.inj (otherKnown.symm.trans known)
          exact batchTimely
      rw [noRecvFailed_update alive, timely, Node.receive_alive_iff receiving,
        invariant.recvBatch_ok_iff_timely allHonest nodeInvariant receiving
          (invariant.inOrder deliverable)]
  | @sendRound2 selfPubkey packages honest done =>
      rw [noRecvFailed_update (by simp [done])]
      refine and_congr_right fun _ => iff_of_true ?_ trivial
      intro error
      unfold Node.sendRound2
      split <;> simp
  | inject dishonest =>
      rw [allHonest] at dishonest
      exact absurd dishonest (Finset.notMem_empty _)

/-- In a run of honest participants no call of `recv` returns an error exactly
when every message is delivered in its phase or later. -/
theorem noRecvFailed_iff_timely
    {actions : List (Action PublicKey Payload)}
    (allHonest : setup.dishonest = ∅)
    (ran : (setup.session true).run setup.initial actions = some world) :
    NoRecvFailed world ↔
      (setup.session true).AllSteps (TimelyAction setup) setup.initial
        actions := by
  have initially : NoRecvFailed setup.initial := by
    intro key error
    simp [Setup.initial]
  have kept : ∀ {state action next},
      WorldInvariant setup true state →
        (setup.session true).step state action = some next →
          WorldInvariant setup true next :=
    fun invariant stepped => invariant.step (moves_of_step stepped)
  have exactly : ∀ {state action next},
      WorldInvariant setup true state →
        (setup.session true).step state action = some next →
          (NoRecvFailed next ↔
            NoRecvFailed state ∧ TimelyAction setup state action) :=
    fun invariant stepped =>
      noRecvFailed_step invariant allHonest (moves_of_step stepped)
  rw [TransitionSystem.good_iff_allSteps kept exactly ran .initial,
    and_iff_right initially]

/-- Three honest participants: the echo of `1` reaches `0` before the Round 1
Package of `2` does. -/
def earlyEchoRun : List (Action Nat NumberedPayload) :=
  [.start 0, .start 1, .start 2,
    .receive 1 [⟨0, .inl 0⟩, ⟨2, .inl 2⟩],
    .receive 0 [⟨1, .inl 1⟩, ⟨1, .inr (.inl (2, 2))⟩]]

/-- That run does not deliver its messages in time. -/
theorem noRecvFailed_iff_timely_earlyEcho :
    let setup := numberedSetup 3 (by decide) ∅
    ¬(setup.session true).AllSteps (TimelyAction setup) setup.initial
      earlyEchoRun := by
  intro setup
  have outcome : (((setup.session true).run setup.initial earlyEchoRun).map
      fun world => (world 0).stage) = some (.recvFailed .serdeJson) := by
    decide +kernel
  obtain ⟨world, ran, failed⟩ := Option.map_eq_some_iff.mp outcome
  intro timely
  exact (noRecvFailed_iff_timely (by decide) ran).mpr timely 0 _ failed

/-- The early echo aborts the session of `0`. -/
theorem recvFailed_earlyEcho :
    let setup := numberedSetup 3 (by decide) ∅
    ∃ world, (setup.session true).Reachable world ∧ ¬NoRecvFailed world := by
  intro setup
  have outcome : (((setup.session true).run setup.initial earlyEchoRun).map
      fun world => (world 0).stage) = some (.recvFailed .serdeJson) := by
    decide +kernel
  obtain ⟨world, ran, failed⟩ := Option.map_eq_some_iff.mp outcome
  exact ⟨world, ⟨earlyEchoRun, ran⟩, fun alive => alive 0 _ failed⟩

end Aborts

section Noticing

variable
  (setup : Setup PublicKey Identifier Round1Package Round2Package Payload)
variable
  (world : World PublicKey Identifier Round1Package Round2Package Payload)
variable (selfPubkey : PublicKey) (selfIdentifier : Identifier)
variable (batch : List (Msg PublicKey Payload))

/-- The map holds the Round 1 Package sent by every other participant, and
nothing else. -/
def ExactlySent
    (round1Packages : FiniteMap Identifier Round1Package) : Prop :=
  ∀ identifier package,
    round1Packages.lookup identifier = some package ↔
      ∃ key, key ≠ selfPubkey ∧ setup.pubkeys.lookup key = some identifier ∧
        package = setup.round1Package key

/-- After the batch the exit test of the current loop is true, and the call of
`round1_packages` that follows returns exactly the packages sent. -/
def Noticed : Prop :=
  ∃ node round1Packages,
    Node.recvBatch setup selfIdentifier (world selfPubkey) batch =
      (node, .ok ()) ∧
    Node.exitTest node = true ∧
    node.state.round1Packages = some round1Packages ∧
    ExactlySent setup selfPubkey round1Packages

variable {setup world selfPubkey selfIdentifier batch} {fifo : Bool}

omit [DecidableEq Round1Package] [DecidableEq Payload] in
/-- Among honest participants a full map holds what was sent. -/
theorem WorldInvariant.exactlySent
    {packages : FiniteMap Identifier Round1Package}
    {log : List (Msg PublicKey Payload)}
    (invariant : WorldInvariant setup fifo world)
    (allHonest : setup.dishonest = ∅)
    (known : setup.pubkeys.lookup selfPubkey = some selfIdentifier)
    (authentic : ∀ msg ∈ log, msg.msg ∈ (world msg.sender).outbox selfPubkey)
    (collected : Collected (setup.membership known)
      (ReceivedRound1 setup.wire log) packages)
    (full : packages.keys = (setup.membership known).others) :
    ExactlySent setup selfPubkey packages := by
  have lookup : ∀ {key identifier}, key ≠ selfPubkey →
      setup.pubkeys.lookup key = some identifier →
        packages.lookup identifier = some (setup.round1Package key) :=
    fun notSelf keyKnown =>
      invariant.lookup_honest keyKnown known (by simp [allHonest]) notSelf
        authentic collected full
  intro identifier package
  constructor
  · intro stored
    obtain ⟨key, notSelf, keyKnown, -⟩ := collected.provenance stored
    have sent := lookup notSelf keyKnown
    exact ⟨key, notSelf, keyKnown,
      Option.some.inj (stored.symm.trans sent)⟩
  · rintro ⟨key, notSelf, keyKnown, rfl⟩
    exact lookup notSelf keyKnown

/-- When a batch completes the phase of a receive loop, the loop notices exactly
when no message of the batch came before its phase and Round 2 is not complete
as well. -/
theorem noticed_iff
    (allHonest : setup.dishonest = ∅)
    (reachable : (setup.session true).Reachable world)
    (known : setup.pubkeys.lookup selfPubkey = some selfIdentifier)
    (deliverable : Deliverable true world selfPubkey batch)
    (loop : (world selfPubkey).stage = .receivingRound1 ∨
      ((world selfPubkey).stage = .receivingBroadcast ∧
        AllEchoes setup known ((world selfPubkey).log ++ batch)))
    (arrived : AllRound1 setup known ((world selfPubkey).log ++ batch)) :
    Noticed setup world selfPubkey selfIdentifier batch ↔
      TimelyBatch setup known (world selfPubkey).log batch ∧
        ¬AllRound2 setup known ((world selfPubkey).log ++ batch) := by
  have invariant := WorldInvariant.of_reachable reachable
  have inOrder := invariant.inOrder deliverable
  have receiving : (world selfPubkey).stage.receiving = true := by
    rcases loop with stage | ⟨stage, -⟩ <;> rw [stage] <;> rfl
  have honest : selfPubkey ∉ setup.dishonest := by simp [allHonest]
  obtain ⟨script, before⟩ := invariant.node known honest
  have handled := invariant.recvBatch_ok_iff_timely allHonest before receiving
    inOrder
  by_cases timely : TimelyBatch setup known (world selfPubkey).log batch
  case neg =>
    refine iff_of_false ?_ (fun both => timely both.1)
    rintro ⟨node, _, received, -⟩
    exact timely (handled.mp ⟨node, received⟩)
  obtain ⟨node, received⟩ := handled.mpr timely
  obtain ⟨after, sameStage⟩ := before.recvBatch receiving
    (fun msg member => (deliverable.1 msg member).1) received
  obtain ⟨-, -, accepted, -, log, all⟩ := Node.recvBatch_frame received
  obtain rfl := all rfl
  have consistent := after.consistent
  have phase := consistent.phase
  rw [log] at consistent phase
  have notices : ∀ {packages},
      Node.exitTest node = true → node.state.round1Packages = some packages →
        ExactlySent setup selfPubkey packages →
          Noticed setup world selfPubkey selfIdentifier accepted :=
    fun exits held sent => ⟨node, _, received, exits, held, sent⟩
  have sent : ∀ {packages},
      Collected (setup.membership known) (ReceivedRound1 setup.wire
          ((world selfPubkey).log ++ accepted)) packages →
        packages.keys = (setup.membership known).others →
          ExactlySent setup selfPubkey packages :=
    fun collected full => invariant.exactlySent allHonest known
      (fun msg member => (inOrder.authentic member).2) collected full
  rw [and_iff_right timely]
  cases state : node.state with
  | waitingForRound1Packages pubkeys packages =>
      rw [state] at phase
      exact absurd arrived phase
  | waitingForRound1PackagesBroadcast pubkeys packages broadcasted =>
      -- only the first loop can end here, and no Round 2 Package was accepted
      rw [state] at consistent phase
      obtain ⟨-, collected, full, -, missing, noRound2⟩ := consistent
      rcases loop with stage | ⟨-, allEchoes⟩
      case inr => exact absurd allEchoes missing
      have exits : Node.exitTest node = true := by
        rw [Node.exitTest, sameStage, stage, state]
        rfl
      refine iff_of_true (notices exits (by rw [state]; rfl)
        (sent collected full)) ?_
      intro allRound2
      obtain ⟨key, package, heard⟩ := allRound2.exists_received
      exact noRound2 key package heard
  | waitingForRound2Packages pubkeys packages round2Packages =>
      rw [state] at consistent phase
      obtain ⟨-, collected, full, -⟩ := consistent
      have exits : Node.exitTest node = true := by
        rcases loop with stage | ⟨stage, -⟩ <;>
          rw [Node.exitTest, sameStage, stage, state] <;> rfl
      exact iff_of_true (notices exits (by rw [state]; rfl)
        (sent collected full)) phase.2.2
  | round2PackagesReady pubkeys round2Packages =>
      -- the state no exit test of these two loops knows
      rw [state] at phase
      refine iff_of_false ?_ (not_not.mpr phase.2.2)
      rintro ⟨other, packages, otherReceived, -, held, -⟩
      rw [received] at otherReceived
      obtain ⟨rfl, -⟩ := Prod.mk.inj otherReceived
      rw [state] at held
      simp [DKGSessionState.round1Packages] at held

/-- Two honest participants: the first batch of `0` brings both packages of
`1`. -/
def bothPackagesRun : List (Action Nat NumberedPayload) :=
  [.start 0, .start 1, .receive 1 [⟨0, .inl 0⟩], .sendRound2 1]

/-- The batch that follows. -/
def bothPackages : List (Msg Nat NumberedPayload) :=
  [⟨1, .inl 1⟩, ⟨1, .inr (.inr 10)⟩]

theorem allRound1_bothPackages
    (known : (numberedSetup 2 (by decide) ∅).pubkeys.lookup 0 = some 0)
    (rest : List (Msg Nat NumberedPayload)) :
    AllRound1 (numberedSetup 2 (by decide) ∅) known (⟨1, .inl 1⟩ :: rest) := by
  intro key identifier notSelf keyKnown
  change (numberedPubkeys 2).lookup key = some identifier at keyKnown
  change key ≠ 0 at notSelf
  rw [lookup_numberedPubkeys] at keyKnown
  split_ifs at keyKnown with below
  obtain rfl : key = 1 := by omega
  exact ⟨1, _, List.mem_cons_self .., rfl, rfl⟩

/-- The loop of `0` does not notice that the Round 1 Package of `1` has
arrived, although no message came before its phase. -/
theorem not_noticed_bothPackages :
    let setup := numberedSetup 2 (by decide) ∅
    ∃ world, (setup.session true).Reachable world ∧
      Deliverable true world 0 bothPackages ∧
      (world 0).stage = .receivingRound1 ∧
      (∃ known : setup.pubkeys.lookup 0 = some 0,
        AllRound1 setup known ((world 0).log ++ bothPackages)) ∧
      ¬Noticed setup world 0 0 bothPackages := by
  intro setup
  have outcome : (((setup.session true).run setup.initial bothPackagesRun).map
      fun world => (world 0).stage) = some .receivingRound1 := by
    decide +kernel
  have accepted : (((setup.session true).run setup.initial bothPackagesRun).map
      fun world => (world 0).log) = some [] := by
    decide +kernel
  have sent : (((setup.session true).run setup.initial bothPackagesRun).map
      fun world => decide (Deliverable true world 0 bothPackages)) =
      some true := by
    decide +kernel
  have handled : (((setup.session true).run setup.initial bothPackagesRun).map
      fun world => Node.exitTest
        (Node.recvBatch setup 0 (world 0) bothPackages).1) = some false := by
    decide +kernel
  obtain ⟨world, ran, stage⟩ := Option.map_eq_some_iff.mp outcome
  rw [ran] at accepted sent handled
  have log : (world 0).log = [] := Option.some.inj accepted
  refine ⟨world, ⟨bothPackagesRun, ran⟩,
    of_decide_eq_true (Option.some.inj sent), stage,
    ⟨by decide, ?_⟩, ?_⟩
  · rw [log]
    exact allRound1_bothPackages _ _
  · rintro ⟨node, packages, received, exits, -⟩
    have stays : Node.exitTest
        (Node.recvBatch setup 0 (world 0) bothPackages).1 = false :=
      Option.some.inj handled
    rw [received, exits] at stays
    exact absurd stays (by decide)

/-- Without the Round 2 Package in the batch the loop does notice. -/
theorem noticed_iff_single :
    let setup := numberedSetup 2 (by decide) ∅
    ∃ world, (setup.session true).Reachable world ∧
      Noticed setup world 0 0 [⟨1, .inl 1⟩] := by
  intro setup
  have outcome : (((setup.session true).run setup.initial bothPackagesRun).map
      fun world => (world 0).stage) = some .receivingRound1 := by
    decide +kernel
  have accepted : (((setup.session true).run setup.initial bothPackagesRun).map
      fun world => (world 0).log) = some [] := by
    decide +kernel
  have sent : (((setup.session true).run setup.initial bothPackagesRun).map
      fun world => decide (Deliverable true world 0 [⟨1, .inl 1⟩])) =
      some true := by
    decide +kernel
  obtain ⟨world, ran, stage⟩ := Option.map_eq_some_iff.mp outcome
  rw [ran] at accepted sent
  have log : (world 0).log = [] := Option.some.inj accepted
  have known : setup.pubkeys.lookup 0 = some 0 := by decide
  have arrived : AllRound1 setup known ((world 0).log ++ [⟨1, .inl 1⟩]) := by
    rw [log]
    exact allRound1_bothPackages known []
  refine ⟨world, ⟨bothPackagesRun, ran⟩,
    (noticed_iff (by decide) ⟨bothPackagesRun, ran⟩ known
      (of_decide_eq_true (Option.some.inj sent)) (Or.inl stage) arrived).mpr
      ⟨⟨?_, trivial⟩, ?_⟩⟩
  · simp [Timely, setup, numberedSetup, taggedWire]
  · intro allRound2
    obtain ⟨key, package, msg, member, -, decoded⟩ :=
      allRound2.exists_received
    rw [log, List.nil_append, List.mem_singleton] at member
    subst member
    simp [setup, numberedSetup, taggedWire] at decoded

end Noticing

end Dkg
end MinaMultiSig
