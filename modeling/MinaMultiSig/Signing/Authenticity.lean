import MinaMultiSig.Channel.OrderedDelivery
import MinaMultiSig.Signing.Invariant

/-!
# Whose commitments and shares a coordinator aggregates

The commitments and the share that a coordinator has of an honest signer are those
of one run of that signer, which has answered the arguments of one coordinator of
the same user. Nothing ties a run to a session: the arguments are those of the
coordinator at hand only if no other one of the user has sent any.
-/

namespace MinaMultiSig
namespace Signing

open Coordinator (readList)

variable {PublicKey Identifier Commitments Share Args Signature : Type}
  {Payload Ephemeral Message ε Coordination Run : Type}
  {snow : Channel.Snow PublicKey Ephemeral Payload Message}
variable [DecidableEq PublicKey] [DecidableEq Identifier]
  [DecidableEq Ephemeral] [DecidableEq Message]
  [DecidableEq Coordination] [DecidableEq Run]

section Streams

variable {setup : Setup Identifier Commitments Share Args Signature ε snow
    Coordination Run}
  {run : Run} {view : View snow}

omit [DecidableEq Identifier] [DecidableEq Ephemeral] [DecidableEq Message]
  [DecidableEq Coordination] [DecidableEq Run] in
/-- In every stage a participant has sent no more than its answer. -/
theorem ParticipantState.said
    {stage : ParticipantStage PublicKey ε}
    (state : ParticipantState setup run view stage) :
    Said setup run view := by
  cases state with
  | starting silent => exact .nothing silent.sent
  | waiting _ isFirst sent => exact .commitments isFirst sent
  | ended said => exact said

omit [DecidableEq Identifier] [DecidableEq Ephemeral] [DecidableEq Message]
  [DecidableEq Coordination] [DecidableEq Run] in
/-- What is sent to somebody who is sent something. -/
theorem View.SentTo.eq_of_ne_nil
    {peer key : PublicKey}
    {payloads : List Payload}
    (sentTo : view.SentTo {peer} payloads)
    (something : view.sent key ≠ []) :
    key = peer ∧ view.sent key = payloads := by
  have isSent := sentTo key
  split_ifs at isSent with member
  · exact ⟨Finset.mem_singleton.mp member, isSent⟩
  · exact absurd isSent something

omit [DecidableEq Identifier] [DecidableEq Ephemeral] [DecidableEq Message]
  [DecidableEq Coordination] [DecidableEq Run] in
/-- The first payload of a participant is its commitments. -/
theorem Said.exists_commitments
    {key : PublicKey}
    {first : Payload}
    {rest : List Payload}
    (said : Said setup run view)
    (isSent : view.sent key = first :: rest) :
    setup.wire.toVecCommitments [setup.commitments run] = some first := by
  have something : view.sent key ≠ [] := by simp [isSent]
  cases said with
  | nothing sent => exact absurd (sent key) something
  | commitments isFirst sent =>
      rw [(sent.eq_of_ne_nil something).2] at isSent
      obtain ⟨rfl, -⟩ := List.cons.inj isSent
      exact isFirst
  | answered answered =>
      obtain ⟨firstSent, second, isFirst, -, sent⟩ := answered.sent
      rw [(sent.eq_of_ne_nil something).2] at isSent
      obtain ⟨rfl, -⟩ := List.cons.inj isSent
      exact isFirst

omit [DecidableEq Identifier] [DecidableEq Ephemeral] [DecidableEq Message]
  [DecidableEq Coordination] [DecidableEq Run] in
/-- The second payload of a participant is the share of its answer. -/
theorem Said.exists_answered
    {key : PublicKey}
    {first second : Payload}
    {rest : List Payload}
    (said : Said setup run view)
    (isSent : view.sent key = first :: second :: rest) :
    rest = [] ∧ ∃ args share,
      setup.wire.toVecShares [share] = some second ∧
        Answered setup run key args share view := by
  have something : view.sent key ≠ [] := by simp [isSent]
  cases said with
  | nothing sent => exact absurd (sent key) something
  | commitments isFirst sent =>
      rw [(sent.eq_of_ne_nil something).2] at isSent
      exact absurd isSent (by simp)
  | @answered coordinator args share answered =>
      obtain ⟨firstSent, secondSent, -, isSecond, sent⟩ := answered.sent
      obtain ⟨rfl, all⟩ := sent.eq_of_ne_nil something
      rw [all] at isSent
      obtain ⟨-, behind⟩ := List.cons.inj isSent
      obtain ⟨rfl, isNil⟩ := List.cons.inj behind
      exact ⟨isNil.symm, args, share, isSecond, answered⟩

end Streams

section Read

variable {α : Type}
  {fromSlice : Payload → Option (List α)} {first : Payload}

omit [DecidableEq PublicKey] [DecidableEq Identifier] in
/-- The value of a payload is its only entry. -/
theorem readList_one
    {value : α}
    (isRead : fromSlice first = some [value]) :
    readList fromSlice 1 first = some [value] :=
  Coordinator.readList_eq_some.mpr ⟨isRead, rfl⟩

omit [DecidableEq PublicKey] [DecidableEq Identifier] in
theorem readList_none
    (unread : fromSlice first = none) :
    readList fromSlice 1 first = none := by
  unfold readList
  rw [unread]
  rfl

end Read

variable {setup : Setup Identifier Commitments Share Args Signature ε snow
    Coordination Run}
  {world : World Identifier Commitments Share Signature ε snow
    Coordination Run}
  {coordination : Coordination}
  {commitments : FiniteMap Identifier Commitments}
  {signatureShares : FiniteMap Identifier Share}
  {result : Outcome ε Signature}
  {key : PublicKey} {identifier : Identifier}

/-- A coordinator that has concluded holds an entry of every signer. -/
theorem keys_of_concluded
    (documented : setup.noiseK.Documented)
    (reachable : setup.session.Reachable world)
    (concluded : world.coordinators coordination =
      .concluded commitments signatureShares result) :
    commitments.keys = (setup.signers coordination).identifiers ∧
      signatureShares.keys = (setup.signers coordination).identifiers ∧
      result = setup.aggregate coordination commitments signatureShares := by
  have state := (Invariant.of_reachable documented reachable).coordinators
    coordination
  rw [concluded] at state
  cases state with
  | concluded requested _ entries =>
    exact ⟨requested.entries.keys_eq, entries.keys_eq, rfl⟩

/-- What a coordinator has read from an honest signer are the commitments and the
share of one run. -/
theorem exists_answered
    (documented : setup.noiseK.Documented)
    (lawful : setup.wire.Lawful)
    (reachable : setup.session.Reachable world)
    (concluded : world.coordinators coordination =
      .concluded commitments signatureShares result)
    (honestCoordinator : setup.coordinatorPubkey coordination ∈ setup.honest)
    (known : (setup.signers coordination).pubkeys.lookup key = some identifier)
    (honest : key ∈ setup.honest) :
    ∃ run args share, setup.participantPubkey run = key ∧
      commitments.lookup identifier = some (setup.commitments run) ∧
      signatureShares.lookup identifier = some share ∧
      Answered setup run (setup.coordinatorPubkey coordination) args share
        (viewOf world.channel (.inr run)) := by
  have invariant := Invariant.of_reachable documented reachable
  have state := invariant.coordinators coordination
  rw [concluded] at state
  cases state with
  | @concluded _ _ before received requested isReceived entries =>
    obtain ⟨firstValues, firstScanned, isCommitments⟩ :=
      requested.entries.entry known
    obtain ⟨secondValues, secondScanned, isShare⟩ := entries.entry known
    obtain ⟨firstRead, firstMember, isFirstRead⟩ := firstScanned.exists_read
    obtain ⟨secondRead, secondMember, -⟩ := secondScanned.exists_read
    have isReceived : world.channel.received (.inl coordination, key) =
        before key ++ received key := isReceived key
    rcases Channel.Network.received_cases documented invariant.reachable
        (.inl coordination, key) ⟨honest, honestCoordinator⟩ with
      nothing | ⟨⟨index, recipient⟩, ⟨isSender, isRecipient⟩, start⟩
    · rw [isReceived, List.append_eq_nil_iff] at nothing
      rw [nothing.1] at firstMember
      exact absurd firstMember List.not_mem_nil
    · obtain rfl : recipient = setup.coordinatorPubkey coordination :=
        isRecipient
      rw [isReceived] at start
      cases index with
      | inl other =>
          -- arguments are no commitments
          have inSent : firstRead ∈ (viewOf world.channel (.inl other)).sent
              (setup.coordinatorPubkey coordination) :=
            start.subset (List.mem_append_left _ firstMember)
          rcases (invariant.coordinators other).sentArgs
              (setup.coordinatorPubkey coordination) with
            nothing | ⟨collected, payload, -, -, isPayload, onlyOne⟩
          · exact absurd (nothing ▸ inSent) List.not_mem_nil
          · have isPayloadRead : firstRead = payload :=
              List.mem_singleton.mp (onlyOne ▸ inSent)
            have unread := readList_none
              (lawful.fromSliceCommitments_args _ _ isPayload)
            rw [isPayloadRead, unread] at isFirstRead
            exact absurd isFirstRead (by simp)
      | inr run =>
          have said := (invariant.participants run).said
          obtain ⟨sentRest, isAll⟩ := start
          cases isBefore : before key with
          | nil =>
              rw [isBefore] at firstMember
              exact absurd firstMember List.not_mem_nil
          | cons first firstRest =>
              have isSent : (viewOf world.channel (.inr run)).sent
                  (setup.coordinatorPubkey coordination) =
                    first :: (firstRest ++ received key ++ sentRest) := by
                refine isAll.symm.trans ?_
                rw [isBefore]
                rfl
              have firstIs := readList_one (lawful.commitments _ _
                (said.exists_commitments isSent))
              rw [isBefore] at firstScanned
              obtain ⟨rfl, rfl⟩ := firstScanned.eq_singleton firstIs
              cases isBehind : received key with
              | nil =>
                  rw [isBehind] at secondMember
                  exact absurd secondMember List.not_mem_nil
              | cons second secondRest =>
                  rw [isBehind] at isSent secondScanned
                  obtain ⟨-, args, share, isSecond, answered⟩ :=
                    said.exists_answered isSent
                  have secondIs := readList_one
                    (lawful.shares _ _ isSecond)
                  obtain ⟨-, rfl⟩ := secondScanned.eq_singleton secondIs
                  exact ⟨run, args, share, isSender, isCommitments, isShare,
                    answered⟩

/-- The arguments a run has answered to an honest coordinator are those that one of
the coordinators of that user has sent to it. -/
theorem exists_request
    (documented : setup.noiseK.Documented)
    (lawful : setup.wire.Lawful)
    (reachable : setup.session.Reachable world)
    {run : Run}
    {coordinator : PublicKey}
    {args : Args}
    {share : Share}
    (honestCoordinator : coordinator ∈ setup.honest)
    (honest : setup.participantPubkey run ∈ setup.honest)
    (answered : Answered setup run coordinator args share
      (viewOf world.channel (.inr run))) :
    ∃ other collected payload, setup.coordinatorPubkey other = coordinator ∧
      setup.participantPubkey run ∈ (setup.signers other).pubkeys.keys ∧
      collected.keys = (setup.signers other).identifiers ∧
      args = setup.signingArgs other collected ∧
      setup.wire.toVecArgs args = some payload ∧
      world.channel.sent (.inl other, setup.participantPubkey run) =
        [payload] := by
  have invariant := Invariant.of_reachable documented reachable
  obtain ⟨request, isReceived, isArgs⟩ := answered.received
  have isReceived : world.channel.received (.inr run, coordinator) =
      [request] := isReceived
  rcases Channel.Network.received_cases documented invariant.reachable
      (.inr run, coordinator) ⟨honestCoordinator, honest⟩ with
    nothing | ⟨⟨index, recipient⟩, ⟨isSender, isRecipient⟩, start⟩
  · rw [isReceived] at nothing
    exact absurd nothing (by simp)
  · obtain rfl : recipient = setup.participantPubkey run := isRecipient
    rw [isReceived] at start
    cases index with
    | inl other =>
        have inSent : request ∈ (viewOf world.channel (.inl other)).sent
            (setup.participantPubkey run) :=
          start.subset List.mem_cons_self
        rcases (invariant.coordinators other).sentArgs
            (setup.participantPubkey run) with
          nothing | ⟨collected, payload, signer, full, isPayload, onlyOne⟩
        · exact absurd (nothing ▸ inSent) List.not_mem_nil
        · obtain rfl : request = payload :=
            List.mem_singleton.mp (onlyOne ▸ inSent)
          have same := isArgs.symm.trans (lawful.args _ _ isPayload)
          obtain rfl := Option.some.inj same
          exact ⟨other, collected, request, isSender, signer, full, rfl,
            isPayload, onlyOne⟩
    | inr other =>
        -- commitments are no arguments
        obtain ⟨rest, isAll⟩ := start
        have isFirst := (invariant.participants other).said.exists_commitments
          isAll.symm
        rw [lawful.fromSliceArgs_commitments _ _ isFirst] at isArgs
        exact absurd isArgs (by simp)

/-- The arguments are those of the coordinator at hand, if no other one of the same
user has sent any to the signer. -/
theorem args_eq_of_alone
    (documented : setup.noiseK.Documented)
    (lawful : setup.wire.Lawful)
    (reachable : setup.session.Reachable world)
    (concluded : world.coordinators coordination =
      .concluded commitments signatureShares result)
    (honestCoordinator : setup.coordinatorPubkey coordination ∈ setup.honest)
    {run : Run}
    {args : Args}
    {share : Share}
    (honest : setup.participantPubkey run ∈ setup.honest)
    (answered : Answered setup run (setup.coordinatorPubkey coordination) args
      share (viewOf world.channel (.inr run)))
    (alone : ∀ other, other ≠ coordination →
      setup.coordinatorPubkey other = setup.coordinatorPubkey coordination →
        world.channel.sent (.inl other, setup.participantPubkey run) = []) :
    args = setup.signingArgs coordination commitments := by
  obtain ⟨other, collected, payload, isSame, signer, -, rfl, isPayload, sent⟩ :=
    exists_request documented lawful reachable honestCoordinator honest answered
  obtain rfl : other = coordination := by
    by_contra different
    rw [alone other different isSame] at sent
    exact absurd sent (by simp)
  have state := (Invariant.of_reachable documented reachable).coordinators other
  rw [concluded] at state
  cases state with
  | concluded requested =>
    obtain ⟨ownPayload, isOwn, sentTo⟩ := requested.sent
    have ownSent : world.channel.sent
        (.inl other, setup.participantPubkey run) = [ownPayload] :=
      (sentTo _).trans (if_pos signer)
    rw [sent] at ownSent
    obtain ⟨rfl, -⟩ := List.cons.inj ownSent
    exact Option.some.inj
      ((lawful.args _ _ isPayload).symm.trans (lawful.args _ _ isOwn))

/-- A coordinator that has concluded holds an entry of every signer. Those of an
honest one come from a single run of it, which has sent these commitments and this
share and nothing else, and signed the only arguments it has received: those that
a coordinator of the same user has made from a complete set of commitments, and
the only ones that this coordinator has sent to the signer. -/
theorem shares_authentic
    (documented : setup.noiseK.Documented)
    (lawful : setup.wire.Lawful)
    (reachable : setup.session.Reachable world)
    (concluded : world.coordinators coordination =
      .concluded commitments signatureShares result)
    (honestCoordinator : setup.coordinatorPubkey coordination ∈ setup.honest) :
    commitments.keys = (setup.signers coordination).identifiers ∧
      signatureShares.keys = (setup.signers coordination).identifiers ∧
      result = setup.aggregate coordination commitments signatureShares ∧
      ∀ key identifier,
        (setup.signers coordination).pubkeys.lookup key = some identifier →
          key ∈ setup.honest →
            ∃ run args share other collected payload,
              setup.participantPubkey run = key ∧
                commitments.lookup identifier = some (setup.commitments run) ∧
                signatureShares.lookup identifier = some share ∧
                Answered setup run (setup.coordinatorPubkey coordination) args
                  share (viewOf world.channel (.inr run)) ∧
                setup.coordinatorPubkey other =
                  setup.coordinatorPubkey coordination ∧
                key ∈ (setup.signers other).pubkeys.keys ∧
                collected.keys = (setup.signers other).identifiers ∧
                args = setup.signingArgs other collected ∧
                setup.wire.toVecArgs args = some payload ∧
                world.channel.sent (.inl other, key) = [payload] := by
  obtain ⟨fullCommitments, fullShares, isResult⟩ :=
    keys_of_concluded documented reachable concluded
  refine ⟨fullCommitments, fullShares, isResult, ?_⟩
  intro key identifier known honest
  obtain ⟨run, args, share, rfl, isCommitments, isShare, answered⟩ :=
    exists_answered documented lawful reachable concluded honestCoordinator
      known honest
  obtain ⟨other, collected, payload, isSame, signer, full, isArgs, isPayload,
    sent⟩ :=
    exists_request documented lawful reachable honestCoordinator honest answered
  exact ⟨run, args, share, other, collected, payload, rfl, isCommitments,
    isShare, answered, isSame, signer, full, isArgs, isPayload, sent⟩

section Numbers

/-- The user `2` coordinates a session of the signers `0` and `1`; the signer `1`
is dishonest. All participants are of the signer `0`. -/
def numberedSetup :
    Setup Nat Nat Nat Nat Nat Unit
      (Channel.Reference.snow Nat Nat fun _ : TaggedPayload Nat Nat Nat => 100)
      Unit Nat where
  noiseK := Channel.Reference.noiseK Nat Nat fun _ => 100
  honest := {0, 2}
  wire := .tagged
  coordinatorKey := fun _ => (2 : Nat)
  signers := fun _ => Coordinator.numberedSigners 2 (by decide)
  order := fun _ => [0, 1]
  order_nodup := fun _ => by decide
  mem_order := by
    intro _ key
    change _ ↔ key ∈ (Dkg.numberedPubkeys 2).keys
    rw [Dkg.keys_numberedPubkeys, Finset.mem_range]
    simp only [List.mem_cons, List.not_mem_nil, or_false]
    omega
  signingArgs := fun _ commitments =>
    (commitments.lookup 0).getD 0 + (commitments.lookup 1).getD 0
  aggregate := fun _ _ signatureShares =>
    .ok ((signatureShares.lookup 0).getD 0 +
      (signatureShares.lookup 1).getD 0)
  participantKey := fun _ => (0 : Nat)
  contacts := fun _ => {2}
  commitments := fun run => run + 5
  sign := fun run args => .ok (args + run)

/-- The signer `0` joins twice, and what it sends second is handed out first. -/
def joinedTwice :
    List (Action Nat Nat
      (Channel.Reference.Ciphertext Nat Nat (TaggedPayload Nat Nat Nat))
      Unit Nat) :=
  [.start (), .join 0 2 10, .join 1 2 11,
    .coordinatorReceive ()
      [⟨0, some (⟨0, 2, 11⟩, 0, .inl [6])⟩,
        ⟨0, some (⟨0, 2, 10⟩, 0, .inl [5])⟩,
        ⟨1, some (⟨1, 2, 7⟩, 0, .inl [9])⟩] [20, 21],
    .participantReceive 1 [⟨2, some (⟨2, 0, 20⟩, 0, .inr (.inr 15))⟩] 30,
    .coordinatorReceive ()
      [⟨0, some (⟨0, 2, 11⟩, 1, .inr (.inl [16]))⟩,
        ⟨1, some (⟨1, 2, 7⟩, 1, .inr (.inl [3]))⟩] []]

/-- The coordinator has the commitments of the second participant and its share
of what the coordinator has sent. -/
theorem shares_authentic_joinedTwice :
    ∃ world commitments signatureShares result,
      numberedSetup.session.Reachable world ∧
        world.coordinators () =
          .concluded commitments signatureShares result ∧
        commitments.keys = {0, 1} ∧
        ∃ run args share payload, commitments.lookup 0 = some (run + 5) ∧
          signatureShares.lookup 0 = some share ∧
          Answered numberedSetup run 2 args share
            (viewOf world.channel (.inr run)) ∧
          numberedSetup.wire.toVecArgs args = some payload ∧
          world.channel.sent (.inl (), 0) = [payload] := by
  have evaluated : ((numberedSetup.session.run numberedSetup.session.initial
      joinedTwice).any fun world => (world.coordinators ()).isConcluded) =
        true := by
    decide +kernel
  have honestCoordinator : numberedSetup.coordinatorPubkey () ∈
      numberedSetup.honest := by
    decide
  obtain ⟨world, ran, isConcluded⟩ := (Option.any_eq_true _ _).mp evaluated
  obtain ⟨commitments, signatureShares, result, concluded⟩ :=
    CoordinatorStage.exists_of_isConcluded isConcluded
  obtain ⟨isFull, -, -, entries⟩ := shares_authentic
    (Channel.Reference.documented Nat Nat fun _ => 100) Wire.tagged_lawful
    ⟨joinedTwice, ran⟩ concluded honestCoordinator
  obtain ⟨run, args, share, other, collected, payload, -, isCommitments,
    isShare, answered, -, -, -, -, isPayload, sent⟩ :=
    entries 0 0 rfl (by decide)
  refine ⟨world, commitments, signatureShares, result, ⟨joinedTwice, ran⟩,
    concluded, ?_, run, args, share, payload, isCommitments, isShare, answered,
    isPayload, sent⟩
  rw [isFull]
  decide

end Numbers

end Signing
end MinaMultiSig
