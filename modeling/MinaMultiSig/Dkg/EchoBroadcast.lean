import MinaMultiSig.Dkg.Numbered
import MinaMultiSig.Dkg.WorldInvariant

/-!
# Which participants contribute their echoes

`get_round1_packages` looks at the session state after the batch that ended its
first receive loop to decide whether the echo broadcast is needed. With three or
more participants the state can be past the echo broadcast by then without this
participant having echoed anything: the batch may bring the last Round 1 Package
together with all the echoes of the others.
-/

namespace MinaMultiSig
namespace Dkg

variable {PublicKey Identifier Round1Package Round2Package Payload : Type}
variable [DecidableEq PublicKey] [DecidableEq Identifier]

section OneEcho

variable {α β : Type} [DecidableEq α]

/-- Among the pairs a list of keys without repetition gives rise to, one key
stands once. -/
theorem filter_filterMap_of_nodup
    {keys : List α}
    {key : α}
    {value : β}
    {pair : α → Option (α × β)}
    (keyed : ∀ other result, pair other = some result → result.1 = other)
    (nodup : keys.Nodup)
    (member : key ∈ keys)
    (found : pair key = some (key, value)) :
    (keys.filterMap pair).filter (fun result => result.1 = key) =
      [(key, value)] := by
  have others : ∀ rest : List α, key ∉ rest →
      (rest.filterMap pair).filter (fun result => result.1 = key) = [] := by
    intro rest absent
    rw [List.filter_eq_nil_iff]
    intro result resultMember
    obtain ⟨other, otherMember, otherFound⟩ :=
      List.mem_filterMap.mp resultMember
    rw [keyed other result otherFound]
    rintro same
    obtain rfl : other = key := of_decide_eq_true same
    exact absent otherMember
  induction keys with
  | nil => exact absurd member List.not_mem_nil
  | cons head rest ih =>
      obtain ⟨headAbsent, restNodup⟩ := List.nodup_cons.mp nodup
      by_cases same : head = key
      · subst same
        rw [List.filterMap_cons_some found, List.filter_cons_of_pos (by simp),
          others rest headAbsent]
      · have inRest : key ∈ rest :=
          (List.mem_cons.mp member).resolve_left (Ne.symm same)
        cases headPair : pair head with
        | none =>
            rw [List.filterMap_cons_none headPair]
            exact ih restNodup inRest
        | some result =>
            have notKey : result.1 ≠ key := by
              rw [keyed head result headPair]
              exact same
            rw [List.filterMap_cons_some headPair,
              List.filter_cons_of_neg (by simpa using notKey)]
            exact ih restNodup inRest

end OneEcho

namespace Setup

variable
  (setup : Setup PublicKey Identifier Round1Package Round2Package Payload)

/-- A participant has sent to every other participant exactly one echo of the
package it holds for each participant that is neither of the two. -/
def EchoesSent
    (world : World PublicKey Identifier Round1Package Round2Package Payload)
    (selfPubkey : PublicKey)
    (round1Packages : FiniteMap Identifier Round1Package) : Prop :=
  ∀ recipient key recipientIdentifier identifier,
    recipient ≠ selfPubkey → key ≠ selfPubkey → key ≠ recipient →
    setup.pubkeys.lookup recipient = some recipientIdentifier →
    setup.pubkeys.lookup key = some identifier →
      ∃ package, round1Packages.lookup identifier = some package ∧
        (((world selfPubkey).outbox recipient).filterMap
            setup.wire.fromSliceBroadcast).filter
          (fun echo => echo.1 = identifier) = [(identifier, package)]

variable {setup}

/-- The echoes in a script. -/
theorem filterMap_payloads
    {selfPubkey : PublicKey}
    {script : Script Identifier Round1Package Round2Package}
    {recipient : Identifier} :
    (setup.payloads selfPubkey script recipient).filterMap
        setup.wire.fromSliceBroadcast =
      script.echoed.elim [] fun packages =>
        setup.identifiers.filterMap fun sender =>
          if sender = recipient then none
          else (packages.lookup sender).map fun package =>
            (sender, package) := by
  have round1 : (if script.started then
      [setup.wire.toVecRound1 (setup.round1Package selfPubkey)]
        else []).filterMap setup.wire.fromSliceBroadcast = [] := by
    split_ifs <;> simp
  have round2 : (script.shared.elim [] fun packages =>
      [setup.wire.toVecRound2 (packages recipient)]).filterMap
        setup.wire.fromSliceBroadcast = [] := by
    cases script.shared <;> simp
  unfold payloads
  rw [List.filterMap_append, List.filterMap_append, round1, round2,
    List.nil_append, List.append_nil]
  cases script.echoed with
  | none => rfl
  | some packages =>
      simp only [Option.elim_some, echoes, List.filterMap_filterMap]
      apply List.filterMap_congr
      intro sender _
      split_ifs
      · rfl
      · cases packages.lookup sender with
        | none => rfl
        | some package =>
            exact setup.wire.broadcast_roundTrip sender package

end Setup

variable [DecidableEq Round1Package] [DecidableEq Payload]
variable
  {setup : Setup PublicKey Identifier Round1Package Round2Package Payload}
variable {fifo : Bool}
variable
  {world : World PublicKey Identifier Round1Package Round2Package Payload}
variable {selfPubkey : PublicKey} {selfIdentifier : Identifier}

omit [DecidableEq Identifier] [DecidableEq Round1Package]
  [DecidableEq Payload] in
/-- With three participants there is an echo to send. -/
theorem Setup.exists_recipient
    (many : 3 ≤ setup.pubkeys.keys.card)
    (selfPubkey : PublicKey) :
    ∃ recipient key recipientIdentifier identifier,
      recipient ≠ selfPubkey ∧ key ≠ selfPubkey ∧ key ≠ recipient ∧
      setup.pubkeys.lookup recipient = some recipientIdentifier ∧
      setup.pubkeys.lookup key = some identifier := by
  have others : 1 < (setup.pubkeys.keys.erase selfPubkey).card := by
    have := Finset.pred_card_le_card_erase
      (s := setup.pubkeys.keys) (a := selfPubkey)
    omega
  obtain ⟨recipient, recipientMember, key, keyMember, different⟩ :=
    Finset.one_lt_card.mp others
  obtain ⟨recipientNotSelf, recipientIn⟩ := Finset.mem_erase.mp recipientMember
  obtain ⟨keyNotSelf, keyIn⟩ := Finset.mem_erase.mp keyMember
  obtain ⟨recipientIdentifier, recipientKnown⟩ :=
    FiniteMap.mem_keys_iff_lookup.mp recipientIn
  obtain ⟨identifier, known⟩ := FiniteMap.mem_keys_iff_lookup.mp keyIn
  exact ⟨recipient, key, recipientIdentifier, identifier, recipientNotSelf,
    keyNotSelf, different.symm, recipientKnown, known⟩

omit [DecidableEq Round1Package] [DecidableEq Payload] in
/-- A participant whose script contains the echoes of the packages it holds has
sent each of them once. -/
theorem NodeInvariant.echoesSent
    {known : setup.pubkeys.lookup selfPubkey = some selfIdentifier}
    {script : Script Identifier Round1Package Round2Package}
    {packages : FiniteMap Identifier Round1Package}
    (node : NodeInvariant setup known (world selfPubkey) script)
    (echoed : script.echoed = some packages) :
    setup.EchoesSent world selfPubkey packages := by
  intro recipient key recipientIdentifier identifier recipientNotSelf keyNotSelf
    different recipientKnown keyKnown
  have member : identifier ∈ packages.keys := by
    rw [(node.echoed packages echoed).full]
    exact Membership.mem_others_of_lookup keyKnown keyNotSelf
  have notRecipient : identifier ≠ recipientIdentifier := by
    rintro rfl
    exact different (setup.injective _ _ _ keyKnown recipientKnown)
  obtain ⟨package, lookup⟩ := FiniteMap.mem_keys_iff_lookup.mp member
  refine ⟨package, lookup, ?_⟩
  rw [node.outbox recipient recipientIdentifier recipientNotSelf recipientKnown,
    Setup.filterMap_payloads, echoed, Option.elim_some]
  apply filter_filterMap_of_nodup ?_ setup.identifiers_nodup
    ((setup.mem_identifiers identifier).mpr ⟨key, keyKnown⟩)
  · rw [if_neg notRecipient, lookup]
    rfl
  · intro other result found
    split_ifs at found
    obtain ⟨_, _, rfl⟩ := Option.map_eq_some_iff.mp found
    rfl

/-- Once `get_round1_packages` has returned, the participant has contributed its
echoes exactly when some echo was still missing at the end of its first receive
loop. -/
theorem echoesSent_iff
    {round1Packages : FiniteMap Identifier Round1Package}
    (many : 3 ≤ setup.pubkeys.keys.card)
    (reachable : (setup.session fifo).Reachable world)
    (known : setup.pubkeys.lookup selfPubkey = some selfIdentifier)
    (honest : selfPubkey ∉ setup.dishonest)
    (returned : (world selfPubkey).stage.round1Result = some round1Packages) :
    setup.EchoesSent world selfPubkey round1Packages ↔
      ¬AllBroadcast (setup.membership known) setup.wire
        (world selfPubkey).firstLoop := by
  have invariant := WorldInvariant.of_reachable reachable
  obtain ⟨script, node⟩ := invariant.node known honest
  have result : Returned setup known script (world selfPubkey).firstLoop
      round1Packages := by
    have stage := node.stage
    cases stageCase : (world selfPubkey).stage with
    | round1Done packages =>
        rw [stageCase] at stage returned
        obtain rfl := Option.some.inj returned
        exact stage.2.2
    | receivingRound2 packages =>
        rw [stageCase] at stage returned
        obtain rfl := Option.some.inj returned
        exact stage.2.2
    | round2Done packages round2Packages =>
        rw [stageCase] at stage returned
        obtain rfl := Option.some.inj returned
        exact stage.2.2
    | _ => simp [stageCase, Stage.round1Result] at returned
  cases echoed : script.echoed with
  | some packages =>
      obtain rfl : round1Packages = packages := result.echoed packages echoed
      exact iff_of_true (node.echoesSent echoed)
        (node.echoed round1Packages echoed).needed
  | none =>
      refine iff_of_false ?_ (not_not.mpr (result.skipped echoed))
      intro sent
      obtain ⟨recipient, key, recipientIdentifier, identifier,
        recipientNotSelf, keyNotSelf, different, recipientKnown, keyKnown⟩ :=
        Setup.exists_recipient many selfPubkey
      obtain ⟨package, -, once⟩ := sent recipient key recipientIdentifier
        identifier recipientNotSelf keyNotSelf different recipientKnown keyKnown
      rw [node.outbox recipient recipientIdentifier recipientNotSelf
        recipientKnown, Setup.filterMap_payloads, echoed] at once
      simp at once

/-- Three honest participants in lockstep: each receives both Round 1 Packages
before any echo is sent. -/
def lockstepRun : List (Action Nat NumberedPayload) :=
  [.start 0, .start 1, .start 2,
    .receive 0 [⟨1, .inl 1⟩, ⟨2, .inl 2⟩],
    .receive 1 [⟨0, .inl 0⟩, ⟨2, .inl 2⟩],
    .receive 2 [⟨0, .inl 0⟩, ⟨1, .inl 1⟩],
    .receive 0 [⟨1, .inr (.inl (2, 2))⟩, ⟨2, .inr (.inl (1, 1))⟩]]

theorem echoesSent_iff_lockstep :
    let setup := numberedSetup 3 (by decide) ∅
    ∃ world packages, (setup.session true).Reachable world ∧
      (world 0).stage.round1Result = some packages ∧
      setup.EchoesSent world 0 packages := by
  intro setup
  have outcome : (((setup.session true).run setup.initial lockstepRun).map
      fun world => (world 0).stage.round1Result) =
      some (some ((∅ : FiniteMap Nat Nat).insert 1 1 |>.insert 2 2)) := by
    decide +kernel
  have accepted : (((setup.session true).run setup.initial lockstepRun).map
      fun world => (world 0).firstLoop) =
      some [⟨1, .inl 1⟩, ⟨2, .inl 2⟩] := by
    decide +kernel
  obtain ⟨world, ran, returned⟩ := Option.map_eq_some_iff.mp outcome
  have firstLoop : (world 0).firstLoop = [⟨1, .inl 1⟩, ⟨2, .inl 2⟩] := by
    rw [ran] at accepted
    exact Option.some.inj accepted
  have known : setup.pubkeys.lookup 0 = some 0 := by decide
  refine ⟨world, _, ⟨lockstepRun, ran⟩, returned, ?_⟩
  refine (echoesSent_iff (by decide) ⟨lockstepRun, ran⟩ known (by decide)
    returned).mpr ?_
  intro all
  have third : 2 ∈ (setup.membership known).others :=
    Membership.mem_others_of_lookup
      (show setup.pubkeys.lookup 2 = some 2 by decide)
      (show (2 : Nat) ≠ 0 by decide)
  obtain ⟨package, msg, member, -, decoded⟩ :=
    all 1 1 2 (show (1 : Nat) ≠ 0 by decide)
      (show setup.pubkeys.lookup 1 = some 1 by decide) third (by decide)
  rw [firstLoop] at member
  rcases List.mem_cons.mp member with rfl | member
  · simp [setup, numberedSetup, taggedWire] at decoded
  · obtain rfl := List.mem_singleton.mp member
    simp [setup, numberedSetup, taggedWire] at decoded

/-- Three honest participants, two of them faster: the first batch of `0` brings
their Round 1 Packages and their echoes. -/
def fastPeersRun : List (Action Nat NumberedPayload) :=
  [.start 0, .start 1, .start 2,
    .receive 1 [⟨0, .inl 0⟩, ⟨2, .inl 2⟩],
    .receive 2 [⟨0, .inl 0⟩, ⟨1, .inl 1⟩],
    .receive 0 [⟨1, .inl 1⟩, ⟨2, .inl 2⟩,
      ⟨1, .inr (.inl (2, 2))⟩, ⟨2, .inr (.inl (1, 1))⟩]]

/-- After that run `0` has returned from `get_round1_packages` and has sent no
echo to `1`. -/
theorem not_echoesSent_fastPeers :
    let setup := numberedSetup 3 (by decide) ∅
    ∃ world packages, (setup.session true).Reachable world ∧
      (world 0).stage.round1Result = some packages ∧
      ¬setup.EchoesSent world 0 packages := by
  intro setup
  have outcome : (((setup.session true).run setup.initial fastPeersRun).map
      fun world => ((world 0).stage.round1Result, (world 0).outbox 1)) =
      some (some ((∅ : FiniteMap Nat Nat).insert 1 1 |>.insert 2 2),
        [.inl 0]) := by
    decide +kernel
  obtain ⟨world, ran, outcome⟩ := Option.map_eq_some_iff.mp outcome
  obtain ⟨returned, outbox⟩ := Prod.mk.inj outcome
  refine ⟨world, _, ⟨fastPeersRun, ran⟩, returned, ?_⟩
  intro sent
  obtain ⟨package, -, once⟩ := sent 1 2 1 2 (by decide) (by decide) (by decide)
    (by decide) (by decide)
  rw [outbox] at once
  simp [setup, numberedSetup, taggedWire] at once

end Dkg
end MinaMultiSig
