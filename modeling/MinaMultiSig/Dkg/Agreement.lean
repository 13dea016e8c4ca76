import MinaMultiSig.Dkg.Numbered
import MinaMultiSig.Dkg.WorldInvariant

/-!
# Echo-broadcast agreement

Two honest participants that have finished the echo broadcast hold the same
Round 1 Package for every participant, whatever the dishonest ones sent. A
participant waits for an echo from every other one about every third one, an
honest echo is taken from packages that no longer change, and only an echo equal
to the package held is accepted.
-/

namespace MinaMultiSig
namespace Dkg

variable {PublicKey Identifier Round1Package Round2Package Payload : Type}
variable [DecidableEq PublicKey] [DecidableEq Identifier]
variable [DecidableEq Round1Package] [DecidableEq Payload]
variable
  {setup : Setup PublicKey Identifier Round1Package Round2Package Payload}
variable {fifo : Bool}
variable
  {world next : World PublicKey Identifier Round1Package Round2Package Payload}
variable {sender receiver : PublicKey}
variable {senderIdentifier receiverIdentifier : Identifier}

/-- The Round 1 Package a participant holds for a participant: its own one, or
the one it received. -/
def Setup.heldRound1
    (setup : Setup PublicKey Identifier Round1Package Round2Package Payload)
    (selfPubkey : PublicKey)
    (round1Packages : FiniteMap Identifier Round1Package)
    (key : PublicKey) : Option Round1Package :=
  if key = selfPubkey then some (setup.round1Package selfPubkey)
  else (setup.pubkeys.lookup key).bind round1Packages.lookup

omit [DecidableEq Round1Package] [DecidableEq Payload] in
/-- What an honest participant has sent is in its script. -/
theorem WorldInvariant.sent_script
    {payload : Payload}
    (invariant : WorldInvariant setup fifo world)
    (senderKnown : setup.pubkeys.lookup sender = some senderIdentifier)
    (receiverKnown : setup.pubkeys.lookup receiver = some receiverIdentifier)
    (honest : sender ∉ setup.dishonest)
    (different : receiver ≠ sender)
    (sent : payload ∈ (world sender).outbox receiver) :
    ∃ script, NodeInvariant setup senderKnown (world sender) script ∧
      payload ∈ setup.payloads sender script receiverIdentifier := by
  obtain ⟨script, node⟩ := invariant.node senderKnown honest
  rw [node.outbox receiver receiverIdentifier different receiverKnown] at sent
  exact ⟨script, node, sent⟩

omit [DecidableEq Round1Package] [DecidableEq Payload] in
/-- An honest participant sends its own Round 1 Package to everybody. -/
theorem WorldInvariant.sentRound1_eq
    {payload : Payload}
    {package : Round1Package}
    (invariant : WorldInvariant setup fifo world)
    (senderKnown : setup.pubkeys.lookup sender = some senderIdentifier)
    (receiverKnown : setup.pubkeys.lookup receiver = some receiverIdentifier)
    (honest : sender ∉ setup.dishonest)
    (different : receiver ≠ sender)
    (sent : payload ∈ (world sender).outbox receiver)
    (decoded : setup.wire.fromSliceRound1 payload = some package) :
    package = setup.round1Package sender := by
  obtain ⟨script, -, inScript⟩ :=
    invariant.sent_script senderKnown receiverKnown honest different sent
  exact (Setup.eq_of_round1 inScript decoded).2

omit [DecidableEq Round1Package] [DecidableEq Payload] in
/-- An honest participant echoes the packages it still holds. -/
theorem WorldInvariant.sentBroadcast_echoed
    {payload : Payload}
    {original : Identifier}
    {package : Round1Package}
    (invariant : WorldInvariant setup fifo world)
    (senderKnown : setup.pubkeys.lookup sender = some senderIdentifier)
    (receiverKnown : setup.pubkeys.lookup receiver = some receiverIdentifier)
    (honest : sender ∉ setup.dishonest)
    (different : receiver ≠ sender)
    (sent : payload ∈ (world sender).outbox receiver)
    (decoded :
      setup.wire.fromSliceBroadcast payload = some (original, package)) :
    ∃ packages, Echoed setup senderKnown (world sender) packages ∧
      original ≠ receiverIdentifier ∧
      packages.lookup original = some package := by
  obtain ⟨script, node, inScript⟩ :=
    invariant.sent_script senderKnown receiverKnown honest different sent
  obtain ⟨packages, echoed, notReceiver, lookup, -⟩ :=
    Setup.eq_of_broadcast inScript decoded
  exact ⟨packages, node.echoed packages echoed, notReceiver, lookup⟩

omit [DecidableEq Round1Package] [DecidableEq Payload] in
/-- A participant with all Round 1 Packages holds the one each honest
participant sent. -/
theorem WorldInvariant.lookup_honest
    {packages : FiniteMap Identifier Round1Package}
    {log : List (Msg PublicKey Payload)}
    (invariant : WorldInvariant setup fifo world)
    (senderKnown : setup.pubkeys.lookup sender = some senderIdentifier)
    (receiverKnown : setup.pubkeys.lookup receiver = some receiverIdentifier)
    (honest : sender ∉ setup.dishonest)
    (different : sender ≠ receiver)
    (authentic : ∀ msg ∈ log, msg.msg ∈ (world msg.sender).outbox receiver)
    (collected : Collected (setup.membership receiverKnown)
      (ReceivedRound1 setup.wire log) packages)
    (full : packages.keys = (setup.membership receiverKnown).others) :
    packages.lookup senderIdentifier = some (setup.round1Package sender) := by
  have member : senderIdentifier ∈ packages.keys := by
    rw [full]
    exact Membership.mem_others_of_lookup senderKnown different
  obtain ⟨package, lookup⟩ := FiniteMap.mem_keys_iff_lookup.mp member
  obtain ⟨key, -, keyKnown, msg, inLog, rfl, decoded⟩ :=
    collected.provenance lookup
  obtain rfl : msg.sender = sender :=
    setup.injective _ _ _ keyKnown senderKnown
  rw [lookup, invariant.sentRound1_eq senderKnown receiverKnown honest
    (Ne.symm different) (authentic msg inLog) decoded]

/-- Two honest participants that both waited for Round 2 Packages, the second
one at the same time or later, hold the same Round 1 Package for every
participant. -/
theorem heldRound1_agree
    {first second key : PublicKey}
    {pubkeys pubkeys' : FiniteMap PublicKey Identifier}
    {round1Packages round1Packages' : FiniteMap Identifier Round1Package}
    {round2Packages round2Packages' : FiniteMap Identifier Round2Package}
    (reachable : (setup.session fifo).Reachable world)
    (later : (setup.session fifo).Reaches world next)
    (firstHonest : setup.Honest first)
    (secondHonest : setup.Honest second)
    (different : first ≠ second)
    (firstState : (world first).state =
      .waitingForRound2Packages pubkeys round1Packages round2Packages)
    (secondState : (next second).state =
      .waitingForRound2Packages pubkeys' round1Packages' round2Packages')
    (participates : key ∈ setup.pubkeys.keys) :
    ∃ package,
      setup.heldRound1 first round1Packages key = some package ∧
      setup.heldRound1 second round1Packages' key = some package := by
  have before := WorldInvariant.of_reachable reachable
  have after := WorldInvariant.of_reachable (reachable.trans later)
  obtain ⟨firstIdentifier, firstKnown⟩ :=
    FiniteMap.mem_keys_iff_lookup.mp firstHonest.1
  obtain ⟨secondIdentifier, secondKnown⟩ :=
    FiniteMap.mem_keys_iff_lookup.mp secondHonest.1
  obtain ⟨identifier, known⟩ := FiniteMap.mem_keys_iff_lookup.mp participates
  obtain ⟨_, firstNode⟩ := before.node firstKnown firstHonest.2
  obtain ⟨_, secondNode⟩ := after.node secondKnown secondHonest.2
  have firstConsistent := firstNode.consistent
  rw [firstState] at firstConsistent
  obtain ⟨-, firstCollected, firstFull, settled, -⟩ := firstConsistent
  have secondConsistent := secondNode.consistent
  rw [secondState] at secondConsistent
  obtain ⟨-, secondCollected, secondFull, -⟩ := secondConsistent
  by_cases isFirst : key = first
  · subst isFirst
    refine ⟨setup.round1Package key, by simp [Setup.heldRound1], ?_⟩
    rw [Setup.heldRound1, if_neg different, known]
    exact after.lookup_honest known secondKnown firstHonest.2 different
      (fun _ member => (after.authentic member).2) secondCollected secondFull
  · by_cases isSecond : key = second
    · subst isSecond
      refine ⟨setup.round1Package key, ?_, by simp [Setup.heldRound1]⟩
      rw [Setup.heldRound1, if_neg isFirst, known]
      exact before.lookup_honest known firstKnown secondHonest.2 isFirst
        (fun _ member => (before.authentic member).2) firstCollected firstFull
    · -- the second participant has echoed this package to the first one
      have member : identifier ∈ (setup.membership firstKnown).others :=
        Membership.mem_others_of_lookup known isFirst
      have notSecond : identifier ≠ secondIdentifier := by
        rintro rfl
        exact isSecond (setup.injective _ _ _ known secondKnown)
      obtain ⟨package, received⟩ := settled.all second secondIdentifier
        identifier (Ne.symm different) secondKnown member notSecond
      have firstLookup : round1Packages.lookup identifier = some package :=
        settled.agree secondKnown received
      obtain ⟨msg, inLog, rfl, decoded⟩ := received
      have sent : msg.msg ∈ (next msg.sender).outbox first :=
        (sentExtends_of_reaches later msg.sender first).subset
          (before.authentic inLog).2
      obtain ⟨packages, echoed, -, lookup⟩ := after.sentBroadcast_echoed
        secondKnown firstKnown secondHonest.2 different sent decoded
      have frozen := echoed.frozen
      rw [secondState] at frozen
      obtain rfl : round1Packages' = packages := frozen
      refine ⟨package, ?_, ?_⟩
      · rw [Setup.heldRound1, if_neg isFirst, known]
        exact firstLookup
      · rw [Setup.heldRound1, if_neg isSecond, known]
        exact lookup

/-- A run in which the dishonest participant `2` sends two different Round 1
Packages to `0` before it repeats to `0` what it sent to `1`. -/
def overwritingRun : List (Action Nat NumberedPayload) :=
  [.start 0, .start 1,
    .inject 2 0 (.inl 7), .inject 2 0 (.inl 8), .inject 2 1 (.inl 8),
    .receive 0 [⟨2, .inl 7⟩, ⟨2, .inl 8⟩, ⟨1, .inl 1⟩],
    .receive 1 [⟨0, .inl 0⟩, ⟨2, .inl 8⟩],
    .inject 2 0 (.inr (.inl (1, 1))), .inject 2 1 (.inr (.inl (0, 0))),
    .receive 0 [⟨1, .inr (.inl (2, 8))⟩, ⟨2, .inr (.inl (1, 1))⟩],
    .receive 1 [⟨2, .inr (.inl (0, 0))⟩, ⟨0, .inr (.inl (2, 8))⟩]]

/-- After that run both honest participants hold `8` for the dishonest one. -/
theorem heldRound1_agree_overwriting :
    let setup := numberedSetup 3 (by decide) {2}
    ∃ package,
      setup.heldRound1 0 ((∅ : FiniteMap Nat Nat).insert 2 8 |>.insert 1 1) 2 =
        some package ∧
      setup.heldRound1 1 ((∅ : FiniteMap Nat Nat).insert 0 0 |>.insert 2 8) 2 =
        some package := by
  intro setup
  have states : (((setup.session true).run setup.initial overwritingRun).map
      fun world => ((world 0).state, (world 1).state)) =
      some
        (.waitingForRound2Packages setup.pubkeys
          ((∅ : FiniteMap Nat Nat).insert 2 8 |>.insert 1 1) ∅,
        .waitingForRound2Packages setup.pubkeys
          ((∅ : FiniteMap Nat Nat).insert 0 0 |>.insert 2 8) ∅) := by
    decide +kernel
  obtain ⟨world, ran, states⟩ := Option.map_eq_some_iff.mp states
  obtain ⟨first, second⟩ := Prod.mk.inj states
  exact heldRound1_agree ⟨overwritingRun, ran⟩ (.refl world)
    (by decide) (by decide) (by decide) first second (by decide)

end Dkg
end MinaMultiSig
