import MinaMultiSig.Dkg.KeygenDealt

/-!
# Key generation by honest participants

Without dishonest participants, key generation fails between the rounds exactly
if the participants were given different thresholds or are too many to be
counted, and it never fails behind the second round. The key is shared from the
sum of the secrets.
-/

namespace MinaMultiSig
namespace Dkg

open Frost ShamirSharing

namespace Keygen

variable {PublicKey Payload ε F G Proof R : Type}
variable [DecidableEq PublicKey] [Field F] [DecidableEq F]
variable [AddCommGroup G] [Module F G]
variable {keygen : Keygen PublicKey Payload ε F G Proof R} {generator : G}
variable {fifo : Bool}
variable {world next : World PublicKey (Frost.Identifier F)
  (Frost.Round1Package G Proof) F Payload}
variable {key : PublicKey} {identifier : Frost.Identifier F}
variable {round1Packages :
    FiniteMap (Frost.Identifier F) (Frost.Round1Package G Proof)}
variable {round2Packages : FiniteMap (Frost.Identifier F) F}

/-- All participants were given one threshold, and they can be counted. -/
structure Compatible
    (keygen : Keygen PublicKey Payload ε F G Proof R) : Prop where
  thresholds : ∀ first ∈ keygen.pubkeys.keys,
    ∀ second ∈ keygen.pubkeys.keys,
      keygen.minSigners first = keygen.minSigners second
  count : keygen.pubkeys.keys.card < 2 ^ 16

section Honest

variable (documented : keygen.core.Documented generator)
  (invariant : ConcludedInvariant keygen.setup fifo world)
  (allHonest : keygen.dishonest = ∅)
  (known : keygen.pubkeys.lookup key = some identifier)
  (returned : (world key).stage.round1Result = some round1Packages)

include invariant allHonest known returned

omit [AddCommGroup G] [Module F G] in
/-- A participant holds what the others sent. -/
theorem lookup_returned
    {other : PublicKey}
    {otherIdentifier : Frost.Identifier F}
    (otherKnown : keygen.pubkeys.lookup other = some otherIdentifier)
    (different : other ≠ key) :
    round1Packages.lookup otherIdentifier = some (keygen.package other) := by
  have honest : ∀ participant, participant ∉ keygen.setup.dishonest := by
    intro participant
    change participant ∉ keygen.dishonest
    simp [allHonest]
  exact invariant.lookup_honest otherKnown known (honest other) (honest key)
    different returned

omit [AddCommGroup G] [Module F G] in
theorem keys_returned :
    round1Packages.keys =
      (FiniteMap.values keygen.pubkeys).erase identifier := by
  have honest : key ∉ keygen.setup.dishonest := by
    change key ∉ keygen.dishonest
    simp [allHonest]
  have inSession : keygen.setup.pubkeys.lookup key = some identifier := known
  exact ((invariant.concluded inSession honest).round1 _ returned).full

omit [AddCommGroup G] [Module F G] in
/-- What a participant holds was sent by another one. -/
theorem exists_sender
    {sender : Frost.Identifier F}
    {package : Frost.Round1Package G Proof}
    (found : round1Packages.lookup sender = some package) :
    ∃ other, other ≠ key ∧ keygen.pubkeys.lookup other = some sender ∧
      package = keygen.package other := by
  have member : sender ∈ round1Packages.keys :=
    FiniteMap.mem_keys_iff_lookup.mpr ⟨package, found⟩
  rw [keys_returned invariant allHonest known returned] at member
  obtain ⟨notOwn, isValue⟩ := Finset.mem_erase.mp member
  obtain ⟨other, otherKnown⟩ := FiniteMap.mem_values.mp isValue
  have different : other ≠ key := by
    rintro rfl
    exact notOwn (Option.some.inj (otherKnown.symm.trans known))
  have same := lookup_returned invariant allHonest known returned otherKnown
    different
  exact ⟨other, different, otherKnown,
    Option.some.inj (found.symm.trans same)⟩

include documented

/-- A participant does not hold a package of its own. -/
theorem own_notMem_returned :
    (keygen.secret key).identifier ∉ round1Packages.keys := by
  have honest : key ∉ keygen.dishonest := by
    simp [allHonest]
  obtain ⟨-, -, own, -⟩ := of_part1 documented honest known
  rw [own, keys_returned invariant allHonest known returned]
  exact Finset.notMem_erase _ _

/-- The second part accepts the packages exactly if the participants are
compatible. -/
theorem part2Accepts_iff :
    Part2Accepts keygen.core (keygen.secret key) round1Packages ↔
      keygen.Compatible := by
  have honest : ∀ participant, participant ∉ keygen.dishonest := by
    simp [allHonest]
  obtain ⟨-, -, -, -, -, threshold, maxSigners, -⟩ :=
    of_part1 documented (honest key) known
  have card : round1Packages.keys.card + 1 = keygen.pubkeys.keys.card := by
    have := keygen.atLeastTwo
    rw [keys_returned invariant allHonest known returned,
      Finset.card_erase_of_mem (FiniteMap.mem_values.mpr ⟨key, known⟩),
      FiniteMap.card_values keygen.injective]
    omega
  have thresholdOf : ∀ {other otherIdentifier},
      keygen.pubkeys.lookup other = some otherIdentifier →
        (keygen.package other).commitment.length =
          keygen.minSigners other := by
    intro other otherIdentifier otherKnown
    obtain ⟨-, -, -, -, -, -, -, commitment, -⟩ :=
      of_part1 documented (honest other) otherKnown
    rw [commitment, length_commitment documented (honest other) otherKnown]
  constructor
  · intro accepts
    have sameAsOwn : ∀ other ∈ keygen.pubkeys.keys,
        keygen.minSigners other = keygen.minSigners key := by
      intro other member
      obtain ⟨otherIdentifier, otherKnown⟩ :=
        FiniteMap.mem_keys_iff_lookup.mp member
      by_cases same : other = key
      · rw [same]
      · rw [← thresholdOf otherKnown, ← threshold]
        exact accepts.threshold _ _ (lookup_returned invariant allHonest known
          returned otherKnown same)
    refine ⟨fun first firstMember second secondMember =>
      (sameAsOwn first firstMember).trans (sameAsOwn second secondMember).symm,
      ?_⟩
    have count := accepts.count
    rw [card, maxSigners, Keygen.maxSigners] at count
    rw [count]
    exact Nat.mod_lt _ (by decide)
  · intro compatible
    refine ⟨?_, ?_, ?_⟩
    · rw [card, maxSigners, Keygen.maxSigners, Nat.mod_eq_of_lt compatible.count]
    · intro sender package found
      obtain ⟨other, -, otherKnown, rfl⟩ :=
        exists_sender invariant allHonest known returned found
      rw [thresholdOf otherKnown, threshold]
      exact compatible.thresholds other
        (FiniteMap.mem_keys_iff_lookup.mpr ⟨_, otherKnown⟩) key
        (FiniteMap.mem_keys_iff_lookup.mpr ⟨_, known⟩)
    · intro sender package found
      obtain ⟨other, -, otherKnown, rfl⟩ :=
        exists_sender invariant allHonest known returned found
      obtain ⟨-, -, -, -, -, -, -, -, proof⟩ :=
        of_part1 documented (honest other) otherKnown
      exact proof

theorem exists_part2
    (accepts :
      Part2Accepts keygen.core (keygen.secret key) round1Packages) :
    ∃ result, keygen.core.part2 (keygen.secret key) round1Packages =
      .ok result := by
  have honest : key ∉ keygen.dishonest := by
    simp [allHonest]
  obtain ⟨two, -, -, length, -⟩ := of_part1 documented honest known
  have someCoefficient : (keygen.secret key).coefficients ≠ [] := by
    apply List.ne_nil_of_length_pos
    omega
  exact documented.part2_of_accepts _ _ someCoefficient
    (own_notMem_returned documented invariant allHonest known returned) accepts

theorem part2_isSome_iff :
    (keygen.setup.part2 key round1Packages).isSome ↔ keygen.Compatible := by
  rw [← part2Accepts_iff documented invariant allHonest known returned,
    Option.isSome_iff_exists]
  constructor
  · rintro ⟨shares, isShares⟩
    obtain ⟨secret2, round2Packages, part2Eq, -⟩ :=
      round2PackagesOf_eq_some.mp isShares
    exact (documented.of_part2 _ _ _ _ part2Eq).1
  · intro accepts
    obtain ⟨⟨secret2, round2Packages⟩, part2Eq⟩ :=
      exists_part2 documented invariant allHonest known returned accepts
    exact ⟨_, round2PackagesOf_eq_some.mpr ⟨_, _, part2Eq, rfl⟩⟩

end Honest

section Invariant

/-- What a stage says about the second part. -/
def Part2Agrees
    (keygen : Keygen PublicKey Payload ε F G Proof R) :
    Stage (Frost.Identifier F) (Frost.Round1Package G Proof) F → Prop
  | .receivingRound2 _ => keygen.Compatible
  | .round2Done _ _ => keygen.Compatible
  | .part2Failed => ¬keygen.Compatible
  | _ => True

variable {node : Node PublicKey (Frost.Identifier F)
  (Frost.Round1Package G Proof) F Payload}
variable {batch : List (Msg PublicKey Payload)}

omit [AddCommGroup G] [Module F G] in
/-- Leaving a receive loop says nothing new about it. -/
theorem Part2Agrees.leaveLoop
    (agrees : Part2Agrees keygen node.stage) :
    Part2Agrees keygen (Node.leaveLoop keygen.setup key node).stage := by
  unfold Node.leaveLoop
  split
  · split
    · trivial
    · split_ifs
      · trivial
      · trivial
  · split
    · trivial
    · trivial
  · rename_i packages stage
    rw [stage] at agrees
    split
    · trivial
    · exact agrees
  · exact agrees

variable [DecidableEq Proof] [DecidableEq G] [DecidableEq Payload]

omit [AddCommGroup G] [Module F G] [DecidableEq Payload] in
theorem Part2Agrees.receive
    (agrees : Part2Agrees keygen node.stage) :
    Part2Agrees keygen
      (node.receive keygen.setup key identifier batch).stage := by
  unfold Node.receive
  split
  · trivial
  · rename_i after received
    obtain ⟨-, stage, -⟩ := Node.recvBatch_frame received
    rw [← stage] at agrees
    split_ifs
    · exact agrees.leaveLoop
    · exact agrees

/-- In every reachable state the stages agree with the second part. -/
structure HonestInvariant
    (keygen : Keygen PublicKey Payload ε F G Proof R)
    (fifo : Bool)
    (world : World PublicKey (Frost.Identifier F)
      (Frost.Round1Package G Proof) F Payload) : Prop where
  concluded : ConcludedInvariant keygen.setup fifo world
  agrees : ∀ key, Part2Agrees keygen (world key).stage

variable {action : Action PublicKey Payload}
  (documented : keygen.core.Documented generator)
  (allHonest : keygen.dishonest = ∅)

include documented allHonest

omit [DecidableEq Payload] in
theorem HonestInvariant.step
    (invariant : HonestInvariant keygen fifo world)
    (moves : Moves keygen.setup fifo world action next) :
    HonestInvariant keygen fifo next where
  concluded := invariant.concluded.step moves
  agrees := by
    intro other
    have updated : ∀ {mover node},
        (other = mover → Part2Agrees keygen node.stage) →
          Part2Agrees keygen (Function.update world mover node other).stage := by
      intro mover node holds
      by_cases same : other = mover
      · subst same
        rw [Function.update_self]
        exact holds rfl
      · rw [Function.update_of_ne same]
        exact invariant.agrees other
    cases moves with
    | start honest starting => exact updated fun _ => trivial
    | receive honest known receiving deliverable =>
        apply updated
        rintro rfl
        exact (invariant.agrees other).receive
    | @sendRound2 _ packages honest done =>
        apply updated
        rintro rfl
        obtain ⟨identifier, known⟩ :=
          FiniteMap.mem_keys_iff_lookup.mp honest.1
        have compatible := part2_isSome_iff documented invariant.concluded
          allHonest known (by rw [done]; rfl)
        unfold Node.sendRound2
        split
        · rename_i failed
          rw [failed] at compatible
          exact fun holds => absurd (compatible.mpr holds) (by simp)
        · rename_i shares computed
          rw [computed] at compatible
          exact compatible.mp rfl
    | inject dishonest =>
        apply updated
        rintro rfl
        exact invariant.agrees other

theorem HonestInvariant.of_reachable
    (reachable : (keygen.setup.session fifo).Reachable world) :
    HonestInvariant keygen fifo world := by
  have initially : HonestInvariant keygen fifo keygen.setup.initial :=
    ⟨.initial, fun _ => trivial⟩
  refine reachable.invariant initially ?_
  intro state action next invariant stepped
  exact invariant.step documented allHonest (moves_of_step stepped)

end Invariant

section Part3

variable (documented : keygen.core.Documented generator)
  (invariant : ConcludedInvariant keygen.setup fifo world)
  (allHonest : keygen.dishonest = ∅)

include documented invariant allHonest

/-- The third part accepts what the others sent. -/
theorem part3Accepts
    (known : keygen.pubkeys.lookup key = some identifier)
    (done : (world key).stage = .round2Done round1Packages round2Packages)
    (compatible : keygen.Compatible) :
    Part3Accepts generator (keygen.secret key).round2 round1Packages
      round2Packages := by
  have honest : ∀ participant, participant ∉ keygen.dishonest := by
    simp [allHonest]
  have inSession : keygen.setup.pubkeys.lookup key = some identifier := known
  have returned : (world key).stage.round1Result = some round1Packages := by
    rw [done]
    rfl
  obtain ⟨-, -, own, -⟩ := of_part1 documented (honest key) known
  have accepts := (part2Accepts_iff documented invariant allHonest known
    returned).mpr compatible
  obtain ⟨script, node⟩ := invariant.session.node inSession (honest key)
  have consistent := node.consistent
  rw [(invariant.concluded inSession (honest key)).round2 _ _ done]
    at consistent
  obtain ⟨-, -, collected, full⟩ := consistent
  refine ⟨accepts.count, ?_, ?_⟩
  · rw [keys_returned invariant allHonest known returned, full]
    rfl
  · intro sender package share packageFound shareFound
    obtain ⟨other, different, otherKnown, rfl⟩ :=
      exists_sender invariant allHonest known returned packageFound
    obtain ⟨_, -, senderKnown, msg, inLog, rfl, decoded⟩ :=
      collected.provenance shareFound
    obtain rfl := keygen.injective _ _ _ senderKnown otherKnown
    obtain ⟨-, -, -, -, commitment, -, -, packageCommitment, -⟩ :=
      of_part1 documented (honest msg.sender) otherKnown
    have isShare := sentShare_eq documented (honest msg.sender) otherKnown
      invariant known (Ne.symm different)
      (invariant.session.authentic inLog).2 decoded
    rw [packageCommitment, commitment, isShare, ← own]
    exact verifies_evaluate generator _ _

/-- A participant behind the second round finishes. -/
theorem exists_finish
    (known : keygen.pubkeys.lookup key = some identifier)
    (done : (world key).stage = .round2Done round1Packages round2Packages)
    (compatible : keygen.Compatible) :
    ∃ result, keygen.finish key (world key).state round1Packages
      round2Packages = .ok result := by
  have honest : ∀ participant, participant ∉ keygen.dishonest := by
    simp [allHonest]
  have inSession : keygen.setup.pubkeys.lookup key = some identifier := known
  have returned : (world key).stage.round1Result = some round1Packages := by
    rw [done]
    rfl
  obtain ⟨two, -, -, -, -, threshold, -⟩ :=
    of_part1 documented (honest key) known
  have length := length_commitment documented (honest key) known
  have accepts := (part2Accepts_iff documented invariant allHonest known
    returned).mpr compatible
  obtain ⟨⟨secret2, shares⟩, part2Eq⟩ :=
    exists_part2 documented invariant allHonest known returned accepts
  obtain ⟨-, rfl, -⟩ := documented.of_part2 _ _ _ _ part2Eq
  have someCommitment : (keygen.secret key).round2.commitment ≠ [] := by
    apply List.ne_nil_of_length_pos
    change 0 < (keygen.secret key).commitment.length
    omega
  have lengths : ∀ sender package,
      round1Packages.lookup sender = some package →
        package.commitment.length =
          (keygen.secret key).round2.commitment.length := by
    intro sender package found
    rw [accepts.threshold sender package found, threshold]
    exact length.symm
  obtain ⟨⟨keyPackage, publicKeyPackage⟩, part3Eq⟩ :=
    documented.part3_of_accepts _ _ _
      (own_notMem_returned documented invariant allHonest known returned)
      lengths someCommitment
      (part3Accepts documented invariant allHonest known done compatible)
  refine ⟨{ keyPackage, publicKeyPackage, pubkeyMap := keygen.pubkeys }, ?_⟩
  rw [finish, part2Eq, (invariant.concluded inSession (honest key)).round2 _ _
    done]
  change ((keygen.core.part3 _ _ _).mapError _ >>= _) = _
  rw [part3Eq]
  rfl

end Part3

section Secrets

omit [Module F G] in
/-- Identifiers can be summed over by the keys of their participants. -/
theorem sum_identifiers
    (ownIdentifier : PublicKey → Frost.Identifier F)
    (isOwn : ∀ key identifier, keygen.pubkeys.lookup key = some identifier →
      ownIdentifier key = identifier)
    (value : Frost.Identifier F → G) :
    ∑ sender ∈ FiniteMap.values keygen.pubkeys, value sender =
      ∑ key ∈ keygen.pubkeys.keys, value (ownIdentifier key) := by
  symm
  apply Finset.sum_nbij ownIdentifier
  · intro key member
    obtain ⟨identifier, known⟩ := FiniteMap.mem_keys_iff_lookup.mp member
    rw [isOwn key identifier known]
    exact FiniteMap.mem_values.mpr ⟨key, known⟩
  · intro first firstMember second secondMember same
    obtain ⟨identifier, firstKnown⟩ :=
      FiniteMap.mem_keys_iff_lookup.mp firstMember
    obtain ⟨other, secondKnown⟩ :=
      FiniteMap.mem_keys_iff_lookup.mp secondMember
    change ownIdentifier first = ownIdentifier second at same
    rw [isOwn _ _ firstKnown, isOwn _ _ secondKnown] at same
    subst same
    exact keygen.injective _ _ _ firstKnown secondKnown
  · intro identifier member
    obtain ⟨key, known⟩ := FiniteMap.mem_values.mp member
    exact ⟨key, FiniteMap.mem_keys_iff_lookup.mpr ⟨identifier, known⟩,
      isOwn key identifier known⟩
  · intro key member
    rfl

variable [DecidableEq Proof] [DecidableEq G] [DecidableEq Payload]
variable {result : KeygenResult PublicKey F G}

omit [DecidableEq Proof] [DecidableEq G] [DecidableEq Payload] in
/-- The key in the public package is that of the sum of the secrets. -/
theorem Finished.verifyingKey_eq_secrets
    (documented : keygen.core.Documented generator)
    (invariant : ConcludedInvariant keygen.setup fifo world)
    (allHonest : keygen.dishonest = ∅)
    (finished : Finished keygen generator key identifier world round1Packages
      round2Packages result) :
    result.publicKeyPackage.verifyingKey =
      (∑ other ∈ keygen.pubkeys.keys,
        evaluate (keygen.secret other).coefficients 0) • generator := by
  have honest : ∀ participant, participant ∉ keygen.dishonest := by
    simp [allHonest]
  have isOwn : ∀ other otherIdentifier,
      keygen.pubkeys.lookup other = some otherIdentifier →
        (keygen.secret other).identifier = otherIdentifier := by
    intro other otherIdentifier otherKnown
    exact (of_part1 documented (honest other) otherKnown).2.2.1
  rw [finished.verifyingKey_eq documented,
    sum_identifiers (fun other => (keygen.secret other).identifier) isOwn,
    Finset.sum_smul]
  apply Finset.sum_congr rfl
  intro other member
  obtain ⟨otherIdentifier, otherKnown⟩ :=
    FiniteMap.mem_keys_iff_lookup.mp member
  obtain ⟨-, -, -, -, commitment, -, -, packageCommitment, -⟩ :=
    of_part1 documented (honest other) otherKnown
  have held : keygen.setup.heldRound1 key round1Packages other =
      some (keygen.package other) := by
    unfold Setup.heldRound1
    split_ifs with same
    · rw [same]
      rfl
    · rw [show keygen.setup.pubkeys.lookup other = some otherIdentifier from
        otherKnown, Option.bind_some]
      exact lookup_returned invariant allHonest finished.known finished.returned
        otherKnown same
  rw [isOwn other otherIdentifier otherKnown,
    finished.commitmentOf_eq documented otherKnown held, packageCommitment,
    commitment]
  cases (keygen.secret other).coefficients with
  | nil => simp [evaluate]
  | cons first rest => simp [evaluate]

/-- Without dishonest participants the second part fails exactly if the
participants were given different thresholds or are too many, nothing fails
behind the second round, and the key is that of the sum of the secrets. -/
theorem keygen_completes
    (documented : keygen.core.Documented generator)
    (allHonest : keygen.dishonest = ∅)
    (reachable : (keygen.setup.session fifo).Reachable world) :
    (∀ key, (world key).stage = .part2Failed → ¬keygen.Compatible) ∧
      (∀ key round1Packages,
        (world key).stage = .receivingRound2 round1Packages →
          keygen.Compatible) ∧
      ∀ key ∈ keygen.pubkeys.keys, ∀ outcome,
        keygen.outcome world key = some outcome →
          ∃ result, outcome = .ok result ∧
            result.publicKeyPackage.verifyingKey =
              (∑ other ∈ keygen.pubkeys.keys,
                evaluate (keygen.secret other).coefficients 0) •
                generator := by
  have invariant :=
    HonestInvariant.of_reachable documented allHonest reachable
  refine ⟨?_, ?_, ?_⟩
  · intro key failed
    have agrees := invariant.agrees key
    rw [failed] at agrees
    exact agrees
  · intro key round1Packages receiving
    have agrees := invariant.agrees key
    rw [receiving] at agrees
    exact agrees
  · intro key member outcome returned
    obtain ⟨identifier, known⟩ := FiniteMap.mem_keys_iff_lookup.mp member
    obtain ⟨round1Packages, round2Packages, done, finished⟩ :=
      of_outcome returned
    have agrees := invariant.agrees key
    rw [done] at agrees
    obtain ⟨result, isResult⟩ := exists_finish documented invariant.concluded
      allHonest known done agrees
    obtain rfl := finished.symm.trans isResult
    have honest : key ∉ keygen.dishonest := by
      simp [allHonest]
    obtain ⟨_, _, finished⟩ := finished_of_outcome documented
      invariant.concluded honest known returned
    exact ⟨result, rfl, finished.verifyingKey_eq_secrets documented
      invariant.concluded allHonest⟩

end Secrets

end Keygen

section FiveElements

/-- All three participants of that run finish with the key 1. -/
theorem keygen_completes_five :
    ∃ world,
      ((fiveKeygen ∅).setup.session true).Reachable world ∧
        ∀ key : Fin 3, ∃ result,
          (fiveKeygen ∅).outcome world key = some (.ok result) ∧
            result.publicKeyPackage.verifyingKey = (1 : ZMod 5) := by
  have outcomes : ((((fiveKeygen ∅).setup.session true).run
      (fiveKeygen ∅).setup.initial honestRun).map
        fun world => [(0 : Fin 3), 1, 2].all fun key =>
          ((fiveKeygen ∅).outcome world key).isSome) = some true := by
    decide +kernel
  obtain ⟨world, ran, allSome⟩ := Option.map_eq_some_iff.mp outcomes
  rw [List.all_eq_true] at allSome
  have reachable : ((fiveKeygen ∅).setup.session true).Reachable world :=
    ⟨honestRun, ran⟩
  obtain ⟨-, -, succeeds⟩ := Keygen.keygen_completes fiveCore_documented
    (show (fiveKeygen ∅).dishonest = ∅ from rfl) reachable
  refine ⟨world, reachable, ?_⟩
  intro key
  have listed : key ∈ [(0 : Fin 3), 1, 2] := by
    revert key
    decide
  obtain ⟨outcome, returned⟩ :=
    Option.isSome_iff_exists.mp (allSome key listed)
  have member : key ∈ (fiveKeygen ∅).pubkeys.keys :=
    FiniteMap.mem_keys_iff_lookup.mpr ⟨_, lookup_fivePubkeys key⟩
  obtain ⟨result, rfl, isKey⟩ := succeeds key member outcome returned
  refine ⟨result, returned, ?_⟩
  rw [isKey]
  decide +kernel

end FiveElements

end Dkg
end MinaMultiSig
