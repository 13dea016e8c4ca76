import MinaMultiSig.Dkg.Conclusion
import MinaMultiSig.Frost.DkgCore

/-!
# Key generation

`keygen` of `mina-frost-client/src/dkg/keygen.rs` for all participants at once:
the parts of `frost-core` around the two rounds of a session. Honest participants
that finish have worked with the same commitments.
-/

namespace MinaMultiSig
namespace Dkg

open Frost ShamirSharing

variable {PublicKey Payload ε F G Proof R : Type}

/-- Why `keygen` fails behind the second round. -/
inductive KeygenError (ε : Type)
  | frost (reason : ε)
  | report (message : String)

/-- The participants of a session with the thresholds they were given and what
the first part returned to them. A participant whose first part fails sends
nothing, and is not one of the honest ones. -/
structure Keygen
    (PublicKey Payload ε F G Proof R : Type)
    [DecidableEq PublicKey]
    [Zero F] where
  core : DkgCore ε F G Proof R
  wire :
    DkgWire Payload (Frost.Identifier F) (Frost.Round1Package G Proof) F
  pubkeys : FiniteMap PublicKey (Frost.Identifier F)
  injective : FiniteMap.Injective pubkeys
  atLeastTwo : 2 ≤ pubkeys.keys.card
  dishonest : Finset PublicKey
  minSigners : PublicKey → Nat
  rng : PublicKey → R
  secret : PublicKey → Round1SecretPackage F G
  package : PublicKey → Frost.Round1Package G Proof
  part1_eq : ∀ key identifier, key ∉ dishonest →
    pubkeys.lookup key = some identifier →
      core.part1 identifier (pubkeys.keys.card % 2 ^ 16) (minSigners key)
        (rng key) = .ok (secret key, package key)

/-- What `keygen` returns. -/
structure KeygenResult (PublicKey F G : Type) [Zero F] where
  keyPackage : KeyPackage F G
  publicKeyPackage : PublicKeyPackage F G
  pubkeyMap : FiniteMap PublicKey (Frost.Identifier F)

/-- `get_pubkey_identifier_map`. -/
def DKGSessionState.getPubkeyIdentifierMap
    {Identifier Round1Package Round2Package : Type} :
    DKGSessionState PublicKey Identifier Round1Package Round2Package →
      Outcome (KeygenError ε) (FiniteMap PublicKey Identifier)
  | .round2PackagesReady pubkeys _ => .ok pubkeys
  | _ => .error (.error (.report "wrong state"))

namespace Keygen

variable [DecidableEq PublicKey] [Field F] [DecidableEq F]
variable (keygen : Keygen PublicKey Payload ε F G Proof R)

/-- The number of participants, as the type of the thresholds has it. -/
def maxSigners : Nat :=
  keygen.pubkeys.keys.card % 2 ^ 16

/-- The Round 2 Packages of a participant by recipient. -/
def round2PackagesOf
    (key : PublicKey)
    (round1Packages :
      FiniteMap (Frost.Identifier F) (Frost.Round1Package G Proof)) :
    Option (Frost.Identifier F → F) :=
  match keygen.core.part2 (keygen.secret key) round1Packages with
  | .ok (_, round2Packages) =>
      some fun identifier => (round2Packages.lookup identifier).getD 0
  | .error _ => none

/-- The session of the participants. -/
def setup :
    Setup PublicKey (Frost.Identifier F) (Frost.Round1Package G Proof) F
      Payload where
  wire := keygen.wire
  pubkeys := keygen.pubkeys
  injective := keygen.injective
  atLeastTwo := keygen.atLeastTwo
  identifiers :=
    keygen.core.identifierOrder (FiniteMap.values keygen.pubkeys)
  identifiers_nodup := keygen.core.identifierOrder_nodup _
  mem_identifiers := by
    intro identifier
    rw [keygen.core.mem_identifierOrder, FiniteMap.mem_values]
  dishonest := keygen.dishonest
  round1Package := keygen.package
  part2 := keygen.round2PackagesOf

/-- What follows the second round. -/
def finish
    (key : PublicKey)
    (state : DKGSessionState PublicKey (Frost.Identifier F)
      (Frost.Round1Package G Proof) F)
    (round1Packages :
      FiniteMap (Frost.Identifier F) (Frost.Round1Package G Proof))
    (round2Packages : FiniteMap (Frost.Identifier F) F) :
    Outcome (KeygenError ε) (KeygenResult PublicKey F G) := do
  let (round2SecretPackage, _) ←
    (keygen.core.part2 (keygen.secret key) round1Packages).mapError .frost
  let (keyPackage, publicKeyPackage) ←
    (keygen.core.part3 round2SecretPackage round1Packages
      round2Packages).mapError .frost
  let pubkeyMap ← state.getPubkeyIdentifierMap
  return { keyPackage, publicKeyPackage, pubkeyMap }

/-- What `keygen` returns to a participant that is behind the second round. -/
def outcome
    (world : World PublicKey (Frost.Identifier F)
      (Frost.Round1Package G Proof) F Payload)
    (key : PublicKey) :
    Option (Outcome (KeygenError ε) (KeygenResult PublicKey F G)) :=
  match (world key).stage with
  | .round2Done round1Packages round2Packages =>
      some
        (keygen.finish key (world key).state round1Packages round2Packages)
  | _ => none

/-- The packages of the second part, if it succeeds. -/
theorem round2PackagesOf_eq_some
    {keygen : Keygen PublicKey Payload ε F G Proof R}
    {key : PublicKey}
    {round1Packages :
      FiniteMap (Frost.Identifier F) (Frost.Round1Package G Proof)}
    {shares : Frost.Identifier F → F} :
    keygen.round2PackagesOf key round1Packages = some shares ↔
      ∃ secret2 round2Packages,
        keygen.core.part2 (keygen.secret key) round1Packages =
            .ok (secret2, round2Packages) ∧
          shares = fun identifier =>
            (round2Packages.lookup identifier).getD 0 := by
  unfold round2PackagesOf
  constructor
  · intro isShares
    split at isShares
    · rename_i secret2 round2Packages part2Eq
      exact ⟨secret2, round2Packages, part2Eq, (Option.some.inj isShares).symm⟩
    · simp at isShares
  · rintro ⟨secret2, round2Packages, part2Eq, rfl⟩
    rw [part2Eq]

omit [DecidableEq F] in
/-- The packages of the two rounds behind an outcome. -/
theorem of_outcome
    {keygen : Keygen PublicKey Payload ε F G Proof R}
    {world : World PublicKey (Frost.Identifier F)
      (Frost.Round1Package G Proof) F Payload}
    {key : PublicKey}
    {result : Outcome (KeygenError ε) (KeygenResult PublicKey F G)}
    (returned : keygen.outcome world key = some result) :
    ∃ round1Packages round2Packages,
      (world key).stage = .round2Done round1Packages round2Packages ∧
        keygen.finish key (world key).state round1Packages round2Packages =
          result := by
  unfold outcome at returned
  split at returned
  · rename_i round1Packages round2Packages stage
    exact ⟨round1Packages, round2Packages, stage, Option.some.inj returned⟩
  · simp at returned

variable [AddCommGroup G] [Module F G]
variable {keygen} {generator : G}
  (documented : keygen.core.Documented generator)
variable {key : PublicKey} {identifier : Frost.Identifier F}

section Parts

variable (honest : key ∉ keygen.dishonest)
  (known : keygen.pubkeys.lookup key = some identifier)

include documented honest known

/-- The first part of an honest participant. -/
theorem of_part1 :
    2 ≤ keygen.minSigners key ∧ keygen.minSigners key ≤ keygen.maxSigners ∧
      (keygen.secret key).identifier = identifier ∧
      (keygen.secret key).coefficients.length = keygen.minSigners key ∧
      (keygen.secret key).commitment =
        (keygen.secret key).coefficients.map (· • generator) ∧
      (keygen.secret key).minSigners = keygen.minSigners key ∧
      (keygen.secret key).maxSigners = keygen.maxSigners ∧
      (keygen.package key).commitment = (keygen.secret key).commitment ∧
      keygen.core.verifyProofOfKnowledge identifier
        (keygen.package key).commitment
        (keygen.package key).proofOfKnowledge = .ok () :=
  documented.of_part1 _ _ _ _ _ _ (keygen.part1_eq key identifier honest known)

theorem length_commitment :
    (keygen.secret key).commitment.length = keygen.minSigners key := by
  obtain ⟨-, -, -, length, commitment, -⟩ := of_part1 documented honest known
  rw [commitment, List.length_map, length]

/-- What a result says about the packages of the two rounds. -/
theorem of_finish
    {state : DKGSessionState PublicKey (Frost.Identifier F)
      (Frost.Round1Package G Proof) F}
    {round1Packages :
      FiniteMap (Frost.Identifier F) (Frost.Round1Package G Proof)}
    {round2Packages : FiniteMap (Frost.Identifier F) F}
    {result : KeygenResult PublicKey F G}
    (finished : keygen.finish key state round1Packages round2Packages =
      .ok result) :
    (∀ sender package, round1Packages.lookup sender = some package →
      package.commitment.length = keygen.minSigners key) ∧
    Part3Accepts generator (keygen.secret key).round2 round1Packages
      round2Packages ∧
    result.keyPackage = (keygen.secret key).round2.keyPackage round1Packages
      round2Packages ∧
    result.publicKeyPackage =
      (keygen.secret key).round2.publicKeyPackage round1Packages
        keygen.core.identifierOrder ∧
    (state.getPubkeyIdentifierMap : Outcome (KeygenError ε) _) =
      .ok result.pubkeyMap := by
  obtain ⟨-, -, -, -, -, threshold, -⟩ := of_part1 documented honest known
  obtain ⟨⟨secret2, shares⟩, part2Eq, finished⟩ :=
    Outcome.bind_eq_ok.mp finished
  obtain ⟨⟨keyPackage, publicKeyPackage⟩, part3Eq, finished⟩ :=
    Outcome.bind_eq_ok.mp finished
  obtain ⟨pubkeyMap, mapEq, finished⟩ := Outcome.bind_eq_ok.mp finished
  obtain rfl := Except.ok.inj finished
  rw [Outcome.mapError_eq_ok] at part2Eq part3Eq
  obtain ⟨accepts, rfl, -⟩ := documented.of_part2 _ _ _ _ part2Eq
  have lengths : ∀ sender package,
      round1Packages.lookup sender = some package →
        package.commitment.length = keygen.minSigners key := by
    intro sender package found
    rw [accepts.threshold sender package found, threshold]
  obtain ⟨accepts3, rfl, rfl⟩ := documented.of_part3 _ _ _ _ _
    (fun sender package found =>
      (lengths sender package found).trans
        (length_commitment documented honest known).symm) part3Eq
  exact ⟨lengths, accepts3, rfl, rfl, mapEq⟩

/-- A Round 2 Package in an outbox is the value of the polynomial of its sender
for its recipient. -/
theorem sentShare_eq
    {fifo : Bool}
    {world : World PublicKey (Frost.Identifier F)
      (Frost.Round1Package G Proof) F Payload}
    {recipient : PublicKey}
    {recipientIdentifier : Frost.Identifier F}
    {payload : Payload}
    {share : F}
    (invariant : ConcludedInvariant keygen.setup fifo world)
    (recipientKnown :
      keygen.pubkeys.lookup recipient = some recipientIdentifier)
    (different : recipient ≠ key)
    (sent : payload ∈ (world key).outbox recipient)
    (decoded : keygen.wire.fromSliceRound2 payload = some share) :
    share = evaluate (keygen.secret key).coefficients
      recipientIdentifier.val := by
  have inSession : keygen.setup.pubkeys.lookup key = some identifier := known
  obtain ⟨packages, shares, full, computed, rfl⟩ := invariant.shares inSession
    honest recipient recipientIdentifier payload share different recipientKnown
    sent decoded
  obtain ⟨secret2, round2Packages, part2Eq, rfl⟩ :=
    round2PackagesOf_eq_some.mp computed
  obtain ⟨-, -, values⟩ := documented.of_part2 _ _ _ _ part2Eq
  have member : recipientIdentifier ∈ packages.keys := by
    rw [full]
    exact Membership.mem_others_of_lookup recipientKnown different
  have value : round2Packages.lookup recipientIdentifier =
      some (evaluate (keygen.secret key).coefficients
        recipientIdentifier.val) := by
    rw [values, if_pos member]
  change (round2Packages.lookup recipientIdentifier).getD 0 = _
  rw [value]
  rfl

end Parts

section Views

variable [DecidableEq Proof] [DecidableEq G] [DecidableEq Payload]
variable {fifo : Bool}
variable {world : World PublicKey (Frost.Identifier F)
  (Frost.Round1Package G Proof) F Payload}

/-- A participant that returned the result of key generation, with the packages
of its two rounds. -/
structure Finished
    (keygen : Keygen PublicKey Payload ε F G Proof R)
    (generator : G)
    (key : PublicKey)
    (identifier : Frost.Identifier F)
    (world : World PublicKey (Frost.Identifier F)
      (Frost.Round1Package G Proof) F Payload)
    (round1Packages :
      FiniteMap (Frost.Identifier F) (Frost.Round1Package G Proof))
    (round2Packages : FiniteMap (Frost.Identifier F) F)
    (result : KeygenResult PublicKey F G) : Prop where
  honest : key ∉ keygen.dishonest
  known : keygen.pubkeys.lookup key = some identifier
  returned : (world key).stage.round1Result = some round1Packages
  full : insert identifier round1Packages.keys =
    FiniteMap.values keygen.pubkeys
  notOwn : identifier ∉ round1Packages.keys
  lengths : ∀ sender package, round1Packages.lookup sender = some package →
    package.commitment.length = keygen.minSigners key
  accepts : Part3Accepts generator (keygen.secret key).round2 round1Packages
    round2Packages
  keyPackage_eq : result.keyPackage =
    (keygen.secret key).round2.keyPackage round1Packages round2Packages
  publicKeyPackage_eq : result.publicKeyPackage =
    (keygen.secret key).round2.publicKeyPackage round1Packages
      keygen.core.identifierOrder
  pubkeyMap_eq : result.pubkeyMap = keygen.pubkeys

omit [DecidableEq Proof] [DecidableEq G] [DecidableEq Payload] in
include documented in
theorem finished_of_outcome
    {result : KeygenResult PublicKey F G}
    (invariant : ConcludedInvariant keygen.setup fifo world)
    (honest : key ∉ keygen.dishonest)
    (known : keygen.pubkeys.lookup key = some identifier)
    (returned : keygen.outcome world key = some (.ok result)) :
    ∃ round1Packages round2Packages,
      Finished keygen generator key identifier world round1Packages
        round2Packages result := by
  obtain ⟨round1Packages, round2Packages, stage, finished⟩ :=
    of_outcome returned
  obtain ⟨lengths, accepts, keyPackage_eq, publicKeyPackage_eq, mapEq⟩ :=
    of_finish documented honest known finished
  have inSession : keygen.setup.pubkeys.lookup key = some identifier := known
  have concluded := invariant.concluded inSession honest
  have returned : (world key).stage.round1Result = some round1Packages := by
    rw [stage]
    rfl
  have full := (concluded.round1 round1Packages returned).full
  rw [concluded.round2 round1Packages round2Packages stage] at mapEq
  have member : identifier ∈ FiniteMap.values keygen.pubkeys :=
    FiniteMap.mem_values.mpr ⟨key, known⟩
  refine ⟨round1Packages, round2Packages, honest, known, returned, ?_, ?_,
    lengths, accepts, keyPackage_eq, publicKeyPackage_eq,
    (Except.ok.inj mapEq).symm⟩
  · rw [full]
    exact Finset.insert_erase member
  · rw [full]
    exact Finset.notMem_erase _ _

variable {round1Packages :
    FiniteMap (Frost.Identifier F) (Frost.Round1Package G Proof)}
variable {round2Packages : FiniteMap (Frost.Identifier F) F}
variable {result : KeygenResult PublicKey F G}

namespace Finished

variable (finished : Finished keygen generator key identifier world
  round1Packages round2Packages result)

include documented finished

omit [DecidableEq Proof] [DecidableEq G] [DecidableEq Payload]

theorem dealers_eq :
    (keygen.secret key).round2.dealers round1Packages =
      FiniteMap.values keygen.pubkeys := by
  obtain ⟨-, -, own, -⟩ := of_part1 documented finished.honest finished.known
  rw [← finished.full, ← own]
  rfl

/-- The commitments a participant works with are those of the packages it
holds. -/
theorem commitmentOf_eq
    {other : PublicKey}
    {otherIdentifier : Frost.Identifier F}
    {package : Frost.Round1Package G Proof}
    (otherKnown : keygen.pubkeys.lookup other = some otherIdentifier)
    (held : keygen.setup.heldRound1 key round1Packages other = some package) :
    (keygen.secret key).round2.commitmentOf round1Packages otherIdentifier =
      package.commitment := by
  obtain ⟨-, -, own, -, -, -, -, ownCommitment, -⟩ :=
    of_part1 documented finished.honest finished.known
  have ownIdentifier : (keygen.secret key).round2.identifier = identifier := own
  rw [Round2SecretPackage.commitmentOf, ownIdentifier]
  unfold Setup.heldRound1 at held
  by_cases same : other = key
  · subst same
    obtain rfl := Option.some.inj (otherKnown.symm.trans finished.known)
    rw [if_pos rfl] at held
    rw [if_pos rfl, ← Option.some.inj held]
    exact ownCommitment.symm
  · rw [if_neg same] at held
    have different : otherIdentifier ≠ identifier := by
      rintro rfl
      exact same (keygen.injective _ _ _ otherKnown finished.known)
    obtain ⟨_, isOther, lookup⟩ := Option.bind_eq_some_iff.mp held
    obtain rfl := Option.some.inj (otherKnown.symm.trans isOther)
    rw [if_neg different, lookup]
    rfl

theorem length_commitmentOf
    {sender : Frost.Identifier F}
    (member : sender ∈ FiniteMap.values keygen.pubkeys) :
    ((keygen.secret key).round2.commitmentOf round1Packages sender).length =
      keygen.minSigners key := by
  obtain ⟨-, -, own, -⟩ := of_part1 documented finished.honest finished.known
  have ownIdentifier : (keygen.secret key).round2.identifier = identifier := own
  rw [Round2SecretPackage.commitmentOf, ownIdentifier]
  split_ifs with same
  · exact length_commitment documented finished.honest finished.known
  · rw [← finished.full] at member
    obtain ⟨package, found⟩ := FiniteMap.mem_keys_iff_lookup.mp
      (Finset.mem_of_mem_insert_of_ne member same)
    rw [found]
    exact finished.lengths sender package found

/-- Two participants that finished work with the same commitments. -/
theorem commitmentOf_agree
    {second : PublicKey}
    {secondIdentifier : Frost.Identifier F}
    {round1Packages' :
      FiniteMap (Frost.Identifier F) (Frost.Round1Package G Proof)}
    {round2Packages' : FiniteMap (Frost.Identifier F) F}
    {result' : KeygenResult PublicKey F G}
    (invariant : ConcludedInvariant keygen.setup fifo world)
    (secondFinished : Finished keygen generator second secondIdentifier world
      round1Packages' round2Packages' result')
    {sender : Frost.Identifier F}
    (member : sender ∈ FiniteMap.values keygen.pubkeys) :
    (keygen.secret key).round2.commitmentOf round1Packages sender =
      (keygen.secret second).round2.commitmentOf round1Packages' sender := by
  have participates : ∀ {other otherIdentifier},
      keygen.pubkeys.lookup other = some otherIdentifier →
        other ∈ keygen.setup.pubkeys.keys :=
    fun otherKnown => FiniteMap.mem_keys_iff_lookup.mpr ⟨_, otherKnown⟩
  obtain ⟨other, otherKnown⟩ := FiniteMap.mem_values.mp member
  obtain ⟨package, firstHolds, secondHolds⟩ := invariant.held_agree
    ⟨participates finished.known, finished.honest⟩
    ⟨participates secondFinished.known, secondFinished.honest⟩
    finished.returned secondFinished.returned (participates otherKnown)
  rw [finished.commitmentOf_eq documented otherKnown firstHolds,
    secondFinished.commitmentOf_eq documented otherKnown secondHolds]

end Finished

end Views

end Keygen

end Dkg
end MinaMultiSig
