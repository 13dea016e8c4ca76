import MinaMultiSig.Frost.DkgCore
import MinaMultiSig.Frost.ReferenceDealer

/-!
# A reference for distributed key generation

The three parts written out over any group, with the proof of knowledge as a
parameter and a list of scalars in place of a random generator. They meet the
assumptions on distributed key generation.
-/

namespace MinaMultiSig
namespace Frost

open ShamirSharing

/-- A proof that the first coefficient is known, and its check. -/
structure ProofOfKnowledge (F G Proof : Type) [Zero F] [SMul F G] where
  generator : G
  prove : Identifier F → List F → Proof
  check : Identifier F → List G → Proof → Bool
  check_prove : ∀ identifier coefficients,
    check identifier (coefficients.map (· • generator))
      (prove identifier coefficients) = true

/-- A listing of sets of identifiers without repetition. -/
structure IdentifierOrder (F : Type) [Zero F] where
  list : Finset (Identifier F) → List (Identifier F)
  nodup : ∀ identifiers, (list identifiers).Nodup
  mem_list : ∀ identifiers identifier,
    identifier ∈ list identifiers ↔ identifier ∈ identifiers

namespace Reference

variable {F G Proof : Type} [Field F] [DecidableEq F] [AddCommGroup G]
  [DecidableEq G] [Module F G]
  (scheme : ProofOfKnowledge F G Proof)
  (order : IdentifierOrder F)

/-- `frost_core::keys::dkg::part1`; the coefficients come from the generator. -/
def part1
    (identifier : Identifier F)
    (maxSigners minSigners : Nat)
    (rng : List F) :
    Outcome FrostError (Round1SecretPackage F G × Round1Package G Proof) := do
  ensure (2 ≤ minSigners ∧ minSigners ≤ maxSigners) .incorrectNumberOfShares
  let coefficients := draw minSigners rng
  let commitment := coefficients.map (· • scheme.generator)
  return (
    { identifier := identifier
      coefficients := coefficients
      commitment := commitment
      minSigners := minSigners
      maxSigners := maxSigners },
    { commitment := commitment
      proofOfKnowledge := scheme.prove identifier coefficients })

/-- The proof of knowledge of a participant is checked alone. -/
def verifyProofOfKnowledge
    (identifier : Identifier F)
    (commitment : List G)
    (proof : Proof) : Outcome FrostError Unit :=
  ensure (scheme.check identifier commitment proof = true) .invalidSignature

/-- `frost_core::keys::dkg::part2`: every proof is checked, and a share made for
every participant. -/
def part2
    (secret : Round1SecretPackage F G)
    (round1Packages : FiniteMap (Identifier F) (Round1Package G Proof)) :
    Outcome FrostError
      (Round2SecretPackage F G × FiniteMap (Identifier F) F) := do
  ensure (round1Packages.keys.card + 1 = secret.maxSigners)
    .incorrectNumberOfShares
  ensure (∀ entry ∈ round1Packages.entries,
    entry.2.commitment.length = secret.minSigners)
    .incorrectNumberOfCommitments
  ensure (∀ entry ∈ round1Packages.entries,
    scheme.check entry.1 entry.2.commitment entry.2.proofOfKnowledge = true)
    .invalidSignature
  return (secret.round2,
    .ofKeys (fun identifier => evaluate secret.coefficients identifier.val)
      (order.list round1Packages.keys))

/-- `frost_core::keys::dkg::part3`: every share is checked against its
commitment, and the shares are summed. -/
def part3
    (secret : Round2SecretPackage F G)
    (round1Packages : FiniteMap (Identifier F) (Round1Package G Proof))
    (round2Packages : FiniteMap (Identifier F) F) :
    Outcome FrostError (KeyPackage F G × PublicKeyPackage F G) := do
  ensure (round1Packages.keys.card + 1 = secret.maxSigners)
    .incorrectNumberOfShares
  ensure (round2Packages.keys = round1Packages.keys) .unknownIdentifier
  ensure (∀ entry ∈ round1Packages.entries,
    Verifies scheme.generator entry.2.commitment secret.identifier.val
      ((round2Packages.lookup entry.1).getD 0)) .invalidSignature
  return (secret.keyPackage round1Packages round2Packages,
    secret.publicKeyPackage round1Packages order.list)

/-- Key generation with a proof of knowledge. -/
def dkgCore : DkgCore FrostError F G Proof (List F) :=
  { part1 := part1 scheme
    part2 := part2 scheme order
    part3 := part3 scheme order
    verifyProofOfKnowledge := verifyProofOfKnowledge scheme
    identifierOrder := order.list
    identifierOrder_nodup := order.nodup
    mem_identifierOrder := order.mem_list }

variable {scheme order}
  {secret : Round1SecretPackage F G} {secret2 : Round2SecretPackage F G}
  {round1Packages : FiniteMap (Identifier F) (Round1Package G Proof)}
  {round2Packages : FiniteMap (Identifier F) F}

omit [DecidableEq G] in
theorem ensure_checks_iff :
    (∀ entry ∈ round1Packages.entries,
      scheme.check entry.1 entry.2.commitment entry.2.proofOfKnowledge =
        true) ↔
      ∀ identifier package,
        round1Packages.lookup identifier = some package →
          verifyProofOfKnowledge scheme identifier package.commitment
            package.proofOfKnowledge = .ok () := by
  simp only [verifyProofOfKnowledge, ensure_eq_ok]
  exact FiniteMap.forall_entries_iff round1Packages fun identifier package =>
    scheme.check identifier package.commitment package.proofOfKnowledge = true

omit [DecidableEq G] in
theorem part2_eq_ok_iff
    {result : Round2SecretPackage F G × FiniteMap (Identifier F) F} :
    part2 scheme order secret round1Packages = .ok result ↔
      (round1Packages.keys.card + 1 = secret.maxSigners ∧
        (∀ identifier package,
          round1Packages.lookup identifier = some package →
            package.commitment.length = secret.minSigners) ∧
        ∀ identifier package,
          round1Packages.lookup identifier = some package →
            verifyProofOfKnowledge scheme identifier package.commitment
              package.proofOfKnowledge = .ok ()) ∧
      result = (secret.round2,
        .ofKeys (fun identifier => evaluate secret.coefficients identifier.val)
          (order.list round1Packages.keys)) := by
  rw [← ensure_checks_iff, ← FiniteMap.forall_entries_iff round1Packages
    fun _ package => package.commitment.length = secret.minSigners]
  simp only [part2, Outcome.bind_eq_ok, ensure_eq_ok]
  constructor
  · rintro ⟨_, count, _, threshold, _, proofs, same⟩
    exact ⟨⟨count, threshold, proofs⟩, (Except.ok.inj same).symm⟩
  · rintro ⟨⟨count, threshold, proofs⟩, rfl⟩
    exact ⟨(), count, (), threshold, (), proofs, rfl⟩

theorem part3_eq_ok_iff
    {result : KeyPackage F G × PublicKeyPackage F G} :
    part3 scheme order secret2 round1Packages round2Packages = .ok result ↔
      Part3Accepts scheme.generator secret2 round1Packages round2Packages ∧
        result = (secret2.keyPackage round1Packages round2Packages,
          secret2.publicKeyPackage round1Packages order.list) := by
  simp only [part3, Outcome.bind_eq_ok, ensure_eq_ok]
  constructor
  · rintro ⟨_, count, _, senders, _, verifies, same⟩
    refine ⟨⟨count, senders, ?_⟩, (Except.ok.inj same).symm⟩
    intro identifier package share packageFound shareFound
    have checked := verifies ⟨identifier, package⟩
      (Finmap.lookup_eq_some_iff.mp packageFound)
    rwa [shareFound] at checked
  · rintro ⟨accepts, rfl⟩
    refine ⟨(), accepts.count, (), accepts.senders, (), ?_, rfl⟩
    rintro ⟨identifier, package⟩ member
    have packageFound : round1Packages.lookup identifier = some package :=
      Finmap.lookup_eq_some_iff.mpr member
    have sent : identifier ∈ round2Packages.keys := by
      rw [accepts.senders]
      exact FiniteMap.mem_keys_iff_lookup.mpr ⟨package, packageFound⟩
    obtain ⟨share, shareFound⟩ := FiniteMap.mem_keys_iff_lookup.mp sent
    rw [shareFound]
    exact accepts.verifies identifier package share packageFound shareFound

/-- The reference meets the assumptions. -/
theorem dkgCore_documented :
    (dkgCore scheme order).Documented scheme.generator where
  of_part1 := by
    intro identifier maxSigners minSigners rng secret package part1Eq
    obtain ⟨_, valid, same⟩ := Outcome.bind_eq_ok.mp part1Eq
    obtain ⟨twoSigners, atMost⟩ := ensure_eq_ok.mp valid
    obtain ⟨rfl, rfl⟩ := Prod.mk.inj (Except.ok.inj same)
    refine ⟨twoSigners, atMost, rfl, ?_, rfl, rfl, rfl, rfl, ?_⟩
    · simp [draw]
    · exact ensure_eq_ok.mpr (scheme.check_prove identifier _)
  of_part2 := by
    intro secret round1Packages secret2 round2Packages part2Eq
    obtain ⟨⟨count, threshold, proofs⟩, same⟩ := part2_eq_ok_iff.mp part2Eq
    obtain ⟨rfl, rfl⟩ := Prod.mk.inj same
    refine ⟨⟨count, threshold, proofs⟩, rfl, ?_⟩
    intro identifier
    rw [FiniteMap.lookup_ofKeys]
    simp only [order.mem_list]
  part2_of_accepts := by
    intro secret round1Packages _ _ accepts
    exact ⟨_, part2_eq_ok_iff.mpr
      ⟨⟨accepts.count, accepts.threshold, accepts.proofs⟩, rfl⟩⟩
  of_part3 := by
    intro secret round1Packages round2Packages keys publicKeys _ part3Eq
    obtain ⟨accepts, same⟩ := part3_eq_ok_iff.mp part3Eq
    obtain ⟨rfl, rfl⟩ := Prod.mk.inj same
    exact ⟨accepts, rfl, rfl⟩
  part3_of_accepts := by
    intro secret round1Packages round2Packages _ _ _ accepts
    exact ⟨_, part3_eq_ok_iff.mpr ⟨accepts, rfl⟩⟩

end Reference

end Frost
end MinaMultiSig
