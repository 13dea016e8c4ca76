import MinaMultiSig.Frost.Core

/-!
# A reference for FROST

The functions of `frost-core` written out over any group, with the hash of the
binding factors as a parameter. They meet the assumptions on `frost-core`, so
that what is proved from the assumptions holds of a program.
-/

namespace MinaMultiSig
namespace Frost

open ShamirSharing

variable {F G : Type}

/-- Why a function of `frost-core` fails. -/
inductive FrostError
  | incorrectNumberOfCommitments
  | incorrectCommitment
  | identityCommitment
  | unknownIdentifier
  | incorrectNumberOfShares
  | invalidSignature
  deriving DecidableEq

/-- Go on under a condition, and return an error otherwise. -/
def ensure
    (condition : Prop)
    [Decidable condition]
    (reason : FrostError) : Outcome FrostError Unit :=
  if condition then .ok () else .error (.error reason)

theorem ensure_eq_ok
    {condition : Prop}
    [Decidable condition]
    {reason : FrostError}
    {result : Unit} :
    ensure condition reason = .ok result ↔ condition := by
  rw [ensure]
  split
  next holds => simp [holds]
  next fails => simp [fails]

variable [Field F] [AddCommGroup G] [DecidableEq G]

instance (package : SigningPackage F G) (factors : BindingFactorList F) :
    Decidable (package.Usable factors) :=
  inferInstanceAs (Decidable (∀ entry ∈ package.commitments, _))

namespace Reference

variable [DecidableEq F] [Module F G]
  (generator : G)
  (bindingFactor : SigningPackage F G → G → Identifier F → F)

/-- Binding factors for the identifiers of the package. -/
def computeBindingFactorList
    (package : SigningPackage F G)
    (verifyingKey : G) : Outcome FrostError (BindingFactorList F) :=
  .ok fun identifier =>
    if identifier ∈ package.commitments.map Prod.fst then
      some (bindingFactor package verifyingKey identifier)
    else none

/-- `R`, refused where a commitment is the identity. -/
def computeGroupCommitment
    (package : SigningPackage F G)
    (factors : BindingFactorList F) : Outcome FrostError G := do
  ensure (package.Usable factors) .identityCommitment
  return package.commitmentSum factors

/-- `frost_core::round2::sign` with the hooks of the ciphersuite. -/
def sign
    (suite : Ciphersuite FrostError F G)
    (package : SigningPackage F G)
    (nonces : SigningNonces F)
    (key : KeyPackage F G) : Outcome FrostError F := do
  ensure (key.minSigners ≤ package.commitments.length)
    .incorrectNumberOfCommitments
  ensure ((key.identifier, nonces.commitments generator) ∈ package.commitments)
    .incorrectCommitment
  let factors ←
    computeBindingFactorList bindingFactor package key.verifyingKey
  ensure (factors key.identifier).isSome .unknownIdentifier
  let (hooked, hookedNonces) ← suite.preCommitmentSign package nonces factors
  let commitment ← computeGroupCommitment hooked factors
  ensure (key.identifier.val ∈ hooked.nodes) .unknownIdentifier
  let challenge ← suite.challenge commitment key.verifyingKey hooked.message
  return hookedNonces.hidingPart +
    hookedNonces.bindingPart * (factors key.identifier).getD 0 +
      interpolatingValue hooked.nodes key.identifier * key.signingShare *
        challenge

/-- `frost_core::aggregate` with the hooks of the ciphersuite. -/
def aggregate
    (suite : Ciphersuite FrostError F G)
    (package : SigningPackage F G)
    (shares : List (Identifier F × F))
    (keys : PublicKeyPackage F G) : Outcome FrostError (Signature F G) := do
  ensure (shares.map Prod.fst = package.commitments.map Prod.fst)
    .unknownIdentifier
  ensure (∀ minSigners ∈ keys.minSigners, minSigners ≤ shares.length)
    .incorrectNumberOfShares
  ensure (∀ entry ∈ package.commitments,
    entry.1 ∈ keys.verifyingShares.map Prod.fst) .unknownIdentifier
  let factors ←
    computeBindingFactorList bindingFactor package keys.verifyingKey
  let hooked ← suite.preCommitmentAggregate package factors
  let commitment ← computeGroupCommitment hooked factors
  let z := (shares.map Prod.snd).sum
  let challenge ← suite.challenge commitment keys.verifyingKey hooked.message
  ensure (z • generator = commitment + challenge • keys.verifyingKey)
    .invalidSignature
  return { R := commitment, z := z }

omit [DecidableEq F] in
theorem computeGroupCommitment_eq_ok_iff
    (package : SigningPackage F G)
    (factors : BindingFactorList F)
    (commitment : G) :
    computeGroupCommitment package factors = .ok commitment ↔
      package.Usable factors ∧ commitment = package.commitmentSum factors := by
  rw [computeGroupCommitment, Outcome.bind_eq_ok]
  constructor
  · rintro ⟨_, usable, same⟩
    exact ⟨ensure_eq_ok.mp usable, (Except.ok.inj same).symm⟩
  · rintro ⟨usable, rfl⟩
    exact ⟨(), ensure_eq_ok.mpr usable, rfl⟩

/-- FROST with a hash for the binding factors. -/
def frostCore : FrostCore FrostError F G :=
  { computeBindingFactorList := computeBindingFactorList bindingFactor
    computeGroupCommitment := computeGroupCommitment
    sign := sign generator bindingFactor
    aggregate := aggregate generator bindingFactor }

/-- The reference meets the assumptions. -/
theorem frostCore_documented :
    (frostCore generator bindingFactor).Documented generator where
  computeGroupCommitment_eq_ok_iff := computeGroupCommitment_eq_ok_iff
  sign_eq_ok_iff := by
    intro suite package nonces key share enough member
    simp only [frostCore, sign, Outcome.bind_eq_ok, ensure_eq_ok]
    constructor
    · rintro ⟨_, -, _, -, factors, factorsEq, _, hasFactor,
        ⟨hooked, hookedNonces⟩, hookedEq, commitment, commitmentEq, _, isNode,
        challenge, challengeEq, shareEq⟩
      obtain ⟨factor, factorEq⟩ := Option.isSome_iff_exists.mp hasFactor
      refine ⟨factors, hooked, hookedNonces, commitment, factor, challenge,
        ⟨factorsEq, ?_, commitmentEq⟩, ?_, factorEq, isNode, challengeEq, ?_⟩
      · rw [hookedEq]
        rfl
      · rw [hookedEq]
        rfl
      · rw [factorEq] at shareEq
        exact (Except.ok.inj shareEq).symm
    · rintro ⟨factors, hooked, hookedNonces, commitment, factor, challenge,
        ⟨factorsEq, packageEq, commitmentEq⟩, noncesEq, factorEq, isNode,
        challengeEq, rfl⟩
      obtain ⟨pair, hookedEq, rfl, rfl⟩ : ∃ pair,
          suite.preCommitmentSign package nonces factors = .ok pair ∧
            pair.1 = hooked ∧ pair.2 = hookedNonces := by
        cases hookedEq : suite.preCommitmentSign package nonces factors with
        | error failure =>
            rw [hookedEq] at packageEq
            exact absurd packageEq (by simp [Except.map])
        | ok pair =>
            rw [hookedEq] at packageEq noncesEq
            exact ⟨pair, rfl, Except.ok.inj packageEq, Except.ok.inj noncesEq⟩
      refine ⟨(), enough, (), member, factors, factorsEq, (), ?_, pair,
        hookedEq, commitment, commitmentEq, (), isNode, challenge, challengeEq,
        ?_⟩
      · rw [factorEq]
        rfl
      · rw [factorEq]
        rfl
  of_aggregate := by
    intro suite package shares keys signature aggregated
    simp only [frostCore, aggregate, Outcome.bind_eq_ok,
      ensure_eq_ok] at aggregated
    obtain ⟨_, -, _, -, _, -, factors, factorsEq, hooked, hookedEq, commitment,
      commitmentEq, _, -, _, -, signatureEq⟩ := aggregated
    exact ⟨factors, hooked, commitment, ⟨factorsEq, hookedEq, commitmentEq⟩,
      (Except.ok.inj signatureEq).symm⟩
  aggregate_of_verifies := by
    intro suite package shares keys factors hooked commitment challenge
      sameSigners enough known prepared challengeEq verifies
    simp only [frostCore, aggregate, Outcome.bind_eq_ok, ensure_eq_ok]
    exact ⟨(), sameSigners, (), enough, (), known, factors, prepared.factorsEq,
      hooked, prepared.hookedEq, commitment, prepared.commitmentEq, challenge,
      challengeEq, (), verifies, rfl⟩

end Reference

end Frost
end MinaMultiSig
