import MinaMultiSig.Frost.Dealer
import MinaMultiSig.Library.FiniteMap
import MinaMultiSig.Library.JointSharing

/-!
# The interface to distributed key generation

The three parts of `frost_core::keys::dkg` as parameters, with what is assumed
of them. Part one commits to the coefficients of a polynomial, part two returns
its values at the identifiers of the others, and part three adds up the values
received once each of them fits the commitments of its sender.
-/

namespace MinaMultiSig
namespace Frost

open ShamirSharing

variable {ε F G R Proof : Type}

/-- The commitments to a polynomial, and a proof that its secret is known. -/
structure Round1Package (G Proof : Type) where
  commitment : List G
  proofOfKnowledge : Proof
  deriving DecidableEq

/-- What a participant keeps between the first two parts. -/
structure Round1SecretPackage (F G : Type) [Zero F] where
  identifier : Identifier F
  coefficients : List F
  commitment : List G
  minSigners : Nat
  maxSigners : Nat

/-- What a participant keeps between the last two parts. -/
structure Round2SecretPackage (F G : Type) [Zero F] where
  identifier : Identifier F
  commitment : List G
  secretShare : F
  minSigners : Nat
  maxSigners : Nat

/-- The functions of `frost-core` that key generation uses, and the order in
which a `BTreeMap` lists identifiers. -/
structure DkgCore (ε F G Proof R : Type) [Zero F] where
  part1 : Identifier F → Nat → Nat → R →
    Outcome ε (Round1SecretPackage F G × Round1Package G Proof)
  part2 : Round1SecretPackage F G →
    FiniteMap (Identifier F) (Round1Package G Proof) →
      Outcome ε (Round2SecretPackage F G × FiniteMap (Identifier F) F)
  part3 : Round2SecretPackage F G →
    FiniteMap (Identifier F) (Round1Package G Proof) →
      FiniteMap (Identifier F) F →
        Outcome ε (KeyPackage F G × PublicKeyPackage F G)
  verifyProofOfKnowledge :
    Identifier F → List G → Proof → Outcome ε Unit
  identifierOrder : Finset (Identifier F) → List (Identifier F)
  identifierOrder_nodup : ∀ identifiers, (identifierOrder identifiers).Nodup
  mem_identifierOrder : ∀ identifiers identifier,
    identifier ∈ identifierOrder identifiers ↔ identifier ∈ identifiers

section Results

variable [Field F] [DecidableEq F] [AddCommGroup G] [Module F G]

/-- What part two leaves: the value of the polynomial for oneself. -/
def Round1SecretPackage.round2
    (secret : Round1SecretPackage F G) : Round2SecretPackage F G :=
  { identifier := secret.identifier
    commitment := secret.commitment
    secretShare := evaluate secret.coefficients secret.identifier
    minSigners := secret.minSigners
    maxSigners := secret.maxSigners }

namespace Round2SecretPackage

variable (secret : Round2SecretPackage F G)
  (round1Packages : FiniteMap (Identifier F) (Round1Package G Proof))
  (round2Packages : FiniteMap (Identifier F) F)

/-- The participants, oneself included. -/
def dealers : Finset (Identifier F) :=
  insert secret.identifier round1Packages.keys

/-- The commitments of a participant. -/
def commitmentOf (identifier : Identifier F) : List G :=
  if identifier = secret.identifier then secret.commitment
  else ((round1Packages.lookup identifier).map Round1Package.commitment).getD []

/-- The commitments to the sum of the polynomials. -/
def groupCommitment : List G :=
  sumLists secret.commitment.length (secret.dealers round1Packages)
    (secret.commitmentOf round1Packages)

/-- The public package, from the commitments. -/
def publicKeyPackage
    (order : Finset (Identifier F) → List (Identifier F)) :
    PublicKeyPackage F G :=
  let commitment := secret.groupCommitment round1Packages
  { verifyingShares := (order (secret.dealers round1Packages)).map
      fun identifier => (identifier, commitmentAt commitment identifier.val)
    verifyingKey := commitment.headD 0
    minSigners := some commitment.length }

/-- The key package, from the values received and the own one. -/
def keyPackage : KeyPackage F G :=
  { identifier := secret.identifier
    signingShare :=
      (∑ identifier ∈ round2Packages.keys,
        (round2Packages.lookup identifier).getD 0) + secret.secretShare
    verifyingKey := (secret.groupCommitment round1Packages).headD 0
    minSigners := secret.minSigners }

end Round2SecretPackage

/-- Part two accepts the Round 1 Packages of the others. -/
structure Part2Accepts
    (core : DkgCore ε F G Proof R)
    (secret : Round1SecretPackage F G)
    (round1Packages : FiniteMap (Identifier F) (Round1Package G Proof)) :
    Prop where
  count : round1Packages.keys.card + 1 = secret.maxSigners
  threshold : ∀ identifier package,
    round1Packages.lookup identifier = some package →
      package.commitment.length = secret.minSigners
  proofs : ∀ identifier package,
    round1Packages.lookup identifier = some package →
      core.verifyProofOfKnowledge identifier package.commitment
        package.proofOfKnowledge = .ok ()

/-- Part three accepts the values of the others. -/
structure Part3Accepts
    (generator : G)
    (secret : Round2SecretPackage F G)
    (round1Packages : FiniteMap (Identifier F) (Round1Package G Proof))
    (round2Packages : FiniteMap (Identifier F) F) : Prop where
  count : round1Packages.keys.card + 1 = secret.maxSigners
  senders : round2Packages.keys = round1Packages.keys
  verifies : ∀ identifier package share,
    round1Packages.lookup identifier = some package →
      round2Packages.lookup identifier = some share →
        Verifies generator package.commitment secret.identifier.val share

/-- The assumptions on distributed key generation. -/
structure DkgCore.Documented
    (core : DkgCore ε F G Proof R)
    (generator : G) : Prop where
  /-- The first part commits to as many coefficients as have to sign. -/
  of_part1 : ∀ identifier maxSigners minSigners rng secret package,
    core.part1 identifier maxSigners minSigners rng = .ok (secret, package) →
      2 ≤ minSigners ∧ minSigners ≤ maxSigners ∧
        secret.identifier = identifier ∧
        secret.coefficients.length = minSigners ∧
        secret.commitment = secret.coefficients.map (· • generator) ∧
        secret.minSigners = minSigners ∧ secret.maxSigners = maxSigners ∧
        package.commitment = secret.commitment ∧
        core.verifyProofOfKnowledge identifier package.commitment
          package.proofOfKnowledge = .ok ()
  /-- The second part returns a value of the polynomial for each sender. -/
  of_part2 : ∀ secret round1Packages secret2 round2Packages,
    core.part2 secret round1Packages = .ok (secret2, round2Packages) →
      Part2Accepts core secret round1Packages ∧ secret2 = secret.round2 ∧
        ∀ identifier, round2Packages.lookup identifier =
          if identifier ∈ round1Packages.keys then
            some (evaluate secret.coefficients identifier.val)
          else none
  /-- It succeeds with packages of others that it accepts. -/
  part2_of_accepts : ∀ secret round1Packages,
    secret.coefficients ≠ [] →
    secret.identifier ∉ round1Packages.keys →
    Part2Accepts core secret round1Packages →
      ∃ result, core.part2 secret round1Packages = .ok result
  /-- The third part adds up, for packages that the second part accepted. -/
  of_part3 : ∀ secret round1Packages round2Packages keys publicKeys,
    (∀ identifier package,
      round1Packages.lookup identifier = some package →
        package.commitment.length = secret.commitment.length) →
    core.part3 secret round1Packages round2Packages =
        .ok (keys, publicKeys) →
      Part3Accepts generator secret round1Packages round2Packages ∧
        keys = secret.keyPackage round1Packages round2Packages ∧
        publicKeys =
          secret.publicKeyPackage round1Packages core.identifierOrder
  /-- It succeeds with packages of others that it accepts. -/
  part3_of_accepts : ∀ secret round1Packages round2Packages,
    secret.identifier ∉ round1Packages.keys →
    (∀ identifier package,
      round1Packages.lookup identifier = some package →
        package.commitment.length = secret.commitment.length) →
    secret.commitment ≠ [] →
    Part3Accepts generator secret round1Packages round2Packages →
      ∃ result, core.part3 secret round1Packages round2Packages = .ok result

end Results

end Frost
end MinaMultiSig
