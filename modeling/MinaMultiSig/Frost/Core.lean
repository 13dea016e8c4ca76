import MinaMultiSig.Library.Outcome
import MinaMultiSig.Library.ShamirSharing

/-!
# The interface to FROST

The types of `frost-core` that signing uses, its functions as parameters, and
what is assumed of them: the binding factors are computed once from the package
a signer is given, a share is the nonces weighted by the binding factor and the
weighted secret share times the challenge, and the group commitment is the sum
of the commitments in the package that a hook of the ciphersuite returns.
-/

namespace MinaMultiSig
namespace Frost

open ShamirSharing

variable {ε F G : Type}

/-- The identifier of a signer: a scalar other than zero. -/
abbrev Identifier (F : Type) [Zero F] : Type :=
  { scalar : F // scalar ≠ 0 }

/-- The commitments to the nonces of a signer. -/
@[ext]
structure SigningCommitments (G : Type) where
  hidingPart : G
  bindingPart : G
  deriving DecidableEq

/-- The nonces of a signer. -/
@[ext]
structure SigningNonces (F : Type) where
  hidingPart : F
  bindingPart : F
  deriving DecidableEq

/-- The commitments of every signer and the message to sign. -/
@[ext]
structure SigningPackage (F G : Type) [Zero F] where
  commitments : List (Identifier F × SigningCommitments G)
  message : List UInt8
  distinct : (commitments.map Prod.fst).Nodup

/-- The binding factors of the signers. -/
abbrev BindingFactorList (F : Type) [Zero F] : Type :=
  Identifier F → Option F

/-- The secret share of a signer and the key of the group. -/
structure KeyPackage (F G : Type) [Zero F] where
  identifier : Identifier F
  signingShare : F
  verifyingKey : G
  minSigners : Nat

/-- The holders of shares, the key of the group, and how many have to sign. -/
structure PublicKeyPackage (F G : Type) [Zero F] where
  verifyingShares : List (Identifier F × G)
  verifyingKey : G
  minSigners : Option Nat

/-- A Schnorr signature. -/
structure Signature (F G : Type) where
  R : G
  z : F
  deriving DecidableEq

/-- What a ciphersuite decides: the challenge, and what is done to the package
and the nonces before the group commitment is computed. -/
structure Ciphersuite (ε F G : Type) [Zero F] where
  challenge : G → G → List UInt8 → Outcome ε F
  preCommitmentSign : SigningPackage F G → SigningNonces F →
    BindingFactorList F →
      Outcome ε (SigningPackage F G × SigningNonces F)
  preCommitmentAggregate : SigningPackage F G → BindingFactorList F →
    Outcome ε (SigningPackage F G)

section Arithmetic

variable [Field F] [AddCommGroup G] [Module F G]

/-- The commitments to nonces. -/
def SigningNonces.commitments
    (generator : G)
    (nonces : SigningNonces F) : SigningCommitments G :=
  { hidingPart := nonces.hidingPart • generator
    bindingPart := nonces.bindingPart • generator }

/-- The identifiers of a package as scalars. -/
def SigningPackage.nodes
    [DecidableEq F]
    (package : SigningPackage F G) : Finset F :=
  (package.commitments.map fun entry => entry.1.val).toFinset

/-- The sum of the commitments, the binding ones weighted by their factors. -/
def SigningPackage.commitmentSum
    (package : SigningPackage F G)
    (factors : BindingFactorList F) : G :=
  (package.commitments.map fun entry =>
    entry.2.hidingPart + (factors entry.1).getD 0 • entry.2.bindingPart).sum

/-- No commitment is the identity, and every signer has a binding factor. -/
def SigningPackage.Usable
    (package : SigningPackage F G)
    (factors : BindingFactorList F) : Prop :=
  ∀ entry ∈ package.commitments,
    entry.2.hidingPart ≠ 0 ∧ entry.2.bindingPart ≠ 0 ∧
      (factors entry.1).isSome

end Arithmetic

/-- The functions of `frost-core` that signing uses. -/
structure FrostCore (ε F G : Type) [Zero F] where
  computeBindingFactorList :
    SigningPackage F G → G → Outcome ε (BindingFactorList F)
  computeGroupCommitment :
    SigningPackage F G → BindingFactorList F → Outcome ε G
  sign : Ciphersuite ε F G → SigningPackage F G → SigningNonces F →
    KeyPackage F G → Outcome ε F
  aggregate : Ciphersuite ε F G → SigningPackage F G →
    List (Identifier F × F) → PublicKeyPackage F G →
      Outcome ε (Signature F G)

section Documented

variable [Field F] [DecidableEq F] [AddCommGroup G] [Module F G]

/-- What signing and aggregating have in common: the binding factors of the
package, the package of the hook, and the group commitment over it. -/
structure Prepared
    (frost : FrostCore ε F G)
    (hook : BindingFactorList F → Outcome ε (SigningPackage F G))
    (package : SigningPackage F G)
    (verifyingKey : G)
    (factors : BindingFactorList F)
    (hooked : SigningPackage F G)
    (commitment : G) : Prop where
  factorsEq : frost.computeBindingFactorList package verifyingKey = .ok factors
  hookedEq : hook factors = .ok hooked
  commitmentEq : frost.computeGroupCommitment hooked factors = .ok commitment

/-- The assumptions on `frost-core`. -/
structure FrostCore.Documented
    (frost : FrostCore ε F G)
    (generator : G) : Prop where
  /-- The group commitment is the sum of the commitments. -/
  computeGroupCommitment_eq_ok_iff : ∀ package factors commitment,
    frost.computeGroupCommitment package factors = .ok commitment ↔
      package.Usable factors ∧ commitment = package.commitmentSum factors
  /-- A signer of the package signs with the package and the nonces of the
  hook, and with the factors of the package it was given. -/
  sign_eq_ok_iff : ∀ suite package nonces (key : KeyPackage F G) share,
    key.minSigners ≤ package.commitments.length →
    (key.identifier, nonces.commitments generator) ∈ package.commitments →
      (frost.sign suite package nonces key = .ok share ↔
        ∃ factors hooked hookedNonces commitment factor challenge,
          Prepared frost
              (fun factors =>
                (suite.preCommitmentSign package nonces factors).map Prod.fst)
              package key.verifyingKey factors hooked commitment ∧
            (suite.preCommitmentSign package nonces factors).map Prod.snd =
              .ok hookedNonces ∧
            factors key.identifier = some factor ∧
            key.identifier.val ∈ hooked.nodes ∧
            suite.challenge commitment key.verifyingKey hooked.message =
              .ok challenge ∧
            share =
              hookedNonces.hidingPart + hookedNonces.bindingPart * factor +
                interpolatingValue hooked.nodes key.identifier *
                  key.signingShare * challenge)
  /-- Aggregation adds up the shares. -/
  of_aggregate : ∀ suite package shares (keys : PublicKeyPackage F G) signature,
    frost.aggregate suite package shares keys = .ok signature →
      ∃ factors hooked commitment,
        Prepared frost
            (fun factors => suite.preCommitmentAggregate package factors)
            package keys.verifyingKey factors hooked commitment ∧
          signature = { R := commitment, z := (shares.map Prod.snd).sum }
  /-- Aggregation returns a signature that verifies. -/
  aggregate_of_verifies : ∀ suite package shares (keys : PublicKeyPackage F G)
      factors hooked commitment challenge,
    shares.map Prod.fst = package.commitments.map Prod.fst →
    (∀ minSigners ∈ keys.minSigners, minSigners ≤ shares.length) →
    (∀ entry ∈ package.commitments,
      entry.1 ∈ keys.verifyingShares.map Prod.fst) →
    Prepared frost
      (fun factors => suite.preCommitmentAggregate package factors)
      package keys.verifyingKey factors hooked commitment →
    suite.challenge commitment keys.verifyingKey hooked.message =
      .ok challenge →
    (shares.map Prod.snd).sum • generator =
      commitment + challenge • keys.verifyingKey →
      frost.aggregate suite package shares keys =
        .ok { R := commitment, z := (shares.map Prod.snd).sum }

end Documented

end Frost
end MinaMultiSig
