import MinaMultiSig.Frost.ThresholdSignature
import MinaMultiSig.Library.EntryMap

/-!
# Keys from a dealer

The functions of `frost-core` that deal keys, take shares and draw nonces, which
`frost-bluepallas/src/keys.rs` passes on, as parameters. What a dealer returns
is determined by the coefficients of a polynomial and the identifiers.
-/

namespace MinaMultiSig
namespace Frost

open ShamirSharing

variable {ε F G R : Type}

/-- The identifiers a dealer is asked for. -/
inductive IdentifierList (F : Type) [Zero F]
  | default
  | custom (identifiers : List (Identifier F))

/-- A share with the commitments to the coefficients. -/
structure SecretShare (F G : Type) [Zero F] where
  identifier : Identifier F
  signingShare : F
  commitment : List G

/-- What a dealer returns. -/
structure DealerOutput (F G : Type) [Zero F] where
  shares : EntryMap (Identifier F) (SecretShare F G)
  pubkeyPackage : PublicKeyPackage F G

/-- The functions of `frost-core` that keys and nonces come from. A random
generator is a state that the functions pass on. -/
structure FrostKeys (ε F G R : Type) [Zero F] where
  generateWithDealer : UInt16 → UInt16 → IdentifierList F → R →
    Outcome ε (DealerOutput F G) × R
  split : F → UInt16 → UInt16 → IdentifierList F → R →
    Outcome ε (DealerOutput F G) × R
  keyPackage : SecretShare F G → Outcome ε (KeyPackage F G)
  identifier : UInt16 → Outcome ε (Identifier F)
  malformedIdentifier : ε
  commit : F → R → (SigningNonces F × SigningCommitments G) × R

/-- The output comes from a dealer. -/
def FrostKeys.Deals
    [Zero F]
    (keys : FrostKeys ε F G R)
    (maxSigners minSigners : UInt16)
    (list : IdentifierList F)
    (output : DealerOutput F G) : Prop :=
  ∃ rng rest,
    keys.generateWithDealer maxSigners minSigners list rng =
        (.ok output, rest) ∨
      ∃ key, keys.split key maxSigners minSigners list rng = (.ok output, rest)

/-- The scalars of the identifiers that are asked for. -/
def IdentifierList.Lists
    [Field F]
    (maxSigners : UInt16)
    (scalar : F) : IdentifierList F → Prop
  | default =>
      ∃ number, 1 ≤ number ∧ number ≤ maxSigners.toNat ∧ scalar = (number : F)
  | custom identifiers => ∃ identifier ∈ identifiers, identifier.val = scalar

/-- A polynomial with at least two coefficients, and identifiers for as many
holders of shares or more. -/
structure DealtKey (F : Type) [Zero F] where
  coefficients : List F
  identifiers : List (Identifier F)
  distinct : identifiers.Nodup
  two : 2 ≤ coefficients.length
  enough : coefficients.length ≤ identifiers.length

namespace DealtKey

variable [Field F] [AddCommGroup G] [Module F G]
  (dealt : DealtKey F) (generator : G)

/-- The value of the polynomial at an identifier. -/
def signingShare (identifier : Identifier F) : F :=
  evaluate dealt.coefficients identifier

/-- The public key of the value at zero. -/
def verifyingKey : G :=
  evaluate dealt.coefficients 0 • generator

/-- The share of a holder as the dealer hands it over. -/
def secretShare (identifier : Identifier F) : SecretShare F G :=
  { identifier := identifier
    signingShare := dealt.signingShare identifier
    commitment := dealt.coefficients.map (· • generator) }

/-- The key package a holder makes of its share. -/
def keyPackage (identifier : Identifier F) : KeyPackage F G :=
  { identifier := identifier
    signingShare := dealt.signingShare identifier
    verifyingKey := dealt.verifyingKey generator
    minSigners := dealt.coefficients.length }

/-- The shares and the public package of the key. -/
def output : DealerOutput F G :=
  { shares :=
      { entries := dealt.identifiers.map fun identifier =>
          (identifier, dealt.secretShare generator identifier)
        distinct := by
          simpa [Function.comp_def] using dealt.distinct }
    pubkeyPackage :=
      { verifyingShares := dealt.identifiers.map fun identifier =>
          (identifier, dealt.signingShare identifier • generator)
        verifyingKey := dealt.verifyingKey generator
        minSigners := some dealt.coefficients.length } }

/-- The key is what a dealer was asked for. -/
structure IsFor
    (maxSigners minSigners : UInt16)
    (list : IdentifierList F) : Prop where
  threshold : dealt.coefficients.length = minSigners.toNat
  holders : dealt.identifiers.length = maxSigners.toNat
  scalars : ∀ scalar, (∃ identifier ∈ dealt.identifiers,
    identifier.val = scalar) ↔ list.Lists maxSigners scalar

end DealtKey

section Documented

variable [Field F] [AddCommGroup G] [Module F G]

/-- The share is the value the commitments commit to. -/
def SecretShare.Verifies (share : SecretShare F G) (generator : G) : Prop :=
  share.signingShare • generator =
    commitmentAt share.commitment share.identifier.val

/-- The assumptions on the functions that keys and nonces come from. -/
structure FrostKeys.Documented
    (keys : FrostKeys ε F G R)
    (generator : G) : Prop where
  /-- A dealer returns the shares of a polynomial. -/
  of_deals : ∀ maxSigners minSigners list output,
    keys.Deals maxSigners minSigners list output →
      ∃ dealt : DealtKey F, dealt.IsFor maxSigners minSigners list ∧
        output = dealt.output generator
  /-- A share that verifies is taken. -/
  keyPackage_eq : ∀ share : SecretShare F G,
    share.commitment ≠ [] → share.Verifies generator →
      keys.keyPackage share = .ok
        { identifier := share.identifier
          signingShare := share.signingShare
          verifyingKey := share.commitment.headD 0
          minSigners := share.commitment.length }
  /-- A number that is not zero as a scalar is an identifier. -/
  identifier_eq : ∀ number (nonzero : (number.toNat : F) ≠ 0),
    keys.identifier number = .ok ⟨number.toNat, nonzero⟩
  /-- Nonces come with their commitments. -/
  commit_eq : ∀ share rng,
    (keys.commit share rng).1.2 =
      (keys.commit share rng).1.1.commitments generator

/-- A signer does not sign a package with too few commitments. -/
def FrostCore.RefusesFewCommitments (frost : FrostCore ε F G) : Prop :=
  ∀ suite package nonces (key : KeyPackage F G),
    package.commitments.length < key.minSigners →
      ∃ reason, frost.sign suite package nonces key = .error (.error reason)

namespace DealtKey

variable {keys : FrostKeys ε F G R} {generator : G}

/-- The shares of a dealer verify. -/
theorem verifies_secretShare
    (dealt : DealtKey F)
    (identifier : Identifier F) :
    (dealt.secretShare generator identifier).Verifies generator :=
  (commitmentAt_smul dealt.coefficients generator identifier.val).symm

theorem keyPackage_secretShare
    (documented : keys.Documented generator)
    (dealt : DealtKey F)
    (identifier : Identifier F) :
    keys.keyPackage (dealt.secretShare generator identifier) =
      .ok (dealt.keyPackage generator identifier) := by
  obtain ⟨coefficients, identifiers, distinct, two, enough⟩ := dealt
  obtain ⟨first, rest, rfl⟩ := List.exists_cons_of_length_pos
    (show 0 < coefficients.length by omega)
  rw [documented.keyPackage_eq _ (by simp [secretShare])
    (verifies_secretShare _ identifier)]
  simp [secretShare, keyPackage, verifyingKey, evaluate]

end DealtKey

end Documented

end Frost
end MinaMultiSig
