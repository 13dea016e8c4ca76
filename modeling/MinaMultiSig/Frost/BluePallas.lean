import MinaMultiSig.Frost.Core
import MinaMultiSig.Tx.PallasMessage

/-!
# The ciphersuite for Mina

The hooks of `frost-bluepallas/src/lib.rs` and the negations of `negate.rs`,
which make the group commitment have an even ordinate, the challenge of
`mina-tx/src/pallas_message.rs`, and the check Mina makes of a signature. The
coordinates of the curve and the hash of `mina-hasher` are parameters.
-/

namespace MinaMultiSig
namespace Frost

open Tx

variable {ε F G : Type}

/-- The affine coordinates of the group elements. -/
structure Coordinates (G : Type) where
  x : G → Fp
  y : G → Fp

/-- An element and its inverse have one abscissa and opposite ordinates, and
only the identity is its own inverse. -/
structure Coordinates.Lawful
    [AddCommGroup G]
    (curve : Coordinates G) : Prop where
  x_neg : ∀ point, curve.x (-point) = curve.x point
  y_neg : ∀ point, curve.y (-point) = -curve.y point
  y_ne_zero : ∀ point, point ≠ 0 → curve.y point ≠ 0

/-- Whether an element of the base field is even as a number. -/
def isEven (field : Fp) : Bool :=
  field.val % 2 == 0

/-- The negation of an odd element is even. -/
theorem isEven_neg
    {field : Fp}
    (odd : isEven field = false) :
    isEven (-field) = true := by
  have oddVal : field.val % 2 = 1 := by
    have : field.val % 2 ≠ 0 := by simpa [isEven] using odd
    omega
  have nonzero : field ≠ 0 := by
    rintro rfl
    simp at oddVal
  have below : field.val < fpModulus := ZMod.val_lt field
  have modulusOdd : fpModulus % 2 = 1 := by decide
  have negVal : (-field).val = fpModulus - field.val := by
    rw [ZMod.neg_val, if_neg nonzero]
  rw [isEven, negVal, beq_iff_eq]
  omega

section Negation

variable [Field F] [AddCommGroup G]

/-- Both nonces negated. -/
def SigningNonces.negateY (nonces : SigningNonces F) : SigningNonces F :=
  { hidingPart := -nonces.hidingPart, bindingPart := -nonces.bindingPart }

/-- Both commitments negated. -/
def SigningCommitments.negateY
    (commitments : SigningCommitments G) : SigningCommitments G :=
  { hidingPart := -commitments.hidingPart
    bindingPart := -commitments.bindingPart }

/-- All commitments of a package negated. -/
def SigningPackage.negateY
    (package : SigningPackage F G) : SigningPackage F G :=
  { commitments := package.commitments.map fun entry =>
      (entry.1, entry.2.negateY)
    message := package.message
    distinct := by
      rw [List.map_map]
      exact package.distinct }

end Negation

section Challenge

/-- The hash of `mina-hasher` with its legacy and its other parameters, of a
domain string and the field elements of an input. -/
structure MinaHasher where
  legacy : String → List Fp → Fp
  kimchi : String → List Fp → Fp

variable [Field F] (curve : Coordinates G) (hasher : MinaHasher)

/-- The field elements that are hashed for an input, a public key and the
abscissa of a commitment. -/
def hashedFields
    (pubKey : G)
    (rx : Fp)
    (input : ROInput) : List Fp :=
  let roi := input
    |>.appendField (curve.x pubKey)
    |>.appendField (curve.y pubKey)
    |>.appendField rx
  roi.toFields

/-- The hash of a message with a public key and the abscissa of a commitment,
as a scalar. -/
def messageHash
    (pubKey : G)
    (rx : Fp)
    (input : ROInput)
    (networkId : NetworkId)
    (isLegacy : Bool) : F :=
  let fields := hashedFields curve pubKey rx input
  let scalarOutput :=
    if isLegacy then hasher.legacy networkId.intoDomainString fields
    else hasher.kimchi networkId.intoDomainString fields
  (scalarOutput.val : F)

/-- `PallasMessage::challenge`: bytes that are no encoded message are hashed as
they are. -/
def challenge
    (codec : ROInputCodec)
    (r verifyingKey : G)
    (message : List UInt8) : Outcome ε F := do
  let rx := curve.x r
  let msg ← (PallasMessage.deserialize codec message).unwrapOr
    (.fromRawBytesDefault message)
  return messageHash curve hasher verifyingKey rx msg.input msg.networkId
    msg.isLegacy

end Challenge

section Hooks

variable [Field F] [AddCommGroup G] (frost : FrostCore ε F G)
  (curve : Coordinates G)

/-- Negate the commitments if the group commitment has an odd ordinate. -/
def preCommitmentAggregate
    (signingPackage : SigningPackage F G)
    (bindingFactorList : BindingFactorList F) :
    Outcome ε (SigningPackage F G) := do
  let commit ←
    frost.computeGroupCommitment signingPackage bindingFactorList
  if isEven (curve.y commit) then return signingPackage
  return signingPackage.negateY

/-- Negate the nonces too: a signer knows its own ones. -/
def preCommitmentSign
    (signingPackage : SigningPackage F G)
    (signingNonces : SigningNonces F)
    (bindingFactorList : BindingFactorList F) :
    Outcome ε (SigningPackage F G × SigningNonces F) := do
  let commit ←
    frost.computeGroupCommitment signingPackage bindingFactorList
  if isEven (curve.y commit) then return (signingPackage, signingNonces)
  return (signingPackage.negateY, signingNonces.negateY)

/-- The ciphersuite with the challenge of a type of messages. -/
def bluePallasOf
    (challengeOf : G → G → List UInt8 → Outcome ε F) : Ciphersuite ε F G :=
  { challenge := challengeOf
    preCommitmentSign := preCommitmentSign frost curve
    preCommitmentAggregate := preCommitmentAggregate frost curve }

/-- The ciphersuite. -/
def bluePallas
    (hasher : MinaHasher)
    (codec : ROInputCodec) : Ciphersuite ε F G :=
  { challenge := challenge curve hasher codec
    preCommitmentSign := preCommitmentSign frost curve
    preCommitmentAggregate := preCommitmentAggregate frost curve }

end Hooks

section Mina

/-- A signature in the form of `mina-signer`. -/
structure MinaSig (F : Type) where
  rx : Fp
  s : F

/-- `translate_sig`: of `R` only the coordinate stays. -/
def translateSig
    (curve : Coordinates G)
    (signature : Signature F G) : MinaSig F :=
  { rx := curve.x signature.R, s := signature.z }

variable [Field F] [AddCommGroup G] [Module F G]

/-- The check Mina makes of a signature for a challenge. -/
structure MinaValid
    (curve : Coordinates G)
    (generator publicKey : G)
    (challenge : F)
    (signature : MinaSig F) : Prop where
  notIdentity : signature.s • generator - challenge • publicKey ≠ 0
  evenOrdinate :
    isEven (curve.y (signature.s • generator - challenge • publicKey))
  sameAbscissa :
    curve.x (signature.s • generator - challenge • publicKey) = signature.rx

end Mina

end Frost
end MinaMultiSig
