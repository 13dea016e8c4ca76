import MinaMultiSig.Tx.Field

/-!
# Keys and signatures and their texts

Public keys of `mina-signer`, base58check text (`mina-tx/src/base58.rs`) and
signatures (`mina-tx/src/signatures.rs`). The keys and addresses of
`mina-signer`, the texts of field elements of `ark-ff`, the base58 digits of
`bs58` and the digest of `sha2` are parameters.
-/

namespace MinaMultiSig
namespace Tx

/-- A compressed public key: the abscissa and the parity of the ordinate. -/
@[ext]
structure CompressedPubKey where
  x : Fp
  isOdd : Bool
  deriving DecidableEq

/-- The key that stands for none. -/
def CompressedPubKey.empty : CompressedPubKey :=
  { x := 0, isOdd := false }

/-- Public keys of `mina-signer`, and the addresses that stand for them. -/
structure MinaSigner where
  PubKey : Type
  intoCompressed : PubKey → CompressedPubKey
  intoAddress : CompressedPubKey → String
  pubKeyFromAddress : String → Except String PubKey
  compressedFromAddress : String → Except String CompressedPubKey

section Base58Check

/-- The version byte of a signature in base58check. -/
def signatureVersionByte : UInt8 :=
  154

/-- The first byte of an encoded signature. -/
def signatureVersionNumber : UInt8 :=
  1

/-- The version byte of a memo in base58check. -/
def memoVersionByte : UInt8 :=
  20

/-- The version byte of a token identifier in base58check. -/
def tokenIdVersionByte : UInt8 :=
  28

/-- Base58 digits and the digest behind the checksums. -/
structure Base58 where
  encode : List UInt8 → String
  decode : String → Option (List UInt8)
  digest : List UInt8 → List UInt8

/-- Why a base58check text is refused. -/
inductive Base58Error
  | invalidBase58
  | tooShort
  | invalidVersionByte (expected actual : UInt8)
  | invalidChecksum
  | invalidLength (expected actual : Nat)
  deriving DecidableEq

variable (base58 : Base58)

/-- The first four bytes of the double digest. -/
def computeChecksum (input : List UInt8) : List UInt8 :=
  (base58.digest (base58.digest input)).take 4

/-- Version byte, input and checksum in base58 digits. -/
def toBase58Check (input : List UInt8) (versionByte : UInt8) : String :=
  let withVersion := versionByte :: input
  base58.encode (withVersion ++ computeChecksum base58 withVersion)

/-- The bytes between the version byte and the checksum, both verified. -/
def fromBase58Check
    (input : String)
    (expectedVersionByte : UInt8) : Except Base58Error (List UInt8) :=
  match base58.decode input with
  | none => .error .invalidBase58
  | some bytes =>
      if bytes.length < 5 then .error .tooShort
      else
        let versionByte := bytes.headD 0
        if versionByte ≠ expectedVersionByte then
          .error (.invalidVersionByte expectedVersionByte versionByte)
        else
          let payloadWithVersion := bytes.take (bytes.length - 4)
          let providedChecksum := bytes.drop (bytes.length - 4)
          if providedChecksum ≠ computeChecksum base58 payloadWithVersion then
            .error .invalidChecksum
          else .ok payloadWithVersion.tail

/-- Base58 digits and bytes stand for each other, and a digest has 32 bytes. -/
structure Base58.Lawful : Prop where
  decode_eq_some_iff : ∀ text bytes,
    base58.decode text = some bytes ↔ text = base58.encode bytes
  length_digest : ∀ input, (base58.digest input).length = 32

variable {base58}

theorem fromBase58Check_toBase58Check
    (lawful : base58.Lawful)
    (input : List UInt8)
    (versionByte : UInt8) :
    fromBase58Check base58 (toBase58Check base58 input versionByte)
        versionByte = .ok input := by
  have length_checksum : ∀ bytes, (computeChecksum base58 bytes).length = 4 := by
    intro bytes
    rw [computeChecksum, List.length_take, lawful.length_digest]
    rfl
  have decoded : base58.decode (toBase58Check base58 input versionByte) =
      some (versionByte :: input ++
        computeChecksum base58 (versionByte :: input)) :=
    (lawful.decode_eq_some_iff _ _).mpr rfl
  have length : (versionByte :: input ++
      computeChecksum base58 (versionByte :: input)).length =
        (versionByte :: input).length + 4 := by
    rw [List.length_append, length_checksum]
  have enough : ¬(versionByte :: input).length + 4 < 5 := by
    rw [List.length_cons]
    omega
  simp only [fromBase58Check, decoded, length, if_neg enough,
    Nat.add_sub_cancel, List.take_left, List.drop_left]
  simp

end Base58Check

/-- Keys are recovered from their addresses. -/
structure MinaSigner.Lawful (signer : MinaSigner) : Prop where
  compressedFromAddress_intoAddress : ∀ text key,
    signer.compressedFromAddress text = .ok key →
      signer.compressedFromAddress (signer.intoAddress key) = .ok key
  pubKeyFromAddress_intoAddress : ∀ text key,
    signer.pubKeyFromAddress text = .ok key →
      signer.pubKeyFromAddress
        (signer.intoAddress (signer.intoCompressed key)) = .ok key

/-- The decimal texts of field elements. -/
structure FieldText where
  toString : Fp → String
  parse : String → Option Fp

/-- Field elements are recovered from their texts. -/
structure FieldText.Lawful (text : FieldText) : Prop where
  parse_toString : ∀ field, text.parse (text.toString field) = some field

/-- A number of 256 bits in four limbs, the lowest first. -/
abbrev BigInt : Type :=
  Vector UInt64 4

/-- A signature as it is written to files. -/
structure Sig where
  field : BigInt
  scalar : BigInt
  deriving DecidableEq

namespace Sig

/-- The limbs in little-endian order. -/
def bigintToBytes (value : BigInt) : List UInt8 :=
  value.toList.flatMap fun limb => leBytes 8 limb.toNat

/-- The version number, the field and the scalar. -/
def toBytes (signature : Sig) : List UInt8 :=
  signatureVersionNumber ::
    (bigintToBytes signature.field ++ bigintToBytes signature.scalar)

/-- The base58check text of a signature. -/
def toBase58 (base58 : Base58) (signature : Sig) : String :=
  toBase58Check base58 signature.toBytes signatureVersionByte

end Sig

end Tx
end MinaMultiSig
