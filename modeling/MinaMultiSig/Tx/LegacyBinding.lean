import MinaMultiSig.Tx.Legacy

/-!
# What the input of a legacy transaction binds

Every item of an input has a fixed width, so that each `append` can be undone
from the end. A legacy transaction is recovered from its input, and inputs of
one shape from the field elements they are packed into.
-/

namespace MinaMultiSig
namespace Tx

section Appending

namespace ROInput

variable {first second : ROInput}

/-- Inputs with bits of one length behind them are told apart. -/
theorem append_bits_inj
    {firstBits secondBits : List Bool}
    (lengths : firstBits.length = secondBits.length)
    (same : { first with bits := first.bits ++ firstBits } =
      { second with bits := second.bits ++ secondBits }) :
    first = second ∧ firstBits = secondBits := by
  obtain ⟨fields, bits⟩ := ROInput.mk.inj same
  obtain ⟨front, behind⟩ := List.append_inj' bits lengths
  exact ⟨ROInput.ext fields front, behind⟩

theorem appendField_inj
    {field other : Fp}
    (same : first.appendField field = second.appendField other) :
    first = second ∧ field = other := by
  obtain ⟨fields, bits⟩ := ROInput.mk.inj same
  obtain ⟨front, behind⟩ := List.append_inj' fields rfl
  exact ⟨ROInput.ext front bits, List.singleton_inj.mp behind⟩

theorem appendBool_inj
    {bit other : Bool}
    (same : first.appendBool bit = second.appendBool other) :
    first = second ∧ bit = other := by
  obtain ⟨front, behind⟩ :=
    @append_bits_inj first second [bit] [other] rfl same
  exact ⟨front, List.singleton_inj.mp behind⟩

theorem foldl_appendBool_inj
    {bits others : List Bool}
    (lengths : bits.length = others.length)
    (same : bits.foldl appendBool first = others.foldl appendBool second) :
    first = second ∧ bits = others := by
  rw [foldl_appendBool, foldl_appendBool] at same
  exact append_bits_inj lengths same

theorem appendBytes_inj
    {bytes others : List UInt8}
    (lengths : bytes.length = others.length)
    (same : first.appendBytes bytes = second.appendBytes others) :
    first = second ∧ bytes = others := by
  have bitLengths : (bitsOfBytes bytes).length =
      (bitsOfBytes others).length := by
    rw [length_bitsOfBytes, length_bitsOfBytes, lengths]
  obtain ⟨front, behind⟩ := append_bits_inj bitLengths same
  exact ⟨front, bitsOfBytes_inj lengths behind⟩

/-- Numbers that fit are told apart by their bytes. -/
theorem appendBytes_leBytes_inj
    {count number other : Nat}
    (fits : number < 256 ^ count)
    (otherFits : other < 256 ^ count)
    (same : first.appendBytes (leBytes count number) =
      second.appendBytes (leBytes count other)) :
    first = second ∧ number = other := by
  obtain ⟨front, bytes⟩ := appendBytes_inj
    (by rw [length_leBytes, length_leBytes]) same
  refine ⟨front, ?_⟩
  rw [← littleEndian_leBytes fits, bytes, littleEndian_leBytes otherFits]

theorem appendU32_inj
    {number other : UInt32}
    (same : first.appendU32 number = second.appendU32 other) :
    first = second ∧ number = other := by
  obtain ⟨front, numbers⟩ :=
    appendBytes_leBytes_inj number.toNat_lt other.toNat_lt same
  exact ⟨front, UInt32.toNat_inj.mp numbers⟩

theorem appendU64_inj
    {number other : UInt64}
    (same : first.appendU64 number = second.appendU64 other) :
    first = second ∧ number = other := by
  obtain ⟨front, numbers⟩ :=
    appendBytes_leBytes_inj number.toNat_lt other.toNat_lt same
  exact ⟨front, UInt64.toNat_inj.mp numbers⟩

/-- Inputs of one shape are told apart by the field elements they are packed
into. -/
theorem toFields_inj
    (fieldCounts : first.fields.length = second.fields.length)
    (bitCounts : first.bits.length = second.bits.length)
    (same : first.toFields = second.toFields) :
    first = second := by
  obtain ⟨fields, chunks⟩ := List.append_inj same fieldCounts
  have filled := (map_natCast_chunksOf_eq_iff _ _).mp chunks
  exact ROInput.ext fields (List.append_inj filled bitCounts).1

end ROInput

end Appending

namespace LegacyTransaction

/-- A legacy transaction is recovered from its input. -/
theorem toRoinput_injective : Function.Injective toRoinput := by
  intro first second same
  unfold toRoinput at same
  -- from the last item of the input to the first
  obtain ⟨same, tokenLocked⟩ := ROInput.appendBool_inj same
  obtain ⟨same, amount⟩ := ROInput.appendU64_inj same
  obtain ⟨same, tokenId⟩ := ROInput.appendU64_inj same
  obtain ⟨same, receiverIsOdd⟩ := ROInput.appendBool_inj same
  obtain ⟨same, sourceIsOdd⟩ := ROInput.appendBool_inj same
  obtain ⟨same, tag⟩ := ROInput.foldl_appendBool_inj
    (by rw [Vector.length_toList, Vector.length_toList]) same
  obtain ⟨same, memo⟩ := ROInput.appendBytes_inj
    (by rw [Vector.length_toList, Vector.length_toList]) same
  obtain ⟨same, validUntil⟩ := ROInput.appendU32_inj same
  obtain ⟨same, nonce⟩ := ROInput.appendU32_inj same
  obtain ⟨same, feePayerIsOdd⟩ := ROInput.appendBool_inj same
  obtain ⟨same, feeToken⟩ := ROInput.appendU64_inj same
  obtain ⟨same, fee⟩ := ROInput.appendU64_inj same
  obtain ⟨same, receiverX⟩ := ROInput.appendField_inj same
  obtain ⟨same, sourceX⟩ := ROInput.appendField_inj same
  obtain ⟨-, feePayerX⟩ := ROInput.appendField_inj same
  exact LegacyTransaction.ext fee feeToken
    (CompressedPubKey.ext feePayerX feePayerIsOdd) nonce validUntil
    (Vector.toList_inj.mp memo) (Vector.toList_inj.mp tag)
    (CompressedPubKey.ext sourceX sourceIsOdd)
    (CompressedPubKey.ext receiverX receiverIsOdd) tokenId amount tokenLocked

end LegacyTransaction

end Tx
end MinaMultiSig
