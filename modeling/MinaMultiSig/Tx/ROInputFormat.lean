import MinaMultiSig.Tx.PallasMessage

/-!
# The bytes of random oracle inputs

The law of `ROInput::serialize` and `ROInput::deserialize`, and a codec that
meets it: the numbers of fields and bits in four bytes each, 32 bytes for each
field, and the bits packed into bytes.
-/

namespace MinaMultiSig
namespace Tx
namespace ROInputCodec

/-- Short bytes are read as the input they are written for, and no others. -/
def Lawful (codec : ROInputCodec) : Prop :=
  ∀ bytes input, bytes.length < 2 ^ 32 →
    (codec.deserialize bytes = some input ↔ codec.serialize input = bytes)

section Reference

/-- The bits packed into bytes, with zeros in the last one. -/
def bytesOfBits (bits : List Bool) : List UInt8 :=
  ((chunksOf 8 bits).map bitsToNat).map UInt8.ofNat

theorem bitsOfBytes_bytesOfBits (bits : List Bool) :
    bitsOfBytes (bytesOfBits bits) = padded 8 bits := by
  rw [← flatMap_chunksOf (by decide)]
  unfold bitsOfBytes bytesOfBits
  rw [List.flatMap_map]
  unfold List.flatMap
  apply congrArg List.flatten
  apply List.map_congr_left
  intro number member
  rw [UInt8.toNat_ofNat', Nat.mod_eq_of_lt (lt_of_mem_map_chunksOf member)]
  rfl

/-- A field element in little-endian order. -/
def fieldBytes (field : Fp) : List UInt8 :=
  leBytes 32 field.val

/-- The numbers of fields and bits, the fields, and the bits in bytes. -/
def writeInput (input : ROInput) : List UInt8 :=
  leBytes 4 input.fields.length ++ (leBytes 4 input.bits.length ++
    (input.fields.flatMap fieldBytes ++ bytesOfBits input.bits))

/-- Fields of 32 bytes each. -/
def readFields : Nat → List UInt8 → List Fp
  | 0, _ => []
  | count + 1, bytes =>
      (littleEndian (bytes.take 32) : Fp) :: readFields count (bytes.drop 32)

/-- The input that was written as these bytes. -/
def readInput (bytes : List UInt8) : ROInput :=
  let fieldCount := littleEndian (bytes.take 4)
  let bitCount := littleEndian ((bytes.drop 4).take 4)
  { fields := readFields fieldCount (bytes.drop 8)
    bits := (bitsOfBytes (bytes.drop (8 + 32 * fieldCount))).take bitCount }

/-- The numbers of fields and bits have four bytes each. -/
def Counted (input : ROInput) : Prop :=
  input.fields.length < 2 ^ 32 ∧ input.bits.length < 2 ^ 32

instance (input : ROInput) : Decidable (Counted input) :=
  inferInstanceAs (Decidable (_ ∧ _))

/-- Inputs with more fields or bits are written as longer bytes. -/
def reference : ROInputCodec :=
  { serialize := fun input =>
      if Counted input then writeInput input
      else writeInput input ++ List.replicate (2 ^ 32) 0
    deserialize := fun bytes =>
      let fieldCount := littleEndian (bytes.take 4)
      let bitCount := littleEndian ((bytes.drop 4).take 4)
      if bytes.length = 8 + 32 * fieldCount + (bitCount + 7) / 8 then
        let input := readInput bytes
        if Counted input ∧ writeInput input = bytes then some input else none
      else none }

theorem readFields_flatMap (fields : List Fp) (rest : List UInt8) :
    readFields fields.length (fields.flatMap fieldBytes ++ rest) = fields := by
  induction fields with
  | nil => rfl
  | cons field fields ih =>
      have below : field.val < 256 ^ 32 :=
        (ZMod.val_lt field).trans (by decide)
      have length : (fieldBytes field).length = 32 := length_leBytes 32 _
      rw [List.length_cons, readFields, List.flatMap_cons, List.append_assoc,
        List.take_left' length, List.drop_left' length, ih, fieldBytes,
        littleEndian_leBytes below, ZMod.natCast_zmod_val]

theorem length_flatMap_fieldBytes (fields : List Fp) :
    (fields.flatMap fieldBytes).length = 32 * fields.length := by
  induction fields with
  | nil => rfl
  | cons field fields ih =>
      rw [List.flatMap_cons, List.length_append, ih, fieldBytes,
        length_leBytes, List.length_cons]
      omega

section Written

variable {input : ROInput} (counted : Counted input)
include counted

theorem fieldCount_writeInput :
    littleEndian ((writeInput input).take 4) = input.fields.length := by
  unfold writeInput
  rw [List.take_left' (length_leBytes 4 _)]
  exact littleEndian_leBytes counted.1

omit counted in
theorem drop_four_writeInput :
    (writeInput input).drop 4 = leBytes 4 input.bits.length ++
      (input.fields.flatMap fieldBytes ++ bytesOfBits input.bits) := by
  unfold writeInput
  rw [List.drop_left' (length_leBytes 4 _)]

theorem bitCount_writeInput :
    littleEndian (((writeInput input).drop 4).take 4) =
      input.bits.length := by
  rw [drop_four_writeInput, List.take_left' (length_leBytes 4 _)]
  exact littleEndian_leBytes counted.2

/-- What is written is read. -/
theorem readInput_writeInput : readInput (writeInput input) = input := by
  have fields : (writeInput input).drop 8 =
      input.fields.flatMap fieldBytes ++ bytesOfBits input.bits := by
    rw [show 8 = 4 + 4 from rfl, ← List.drop_drop, drop_four_writeInput,
      List.drop_left' (length_leBytes 4 _)]
  have bits : (writeInput input).drop (8 + 32 * input.fields.length) =
      bytesOfBits input.bits := by
    rw [← List.drop_drop, fields,
      List.drop_left' (length_flatMap_fieldBytes input.fields)]
  unfold readInput
  simp only [fieldCount_writeInput counted, bitCount_writeInput counted,
    fields, bits]
  rw [readFields_flatMap, bitsOfBytes_bytesOfBits, padded, List.take_left]

end Written

theorem length_bytesOfBits (bits : List Bool) :
    (bytesOfBits bits).length = (bits.length + 7) / 8 := by
  unfold bytesOfBits chunksOf
  simp only [List.length_map, List.length_range]
  rfl

theorem length_writeInput (input : ROInput) :
    (writeInput input).length =
      8 + 32 * input.fields.length + (input.bits.length + 7) / 8 := by
  unfold writeInput
  simp only [List.length_append, length_leBytes, length_flatMap_fieldBytes,
    length_bytesOfBits]
  omega

theorem reference_lawful : reference.Lawful := by
  intro bytes input short
  constructor
  · intro read
    unfold reference at read ⊢
    dsimp only at read ⊢
    split at read
    · split at read
      next written =>
        have isInput := Option.some.inj read
        rw [isInput] at written
        rw [if_pos written.1, written.2]
      next => exact absurd read (by simp)
    · exact absurd read (by simp)
  · intro written
    unfold reference at written ⊢
    dsimp only at written ⊢
    by_cases counted : Counted input
    · rw [if_pos counted] at written
      rw [← written, fieldCount_writeInput counted,
        bitCount_writeInput counted, if_pos (length_writeInput input),
        readInput_writeInput counted, if_pos ⟨counted, rfl⟩]
    · rw [if_neg counted] at written
      have long := congrArg List.length written
      rw [List.length_append, List.length_replicate] at long
      omega

end Reference

end ROInputCodec

end Tx
end MinaMultiSig
