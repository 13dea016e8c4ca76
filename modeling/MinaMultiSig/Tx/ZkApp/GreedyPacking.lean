import MinaMultiSig.Tx.ZkApp.PackingLayout

/-!
# Nothing is lost in the packing of bits

`PackedInput::pack_to_fields` of `zkapp_tx/packing.rs` packs the bit items into
greedy groups, each of which becomes one field element. Computed with natural
numbers nothing is reduced on the way. A number and its little-endian bytes are
packed alike; otherwise the field elements tell inputs of one layout apart.
-/

namespace MinaMultiSig
namespace Tx

section Checking

/-- A number that needs no reduction. -/
def residue (number : Nat) : Option Nat :=
  if number < fpModulus then some number else none

/-- The number of the bits, `none` where bytes are cut off or the number is
reduced. -/
def BitData.checkedField : BitData → Option Nat
  | u32 val => residue val.toNat
  | u64 val => residue val.toNat
  | bool val => residue (if val then 1 else 0)
  | bytes val =>
      if val.length ≤ 32 then
        residue (littleEndian (val ++ List.replicate (32 - val.length) 0))
      else none

namespace PackedInput

/-- One turn of the loop of `pack_to_fields` with natural numbers, `none` where
the shift leaves its 256 bits or a number is reduced. -/
def checkedPackStep
    (state : List Nat × Nat × Nat)
    (bitData : BitData) : Option (List Nat × Nat × Nat) :=
  let (packedBits, currentPackedField, currentSize) := state
  let size := bitData.bitDataSize
  bitData.checkedField.bind fun field =>
    if currentSize + size < 255 then
      if size < 256 then
        (residue (2 ^ size)).bind fun power =>
          (residue (currentPackedField * power)).bind fun shifted =>
            (residue (shifted + field)).map fun sum =>
              (packedBits, sum, currentSize + size)
      else none
    else some (packedBits ++ [currentPackedField], field, size)

/-- The number of the concatenated items of a group. -/
def concatenated (group : List BitData) : Nat :=
  BitPacking.concatenation BitData.bitDataSize BitData.value group

end PackedInput

theorem residue_of_lt
    {number : Nat}
    (below : number < fpModulus) :
    residue number = some number :=
  if_pos below

theorem BitData.checkedField_eq
    {bitData : BitData}
    (bound : bitData.bitDataSize ≤ 248) :
    bitData.checkedField = some bitData.value := by
  have below : bitData.value < fpModulus := by
    calc bitData.value
        < 2 ^ bitData.bitDataSize := bitData.value_lt
      _ ≤ 2 ^ 248 := Nat.pow_le_pow_right (by decide) bound
      _ < fpModulus := by decide
  cases bitData with
  | u32 val => exact residue_of_lt below
  | u64 val => exact residue_of_lt below
  | bool val => cases val <;> exact residue_of_lt below
  | bytes val =>
      have short : val.length ≤ 32 := by
        have : val.length * 8 ≤ 248 := bound
        omega
      rw [checkedField, if_pos short, littleEndian_append_zeros]
      exact residue_of_lt below

/-- A turn of the loop that is not the last of its group. -/
theorem PackedInput.checkedPackStep_of_fits
    {bitData : BitData}
    {packedBits : List Nat}
    {currentPackedField currentSize : Nat}
    (fits : currentSize + bitData.bitDataSize < 255)
    (small : bitData.bitDataSize ≤ 248)
    (currentBound : currentPackedField < 2 ^ currentSize) :
    checkedPackStep (packedBits, currentPackedField, currentSize) bitData =
      some (packedBits,
        currentPackedField * 2 ^ bitData.bitDataSize + bitData.value,
        currentSize + bitData.bitDataSize) := by
  have sum : currentPackedField * 2 ^ bitData.bitDataSize + bitData.value <
      fpModulus := by
    calc currentPackedField * 2 ^ bitData.bitDataSize + bitData.value
        < 2 ^ (currentSize + bitData.bitDataSize) :=
          BitPacking.shift_lt currentBound bitData.value_lt
      _ ≤ 2 ^ 254 := Nat.pow_le_pow_right (by decide) (by omega)
      _ < fpModulus := by decide
  have power : 2 ^ bitData.bitDataSize < fpModulus := by
    calc 2 ^ bitData.bitDataSize
        ≤ 2 ^ 248 := Nat.pow_le_pow_right (by decide) small
      _ < fpModulus := by decide
  have shifted : currentPackedField * 2 ^ bitData.bitDataSize < fpModulus :=
    (Nat.le_add_right _ _).trans_lt sum
  unfold checkedPackStep
  simp only [BitData.checkedField_eq small, Option.bind_some, if_pos fits,
    if_pos (show bitData.bitDataSize < 256 by omega), residue_of_lt power,
    residue_of_lt shifted, residue_of_lt sum, Option.map_some]

/-- The loop makes the chunks of the bit items without any reduction. -/
theorem PackedInput.foldlM_checkedPackStep
    {bits : List BitData}
    (small : ∀ bitData ∈ bits, bitData.bitDataSize ≤ 248)
    (packedBits : List Nat)
    {currentPackedField currentSize : Nat}
    (currentBound : currentPackedField < 2 ^ currentSize) :
    (bits.foldlM checkedPackStep
        (packedBits, currentPackedField, currentSize)).map
        (fun state => state.1 ++ [state.2.1]) =
      some (packedBits ++ BitPacking.chunks 255 currentSize currentPackedField
        (bits.map fun bitData => (bitData.bitDataSize, bitData.value))) := by
  induction bits generalizing packedBits currentPackedField currentSize with
  | nil => rfl
  | cons bitData rest ih =>
      obtain ⟨headSmall, restSmall⟩ := List.forall_mem_cons.mp small
      rw [List.foldlM_cons, List.map_cons, BitPacking.chunks]
      split_ifs with fits
      · rw [checkedPackStep_of_fits fits headSmall currentBound]
        exact ih restSmall _
          (BitPacking.shift_lt currentBound bitData.value_lt)
      · have closed : checkedPackStep
            (packedBits, currentPackedField, currentSize) bitData =
              some (packedBits ++ [currentPackedField], bitData.value,
                bitData.bitDataSize) := by
          unfold checkedPackStep
          simp only [BitData.checkedField_eq headSmall, Option.bind_some,
            if_neg fits]
        rw [closed]
        have later := ih restSmall (packedBits ++ [currentPackedField])
          bitData.value_lt
        rw [List.append_assoc, List.singleton_append] at later
        exact later

end Checking

section Alike

/-- The same item, or a number and its bytes. -/
inductive BitData.Alike : BitData → BitData → Prop
  | same (bitData : BitData) : Alike bitData bitData
  | u32Bytes (val : UInt32) :
      Alike (.u32 val) (.bytes (leBytes 4 val.toNat))
  | bytesU32 (val : UInt32) :
      Alike (.bytes (leBytes 4 val.toNat)) (.u32 val)
  | u64Bytes (val : UInt64) :
      Alike (.u64 val) (.bytes (leBytes 8 val.toNat))
  | bytesU64 (val : UInt64) :
      Alike (.bytes (leBytes 8 val.toNat)) (.u64 val)

/-- Bytes with the size and the value of a number are its bytes. -/
theorem eq_leBytes
    {bytes : List UInt8}
    {count number : Nat}
    (size : bytes.length * 8 = count * 8)
    (value : littleEndian bytes = number) :
    bytes = leBytes count number := by
  obtain rfl : bytes.length = count := by
    omega
  rw [← value, leBytes_littleEndian]

theorem BitData.alike_of_eq
    {first second : BitData}
    (sizes : first.bitDataSize = second.bitDataSize)
    (values : first.value = second.value) :
    first.Alike second := by
  cases first with
  | u32 left =>
      cases second with
      | u32 right =>
          obtain rfl := UInt32.toNat_inj.mp values
          exact .same _
      | u64 right => exact absurd sizes (by simp [bitDataSize])
      | bool right => exact absurd sizes (by simp [bitDataSize])
      | bytes right =>
          rw [@eq_leBytes right 4 _ sizes.symm values.symm]
          exact .u32Bytes left
  | u64 left =>
      cases second with
      | u32 right => exact absurd sizes (by simp [bitDataSize])
      | u64 right =>
          obtain rfl := UInt64.toNat_inj.mp values
          exact .same _
      | bool right => exact absurd sizes (by simp [bitDataSize])
      | bytes right =>
          rw [@eq_leBytes right 8 _ sizes.symm values.symm]
          exact .u64Bytes left
  | bool left =>
      cases second with
      | u32 right => exact absurd sizes (by simp [bitDataSize])
      | u64 right => exact absurd sizes (by simp [bitDataSize])
      | bool right =>
          have recovered := congrArg Bool.ofNat values
          simp only [value, Bool.ofNat_toNat] at recovered
          rw [recovered]
          exact .same _
      | bytes right =>
          simp only [bitDataSize] at sizes
          omega
  | bytes left =>
      cases second with
      | u32 right =>
          rw [@eq_leBytes left 4 _ sizes values]
          exact .bytesU32 right
      | u64 right =>
          rw [@eq_leBytes left 8 _ sizes values]
          exact .bytesU64 right
      | bool right =>
          simp only [bitDataSize] at sizes
          omega
      | bytes right =>
          have lengths : left.length = right.length := by
            simp only [bitDataSize] at sizes
            omega
          obtain rfl := littleEndian_inj lengths values
          exact .same _

end Alike

section Packing

namespace PackedInput

instance decidableSmall (input : PackedInput) : Decidable input.Small :=
  inferInstanceAs (Decidable (∀ bitData ∈ input.bits, _))

/-- Items with the same sized numbers are alike. -/
theorem forall₂_alike
    {first second : List BitData}
    (same : (first.map fun bitData => (bitData.bitDataSize, bitData.value)) =
      second.map fun bitData => (bitData.bitDataSize, bitData.value)) :
    List.Forall₂ BitData.Alike first second := by
  induction first generalizing second with
  | nil =>
      obtain rfl := List.map_eq_nil_iff.mp same.symm
      exact .nil
  | cons left rest ih =>
      cases second with
      | nil => exact absurd same (by simp)
      | cons right others =>
          rw [List.map_cons, List.map_cons] at same
          obtain ⟨heads, tails⟩ := List.cons.inj same
          obtain ⟨sizes, values⟩ := Prod.mk.inj heads
          exact .cons (BitData.alike_of_eq sizes values) (ih tails)

/-- The field elements are those of the greedy groups behind the unpacked ones,
and computed with natural numbers nothing is reduced. -/
structure PacksGreedily
    (input : PackedInput)
    (groups : List (List BitData)) : Prop where
  greedy : BitPacking.Greedy BitData.bitDataSize 255 input.bits groups
  only : ∀ others,
    BitPacking.Greedy BitData.bitDataSize 255 input.bits others →
      others = groups
  below : ∀ group ∈ groups,
    concatenated group < 2 ^ 254 ∧ concatenated group < fpModulus
  packed : input.packToFields = some
    { bits := []
      fields := input.fields ++
        groups.map fun group => (concatenated group : Fp) }
  unreduced : input.bits ≠ [] →
    (input.bits.foldlM checkedPackStep ([], 0, 0)).map
        (fun state => state.1 ++ [state.2.1]) =
      some (groups.map concatenated)

theorem packsGreedily_groups
    {input : PackedInput}
    (small : input.Small) :
    input.PacksGreedily
      (BitPacking.greedyGroups BitData.bitDataSize 255 input.bits) := by
  have itemsBelow : ∀ bitData ∈ input.bits, bitData.bitDataSize < 255 :=
    fun bitData member => (small bitData member).trans_lt (by decide)
  have greedy := BitPacking.greedy_greedyGroups itemsBelow
  have chunks : input.bits ≠ [] →
      BitPacking.chunks 255 0 0 input.items =
        (BitPacking.greedyGroups BitData.bitDataSize 255 input.bits).map
          concatenated :=
    fun nonempty => BitPacking.chunks_eq_map_greedyGroups itemsBelow nonempty
  exact
    { greedy := greedy
      only := fun others => BitPacking.Greedy.eq_greedyGroups
      below := by
        intro group member
        have bound : concatenated group < 2 ^ 254 := by
          have fits := greedy.below group member
          calc concatenated group
              < 2 ^ BitPacking.totalSize BitData.bitDataSize group :=
                BitPacking.concatenation_lt fun bitData _ => bitData.value_lt
            _ ≤ 2 ^ 254 := Nat.pow_le_pow_right (by decide) (by omega)
        exact ⟨bound, bound.trans (by decide)⟩
      packed := by
        rw [packToFields_eq small]
        by_cases empty : input.bits = []
        · rw [empty]
          rfl
        · rw [if_neg (by simpa using empty), chunks empty, List.map_map]
          rfl
      unreduced := by
        intro nonempty
        have zero : 0 < 2 ^ 0 := by
          decide
        rw [foldlM_checkedPackStep small [] zero, List.nil_append]
        exact congrArg some (chunks nonempty) }

/-- The bit items are packed into greedy groups without a reduction, and inputs
of one layout with the same field elements have the same fields and, but for
numbers and their bytes, the same items. -/
theorem packToFields_lossless
    {input : PackedInput}
    (small : input.Small) :
    (∃ groups, input.PacksGreedily groups) ∧
    ∀ other : PackedInput, other.Small → SameLayout input other →
      input.packToFields = other.packToFields →
        input.fields = other.fields ∧
          List.Forall₂ BitData.Alike input.bits other.bits := by
  refine ⟨⟨_, packsGreedily_groups small⟩, ?_⟩
  intro other otherSmall layout same
  have content := packToFields_inj small otherSmall layout same
  exact ⟨content.fields, forall₂_alike content.items⟩

/-- Bytes that nearly fill a chunk and more items behind a field element. -/
def mixed (number : BitData) : PackedInput :=
  { bits := [.bytes (List.replicate 30 255), number, .bool true]
    fields := [1] }

/-- A number does not fit into the first chunk, and is alike the bytes that are
packed as it is. -/
theorem packToFields_lossless_mixed :
    (∃ groups, PacksGreedily (mixed (.u32 5)) groups ∧ groups.length = 2) ∧
      List.Forall₂ BitData.Alike (mixed (.u32 5)).bits
        (mixed (.bytes [5, 0, 0, 0])).bits := by
  have small : (mixed (.u32 5)).Small := by
    decide
  have otherSmall : (mixed (.bytes [5, 0, 0, 0])).Small := by
    decide
  obtain ⟨⟨groups, packs⟩, unique⟩ := packToFields_lossless small
  refine ⟨⟨groups, packs, ?_⟩, ?_⟩
  · have chunks : (mixed (.u32 5)).packToFields.map
        (fun packed => packed.fields.length) = some 3 := by
      decide +kernel
    rw [packs.packed, Option.map_some, Option.some.injEq, List.length_append,
      List.length_map] at chunks
    exact Nat.add_left_cancel chunks
  · have packed : (mixed (.u32 5)).packToFields =
        (mixed (.bytes [5, 0, 0, 0])).packToFields := by
      decide +kernel
    exact (unique _ otherSmall ⟨rfl, rfl⟩ packed).2

/-- A number and its bytes: different items of one size, packed alike. -/
theorem packToFields_u32_bytes :
    SameLayout { bits := [.u32 5], fields := [] }
        { bits := [.bytes [5, 0, 0, 0]], fields := [] } ∧
      packToFields { bits := [.u32 5], fields := [] } =
        packToFields { bits := [.bytes [5, 0, 0, 0]], fields := [] } ∧
      ([.u32 5] : List BitData) ≠ [.bytes [5, 0, 0, 0]] := by
  refine ⟨⟨rfl, rfl⟩, ?_, by decide⟩
  decide +kernel

end PackedInput

end Packing

end Tx
end MinaMultiSig
