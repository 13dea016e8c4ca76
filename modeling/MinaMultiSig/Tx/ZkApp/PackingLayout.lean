import MinaMultiSig.Library.BitPacking
import MinaMultiSig.Tx.ZkApp.Packing

/-!
# Packings with one layout

Two packings are compared by their layout, the number of field elements and the
sizes of the bit items, and by their content. `Binds first second agree` says
that both packings succeed with one layout and that equal content makes `agree`
hold; there is one rule for every way a packing is put together.
-/

namespace MinaMultiSig
namespace Tx

namespace BitData

/-- The number a bit item stands for. -/
def value : BitData → Nat
  | u32 val => val.toNat
  | u64 val => val.toNat
  | bool val => val.toNat
  | bytes val => littleEndian val

theorem value_lt (bitData : BitData) :
    bitData.value < 2 ^ bitData.bitDataSize := by
  cases bitData with
  | u32 val => exact val.toNat_lt
  | u64 val => exact val.toNat_lt
  | bool val => exact Bool.toNat_lt val
  | bytes val =>
      have bound := littleEndian_lt val
      rwa [show 256 = 2 ^ 8 by rfl, ← pow_mul, Nat.mul_comm] at bound

/-- An item of at most 31 bytes becomes the field element of its number. -/
theorem toField_eq
    {bitData : BitData}
    (bound : bitData.bitDataSize ≤ 248) :
    bitData.toField = some (bitData.value : Fp) := by
  cases bitData with
  | u32 val => rfl
  | u64 val => rfl
  | bool val => cases val <;> simp [toField, value]
  | bytes val =>
      have short : val.length ≤ 31 := by
        have : val.length * 8 ≤ 248 := bound
        omega
      have small : littleEndian val < fpModulus := by
        calc littleEndian val
            < 256 ^ val.length := littleEndian_lt val
          _ ≤ 256 ^ 31 := Nat.pow_le_pow_right (by decide) short
          _ < fpModulus := by decide
      simp only [toField, value]
      rw [Nat.min_eq_left (by omega), List.take_length,
        Fp.fromRandomBytes_of_lt (by rwa [littleEndian_append_zeros]),
        littleEndian_append_zeros]

end BitData

namespace PackedInput

/-- The sized numbers of the bit items. -/
def items (input : PackedInput) : List (Nat × Nat) :=
  input.bits.map fun bitData => (bitData.bitDataSize, bitData.value)

/-- Every bit item has at most 31 bytes. -/
def Small (input : PackedInput) : Prop :=
  ∀ bitData ∈ input.bits, bitData.bitDataSize ≤ 248

/-- The same number of field elements and the same sizes of bit items. -/
structure SameLayout (first second : PackedInput) : Prop where
  fields : first.fields.length = second.fields.length
  sizes : first.bits.map BitData.bitDataSize =
    second.bits.map BitData.bitDataSize

/-- The same field elements and the same numbers in the bit items. -/
structure SameContent (first second : PackedInput) : Prop where
  fields : first.fields = second.fields
  items : first.items = second.items

theorem Small.bounded
    {input : PackedInput}
    (small : input.Small) :
    BitPacking.Bounded 255 input.items := by
  intro item member
  obtain ⟨bitData, isBit, rfl⟩ := List.mem_map.mp member
  have := small bitData isBit
  exact ⟨by simp only; omega, bitData.value_lt⟩

/-- The loop of `pack_to_fields` makes the chunks of the bit items. -/
theorem foldlM_packStep
    {bits : List BitData}
    (small : ∀ bitData ∈ bits, bitData.bitDataSize ≤ 248)
    (packedBits : List Fp)
    (currentPackedField : Fp)
    (currentSize : Nat) :
    (bits.foldlM packStep (packedBits, currentPackedField, currentSize)).map
        (fun state => state.1 ++ [state.2.1]) =
      some (packedBits ++ BitPacking.chunks 255 currentSize currentPackedField
        (bits.map fun bitData =>
          (bitData.bitDataSize, (bitData.value : Fp)))) := by
  induction bits generalizing packedBits currentPackedField currentSize with
  | nil => rfl
  | cons bitData rest ih =>
      obtain ⟨headSmall, restSmall⟩ := List.forall_mem_cons.mp small
      simp only [List.foldlM_cons, List.map_cons, BitPacking.chunks]
      rw [packStep]
      simp only [BitData.toField_eq headSmall, Option.map_some,
        Option.bind_eq_bind, Option.bind_some]
      split_ifs
      · exact ih restSmall ..
      · rw [ih restSmall, List.append_assoc, List.singleton_append]

/-- The packed field elements behind the unpacked ones. -/
theorem packToFields_eq
    {input : PackedInput}
    (small : input.Small) :
    input.packToFields = some
      { bits := []
        fields := input.fields ++
          if input.bits.isEmpty then []
          else (BitPacking.chunks 255 0 0 input.items).map Nat.cast } := by
  rw [packToFields]
  split_ifs with empty
  · rw [List.append_nil]
  · have loop := foldlM_packStep small [] 0 0
    have casted : BitPacking.chunks 255 0 (Nat.cast 0 : Fp)
        (input.items.map fun item => (item.1, (item.2 : Fp))) =
          (BitPacking.chunks 255 0 0 input.items).map Nat.cast :=
      BitPacking.chunks_natCast 0 0 input.items
    obtain ⟨state, folded, packed⟩ := Option.map_eq_some_iff.mp loop
    simp only [items, List.map_map, Nat.cast_zero, List.nil_append]
      at casted packed
    rw [folded, Option.map_some, items, ← casted]
    simp only [packed]
    rfl

/-- The packed field elements determine the content. -/
theorem packToFields_inj
    {first second : PackedInput}
    (firstSmall : first.Small)
    (secondSmall : second.Small)
    (layout : SameLayout first second)
    (same : first.packToFields = second.packToFields) :
    SameContent first second := by
  rw [packToFields_eq firstSmall, packToFields_eq secondSmall] at same
  have lists := congrArg PackedInput.fields (Option.some.inj same)
  obtain ⟨fields, packed⟩ := List.append_inj lists layout.fields
  have sizes : first.items.map Prod.fst = second.items.map Prod.fst := by
    simpa [items, List.map_map, Function.comp_def] using layout.sizes
  refine ⟨fields, ?_⟩
  have bothEmpty : first.bits.isEmpty = second.bits.isEmpty := by
    have lengths := congrArg List.length layout.sizes
    rw [List.length_map, List.length_map] at lengths
    rw [Bool.eq_iff_iff, List.isEmpty_iff_length_eq_zero,
      List.isEmpty_iff_length_eq_zero, lengths]
  rw [bothEmpty] at packed
  split_ifs at packed with empty
  · rw [items, items, List.isEmpty_iff.mp empty,
      List.isEmpty_iff.mp (bothEmpty.trans empty)]
  · -- a chunk is below `2 ^ 254`, so its residue determines it
    have below : ∀ {input : PackedInput}, input.Small →
        ∀ chunk ∈ BitPacking.chunks 255 0 0 input.items, chunk < fpModulus :=
      fun small chunk member =>
        (BitPacking.chunks_lt (by decide) (by decide) small.bounded
          member).trans (by decide)
    have chunks : BitPacking.chunks 255 0 0 first.items =
        BitPacking.chunks 255 0 0 second.items :=
      map_natCast_fp_inj (below firstSmall) (below secondSmall) packed
    exact (BitPacking.chunks_inj sizes firstSmall.bounded secondSmall.bounded
      chunks).2

/-- Inputs of one layout have equally many items. -/
theorem SameLayout.length_items
    {first second : PackedInput}
    (layout : SameLayout first second) :
    first.items.length = second.items.length := by
  have lengths := congrArg List.length layout.sizes
  rw [List.length_map, List.length_map] at lengths
  rw [items, items, List.length_map, List.length_map, lengths]

end PackedInput

namespace Packing

open PackedInput

/-- Both packings succeed with one layout, and equal content makes `agree`
hold. -/
inductive Binds : Packing → Packing → Prop → Prop
  | intro
      {first second : PackedInput}
      {agree : Prop}
      (firstSmall : first.Small)
      (secondSmall : second.Small)
      (layout : SameLayout first second)
      (agreed : SameContent first second → agree) :
      Binds (some first) (some second) agree

namespace Binds

variable {first second : Packing} {agree other : Prop}

theorem mono
    (binds : Binds first second agree)
    (weaker : agree → other) :
    Binds first second other := by
  cases binds with
  | intro firstSmall secondSmall layout agreed =>
      exact .intro firstSmall secondSmall layout (weaker ∘ agreed)

/-- Having one layout is symmetric. -/
theorem symm_layout
    (binds : Binds first second agree) :
    Binds second first True := by
  cases binds with
  | intro firstSmall secondSmall layout agreed =>
      exact .intro secondSmall firstSmall
        ⟨layout.fields.symm, layout.sizes.symm⟩ fun _ => trivial

/-- A packing has the layout of itself. -/
theorem refl_layout
    (binds : Binds first second agree) :
    Binds first first True := by
  cases binds with
  | intro firstSmall secondSmall layout agreed =>
      exact .intro firstSmall firstSmall ⟨rfl, rfl⟩ fun _ => trivial

theorem new : Binds Packing.new Packing.new True := by
  have small : PackedInput.Small { bits := [], fields := [] } :=
    fun bitData member => absurd member List.not_mem_nil
  exact .intro small small ⟨rfl, rfl⟩ fun _ => trivial

theorem appendField
    {firstField secondField : Fp}
    (binds : Binds first second agree) :
    Binds (first.appendField firstField) (second.appendField secondField)
      (agree ∧ firstField = secondField) := by
  cases binds with
  | intro firstSmall secondSmall layout agreed =>
      refine .intro firstSmall secondSmall
        ⟨by simp [layout.fields], layout.sizes⟩ fun content => ?_
      obtain ⟨fields, last⟩ := List.append_inj content.fields layout.fields
      exact ⟨agreed ⟨fields, content.items⟩, List.singleton_inj.mp last⟩

theorem appendBitData
    (binds : Binds first second agree)
    (firstBits secondBits : BitData)
    (sizes : firstBits.bitDataSize = secondBits.bitDataSize)
    (small : firstBits.bitDataSize ≤ 248) :
    Binds (first.appendBitData firstBits) (second.appendBitData secondBits)
      (agree ∧ firstBits.value = secondBits.value) := by
  cases binds with
  | intro firstSmall secondSmall layout agreed =>
      refine .intro ?_ ?_ ⟨layout.fields, by simp [layout.sizes, sizes]⟩ ?_
      · intro bitData member
        rcases List.mem_append.mp member with earlier | last
        · exact firstSmall bitData earlier
        · rwa [List.mem_singleton.mp last]
      · intro bitData member
        rcases List.mem_append.mp member with earlier | last
        · exact secondSmall bitData earlier
        · rwa [List.mem_singleton.mp last, ← sizes]
      · intro content
        have joined := content.items
        simp only [items, List.map_append, List.map_cons, List.map_nil]
          at joined
        obtain ⟨items, last⟩ := List.append_inj joined layout.length_items
        exact ⟨agreed ⟨content.fields, items⟩,
          congrArg Prod.snd (List.singleton_inj.mp last)⟩

theorem appendBool
    {firstVal secondVal : Bool}
    (binds : Binds first second agree) :
    Binds (first.appendBool firstVal) (second.appendBool secondVal)
      (agree ∧ firstVal = secondVal) := by
  have appended := binds.appendBitData (.bool firstVal) (.bool secondVal)
    rfl (by simp [BitData.bitDataSize])
  refine appended.mono fun ⟨agreed, same⟩ => ⟨agreed, ?_⟩
  have recovered := congrArg Bool.ofNat same
  simpa only [BitData.value, Bool.ofNat_toNat] using recovered

theorem appendU32
    {firstVal secondVal : UInt32}
    (binds : Binds first second agree) :
    Binds (first.appendU32 firstVal) (second.appendU32 secondVal)
      (agree ∧ firstVal = secondVal) := by
  have appended := binds.appendBitData (.u32 firstVal) (.u32 secondVal)
    rfl (by simp [BitData.bitDataSize])
  exact appended.mono fun ⟨agreed, same⟩ =>
    ⟨agreed, UInt32.toNat_inj.mp same⟩

theorem appendU64
    {firstVal secondVal : UInt64}
    (binds : Binds first second agree) :
    Binds (first.appendU64 firstVal) (second.appendU64 secondVal)
      (agree ∧ firstVal = secondVal) := by
  have appended := binds.appendBitData (.u64 firstVal) (.u64 secondVal)
    rfl (by simp [BitData.bitDataSize])
  exact appended.mono fun ⟨agreed, same⟩ =>
    ⟨agreed, UInt64.toNat_inj.mp same⟩

theorem appendBytes
    {firstVal secondVal : List UInt8}
    (binds : Binds first second agree)
    (lengths : firstVal.length = secondVal.length)
    (short : firstVal.length ≤ 31) :
    Binds (first.appendBytes firstVal) (second.appendBytes secondVal)
      (agree ∧ firstVal = secondVal) := by
  have appended := binds.appendBitData (.bytes firstVal) (.bytes secondVal)
    (by simp [BitData.bitDataSize, lengths])
    (by simp only [BitData.bitDataSize]; omega)
  exact appended.mono fun ⟨agreed, same⟩ =>
    ⟨agreed, littleEndian_inj lengths same⟩

theorem appendPackedinput
    {firstRoi secondRoi : Packing}
    (binds : Binds first second agree)
    (roiBinds : Binds firstRoi secondRoi other) :
    Binds (first.appendPackedinput firstRoi)
      (second.appendPackedinput secondRoi) (agree ∧ other) := by
  cases binds with
  | intro firstSmall secondSmall layout agreed =>
    cases roiBinds with
    | intro firstRoiSmall secondRoiSmall roiLayout roiAgreed =>
        refine .intro ?_ ?_ ⟨?_, ?_⟩ fun content => ?_
        · exact List.forall_mem_append.mpr ⟨firstSmall, firstRoiSmall⟩
        · exact List.forall_mem_append.mpr ⟨secondSmall, secondRoiSmall⟩
        · simp [layout.fields, roiLayout.fields]
        · simp [layout.sizes, roiLayout.sizes]
        · obtain ⟨fields, roiFields⟩ :=
            List.append_inj content.fields layout.fields
          have joined := content.items
          simp only [items, List.map_append] at joined
          obtain ⟨items, roiItems⟩ :=
            List.append_inj joined layout.length_items
          exact ⟨agreed ⟨fields, items⟩, roiAgreed ⟨roiFields, roiItems⟩⟩

/-- The flag keeps a missing part apart from any present one. -/
theorem ofOption
    {α β : Type}
    {pack : α → Packing}
    {emptyRoi : Packing}
    {view : α → β}
    {first second : Option α}
    (values : ∀ left ∈ first, ∀ right ∈ second,
      Binds (pack left) (pack right) (view left = view right))
    (firstShape : ∀ left ∈ first, Binds (pack left) emptyRoi True)
    (secondShape : ∀ right ∈ second, Binds (pack right) emptyRoi True)
    (empty : Binds emptyRoi emptyRoi True) :
    Binds (Packing.ofOption pack emptyRoi first)
      (Packing.ofOption pack emptyRoi second)
      (first.map view = second.map view) := by
  cases first with
  | none =>
      cases second with
      | none =>
          exact (new.appendBool.appendPackedinput empty).mono fun _ => rfl
      | some right =>
          have shape := (secondShape right rfl).symm_layout
          exact (new.appendBool.appendPackedinput shape).mono
            fun ⟨⟨_, flags⟩, _⟩ => absurd flags (by decide)
  | some left =>
      cases second with
      | none =>
          have shape := firstShape left rfl
          exact (new.appendBool.appendPackedinput shape).mono
            fun ⟨⟨_, flags⟩, _⟩ => absurd flags (by decide)
      | some right =>
          have parts := values left rfl right rfl
          exact (new.appendBool.appendPackedinput parts).mono
            fun ⟨_, same⟩ => congrArg some same

/-- An optional part whose empty form is a value of the type. -/
theorem ofOption_default
    {α β : Type}
    {pack : α → Packing}
    {view : α → β}
    (values : ∀ left right, Binds (pack left) (pack right)
      (view left = view right))
    (default : α)
    {first second : Option α} :
    Binds (Packing.ofOption pack (pack default) first)
      (Packing.ofOption pack (pack default) second)
      (first.map view = second.map view) :=
  ofOption (fun left _ right _ => values left right)
    (fun left _ => (values left default).mono fun _ => trivial)
    (fun right _ => (values right default).mono fun _ => trivial)
    (values default default).refl_layout

theorem ofOption_eq
    {α : Type}
    {pack : α → Packing}
    (values : ∀ left right, Binds (pack left) (pack right) (left = right))
    (default : α)
    {first second : Option α} :
    Binds (Packing.ofOption pack (pack default) first)
      (Packing.ofOption pack (pack default) second)
      (first = second) := by
  have mapped : Binds (Packing.ofOption pack (pack default) first)
      (Packing.ofOption pack (pack default) second)
      (first.map id = second.map id) := ofOption_default values default
  rwa [Option.map_id_fun, id, id] at mapped

/-- Lists of one length, part by part. -/
theorem ofList
    {α : Type}
    {pack : α → Packing}
    (values : ∀ left right, Binds (pack left) (pack right) (left = right))
    {first second : List α}
    (lengths : first.length = second.length) :
    Binds (Packing.ofList pack first) (Packing.ofList pack second)
      (first = second) := by
  have folded : ∀ {firstRoi secondRoi : Packing} {agree : Prop},
      Binds firstRoi secondRoi agree →
        Binds
          (first.foldl (fun roi item => roi.appendPackedinput (pack item))
            firstRoi)
          (second.foldl (fun roi item => roi.appendPackedinput (pack item))
            secondRoi)
          (agree ∧ first = second) := by
    induction first generalizing second with
    | nil =>
        intro firstRoi secondRoi agree binds
        obtain rfl := List.length_eq_zero_iff.mp lengths.symm
        exact binds.mono fun agreed => ⟨agreed, rfl⟩
    | cons left firstRest ih =>
        intro firstRoi secondRoi agree binds
        cases second with
        | nil => simp at lengths
        | cons right secondRest =>
            have rest := ih (Nat.succ.inj lengths)
              (binds.appendPackedinput (values left right))
            exact rest.mono fun ⟨⟨agreed, head⟩, tail⟩ =>
              ⟨agreed, congrArg₂ List.cons head tail⟩
  exact (folded new).mono And.right

/-- The packed field elements decide whether the packings agree. -/
theorem packToFields
    (binds : Binds first second agree) :
    ∃ left right, first = some left ∧ second = some right ∧
      SameLayout left right ∧ left.packToFields.isSome ∧
        right.packToFields.isSome ∧
          (left.packToFields = right.packToFields → agree) := by
  cases binds with
  | intro firstSmall secondSmall layout agreed =>
      refine ⟨_, _, rfl, rfl, layout, ?_, ?_, fun same => ?_⟩
      · rw [packToFields_eq firstSmall]
        rfl
      · rw [packToFields_eq secondSmall]
        rfl
      · exact agreed (packToFields_inj firstSmall secondSmall layout same)

end Binds

end Packing

end Tx
end MinaMultiSig
