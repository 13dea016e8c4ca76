import MinaMultiSig.Tx.ZkApp.GreedyPacking

/-!
# What the hash input of a zkApp URI binds

The bits of a URI and a final one are packed 254 at a time, and a chunk is a
number that forgets its leading zeros. All chunks but the last one are full, so
two URIs share their hash input exactly if the bits of one of them are those of
the other one with zeros in front of the last chunk.
-/

namespace MinaMultiSig
namespace Tx

section Bits

/-- The number of bits, the first one at the top. -/
def bitsValue (bits : List Bool) : Nat :=
  BitPacking.concatenation (fun _ => 1) Bool.toNat bits

/-- The numbers of the chunks of bits. -/
def bitChunks (bits : List Bool) : List Nat :=
  BitPacking.chunks 255 0 0 (bits.map fun bit => (1, bit.toNat))

theorem totalSize_bits (bits : List Bool) :
    BitPacking.totalSize (fun _ => 1) bits = bits.length := by
  simp [BitPacking.totalSize]

theorem bitsValue_lt (bits : List Bool) :
    bitsValue bits < 2 ^ bits.length := by
  have bound := @BitPacking.concatenation_lt Bool (fun _ => 1) Bool.toNat bits
    fun bit _ => Bool.toNat_lt bit
  rwa [totalSize_bits] at bound

theorem bitsValue_cons (bit : Bool) (rest : List Bool) :
    bitsValue (bit :: rest) =
      bit.toNat * 2 ^ rest.length + bitsValue rest := by
  rw [bitsValue, BitPacking.concatenation, totalSize_bits]
  rfl

/-- Bits of one length are told apart by their number. -/
theorem bitsValue_inj
    {first second : List Bool}
    (lengths : first.length = second.length)
    (same : bitsValue first = bitsValue second) :
    first = second := by
  induction first generalizing second with
  | nil => exact (List.length_eq_zero_iff.mp lengths.symm).symm
  | cons left rest ih =>
      cases second with
      | nil => exact absurd lengths (by simp)
      | cons right others =>
          have restLengths : rest.length = others.length :=
            Nat.succ.inj lengths
          have restBound := bitsValue_lt rest
          have othersBound := bitsValue_lt others
          rw [bitsValue_cons, bitsValue_cons, ← restLengths] at same
          rw [← restLengths] at othersBound
          obtain ⟨heads, tails⟩ :=
            BitPacking.shift_inj restBound othersBound same
          have sameHead := congrArg Bool.ofNat heads
          rw [Bool.ofNat_toNat, Bool.ofNat_toNat] at sameHead
          rw [sameHead, ih restLengths tails]

/-- Leading zeros do not change the number. -/
theorem bitsValue_zeros (count : Nat) (bits : List Bool) :
    bitsValue (List.replicate count false ++ bits) = bitsValue bits := by
  induction count with
  | zero => rfl
  | succ count ih =>
      rw [List.replicate_succ, List.cons_append, bitsValue_cons, ih,
        Bool.toNat_false, Nat.zero_mul, Nat.zero_add]

/-- Bits with the number of shorter ones are these with leading zeros. -/
theorem eq_zeros_append
    {shorter longer : List Bool}
    (lengths : shorter.length ≤ longer.length)
    (same : bitsValue shorter = bitsValue longer) :
    longer = List.replicate (longer.length - shorter.length) false ++
      shorter := by
  apply bitsValue_inj
  · rw [List.length_append, List.length_replicate]
    omega
  · rw [bitsValue_zeros, same]

/-- Bits that fit into one chunk. -/
theorem bitChunks_of_short
    {bits : List Bool}
    (short : bits.length ≤ 254) :
    bitChunks bits = [bitsValue bits] := by
  have fits : 0 + BitPacking.totalSize (fun _ => 1) bits < 255 := by
    rw [totalSize_bits]
    omega
  have joined := @BitPacking.chunks_append Bool (fun _ => 1) Bool.toNat 255 0 0
    bits [] fits
  rw [List.append_nil] at joined
  simp only [Nat.zero_mul, Nat.zero_add] at joined
  exact joined

/-- A full chunk with more bits behind it. -/
theorem bitChunks_block
    {block rest : List Bool}
    (full : block.length = 254)
    (more : rest ≠ []) :
    bitChunks (block ++ rest) = bitsValue block :: bitChunks rest := by
  obtain ⟨bit, others, rfl⟩ := List.exists_cons_of_ne_nil more
  have fits : 0 + BitPacking.totalSize (fun _ => 1) block < 255 := by
    rw [totalSize_bits]
    omega
  rw [bitChunks, BitPacking.chunks_append fits, totalSize_bits, full,
    List.map_cons, BitPacking.chunks, if_neg (by decide), bitChunks,
    List.map_cons, BitPacking.chunks, if_pos (by decide)]
  simp only [Nat.zero_mul, Nat.zero_add]
  rfl

/-- The second bits are the first ones with zeros in front of the last chunk. -/
def Stretched (first second : List Bool) : Prop :=
  ∃ blocks last count,
    first = blocks ++ last ∧
      second = blocks ++ (List.replicate count false ++ last) ∧
      254 ∣ blocks.length ∧ last ≠ [] ∧ last.length + count ≤ 254

theorem Stretched.bitChunks_eq
    {first second : List Bool}
    (stretched : Stretched first second) :
    bitChunks first = bitChunks second := by
  obtain ⟨blocks, last, count, rfl, rfl, ⟨number, length⟩, nonempty, fits⟩ :=
    stretched
  induction number generalizing blocks with
  | zero =>
      obtain rfl := List.length_eq_zero_iff.mp length
      rw [List.nil_append, List.nil_append, bitChunks_of_short (by omega),
        bitChunks_of_short (by
          rw [List.length_append, List.length_replicate]
          omega), bitsValue_zeros]
  | succ number ih =>
      have full : (blocks.take 254).length = 254 := by
        rw [List.length_take]
        omega
      have later : (blocks.drop 254).length = 254 * number := by
        rw [List.length_drop]
        omega
      have rest := ih (blocks.drop 254) later
      rw [← List.take_append_drop 254 blocks, List.append_assoc,
        List.append_assoc, bitChunks_block full (by simp [nonempty]),
        bitChunks_block full (by simp [nonempty]), rest]

/-- A full chunk may stand in front of both. -/
theorem Stretched.block
    {block first second : List Bool}
    (stretched : Stretched first second)
    (full : block.length = 254) :
    Stretched (block ++ first) (block ++ second) := by
  obtain ⟨blocks, last, count, rfl, rfl, length, nonempty, fits⟩ := stretched
  refine ⟨block ++ blocks, last, count, ?_, ?_, ?_, nonempty, fits⟩
  · rw [List.append_assoc]
  · rw [List.append_assoc]
  · rw [List.length_append, full]
    exact Nat.dvd_add (dvd_refl 254) length

theorem stretched_of_short
    {shorter longer : List Bool}
    (nonempty : shorter ≠ [])
    (lengths : shorter.length ≤ longer.length)
    (short : longer.length ≤ 254)
    (same : bitsValue shorter = bitsValue longer) :
    Stretched shorter longer := by
  refine ⟨[], shorter, longer.length - shorter.length, rfl, ?_, by simp,
    nonempty, by omega⟩
  exact eq_zeros_append lengths same

/-- More bits than fit have a full chunk and the chunks of the others. -/
theorem bitChunks_of_long
    {bits : List Bool}
    (long : ¬bits.length ≤ 254) :
    (bits.take 254).length = 254 ∧ bits.drop 254 ≠ [] ∧
      bitChunks bits =
        bitsValue (bits.take 254) :: bitChunks (bits.drop 254) := by
  have full : (bits.take 254).length = 254 := by
    rw [List.length_take]
    omega
  have more : bits.drop 254 ≠ [] := by
    intro none
    exact long (List.drop_eq_nil_iff.mp none)
  refine ⟨full, more, ?_⟩
  rw [← bitChunks_block full more, List.take_append_drop]

/-- Bits have the same chunks exactly if one of them are the other ones with
zeros in front of the last chunk. -/
theorem bitChunks_eq_iff
    {first second : List Bool}
    (firstNonempty : first ≠ [])
    (secondNonempty : second ≠ []) :
    bitChunks first = bitChunks second ↔
      Stretched first second ∨ Stretched second first := by
  constructor
  · intro same
    induction size : first.length using Nat.strong_induction_on
      generalizing first second with
    | _ size ih =>
    subst size
    by_cases firstShort : first.length ≤ 254
    · by_cases secondShort : second.length ≤ 254
      · rw [bitChunks_of_short firstShort, bitChunks_of_short secondShort]
          at same
        have values := List.singleton_inj.mp same
        rcases Nat.le_total first.length second.length with less | less
        · exact Or.inl
            (stretched_of_short firstNonempty less secondShort values)
        · exact Or.inr
            (stretched_of_short secondNonempty less firstShort values.symm)
      · obtain ⟨-, -, chunks⟩ := bitChunks_of_long secondShort
        rw [bitChunks_of_short firstShort, chunks] at same
        exact absurd (List.cons.inj same).2.symm
          (BitPacking.chunks_ne_nil _ _ _)
    · obtain ⟨firstFull, firstMore, firstChunks⟩ :=
        bitChunks_of_long firstShort
      by_cases secondShort : second.length ≤ 254
      · rw [bitChunks_of_short secondShort, firstChunks] at same
        exact absurd (List.cons.inj same).2 (BitPacking.chunks_ne_nil _ _ _)
      · obtain ⟨secondFull, secondMore, secondChunks⟩ :=
          bitChunks_of_long secondShort
        rw [firstChunks, secondChunks] at same
        obtain ⟨values, chunks⟩ := List.cons.inj same
        have blocks := bitsValue_inj (firstFull.trans secondFull.symm) values
        have rest := ih (first.drop 254).length
          (by rw [List.length_drop]; omega) firstMore secondMore chunks rfl
        rw [← List.take_append_drop 254 first,
          ← List.take_append_drop 254 second, ← blocks]
        rcases rest with stretched | stretched
        · exact Or.inl (stretched.block firstFull)
        · exact Or.inr (stretched.block firstFull)
  · rintro (stretched | stretched)
    · exact stretched.bitChunks_eq
    · exact stretched.bitChunks_eq.symm

end Bits

namespace ZkappUri

/-- The field elements that are hashed for a URI. -/
def hashedFields (uri : ZkappUri) : Option (List Fp) :=
  (PackedInput.packToFields
    { bits := uri.bits.map BitData.bool, fields := [] }).map
      PackedInput.fields

/-- They are what is hashed. -/
theorem hash_eq_hashedFields
    (hasher : Hasher)
    (uri : ZkappUri) :
    uri.hash hasher = uri.hashedFields.bind fun fields =>
      (hashWithPrefix hasher minaZkappUri fields).toOption := by
  unfold hash hashedFields
  rw [Option.bind_map]
  rfl

theorem bits_ne_nil (uri : ZkappUri) : uri.bits ≠ [] := by
  simp [bits]

/-- The chunks of the bits are the field elements. -/
theorem hashedFields_eq (uri : ZkappUri) :
    uri.hashedFields = some ((bitChunks uri.bits).map Nat.cast) := by
  have small : PackedInput.Small
      { bits := uri.bits.map BitData.bool, fields := [] } := by
    intro bitData member
    obtain ⟨bit, -, rfl⟩ := List.mem_map.mp member
    simp [BitData.bitDataSize]
  have nonempty : ¬(uri.bits.map BitData.bool).isEmpty = true := by
    simp [bits]
  rw [hashedFields, PackedInput.packToFields_eq small, if_neg nonempty,
    Option.map_some, List.nil_append, PackedInput.items, List.map_map]
  rfl

theorem bitChunks_lt (uri : ZkappUri) :
    ∀ chunk ∈ bitChunks uri.bits, chunk < fpModulus := by
  have oneBit : 1 < 255 := by
    decide
  have bounded : BitPacking.Bounded 255
      (uri.bits.map fun bit => (1, bit.toNat)) := by
    intro item member
    obtain ⟨bit, -, rfl⟩ := List.mem_map.mp member
    exact ⟨oneBit, Bool.toNat_lt bit⟩
  intro chunk member
  exact (BitPacking.chunks_lt (by decide) (by decide) bounded member).trans
    (by decide)

/-- URIs of one length are told apart by their bits. -/
theorem eq_of_bits
    {first second : ZkappUri}
    (lengths : first.bytes.length = second.bytes.length)
    (same : first.bits = second.bits) :
    first = second := by
  apply ZkappUri.ext
  exact bitsOfBytes_inj lengths (List.append_cancel_right same)

/-- Bits that are stretched to bits of the same length stay as they are. -/
theorem eq_of_stretched
    {first second : List Bool}
    (stretched : Stretched first second)
    (lengths : first.length = second.length) :
    first = second := by
  obtain ⟨blocks, last, count, rfl, rfl, -, -, -⟩ := stretched
  simp only [List.length_append, List.length_replicate] at lengths
  obtain rfl : count = 0 := by
    omega
  rfl

/-- Two URIs have the same field elements exactly if the bits of one are those
of the other with zeros in front of the last chunk, and URIs of one length have
them only if they are the same. -/
theorem hashedFields_eq_iff (first second : ZkappUri) :
    (first.hashedFields = second.hashedFields ↔
      Stretched first.bits second.bits ∨ Stretched second.bits first.bits) ∧
    (first.hashedFields = second.hashedFields ∧
        first.bytes.length = second.bytes.length ↔ first = second) := by
  have exactly : first.hashedFields = second.hashedFields ↔
      Stretched first.bits second.bits ∨ Stretched second.bits first.bits := by
    rw [← bitChunks_eq_iff first.bits_ne_nil second.bits_ne_nil,
      hashedFields_eq, hashedFields_eq, Option.some_inj]
    constructor
    · exact map_natCast_fp_inj first.bitChunks_lt second.bitChunks_lt
    · intro same
      rw [same]
  refine ⟨exactly, ?_⟩
  constructor
  · rintro ⟨same, lengths⟩
    have bitLengths : first.bits.length = second.bits.length := by
      unfold bits
      rw [List.length_append, List.length_append, length_bitsOfBytes,
        length_bitsOfBytes, lengths]
    apply eq_of_bits lengths
    rcases exactly.mp same with stretched | stretched
    · exact eq_of_stretched stretched bitLengths
    · exact (eq_of_stretched stretched bitLengths.symm).symm
  · rintro rfl
    exact ⟨rfl, rfl⟩

/-- The empty URI and a zero byte, and two printable URIs. -/
theorem hashedFields_collide :
    ((⟨[]⟩ : ZkappUri) ≠ ⟨[0]⟩ ∧
      hashedFields ⟨[]⟩ = hashedFields ⟨[0]⟩) ∧
    ((⟨asBytes "mina-zkapp-contract-descriptiona"⟩ : ZkappUri) ≠
        ⟨asBytes "mina-zkapp-contract-description!@"⟩ ∧
      hashedFields ⟨asBytes "mina-zkapp-contract-descriptiona"⟩ =
        hashedFields ⟨asBytes "mina-zkapp-contract-description!@"⟩) := by
  simp only [hashedFields_eq]
  decide +kernel

end ZkappUri

end Tx
end MinaMultiSig
