import MinaMultiSig.Tx.Field

/-!
# Random oracle inputs

The input of `mina-hasher`: field elements, and bits that are packed behind
them 254 at a time. Bytes are written least significant bit first and integers
as their little-endian bytes.
-/

namespace MinaMultiSig
namespace Tx

/-- The bits of bytes, least significant first. -/
def bitsOfBytes (bytes : List UInt8) : List Bool :=
  bytes.flatMap fun byte =>
    (List.range 8).map fun index => byte.toNat.testBit index

/-- The number a list of bits stands for, least significant bit first. -/
def bitsToNat (bits : List Bool) : Nat :=
  Nat.ofDigits 2 (bits.map Bool.toNat)

/-- Consecutive chunks of a given length, the last one shorter. -/
def chunksOf (length : Nat) (bits : List Bool) : List (List Bool) :=
  (List.range ((bits.length + length - 1) / length)).map fun index =>
    (bits.drop (index * length)).take length

/-- A random oracle input. -/
@[ext]
structure ROInput where
  fields : List Fp
  bits : List Bool
  deriving DecidableEq

namespace ROInput

/-- The empty input. -/
def new : ROInput :=
  { fields := [], bits := [] }

/-- A field element behind the others. -/
def appendField (input : ROInput) (field : Fp) : ROInput :=
  { input with fields := input.fields ++ [field] }

/-- A bit behind the others. -/
def appendBool (input : ROInput) (bit : Bool) : ROInput :=
  { input with bits := input.bits ++ [bit] }

/-- The bits of bytes behind the others. -/
def appendBytes (input : ROInput) (bytes : List UInt8) : ROInput :=
  { input with bits := input.bits ++ bitsOfBytes bytes }

/-- The bits of a number in four bytes. -/
def appendU32 (input : ROInput) (number : UInt32) : ROInput :=
  input.appendBytes (leBytes 4 number.toNat)

/-- The bits of a number in eight bytes. -/
def appendU64 (input : ROInput) (number : UInt64) : ROInput :=
  input.appendBytes (leBytes 8 number.toNat)

/-- The field elements that are hashed. -/
def toFields (input : ROInput) : List Fp :=
  input.fields ++
    (chunksOf 254 input.bits).map fun chunk => (bitsToNat chunk : Fp)

end ROInput

section Chunks

/-- The lowest bits of a number, least significant first. -/
def natBits (count number : Nat) : List Bool :=
  (List.range count).map fun index => number.testBit index

theorem natBits_succ (count number : Nat) :
    natBits (count + 1) number =
      number.testBit 0 :: natBits count (number / 2) := by
  unfold natBits
  rw [List.range_succ_eq_map, List.map_cons, List.map_map]
  apply congrArg (number.testBit 0 :: ·)
  apply List.map_congr_left
  intro index _
  exact Nat.testBit_succ number index

@[simp] theorem length_natBits (count number : Nat) :
    (natBits count number).length = count := by
  unfold natBits
  rw [List.length_map, List.length_range]

theorem bitsToNat_cons (bit : Bool) (bits : List Bool) :
    bitsToNat (bit :: bits) = bit.toNat + 2 * bitsToNat bits := by
  unfold bitsToNat
  rw [List.map_cons, Nat.ofDigits_cons]

/-- Bits are recovered from their number, with zeros behind them. -/
theorem natBits_bitsToNat
    {count : Nat}
    {bits : List Bool}
    (fits : bits.length ≤ count) :
    natBits count (bitsToNat bits) =
      bits ++ List.replicate (count - bits.length) false := by
  induction count generalizing bits with
  | zero =>
      rw [List.eq_nil_of_length_eq_zero (Nat.le_zero.mp fits)]
      rfl
  | succ count ih =>
      cases bits with
      | nil =>
          have zero := @ih [] (Nat.zero_le count)
          unfold bitsToNat at zero ⊢
          rw [natBits_succ]
          simp only [List.map_nil, Nat.ofDigits_nil, List.length_nil,
            List.nil_append, Nat.sub_zero, Nat.zero_testBit,
            Nat.zero_div] at zero ⊢
          rw [zero, List.replicate_succ]
      | cons bit bits =>
          have short : bits.length ≤ count := Nat.le_of_succ_le_succ fits
          have low : (bitsToNat (bit :: bits)).testBit 0 = bit := by
            rw [bitsToNat_cons]
            cases bit with
            | false => simp [Nat.testBit_zero]
            | true => simp [Nat.testBit_zero, Nat.add_mul_mod_self_left]
          have high : bitsToNat (bit :: bits) / 2 = bitsToNat bits := by
            rw [bitsToNat_cons]
            cases bit with
            | false => simp
            | true =>
                rw [Bool.toNat_true]
                omega
          rw [natBits_succ, low, high, ih short, List.length_cons,
            Nat.add_sub_add_right, List.cons_append]

/-- A number of some bits is recovered from them. -/
theorem natBits_inj
    {count first second : Nat}
    (firstBound : first < 2 ^ count)
    (secondBound : second < 2 ^ count)
    (same : natBits count first = natBits count second) :
    first = second := by
  apply Nat.eq_of_testBit_eq
  intro index
  by_cases inside : index < count
  · have bit := congrArg (·[index]?) same
    simpa [natBits, inside] using bit
  · have large : 2 ^ count ≤ 2 ^ index :=
      Nat.pow_le_pow_right (by decide) (Nat.not_lt.mp inside)
    rw [Nat.testBit_lt_two_pow (firstBound.trans_le large),
      Nat.testBit_lt_two_pow (secondBound.trans_le large)]

theorem bitsToNat_lt (bits : List Bool) : bitsToNat bits < 2 ^ bits.length := by
  induction bits with
  | nil => decide
  | cons bit bits ih =>
      have bound : bit.toNat ≤ 1 := Bool.toNat_le bit
      rw [bitsToNat_cons, List.length_cons, Nat.pow_succ]
      omega

theorem lt_of_mem_map_chunksOf
    {length : Nat}
    {bits : List Bool}
    {number : Nat}
    (member : number ∈ (chunksOf length bits).map bitsToNat) :
    number < 2 ^ length := by
  obtain ⟨chunk, isChunk, rfl⟩ := List.mem_map.mp member
  obtain ⟨index, -, rfl⟩ := List.mem_map.mp isChunk
  exact (bitsToNat_lt _).trans_le (Nat.pow_le_pow_right (by decide)
    (List.length_take_le length _))

variable {length : Nat} (positive : 0 < length)
include positive

/-- A chunk is taken from bits that are left. -/
theorem chunkCount_succ
    {bits : Nat}
    (nonempty : 0 < bits) :
    (bits + length - 1) / length =
      (bits - length + length - 1) / length + 1 := by
  by_cases whole : length ≤ bits
  · have shifted : bits + length - 1 = bits - length + length - 1 + length := by
      omega
    rw [shifted, Nat.add_div_right _ positive]
  · have none : bits - length + length - 1 = length - 1 := by
      omega
    rw [none, Nat.div_eq_of_lt (Nat.sub_lt positive Nat.one_pos)]
    apply Nat.div_eq_of_lt_le
    · omega
    · omega

theorem chunksOf_of_ne_nil
    {bits : List Bool}
    (nonempty : bits ≠ []) :
    chunksOf length bits =
      bits.take length :: chunksOf length (bits.drop length) := by
  unfold chunksOf
  rw [chunkCount_succ positive (List.length_pos_iff.mpr nonempty),
    List.range_succ_eq_map, List.map_cons, List.map_map, List.length_drop]
  apply congrArg₂ List.cons
  · rw [Nat.zero_mul, List.drop_zero]
  · apply List.map_congr_left
    intro index _
    rw [Function.comp_apply, List.drop_drop, Nat.succ_mul, Nat.add_comm]

theorem chunksOf_nil : chunksOf length [] = [] := by
  unfold chunksOf
  rw [List.length_nil, Nat.zero_add,
    Nat.div_eq_of_lt (Nat.sub_lt positive Nat.one_pos)]
  rfl

omit positive in
/-- The bits with zeros behind them that fill up the last chunk. -/
def padded (length : Nat) (bits : List Bool) : List Bool :=
  bits ++ List.replicate
    ((bits.length + length - 1) / length * length - bits.length) false

/-- The numbers of the chunks are the bits with zeros behind them. -/
theorem flatMap_chunksOf (bits : List Bool) :
    ((chunksOf length bits).map bitsToNat).flatMap (natBits length) =
      padded length bits := by
  induction size : bits.length using Nat.strong_induction_on
    generalizing bits with
  | _ size ih =>
  subst size
  by_cases nonempty : bits = []
  · subst nonempty
    rw [chunksOf_nil positive, padded, List.length_nil, Nat.zero_add,
      Nat.div_eq_of_lt (Nat.sub_lt positive Nat.one_pos)]
    simp
  · have isPositive := List.length_pos_iff.mpr nonempty
    have rest := ih (bits.drop length).length
      (by rw [List.length_drop]; omega) (bits.drop length) rfl
    rw [chunksOf_of_ne_nil positive nonempty, List.map_cons, List.flatMap_cons,
      rest, natBits_bitsToNat (List.length_take_le length bits)]
    unfold padded
    rw [chunkCount_succ positive isPositive, List.length_drop,
      List.length_take]
    by_cases whole : length ≤ bits.length
    · generalize (bits.length - length + length - 1) / length = count
      have zeros : count * length - (bits.length - length) =
          (count + 1) * length - bits.length := by
        rw [Nat.succ_mul]
        omega
      rw [Nat.min_eq_left whole, Nat.sub_self, List.replicate_zero,
        List.append_nil, ← List.append_assoc, List.take_append_drop, zeros]
    · have short : bits.length ≤ length := Nat.le_of_not_le whole
      have noChunk : (bits.length - length + length - 1) / length = 0 := by
        apply Nat.div_eq_of_lt
        omega
      rw [noChunk, Nat.min_eq_right short, List.take_of_length_le short,
        List.drop_of_length_le short, Nat.zero_mul, Nat.zero_sub,
        List.replicate_zero, List.append_nil, List.append_nil, Nat.zero_add,
        Nat.one_mul]

/-- Numbers below a bound are recovered from their bits. -/
theorem flatMap_natBits_inj
    {first second : List Nat}
    (firstBound : ∀ number ∈ first, number < 2 ^ length)
    (secondBound : ∀ number ∈ second, number < 2 ^ length)
    (same : first.flatMap (natBits length) =
      second.flatMap (natBits length)) :
    first = second := by
  have ne_nil : ∀ (number : Nat) (rest : List Bool),
      natBits length number ++ rest ≠ [] := by
    intro number rest isNil
    have lengths := congrArg List.length isNil
    rw [List.length_append, length_natBits, List.length_nil] at lengths
    omega
  induction first generalizing second with
  | nil =>
      cases second with
      | nil => rfl
      | cons number second => exact absurd same.symm (ne_nil _ _)
  | cons number first ih =>
      cases second with
      | nil => exact absurd same (ne_nil _ _)
      | cons other second =>
          rw [List.forall_mem_cons] at firstBound secondBound
          have parts := List.append_inj same
            (by rw [length_natBits, length_natBits])
          rw [natBits_inj firstBound.1 secondBound.1 parts.1,
            ih firstBound.2 secondBound.2 parts.2]

/-- The numbers of the chunks are the same for the same bits with zeros behind
them. -/
theorem map_chunksOf_eq_iff (first second : List Bool) :
    (chunksOf length first).map bitsToNat =
        (chunksOf length second).map bitsToNat ↔
      padded length first = padded length second := by
  rw [← flatMap_chunksOf positive, ← flatMap_chunksOf positive]
  constructor
  · intro same
    rw [same]
  · exact flatMap_natBits_inj positive (fun _ => lt_of_mem_map_chunksOf)
      fun _ => lt_of_mem_map_chunksOf

omit positive in
/-- The field elements of the chunks are the same for the same bits with zeros
behind them. -/
theorem map_natCast_chunksOf_eq_iff (first second : List Bool) :
    ((chunksOf 254 first).map fun chunk => (bitsToNat chunk : Fp)) =
        ((chunksOf 254 second).map fun chunk => (bitsToNat chunk : Fp)) ↔
      padded 254 first = padded 254 second := by
  have below : ∀ {bits : List Bool}, ∀ number ∈
      (chunksOf 254 bits).map bitsToNat, number < fpModulus :=
    fun _ member => (lt_of_mem_map_chunksOf member).trans (by decide)
  have composed : ∀ bits : List Bool,
      ((chunksOf 254 bits).map fun chunk => (bitsToNat chunk : Fp)) =
        ((chunksOf 254 bits).map bitsToNat).map Nat.cast := by
    intro bits
    rw [List.map_map]
    rfl
  rw [← map_chunksOf_eq_iff (by decide), composed, composed]
  constructor
  · exact map_natCast_fp_inj below below
  · intro same
    rw [same]

end Chunks

section Appending

/-- Bits that are appended one by one. -/
theorem ROInput.foldl_appendBool (bits : List Bool) (roi : ROInput) :
    bits.foldl ROInput.appendBool roi =
      { roi with bits := roi.bits ++ bits } := by
  induction bits generalizing roi with
  | nil => simp
  | cons bit rest ih => simp [ih, ROInput.appendBool]

/-- The eight bits of a byte determine it. -/
theorem byteBits_inj
    {first second : UInt8}
    (same : ((List.range 8).map fun index => first.toNat.testBit index) =
      (List.range 8).map fun index => second.toNat.testBit index) :
    first = second := by
  apply UInt8.toNat_inj.mp
  exact natBits_inj first.toNat_lt second.toNat_lt same

/-- The bits of byte strings of one length determine the bytes. -/
theorem bitsOfBytes_inj
    {first second : List UInt8}
    (lengths : first.length = second.length)
    (same : bitsOfBytes first = bitsOfBytes second) :
    first = second := by
  induction first generalizing second with
  | nil => exact (List.length_eq_zero_iff.mp lengths.symm).symm
  | cons byte rest ih =>
      cases second with
      | nil => simp at lengths
      | cons otherByte otherRest =>
          rw [bitsOfBytes, bitsOfBytes, List.flatMap_cons, List.flatMap_cons]
            at same
          obtain ⟨bits, restBits⟩ := List.append_inj same (by simp)
          rw [byteBits_inj bits, ih (Nat.succ.inj lengths) restBits]

theorem length_bitsOfBytes (bytes : List UInt8) :
    (bitsOfBytes bytes).length = bytes.length * 8 := by
  simp [bitsOfBytes, List.length_flatMap]

end Appending

end Tx
end MinaMultiSig
