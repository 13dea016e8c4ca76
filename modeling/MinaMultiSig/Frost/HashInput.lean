import MinaMultiSig.Frost.BluePallas
import MinaMultiSig.Library.DelimitedCode

/-!
# The inputs of the hash functions

The encoding of byte segments of `frost-bluepallas/src/hasher.rs`: their number,
and the length of each before its bytes, all packed into field elements. Every
part shows where it ends, so that the segments are recovered from the field
elements even if a sponge ignores zeros at the end. The hash functions of the
ciphersuite differ in one segment.
-/

namespace MinaMultiSig
namespace Frost

open Tx DelimitedCode

variable {ε : Type}

section Source

/-- A slice, which has fewer than `2 ^ 64` elements. -/
abbrev Slice (α : Type) : Type :=
  { list : List α // list.length < 2 ^ 64 }

/-- Byte segments that are hashed. -/
structure PallasHashElement where
  value : Slice (Slice UInt8)
  deriving DecidableEq

/-- `HASH_ELEMENT_STRING`. -/
def hashElementString : String :=
  "PallasHashElement"

namespace PallasHashElement

/-- The number of segments, and each segment behind its length. -/
def toRoinput (element : PallasHashElement) : ROInput :=
  let roi := ROInput.new.appendBytes (leBytes 8 element.value.val.length)
  element.value.val.foldl
    (fun roi segment =>
      (roi.appendBytes (leBytes 8 segment.val.length)).appendBytes segment.val)
    roi

/-- The fixed domain string of the hash. -/
def domainString : String :=
  hashElementString

end PallasHashElement

/-- The order of the scalar field of the Pallas curve. -/
def fqModulus : Nat :=
  28948022309329048855892746252171976963363056481941647379679742748393362948097

instance : NeZero fqModulus :=
  ⟨by decide⟩

/-- An element of the scalar field. -/
abbrev Fq : Type :=
  ZMod fqModulus

namespace Fq

/-- `PrimeField::from_bigint`: a number that is no residue is refused. -/
def fromBigint (number : Nat) : Option Fq :=
  if number < fqModulus then some (number : Fq) else none

/-- `Fq::from` of a number: it panics where the number is refused. -/
def ofBigint (number : Nat) : Outcome ε Fq :=
  Outcome.ofOption (fromBigint number)

end Fq

/-- `PallasScalarField::serialize`. -/
def serializeScalar (scalar : Fq) : List UInt8 :=
  leBytes 32 scalar.val

/-- The hash of segments, with the legacy parameters, as a scalar. -/
def hashToScalar
    (hasher : MinaHasher)
    (input : Slice (Slice UInt8)) : Outcome ε Fq :=
  let wrap : PallasHashElement := { value := input }
  Fq.ofBigint
    (hasher.legacy PallasHashElement.domainString wrap.toRoinput.toFields).val

/-- The same hash as the 32 bytes of the scalar. -/
def hashToArray
    (hasher : MinaHasher)
    (input : Slice (Slice UInt8)) : Outcome ε (List UInt8) := do
  let scalar ← hashToScalar hasher input
  return serializeScalar scalar

/-- `CONTEXT_STRING`. -/
def contextString : String :=
  "bluepallas"

/-- The segment by which the hash functions differ. -/
inductive HashTag
  | rho
  | nonce
  | msg
  | com
  | dkg
  | id
  deriving DecidableEq

/-- The bytes of the segment, as the source has them. -/
def HashTag.text : HashTag → String
  | .rho => "rho"
  | .nonce => "nonce"
  | .msg => "msg"
  | .com => "com"
  | .dkg => "dkg"
  | .id => "id"

/-- `&[CONTEXT_STRING.as_bytes(), tag, m]`. -/
def HashTag.input (tag : HashTag) (m : Slice UInt8) : Slice (Slice UInt8) :=
  ⟨[⟨asBytes contextString, by decide⟩,
    ⟨asBytes tag.text, by cases tag <;> decide⟩, m],
    Nat.lt_of_le_of_lt (Nat.le_refl 3) (by decide)⟩

variable (hasher : MinaHasher) (m : Slice UInt8)

/-- `Ciphersuite::H1`. -/
def H1 : Outcome ε Fq :=
  hashToScalar hasher (HashTag.rho.input m)

/-- `Ciphersuite::H3`. -/
def H3 : Outcome ε Fq :=
  hashToScalar hasher (HashTag.nonce.input m)

/-- `Ciphersuite::H4`. -/
def H4 : Outcome ε (List UInt8) :=
  hashToArray hasher (HashTag.msg.input m)

/-- `Ciphersuite::H5`. -/
def H5 : Outcome ε (List UInt8) :=
  hashToArray hasher (HashTag.com.input m)

/-- `Ciphersuite::HDKG`, which always has a value. -/
def HDKG : Outcome ε (Option Fq) :=
  some <$> hashToScalar hasher (HashTag.dkg.input m)

/-- `Ciphersuite::HID`, which always has a value. -/
def HID : Outcome ε (Option Fq) :=
  some <$> hashToScalar hasher (HashTag.id.input m)

end Source

section Segments

/-- The bits of a number in eight bytes. -/
def lengthBits (number : Nat) : List Bool :=
  bitsOfBytes (leBytes 8 number)

/-- The bits of a segment behind those of its length. -/
def segmentBits (segment : List UInt8) : List Bool :=
  lengthBits segment.length ++ bitsOfBytes segment

theorem delimited_lengthBits :
    Delimited (fun number => number < 2 ^ 64) lengthBits := by
  apply @delimited_of_width _ _ _ _ 64
  · intro number _
    rw [lengthBits, length_bitsOfBytes, length_leBytes]
  · intro first second firstFits secondFits same
    have bytes : leBytes 8 first = leBytes 8 second := by
      apply bitsOfBytes_inj _ same
      rw [length_leBytes, length_leBytes]
    have size : 2 ^ 64 = 256 ^ 8 := by
      decide
    rw [size] at firstFits secondFits
    rw [← littleEndian_leBytes firstFits, bytes,
      littleEndian_leBytes secondFits]

theorem delimited_byteBits :
    Delimited (fun _ : UInt8 => True) fun byte =>
      (List.range 8).map fun index => byte.toNat.testBit index := by
  apply @delimited_of_width _ _ _ _ 8
  · intro byte _
    rw [List.length_map, List.length_range]
  · intro first second _ _ same
    exact byteBits_inj same

/-- A segment is a counted list of bytes. -/
theorem delimited_segmentBits :
    Delimited
      (fun segment => segment.length < 2 ^ 64 ∧ ∀ byte ∈ segment, True)
      segmentBits :=
  delimited_lengthBits.counted delimited_byteBits

theorem foldl_append_segments
    (segments : List (Slice UInt8))
    (roi : ROInput) :
    segments.foldl
        (fun roi segment =>
          (roi.appendBytes (leBytes 8 segment.val.length)).appendBytes
            segment.val)
        roi =
      { roi with
        bits := roi.bits ++
          (segments.map Subtype.val).flatMap segmentBits } := by
  induction segments generalizing roi with
  | nil => simp
  | cons segment segments ih =>
      rw [List.foldl_cons, ih, List.map_cons, List.flatMap_cons]
      simp only [ROInput.appendBytes, segmentBits, lengthBits,
        List.append_assoc]

namespace PallasHashElement

/-- The segments without the bounds of their lengths. -/
def segments (element : PallasHashElement) : List (List UInt8) :=
  element.value.val.map Subtype.val

theorem segments_injective : Function.Injective segments := by
  intro first second same
  have values := List.map_injective_iff.mpr Subtype.val_injective same
  cases first
  cases second
  exact congrArg mk (Subtype.ext values)

theorem toRoinput_eq (element : PallasHashElement) :
    element.toRoinput =
      { fields := []
        bits := lengthBits element.segments.length ++
          element.segments.flatMap segmentBits } := by
  unfold toRoinput segments
  dsimp only
  rw [foldl_append_segments, List.length_map]
  rfl

/-- The segments are recovered from the bits, whatever stands behind these. -/
theorem eq_of_bits_append
    {first second : PallasHashElement}
    {rest other : List Bool}
    (same : first.toRoinput.bits ++ rest = second.toRoinput.bits ++ other) :
    first = second := by
  have bounds : ∀ element : PallasHashElement,
      element.segments.length < 2 ^ 64 ∧ ∀ segment ∈ element.segments,
        segment.length < 2 ^ 64 ∧ ∀ byte ∈ segment, True := by
    intro element
    unfold segments
    refine ⟨?_, ?_⟩
    · rw [List.length_map]
      exact element.value.property
    · intro segment member
      obtain ⟨slice, -, rfl⟩ := List.mem_map.mp member
      exact ⟨slice.property, fun _ _ => trivial⟩
  rw [toRoinput_eq, toRoinput_eq] at same
  have counted := delimited_lengthBits.counted delimited_segmentBits
  exact segments_injective
    (counted _ _ rest other (bounds first) (bounds second) same).1

end PallasHashElement

end Segments

section Packed

/-- The field elements without the zeros at the end. -/
def withoutTrailingZeros (fields : List Fp) : List Fp :=
  fields.rdropWhile (· = 0)

/-- The numbers of the chunks, with zeros behind them, have the bits, with zeros
behind them. -/
theorem flatMap_chunks_append_zeros
    (bits : List Bool)
    (count : Nat) :
    ∃ zeros,
      ((chunksOf 254 bits).map bitsToNat ++
          List.replicate count 0).flatMap (natBits 254) =
        bits ++ List.replicate zeros false := by
  have none : natBits 254 0 = List.replicate 254 false := by
    simp [natBits]
  have behind : (List.replicate count 0).flatMap (natBits 254) =
      List.replicate (count * 254) false := by
    rw [List.flatMap_replicate, none, List.flatten_replicate_replicate]
  rw [List.flatMap_append, flatMap_chunksOf (by decide), behind, padded,
    List.append_assoc, ← List.replicate_add]
  exact ⟨_, rfl⟩

/-- Inputs without fields that are packed into the same field elements, up to
zeros at the end, have the same bits up to zeros at the end. -/
theorem bits_append_eq_of_toFields
    {first second : ROInput}
    (firstFields : first.fields = [])
    (secondFields : second.fields = [])
    (same : withoutTrailingZeros first.toFields =
      withoutTrailingZeros second.toFields) :
    ∃ zeros otherZeros, first.bits ++ List.replicate zeros false =
      second.bits ++ List.replicate otherZeros false := by
  obtain ⟨count, otherCount, filled⟩ := fill_eq_of_rdropWhile_eq same
  have below : ∀ {bits : List Bool} {more : Nat}, ∀ number ∈
      (chunksOf 254 bits).map bitsToNat ++ List.replicate more 0,
        number < fpModulus := by
    intro bits more number member
    rcases List.mem_append.mp member with isChunk | isZero
    · exact (lt_of_mem_map_chunksOf isChunk).trans (by decide)
    · rw [List.eq_of_mem_replicate isZero]
      decide
  have composed : ∀ {input : ROInput} {more : Nat}, input.fields = [] →
      input.toFields ++ List.replicate more 0 =
        ((chunksOf 254 input.bits).map bitsToNat ++
          List.replicate more 0).map Nat.cast := by
    intro input more noFields
    rw [ROInput.toFields, noFields, List.nil_append, List.map_append,
      List.map_map, List.map_replicate, Nat.cast_zero]
    rfl
  rw [composed firstFields, composed secondFields] at filled
  have numbers := map_natCast_fp_inj below below filled
  obtain ⟨zeros, isFirst⟩ := flatMap_chunks_append_zeros first.bits count
  obtain ⟨otherZeros, isSecond⟩ :=
    flatMap_chunks_append_zeros second.bits otherCount
  refine ⟨zeros, otherZeros, ?_⟩
  rw [← isFirst, numbers, isSecond]

end Packed

section Hashed

/-- The field elements that are hashed for segments. -/
def hashFields (input : Slice (Slice UInt8)) : List Fp :=
  (PallasHashElement.mk input).toRoinput.toFields

/-- Segments are recovered from the field elements that are hashed for them,
even without the zeros at the end. -/
theorem hashFields_injective :
    Function.Injective fun input =>
      withoutTrailingZeros (hashFields input) := by
  intro first second same
  have noFields : ∀ element : PallasHashElement,
      element.toRoinput.fields = [] := by
    intro element
    rw [element.toRoinput_eq]
  obtain ⟨zeros, otherZeros, bits⟩ :=
    bits_append_eq_of_toFields (noFields _) (noFields _) same
  have elements := PallasHashElement.eq_of_bits_append bits
  exact congrArg PallasHashElement.value elements

theorem HashTag.text_injective : Function.Injective text := by
  intro first second same
  cases first <;> cases second <;> first | rfl | exact absurd same (by decide)

theorem HashTag.input_inj
    {tag other : HashTag}
    {m m' : Slice UInt8}
    (same : tag.input m = other.input m') :
    tag = other ∧ m = m' := by
  obtain ⟨-, behind⟩ := List.cons.inj (congrArg Subtype.val same)
  obtain ⟨texts, messages⟩ := List.cons.inj behind
  refine ⟨HashTag.text_injective ?_, (List.cons.inj messages).1⟩
  exact asBytes_inj (congrArg Subtype.val texts)

theorem fpModulus_lt_fqModulus : fpModulus < fqModulus := by
  decide

/-- An element of the base field is a scalar as a number. -/
theorem Fq.ofBigint_val (hash : Fp) :
    (ofBigint hash.val : Outcome ε Fq) = .ok (hash.val : Fq) ∧
      ZMod.val (hash.val : Fq) = hash.val := by
  have below : hash.val < fqModulus :=
    (ZMod.val_lt hash).trans fpModulus_lt_fqModulus
  refine ⟨?_, ZMod.val_natCast_of_lt below⟩
  rw [ofBigint, fromBigint, if_pos below]
  rfl

/-- The scalar is the hash of the field elements, as a number. -/
theorem hashToScalar_spec
    (hasher : MinaHasher)
    (input : Slice (Slice UInt8)) :
    ∃ scalar : Fq, (hashToScalar hasher input : Outcome ε Fq) = .ok scalar ∧
      scalar.val =
        (hasher.legacy hashElementString (hashFields input)).val :=
  ⟨_, Fq.ofBigint_val _⟩

/-- The 32 bytes stand for the hash of the field elements. -/
theorem hashToArray_spec
    (hasher : MinaHasher)
    (input : Slice (Slice UInt8)) :
    ∃ bytes, (hashToArray hasher input : Outcome ε _) = .ok bytes ∧
      bytes.length = 32 ∧ littleEndian bytes =
        (hasher.legacy hashElementString (hashFields input)).val := by
  obtain ⟨scalar, converted, value⟩ := @hashToScalar_spec ε hasher input
  have fits : scalar.val < 256 ^ 32 :=
    (ZMod.val_lt scalar).trans (by decide)
  refine ⟨serializeScalar scalar, ?_, length_leBytes 32 _, ?_⟩
  · rw [hashToArray, converted]
    rfl
  · rw [serializeScalar, littleEndian_leBytes fits, value]

/-- The hash of the field elements of a tagged message. -/
def HashTag.digest
    (tag : HashTag)
    (hasher : MinaHasher)
    (m : Slice UInt8) : Fp :=
  hasher.legacy hashElementString (hashFields (tag.input m))

/-- The hash functions return the hashes of their tagged messages: four of them
as scalars, and two as bytes. -/
structure HashFunctions
    (ε : Type)
    (hasher : MinaHasher)
    (m : Slice UInt8) : Prop where
  h1 : ∃ scalar : Fq, (H1 hasher m : Outcome ε _) = .ok scalar ∧
    scalar.val = (HashTag.rho.digest hasher m).val
  h3 : ∃ scalar : Fq, (H3 hasher m : Outcome ε _) = .ok scalar ∧
    scalar.val = (HashTag.nonce.digest hasher m).val
  h4 : ∃ bytes, (H4 hasher m : Outcome ε _) = .ok bytes ∧
    bytes.length = 32 ∧ littleEndian bytes = (HashTag.msg.digest hasher m).val
  h5 : ∃ bytes, (H5 hasher m : Outcome ε _) = .ok bytes ∧
    bytes.length = 32 ∧ littleEndian bytes = (HashTag.com.digest hasher m).val
  hdkg : ∃ scalar : Fq, (HDKG hasher m : Outcome ε _) = .ok (some scalar) ∧
    scalar.val = (HashTag.dkg.digest hasher m).val
  hid : ∃ scalar : Fq, (HID hasher m : Outcome ε _) = .ok (some scalar) ∧
    scalar.val = (HashTag.id.digest hasher m).val

theorem hashFunctions_spec (hasher : MinaHasher) (m : Slice UInt8) :
    HashFunctions ε hasher m := by
  have some_ok : ∀ input, ∃ scalar : Fq,
      (some <$> hashToScalar hasher input : Outcome ε _) = .ok (some scalar) ∧
        scalar.val =
          (hasher.legacy hashElementString (hashFields input)).val := by
    intro input
    obtain ⟨scalar, converted, value⟩ := @hashToScalar_spec ε hasher input
    exact ⟨scalar, by rw [converted]; rfl, value⟩
  exact ⟨hashToScalar_spec hasher _, hashToScalar_spec hasher _,
    hashToArray_spec hasher _, hashToArray_spec hasher _, some_ok _, some_ok _⟩

/-- Two lists of field elements have one hash, and differ in more than zeros at
the end. -/
structure Collides
    (hasher : MinaHasher)
    (first second : List Fp) : Prop where
  different : withoutTrailingZeros first ≠ withoutTrailingZeros second
  sameHash : hasher.legacy hashElementString first =
    hasher.legacy hashElementString second

section Collisions

variable {hasher : MinaHasher} {first second : Slice (Slice UInt8)}

/-- Different segments with one scalar are a collision of the hash. -/
theorem collides_of_hashToScalar
    (different : first ≠ second)
    (same : (hashToScalar hasher first : Outcome ε Fq) =
      hashToScalar hasher second) :
    Collides hasher (hashFields first) (hashFields second) := by
  refine ⟨fun fields => different (hashFields_injective fields), ?_⟩
  obtain ⟨scalar, isFirst, firstValue⟩ := @hashToScalar_spec ε hasher first
  obtain ⟨other, isSecond, secondValue⟩ := @hashToScalar_spec ε hasher second
  have scalars : scalar = other := by
    rw [isFirst, isSecond] at same
    exact Except.ok.inj same
  apply ZMod.val_injective
  rw [← firstValue, ← secondValue, scalars]

/-- Different segments with one array are a collision of the hash. -/
theorem collides_of_hashToArray
    (different : first ≠ second)
    (same : (hashToArray hasher first : Outcome ε _) =
      hashToArray hasher second) :
    Collides hasher (hashFields first) (hashFields second) := by
  refine ⟨fun fields => different (hashFields_injective fields), ?_⟩
  obtain ⟨bytes, isFirst, -, firstValue⟩ := @hashToArray_spec ε hasher first
  obtain ⟨other, isSecond, -, secondValue⟩ :=
    @hashToArray_spec ε hasher second
  have arrays : bytes = other := by
    rw [isFirst, isSecond] at same
    exact Except.ok.inj same
  apply ZMod.val_injective
  rw [← firstValue, ← secondValue, arrays]

end Collisions

/-- Different segments are hashed as different field elements. The hash functions
return the hashes of their tagged messages, for which these elements differ from
function to function and from message to message. The conversion of a hash to a
scalar neither fails nor reduces, so that different segments have one scalar, or
one array, only where the hash collides. -/
theorem hashInputs_separate :
    (∀ first second : PallasHashElement,
      withoutTrailingZeros first.toRoinput.toFields =
          withoutTrailingZeros second.toRoinput.toFields →
        first = second) ∧
    (∀ (hasher : MinaHasher) (m : Slice UInt8), HashFunctions ε hasher m) ∧
    (∀ (tag other : HashTag) (m m' : Slice UInt8),
      tag ≠ other ∨ m ≠ m' →
        withoutTrailingZeros (hashFields (tag.input m)) ≠
          withoutTrailingZeros (hashFields (other.input m'))) ∧
    fpModulus < fqModulus ∧
    (∀ hash : Fp, ∃ scalar : Fq,
      (Fq.ofBigint hash.val : Outcome ε Fq) = .ok scalar ∧
        scalar.val = hash.val) ∧
    (∀ (hasher : MinaHasher) (input : Slice (Slice UInt8)),
      ∃ scalar : Fq, (hashToScalar hasher input : Outcome ε Fq) = .ok scalar ∧
        scalar.val =
          (hasher.legacy hashElementString (hashFields input)).val) ∧
    ∀ (hasher : MinaHasher) (first second : Slice (Slice UInt8)),
      first ≠ second →
        (hashToScalar hasher first : Outcome ε Fq) =
            hashToScalar hasher second ∨
          (hashToArray hasher first : Outcome ε _) =
            hashToArray hasher second →
        Collides hasher (hashFields first) (hashFields second) := by
  refine ⟨?_, hashFunctions_spec, ?_, fpModulus_lt_fqModulus, ?_,
    hashToScalar_spec, ?_⟩
  · intro first second same
    exact congrArg PallasHashElement.mk (hashFields_injective same)
  · intro tag other m m' different same
    obtain ⟨tags, messages⟩ :=
      HashTag.input_inj (hashFields_injective same)
    exact different.elim (absurd tags) (absurd messages)
  · intro hash
    exact ⟨_, Fq.ofBigint_val hash⟩
  · rintro hasher first second different (scalars | arrays)
    · exact collides_of_hashToScalar different scalars
    · exact collides_of_hashToArray different arrays

end Hashed

end Frost
end MinaMultiSig
