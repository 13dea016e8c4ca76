import Mathlib.Data.ZMod.Basic
import Mathlib.Data.Nat.Digits.Defs

/-!
# Base field elements and bytes

The base field of the Pallas curve, little-endian bytes, the bytes of a string
and `Fp::from_random_bytes`, with the errors of `mina-tx/src/errors.rs`.
-/

namespace MinaMultiSig

/-- The errors of the transaction library. -/
inductive MinaTxError
  | serializationError (message : String)
  | deSerializationError (message : String)
  | invalidSignature (message : String)
  | invalidPublicKey (message : String)
  | invalidMemo (message : String)
  | memoSerializationError (message : String)
  | invalidZkAppCommand (message : String)
  | saveSignatureError (message : String)
  | unknownTransactionType (message : String)
  deriving DecidableEq

namespace Tx

/-- The order of the base field of the Pallas curve. -/
def fpModulus : Nat :=
  28948022309329048855892746252171976963363056481941560715954676764349967630337

instance : NeZero fpModulus :=
  ⟨by decide⟩

/-- An element of the base field. -/
abbrev Fp : Type :=
  ZMod fpModulus

/-- Numbers below the modulus are their own residues. -/
theorem natCast_fp_inj
    {first second : Nat}
    (firstBound : first < fpModulus)
    (secondBound : second < fpModulus)
    (same : (first : Fp) = (second : Fp)) :
    first = second := by
  have values := congrArg ZMod.val same
  rwa [ZMod.val_natCast_of_lt firstBound,
    ZMod.val_natCast_of_lt secondBound] at values

/-- Lists of numbers below the modulus are determined by their residues. -/
theorem map_natCast_fp_inj
    {first second : List Nat}
    (firstBound : ∀ number ∈ first, number < fpModulus)
    (secondBound : ∀ number ∈ second, number < fpModulus)
    (same : first.map (Nat.cast : Nat → Fp) = second.map Nat.cast) :
    first = second := by
  have recovered : ∀ {numbers : List Nat},
      (∀ number ∈ numbers, number < fpModulus) →
        (numbers.map (Nat.cast : Nat → Fp)).map ZMod.val = numbers := by
    intro numbers bound
    rw [List.map_map]
    calc numbers.map (ZMod.val ∘ (Nat.cast : Nat → Fp))
        = numbers.map id := List.map_congr_left fun number member =>
          ZMod.val_natCast_of_lt (bound number member)
      _ = numbers := List.map_id numbers
  rw [← recovered firstBound, same, recovered secondBound]

/-- The number a list of bytes stands for, least significant byte first. -/
def littleEndian (bytes : List UInt8) : Nat :=
  Nat.ofDigits 256 (bytes.map UInt8.toNat)

/-- The digits are below the base. -/
theorem byte_lt_base
    {bytes : List UInt8}
    {digit : Nat}
    (member : digit ∈ bytes.map UInt8.toNat) :
    digit < 256 := by
  obtain ⟨byte, -, rfl⟩ := List.mem_map.mp member
  exact byte.toNat_lt

theorem littleEndian_lt (bytes : List UInt8) :
    littleEndian bytes < 256 ^ bytes.length := by
  rw [← List.length_map UInt8.toNat]
  exact Nat.ofDigits_lt_base_pow_length (by decide) fun _ => byte_lt_base

theorem littleEndian_append (first second : List UInt8) :
    littleEndian (first ++ second) =
      littleEndian first + 256 ^ first.length * littleEndian second := by
  unfold littleEndian
  rw [List.map_append, Nat.ofDigits_append, List.length_map]

/-- Zero bytes behind a little-endian number do not change it. -/
theorem littleEndian_append_zeros
    (val : List UInt8)
    (count : Nat) :
    littleEndian (val ++ List.replicate count 0) = littleEndian val := by
  rw [littleEndian, List.map_append, List.map_replicate]
  exact Nat.ofDigits_append_replicate_zero _

/-- Byte strings of one length are told apart by their number. -/
theorem littleEndian_inj
    {first second : List UInt8}
    (sameLength : first.length = second.length)
    (same : littleEndian first = littleEndian second) :
    first = second := by
  have lists : first.map UInt8.toNat = second.map UInt8.toNat :=
    Nat.ofDigits_inj_of_len_eq (by decide) (by simp [sameLength])
      (fun _ => byte_lt_base) (fun _ => byte_lt_base) same
  exact List.map_injective_iff.mpr (fun _ _ => UInt8.toNat_inj.mp) lists

/-- The lowest bytes of a number, least significant byte first. -/
def leBytes (count number : Nat) : List UInt8 :=
  (List.range count).map fun index => UInt8.ofNat (number / 256 ^ index)

@[simp] theorem length_leBytes (count number : Nat) :
    (leBytes count number).length = count := by
  rw [leBytes, List.length_map, List.length_range]

theorem leBytes_succ (count number : Nat) :
    leBytes (count + 1) number =
      UInt8.ofNat number :: leBytes count (number / 256) := by
  rw [leBytes, List.range_succ_eq_map, List.map_cons, List.map_map, pow_zero,
    Nat.div_one]
  apply congrArg (UInt8.ofNat number :: ·)
  apply List.map_congr_left
  intro index _member
  rw [Function.comp_apply, Nat.pow_succ', Nat.div_div_eq_div_mul]

/-- A number is recovered from enough bytes. -/
theorem littleEndian_leBytes
    {count number : Nat}
    (below : number < 256 ^ count) :
    littleEndian (leBytes count number) = number := by
  induction count generalizing number with
  | zero =>
      rw [Nat.lt_one_iff.mp below]
      rfl
  | succ count ih =>
      have smaller : number / 256 < 256 ^ count := by
        rw [Nat.pow_succ] at below
        exact Nat.div_lt_of_lt_mul (by omega)
      have rest := ih smaller
      rw [littleEndian] at rest
      rw [leBytes_succ, littleEndian, List.map_cons, Nat.ofDigits_cons, rest,
        UInt8.toNat_ofNat']
      omega

/-- Bytes are recovered from their number. -/
theorem leBytes_littleEndian (bytes : List UInt8) :
    leBytes bytes.length (littleEndian bytes) = bytes := by
  apply littleEndian_inj (length_leBytes _ _)
  exact littleEndian_leBytes (littleEndian_lt bytes)

/-- The UTF-8 bytes of a string. -/
def asBytes (text : String) : List UInt8 :=
  text.toUTF8.data.toList

theorem asBytes_eq_flatMap (text : String) :
    asBytes text = text.toList.flatMap String.utf8EncodeChar := by
  have encoded : text.toByteArray = text.toList.utf8Encode :=
    (String.utf8Encode_toList).symm
  rw [asBytes, String.toUTF8, encoded]
  simp [List.utf8Encode]

@[simp] theorem length_asBytes (text : String) :
    (asBytes text).length = text.utf8ByteSize := by
  rfl

theorem asBytes_inj
    {first second : String}
    (same : asBytes first = asBytes second) :
    first = second := by
  apply String.toByteArray_inj.mp
  apply ByteArray.ext
  exact Array.toList_inj.mp same

namespace Fp

/-- `Fp::from_random_bytes` on 32 bytes: the top bit is masked off, and a number
that is no residue is refused. -/
def fromRandomBytes (bytes : List UInt8) : Option Fp :=
  if littleEndian bytes % 2 ^ 255 < fpModulus then
    some ((littleEndian bytes % 2 ^ 255 : Nat) : Fp)
  else none

/-- Bytes that stand for a residue are read as that residue. -/
theorem fromRandomBytes_of_lt
    {bytes : List UInt8}
    (bound : littleEndian bytes < fpModulus) :
    fromRandomBytes bytes = some (littleEndian bytes : Fp) := by
  have small : littleEndian bytes % 2 ^ 255 = littleEndian bytes :=
    Nat.mod_eq_of_lt (bound.trans (by decide))
  rw [fromRandomBytes, small, if_pos bound]

end Fp

end Tx
end MinaMultiSig
