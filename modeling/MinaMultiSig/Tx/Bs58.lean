import Mathlib.Data.List.GetD
import MinaMultiSig.Library.Recoding
import MinaMultiSig.Library.Sha256
import MinaMultiSig.Tx.Signer

/-!
# Base58 digits and SHA-256

The digits of `bs58` with its default alphabet and the digest of `sha2`. They
meet what is assumed of them, so that what is proved from the assumptions holds
of the texts the program reads and writes.
-/

namespace MinaMultiSig
namespace Tx
namespace Bs58

/-- The digits of base 58. -/
def alphabet : List Char :=
  "123456789ABCDEFGHJKLMNPQRSTUVWXYZabcdefghijkmnopqrstuvwxyz".toList

/-- The character of a digit. -/
def toChar (digit : Nat) : Char :=
  alphabet.getD digit '1'

/-- Bytes as digits of base 58. -/
def encode (bytes : List UInt8) : String :=
  String.ofList ((Recoding.recode 256 58 (bytes.map UInt8.toNat)).map toChar)

/-- The bytes of a text, if all its characters are digits. -/
def decode (text : String) : Option (List UInt8) :=
  if text.toList.all alphabet.contains then
    some ((Recoding.recode 58 256 (text.toList.map alphabet.idxOf)).map
      UInt8.ofNat)
  else none

theorem idxOf_toChar
    {digit : Nat}
    (small : digit < 58) :
    alphabet.idxOf (toChar digit) = digit := by
  decide +revert

theorem toChar_mem
    {digit : Nat}
    (small : digit < 58) :
    toChar digit ∈ alphabet := by
  decide +revert

theorem toChar_idxOf
    {char : Char}
    (known : char ∈ alphabet) :
    toChar (alphabet.idxOf char) = char := by
  rw [toChar, List.getD_eq_getElem _ _ (List.idxOf_lt_length_of_mem known)]
  exact List.getElem_idxOf _

theorem idxOf_lt
    {char : Char}
    (known : char ∈ alphabet) :
    alphabet.idxOf char < 58 :=
  List.idxOf_lt_length_of_mem known

/-- What is undone for every member of a list is undone for the list. -/
theorem map_map_eq_self
    {α β : Type}
    {there : α → β}
    {back : β → α}
    {items : List α}
    (undone : ∀ item ∈ items, back (there item) = item) :
    (items.map there).map back = items := by
  rw [List.map_map]
  conv_rhs => rw [← List.map_id items]
  exact List.map_congr_left undone

/-- Texts and bytes stand for each other. -/
theorem decode_eq_some_iff
    (text : String)
    (bytes : List UInt8) :
    decode text = some bytes ↔ text = encode bytes := by
  constructor
  · intro decoded
    unfold decode at decoded
    split at decoded
    next known =>
      have known : ∀ char ∈ text.toList, char ∈ alphabet := by
        simpa using known
      have digitsSmall : ∀ digit ∈ text.toList.map alphabet.idxOf,
          digit < 58 := by
        intro digit member
        obtain ⟨char, charMember, rfl⟩ := List.mem_map.mp member
        exact idxOf_lt (known char charMember)
      have recoded : bytes.map UInt8.toNat =
          Recoding.recode 58 256 (text.toList.map alphabet.idxOf) := by
        rw [← Option.some.inj decoded]
        apply map_map_eq_self
        intro digit member
        exact UInt8.toNat_ofNat_of_lt'
          (Recoding.lt_of_mem_recode (by decide) member)
      rw [encode, recoded,
        Recoding.recode_recode (by decide) (by decide) digitsSmall,
        map_map_eq_self fun char member => toChar_idxOf (known char member),
        String.ofList_toList]
    next => exact absurd decoded (by simp)
  · rintro rfl
    have digitsSmall : ∀ digit ∈ Recoding.recode 256 58 (bytes.map UInt8.toNat),
        digit < 58 := fun digit => Recoding.lt_of_mem_recode (by decide)
    have known : (encode bytes).toList.all alphabet.contains = true := by
      rw [encode, String.toList_ofList, List.all_map, List.all_eq_true]
      intro digit member
      exact List.contains_iff_mem.mpr (toChar_mem (digitsSmall digit member))
    have recoded : Recoding.recode 58 256
        ((encode bytes).toList.map alphabet.idxOf) = bytes.map UInt8.toNat := by
      rw [encode, String.toList_ofList, map_map_eq_self fun digit member =>
        idxOf_toChar (digitsSmall digit member)]
      apply Recoding.recode_recode (by decide) (by decide)
      intro digit member
      obtain ⟨byte, -, rfl⟩ := List.mem_map.mp member
      exact byte.toNat_lt
    rw [decode, if_pos known, recoded,
      map_map_eq_self fun byte _ => UInt8.ofNat_toNat]

end Bs58

/-- Base58check with the digits of `bs58` and the digest of `sha2`. -/
def Base58.standard : Base58 :=
  { encode := Bs58.encode
    decode := Bs58.decode
    digest := Sha256.digest }

theorem Base58.standard_lawful : Base58.standard.Lawful :=
  { decode_eq_some_iff := Bs58.decode_eq_some_iff
    length_digest := Sha256.length_digest }

example : toBase58Check Base58.standard (asBytes "Hello from FROST x Rasp Devs")
    memoVersionByte = "72TwU3VwfWQ4a1ncZjWruEJqrUvPP5wnLrZmaauUGtwtv" := by
  decide +kernel

end Tx
end MinaMultiSig
