import Mathlib.Data.String.Basic

/-!
# Bytes as hexadecimal digits

A byte is written as two lower-case digits. Upper-case digits are read as well,
so that reading undoes writing, and different texts may be read as the same
bytes.
-/

namespace Hex

/-- The digit of a number below sixteen. -/
def digit (number : Nat) : Char :=
  if number < 10 then Char.ofNat (48 + number) else Char.ofNat (87 + number)

/-- The number of a digit. -/
def value (char : Char) : Option Nat :=
  if '0' ≤ char ∧ char ≤ '9' then some (char.toNat - 48)
  else if 'a' ≤ char ∧ char ≤ 'f' then some (char.toNat - 87)
  else if 'A' ≤ char ∧ char ≤ 'F' then some (char.toNat - 55)
  else none

theorem value_digit
    {number : Nat}
    (small : number < 16) :
    value (digit number) = some number := by
  revert number
  decide

/-- Two digits for every byte. -/
def encodeChars : List UInt8 → List Char
  | [] => []
  | byte :: bytes =>
      digit (byte.toNat / 16) :: digit (byte.toNat % 16) :: encodeChars bytes

/-- The bytes of pairs of digits. -/
def decodeChars : List Char → Option (List UInt8)
  | [] => some []
  | [_] => none
  | high :: low :: chars => do
      let highValue ← value high
      let lowValue ← value low
      let bytes ← decodeChars chars
      return UInt8.ofNat (16 * highValue + lowValue) :: bytes

theorem decodeChars_encodeChars (bytes : List UInt8) :
    decodeChars (encodeChars bytes) = some bytes := by
  induction bytes with
  | nil => rfl
  | cons byte bytes ih =>
      have small := byte.toNat_lt
      have halves : 16 * (byte.toNat / 16) + byte.toNat % 16 = byte.toNat := by
        omega
      have read : decodeChars (encodeChars (byte :: bytes)) =
          some (UInt8.ofNat
            (16 * (byte.toNat / 16) + byte.toNat % 16) :: bytes) := by
        rw [encodeChars, decodeChars, value_digit (by omega),
          value_digit (by omega), ih]
        rfl
      rw [read, halves, UInt8.ofNat_toNat]

/-- Bytes as hexadecimal text. -/
def encode (bytes : List UInt8) : String :=
  String.ofList (encodeChars bytes)

/-- The bytes of hexadecimal text, if it is one. -/
def decode (text : String) : Option (List UInt8) :=
  decodeChars text.toList

theorem decode_encode (bytes : List UInt8) :
    decode (encode bytes) = some bytes := by
  rw [decode, encode, String.toList_ofList, decodeChars_encodeChars]

theorem encode_injective : Function.Injective encode := by
  intro first second same
  have read := decode_encode first
  rw [same, decode_encode] at read
  exact (Option.some.inj read).symm

end Hex
