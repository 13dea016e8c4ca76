import MinaMultiSig.Tx.Field

/-!
# Reading UTF-8

`from_utf8` of the Rust library on a byte list, with the text of its error: how
many bytes are valid, and how many bytes the first invalid sequence has unless
the input ends within it.
-/

namespace MinaMultiSig
namespace Tx

/-- A byte that continues a sequence. -/
def isContinuation (byte : UInt8) : Bool :=
  0x80 ≤ byte && byte ≤ 0xBF

/-- The second bytes a sequence of three or four bytes may have. -/
def isSecondByte (first second : UInt8) : Bool :=
  if first = 0xE0 then 0xA0 ≤ second && second ≤ 0xBF
  else if first = 0xED then 0x80 ≤ second && second ≤ 0x9F
  else if first = 0xF0 then 0x90 ≤ second && second ≤ 0xBF
  else if first = 0xF4 then 0x80 ≤ second && second ≤ 0x8F
  else isContinuation second

/-- The number of bytes a first byte announces. -/
def utf8CharWidth (first : UInt8) : Nat :=
  if first < 0x80 then 1
  else if 0xC2 ≤ first && first ≤ 0xDF then 2
  else if 0xE0 ≤ first && first ≤ 0xEF then 3
  else if 0xF0 ≤ first && first ≤ 0xF4 then 4
  else 0

/-- Where the first sequence that is not UTF-8 begins, and its length unless the
input ends within it. -/
def utf8Error (validUpTo : Nat) : List UInt8 → Option (Nat × Option Nat)
  | [] => none
  | first :: rest =>
      match utf8CharWidth first, rest with
      | 1, rest => utf8Error (validUpTo + 1) rest
      | 2, second :: rest =>
          if isContinuation second then utf8Error (validUpTo + 2) rest
          else some (validUpTo, some 1)
      | 3, second :: rest =>
          if isSecondByte first second then
            match rest with
            | [] => some (validUpTo, none)
            | third :: rest =>
                if isContinuation third then utf8Error (validUpTo + 3) rest
                else some (validUpTo, some 2)
          else some (validUpTo, some 1)
      | 4, second :: rest =>
          if isSecondByte first second then
            match rest with
            | [] => some (validUpTo, none)
            | third :: rest =>
                if isContinuation third then
                  match rest with
                  | [] => some (validUpTo, none)
                  | fourth :: rest =>
                      if isContinuation fourth then
                        utf8Error (validUpTo + 4) rest
                      else some (validUpTo, some 3)
                else some (validUpTo, some 2)
          else some (validUpTo, some 1)
      | 0, _ => some (validUpTo, some 1)
      | _, _ => some (validUpTo, none)

/-- The text of the error. -/
def utf8ErrorText (bytes : List UInt8) : String :=
  match utf8Error 0 bytes with
  | some (validUpTo, some errorLen) =>
      "invalid utf-8 sequence of " ++ toString errorLen ++
        " bytes from index " ++ toString validUpTo
  | some (validUpTo, none) =>
      "incomplete utf-8 byte sequence from index " ++ toString validUpTo
  | none => ""

/-- The text of bytes, or where they stop being one. -/
def fromUtf8 (bytes : List UInt8) : Except String String :=
  match String.fromUTF8? ⟨bytes.toArray⟩ with
  | some text => .ok text
  | none => .error (utf8ErrorText bytes)

/-- The bytes of a text are read as the text. -/
theorem fromUtf8_asBytes (text : String) :
    fromUtf8 (asBytes text) = .ok text := by
  have bytes : (⟨(asBytes text).toArray⟩ : ByteArray) = text.toByteArray := by
    apply ByteArray.ext
    rw [asBytes, Array.toArray_toList]
    rfl
  have valid : text.toByteArray.IsValidUTF8 := text.isValidUTF8
  have read : String.fromUTF8? text.toByteArray = some text := by
    rw [String.fromUTF8?, dif_pos valid]
    rfl
  rw [fromUtf8, bytes, read]

/-- A text that is read has the bytes it is read from. -/
theorem asBytes_of_fromUtf8
    {bytes : List UInt8}
    {text : String}
    (read : fromUtf8 bytes = .ok text) :
    asBytes text = bytes := by
  rw [fromUtf8] at read
  by_cases valid : (⟨bytes.toArray⟩ : ByteArray).IsValidUTF8
  · rw [String.fromUTF8?, dif_pos valid] at read
    rw [← Except.ok.inj read]
    rfl
  · rw [String.fromUTF8?, dif_neg valid] at read
    exact absurd read (by simp)

end Tx
end MinaMultiSig
