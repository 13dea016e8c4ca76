import Mathlib

/-!
# Values written one behind the other

The format of `postcard`: numbers in groups of seven bits, byte strings behind
their length, and optional values behind a flag. A value is read from the front
of what is left, so that the values of a record are read one after the other and
what stands behind them does not matter.
-/

namespace Postcard

variable {α β : Type}

/-- Read a value, and return what stands behind it. -/
abbrev Reader (α : Type) : Type :=
  List UInt8 → Option (α × List UInt8)

/-- What is written for a value is read again. -/
def Reads
    (write : α → List UInt8)
    (read : Reader α)
    (value : α) : Prop :=
  ∀ rest, read (write value ++ rest) = some (value, rest)

section Numbers

/-- At most so many groups, the least significant one first. All but the last
one are marked. -/
def writeVarint : Nat → Nat → List UInt8
  | 0, _ => []
  | groups + 1, number =>
      if number < 128 then [UInt8.ofNat number]
      else
        UInt8.ofNat (number % 128 + 128) :: writeVarint groups (number / 128)

/-- Read a number from at most as many groups of seven bits. -/
def readVarint : Nat → Reader Nat
  | 0, _ => none
  | _ + 1, [] => none
  | groups + 1, byte :: bytes =>
      if byte.toNat < 128 then some (byte.toNat, bytes)
      else do
        let (number, rest) ← readVarint groups bytes
        return (byte.toNat - 128 + 128 * number, rest)

theorem reads_varint
    {groups number : Nat}
    (fits : number < 128 ^ (groups + 1)) :
    Reads (writeVarint (groups + 1)) (readVarint (groups + 1)) number := by
  intro rest
  induction groups generalizing number with
  | zero =>
      have small : number < 128 := by simpa using fits
      have same : (UInt8.ofNat number).toNat = number :=
        UInt8.toNat_ofNat_of_lt' (by change number < 256; omega)
      rw [writeVarint, if_pos small, List.singleton_append, readVarint, same,
        if_pos small]
  | succ groups ih =>
      rw [writeVarint]
      split_ifs with small
      · have same : (UInt8.ofNat number).toNat = number :=
          UInt8.toNat_ofNat_of_lt' (by change number < 256; omega)
        rw [List.singleton_append, readVarint, same, if_pos small]
      · have same : (UInt8.ofNat (number % 128 + 128)).toNat =
            number % 128 + 128 :=
          UInt8.toNat_ofNat_of_lt' (by change _ < 256; omega)
        have less : number / 128 < 128 ^ (groups + 1) := by
          rw [Nat.div_lt_iff_lt_mul (by decide), ← Nat.pow_succ]
          exact fits
        have behind : number % 128 + 128 - 128 + 128 * (number / 128) =
            number := by
          omega
        rw [List.cons_append, readVarint, same, if_neg (by omega), ih less]
        exact congrArg (fun value => some (value, rest)) behind

/-- A `usize` has at most ten groups. -/
def writeUsize : Nat → List UInt8 :=
  writeVarint 10

/-- Ten groups with a number that is too large are refused. -/
def readUsize : Reader Nat :=
  fun bytes => (readVarint 10 bytes).filter fun read => read.1 < 2 ^ 64

theorem reads_usize
    {number : Nat}
    (fits : number < 2 ^ 64) :
    Reads writeUsize readUsize number := by
  intro rest
  rw [readUsize, writeUsize, reads_varint (by omega) rest, Option.filter_some,
    if_pos (decide_eq_true fits)]

end Numbers

section Strings

/-- Bytes behind their number. -/
def writeBytes (bytes : List UInt8) : List UInt8 :=
  writeUsize bytes.length ++ bytes

/-- Read a length and as many bytes. -/
def readBytes : Reader (List UInt8) := fun bytes => do
  let (length, rest) ← readUsize bytes
  if length ≤ rest.length then some (rest.take length, rest.drop length)
  else none

theorem reads_bytes
    {bytes : List UInt8}
    (fits : bytes.length < 2 ^ 64) :
    Reads writeBytes readBytes bytes := by
  intro rest
  rw [readBytes, writeBytes, List.append_assoc, reads_usize fits]
  simp

end Strings

section Options

/-- A byte as it is. -/
def writeByte (byte : UInt8) : List UInt8 :=
  [byte]

/-- Read a byte. -/
def readByte : Reader UInt8
  | [] => none
  | byte :: rest => some (byte, rest)

theorem reads_byte (byte : UInt8) : Reads writeByte readByte byte :=
  fun _ => rfl

/-- A byte that tells whether there is a value, and the value. -/
def writeOption (write : α → List UInt8) : Option α → List UInt8
  | none => [0]
  | some value => 1 :: write value

/-- Read an optional value. -/
def readOption (read : Reader α) : Reader (Option α)
  | 0 :: rest => some (none, rest)
  | 1 :: bytes => do
      let (value, rest) ← read bytes
      return (some value, rest)
  | _ => none

theorem reads_option
    {write : α → List UInt8}
    {read : Reader α}
    {value : Option α}
    (inner : ∀ content ∈ value, Reads write read content) :
    Reads (writeOption write) (readOption read) value := by
  intro rest
  cases value with
  | none => rfl
  | some content =>
      change (do
        let (value, rest) ← read (write content ++ rest)
        return (some value, rest)) = some (some content, rest)
      rw [inner content rfl rest]
      rfl

end Options

end Postcard
