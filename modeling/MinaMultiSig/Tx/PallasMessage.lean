import MinaMultiSig.Tx.Legacy
import MinaMultiSig.Tx.NetworkId

/-!
# Messages for the challenge

`PallasMessage` of `mina-tx/src/pallas_message.rs`: what is hashed for a
challenge, with the network and the hashing mode, and its bytes. The bytes of a
random oracle input are those of `mina-hasher`, a parameter.
-/

namespace MinaMultiSig
namespace Tx

/-- The version of the encoding. -/
def pallasMessageVersion : UInt8 :=
  1

/-- `ROInput::serialize` and `ROInput::deserialize`. -/
structure ROInputCodec where
  serialize : ROInput → List UInt8
  deserialize : List UInt8 → Option ROInput

/-- The hashing payload of the challenge computation. -/
structure PallasMessage where
  input : ROInput
  networkId : NetworkId
  isLegacy : Bool
  deriving DecidableEq

namespace PallasMessage

/-- `PallasMessage::from_parts`. -/
def fromParts
    (input : ROInput)
    (networkId : NetworkId)
    (isLegacy : Bool) : PallasMessage :=
  { input := input, networkId := networkId, isLegacy := isLegacy }

/-- The message of bytes that are no encoded message. -/
def fromRawBytesDefault (input : List UInt8) : PallasMessage :=
  { input := ROInput.new.appendBytes input
    networkId := .testnet
    isLegacy := true }

section Bytes

variable (codec : ROInputCodec)

/-- The bytes of the network: its number, and the name of a custom one. -/
def serializeNetworkId : NetworkId → Except MinaTxError (List UInt8)
  | .testnet => .ok [0]
  | .mainnet => .ok [1]
  | .custom name =>
      if name.utf8ByteSize > maxPrefixLength then
        .error (.serializationError
          "Custom network ID exceeds maximum length of 20")
      else .ok (2 :: UInt8.ofNat name.utf8ByteSize :: asBytes name)

/-- `PallasMessage::serialize`. -/
def serialize (message : PallasMessage) : Except MinaTxError (List UInt8) := do
  let roiBytes := codec.serialize message.input
  let networkBytes ← serializeNetworkId message.networkId
  return pallasMessageVersion :: networkBytes ++
    [if message.isLegacy then 1 else 0] ++ leBytes 4 roiBytes.length ++
      roiBytes

/-- The error of a text that ends too early. -/
def tooShort : Failure MinaTxError :=
  .error (.deSerializationError "PallasMessage bytes too short")

/-- A byte of the input; an index outside of the input panics. -/
def byteAt (input : List UInt8) (index : Nat) : MinaTxResult UInt8 :=
  Outcome.ofOption input[index]?

/-- The network, and the offset of the byte behind it. -/
def deserializeNetworkId
    (input : List UInt8) : MinaTxResult (NetworkId × Nat) := do
  match ← byteAt input 1 with
  | 0 => return (.testnet, 2)
  | 1 => return (.mainnet, 2)
  | 2 =>
      let nameLen := (← byteAt input 2).toNat
      if nameLen > maxPrefixLength then
        throw (.error (.deSerializationError
          "Custom network ID exceeds maximum length"))
      if input.length < 3 + nameLen then
        throw (.error (.deSerializationError
          "PallasMessage too short for custom network ID name"))
      match fromUtf8 ((input.drop 3).take nameLen) with
      | .ok name => return (.custom name, 3 + nameLen)
      | .error _ =>
          throw (.error (.deSerializationError
            "Invalid UTF-8 in custom network ID"))
  | _ =>
      throw (.error (.deSerializationError
        "Invalid network id in PallasMessage"))

/-- The hashing mode at an offset. -/
def deserializeIsLegacy
    (input : List UInt8)
    (offset : Nat) : MinaTxResult Bool := do
  match ← byteAt input offset with
  | 0 => return false
  | 1 => return true
  | _ =>
      throw (.error (.deSerializationError
        "Invalid legacy flag in PallasMessage"))

/-- `PallasMessage::deserialize`. -/
def deserialize (input : List UInt8) : MinaTxResult PallasMessage := do
  if input.length < 3 then
    throw tooShort
  if (← byteAt input 0) ≠ pallasMessageVersion then
    throw (.error (.deSerializationError "Unsupported PallasMessage version"))
  let (networkId, offset) ← deserializeNetworkId input
  let isLegacy ← deserializeIsLegacy input offset
  if input.length < offset + 1 + 4 then
    throw tooShort
  let roiLen := littleEndian ((input.drop (offset + 1)).take 4)
  let dataStart := offset + 5
  if input.length ≠ dataStart + roiLen then
    throw (.error (.deSerializationError "Malformed PallasMessage length"))
  match codec.deserialize (input.drop dataStart) with
  | some roi =>
      return { input := roi, networkId := networkId, isLegacy := isLegacy }
  | none =>
      throw (.error (.deSerializationError "Failed to deserialize ROInput"))

end Bytes

end PallasMessage

end Tx
end MinaMultiSig
