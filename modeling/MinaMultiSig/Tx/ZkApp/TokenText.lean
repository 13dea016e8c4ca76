import MinaMultiSig.Tx.Base58Check
import MinaMultiSig.Tx.ZkApp.Serde

/-!
# The texts of token identifiers

The text of a token identifier is the base58check text of 32 bytes, and 32 bytes
hold more numbers than the field has elements. A number that is no residue is
read as its residue, whose text is another one: the accepted texts that are
written again are those of numbers below the modulus.
-/

namespace MinaMultiSig
namespace Tx

open Codec

section Payload

variable {base58 : Base58}

theorem base58Payload_eq_ok_iff
    {title name : String}
    {versionByte : UInt8}
    {length : Nat}
    {text : String}
    {payload : List UInt8} :
    base58Payload base58 title name versionByte length text = .ok payload ↔
      fromBase58Check base58 text versionByte = .ok payload ∧
        payload.length = length := by
  rw [base58Payload]
  cases fromBase58Check base58 text versionByte with
  | error reason => simp [customError, fail]
  | ok decoded =>
      by_cases full : decoded.length = length
      · simp only [if_pos full]
        constructor
        · intro same
          rw [← Except.ok.inj same]
          exact ⟨rfl, full⟩
        · rintro ⟨same, -⟩
          rw [Except.ok.inj same]
      · simp only [if_neg full]
        constructor
        · intro failed
          exact absurd failed (by simp [customError, fail])
        · rintro ⟨same, isFull⟩
          rw [← Except.ok.inj same] at isFull
          exact absurd isFull full

end Payload

namespace TokenId

/-- The text of a token identifier. -/
def text (base58 : Base58) (token : TokenId) : String :=
  toBase58Check base58 (leBytes tokenBytes token.field.val) tokenIdVersionByte

/-- The 32 bytes of the text, if it has that many, are those of a number below
the modulus. -/
def BelowModulus (base58 : Base58) (text : String) : Prop :=
  ∀ payload,
    fromBase58Check base58 text tokenIdVersionByte = .ok payload →
      payload.length = tokenBytes → littleEndian payload < fpModulus

variable {base58 : Base58}

theorem serialize_eq (token : TokenId) :
    (codec base58).serialize token = .ok (.string (token.text base58)) :=
  rfl

/-- The bytes of a residue are those it was read from exactly if these are the
bytes of a number below the modulus. -/
theorem leBytes_val_eq_iff
    {payload : List UInt8}
    (full : payload.length = tokenBytes) :
    leBytes tokenBytes (littleEndian payload : Fp).val = payload ↔
      littleEndian payload < fpModulus := by
  constructor
  · intro same
    have below : (littleEndian payload : Fp).val < fpModulus := ZMod.val_lt _
    have isNumber : littleEndian (leBytes tokenBytes
        (littleEndian payload : Fp).val) = (littleEndian payload : Fp).val :=
      littleEndian_leBytes (below.trans (by decide))
    rw [same] at isNumber
    rw [isNumber]
    exact below
  · intro below
    rw [ZMod.val_natCast_of_lt below, ← full]
    exact leBytes_littleEndian payload

section Lawful

variable (lawful : base58.Lawful)

include lawful

/-- The accepted texts are those of 32 bytes; the number is reduced. -/
theorem deserialize_eq_ok_iff
    {origin : Origin}
    {text : String}
    {token : TokenId} :
    (codec base58).deserialize origin (.string text) = .ok token ↔
      ∃ payload, payload.length = tokenBytes ∧
        text = toBase58Check base58 payload tokenIdVersionByte ∧
          token = ⟨(littleEndian payload : Fp)⟩ := by
  have parts : (codec base58).deserialize origin (.string text) =
      base58Payload base58 "TokenId" "TokenId" tokenIdVersionByte tokenBytes
        text >>= fun decoded => .ok ⟨(littleEndian decoded : Fp)⟩ := rfl
  rw [parts, Outcome.bind_eq_ok]
  constructor
  · rintro ⟨payload, decoded, same⟩
    obtain ⟨isPayload, full⟩ := base58Payload_eq_ok_iff.mp decoded
    exact ⟨payload, full, (fromBase58Check_eq_ok_iff lawful).mp isPayload,
      (Except.ok.inj same).symm⟩
  · rintro ⟨payload, full, isText, rfl⟩
    have isPayload := (fromBase58Check_eq_ok_iff lawful).mpr isText
    exact ⟨payload, base58Payload_eq_ok_iff.mpr ⟨isPayload, full⟩, rfl⟩

theorem deserialize_text
    (origin : Origin)
    (token : TokenId) :
    (codec base58).deserialize origin (.string (token.text base58)) =
      .ok token := by
  apply (deserialize_eq_ok_iff lawful).mpr
  have below : token.field.val < 256 ^ tokenBytes :=
    (ZMod.val_lt token.field).trans (by decide)
  refine ⟨_, length_leBytes _ _, rfl, ?_⟩
  rw [littleEndian_leBytes below, ZMod.natCast_zmod_val]

/-- An accepted text is written again exactly if its number is a residue. -/
theorem text_eq_iff
    {origin : Origin}
    {text : String}
    {token : TokenId}
    (accepted : (codec base58).deserialize origin (.string text) = .ok token) :
    token.text base58 = text ↔ BelowModulus base58 text := by
  obtain ⟨payload, full, rfl, rfl⟩ := (deserialize_eq_ok_iff lawful).mp accepted
  have bytes : TokenId.text base58 ⟨(littleEndian payload : Fp)⟩ =
      toBase58Check base58 payload tokenIdVersionByte ↔
        leBytes tokenBytes (littleEndian payload : Fp).val = payload := by
    constructor
    · exact toBase58Check_inj lawful
    · intro same
      rw [TokenId.text, same]
  rw [bytes, leBytes_val_eq_iff full]
  constructor
  · intro below other decoded _
    rw [fromBase58Check_toBase58Check lawful] at decoded
    rwa [← Except.ok.inj decoded]
  · intro below
    exact below payload (fromBase58Check_toBase58Check lawful _ _) full

end Lawful

/-- Every token identifier is read from its text. What is accepted for a text is
written as the text exactly if the text is not the one of 32 bytes of a number
from the modulus on, and no two of the other texts stand for one identifier. -/
theorem codec_canonical_iff
    (base58 : Base58)
    (lawful : base58.Lawful)
    (origin : Origin) :
    (∀ token, ∃ json, (codec base58).serialize token = .ok json ∧
      (codec base58).deserialize origin json = .ok token) ∧
      (∀ text,
        (∀ token, (codec base58).deserialize origin (.string text) = .ok token →
          (codec base58).serialize token = .ok (.string text)) ↔
            BelowModulus base58 text) ∧
      ∀ first second token,
        (codec base58).deserialize origin (.string first) = .ok token →
          (codec base58).deserialize origin (.string second) = .ok token →
            BelowModulus base58 first → BelowModulus base58 second →
              first = second := by
  refine ⟨fun token => ⟨_, serialize_eq token,
    deserialize_text lawful origin token⟩, ?_, ?_⟩
  · intro text
    constructor
    · intro canonical payload decoded full
      have accepted : (codec base58).deserialize origin (.string text) =
          .ok ⟨(littleEndian payload : Fp)⟩ :=
        (deserialize_eq_ok_iff lawful).mpr
          ⟨payload, full, (fromBase58Check_eq_ok_iff lawful).mp decoded, rfl⟩
      have written := canonical _ accepted
      rw [serialize_eq] at written
      have isText := Json.string.inj (Except.ok.inj written)
      exact (text_eq_iff lawful accepted).mp isText payload decoded full
    · intro below token accepted
      rw [serialize_eq, (text_eq_iff lawful accepted).mpr below]
  · intro first second token firstAccepted secondAccepted firstBelow secondBelow
    rw [← (text_eq_iff lawful firstAccepted).mpr firstBelow,
      ← (text_eq_iff lawful secondAccepted).mpr secondBelow]

theorem text_default :
    text Base58.standard ⟨1⟩ =
      "wSHV2S4qX9jFsLjQo8r1BsMLH2ZRKsZx6EJd1sbozGPieEC4Jf" := by
  decide +kernel

/-- The text of the default token is read, and written again. -/
theorem codec_canonical_iff_default :
    (∃ json, (codec Base58.standard).serialize ⟨1⟩ = .ok json ∧
      (codec Base58.standard).deserialize .parser json = .ok ⟨1⟩) ∧
      BelowModulus Base58.standard
        "wSHV2S4qX9jFsLjQo8r1BsMLH2ZRKsZx6EJd1sbozGPieEC4Jf" := by
  obtain ⟨roundTrip, canonical, -⟩ := codec_canonical_iff Base58.standard
    Base58.standard_lawful .parser
  refine ⟨roundTrip ⟨1⟩, (canonical _).mp ?_⟩
  intro token accepted
  rw [← text_default, deserialize_text Base58.standard_lawful] at accepted
  rw [← Except.ok.inj accepted, serialize_eq, text_default]

/-- The modulus plus one is read as the default token. -/
theorem codec_not_canonical :
    (codec Base58.standard).deserialize .parser
        (.string "wSj2ZJWn1behMNkvo2K9KZYverqtuxbf2zf6F8KDSgwV6PL8YM") =
      .ok ⟨1⟩ ∧
    (codec Base58.standard).deserialize .parser
        (.string "wSHV2S4qX9jFsLjQo8r1BsMLH2ZRKsZx6EJd1sbozGPieEC4Jf") =
      .ok ⟨1⟩ ∧
    (codec Base58.standard).serialize ⟨1⟩ =
      .ok (.string "wSHV2S4qX9jFsLjQo8r1BsMLH2ZRKsZx6EJd1sbozGPieEC4Jf") := by
  have residue :
      (littleEndian (leBytes tokenBytes (fpModulus + 1)) : Fp) = 1 := by
    rw [littleEndian_leBytes (by decide), Nat.cast_add, ZMod.natCast_self,
      zero_add, Nat.cast_one]
  rw [← text_default]
  refine ⟨?_, deserialize_text Base58.standard_lawful _ _, serialize_eq _⟩
  apply (deserialize_eq_ok_iff Base58.standard_lawful).mpr
  refine ⟨leBytes tokenBytes (fpModulus + 1), length_leBytes _ _,
    by decide +kernel, ?_⟩
  rw [residue]

end TokenId

end Tx
end MinaMultiSig
