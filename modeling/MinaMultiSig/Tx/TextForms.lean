import MinaMultiSig.Library.DecimalText
import MinaMultiSig.Library.JsonSyntax
import MinaMultiSig.Tx.Signer
import MinaMultiSig.Tx.Utf8

/-!
# The text formats of transactions

JSON, addresses, base58 digits and decimal field elements are parameters of the
codecs of transactions. All their laws hold together: they do for a signer that
knows one key.
-/

namespace MinaMultiSig
namespace Tx

/-- What the codecs of transactions are built from. -/
structure TextForms where
  json : JsonText
  signer : MinaSigner
  base58 : Base58
  fieldText : FieldText

namespace TextForms

/-- All texts are read as what they are written for. -/
structure Lawful (forms : TextForms) : Prop where
  json : forms.json.Lawful
  signer : forms.signer.Lawful
  base58 : forms.base58.Lawful
  fieldText : forms.fieldText.Lawful

section Reference

/-- The document of a text; one that is no JSON never ends. -/
def ofText (text : String) : JsonDocument :=
  match JsonSyntax.parse text.toList with
  | some json => { value := json, ended := true }
  | none => { value := .invalid, ended := false }

/-- The JSON of the written-out parser and printers. -/
def referenceJson : JsonText :=
  { parse := fun bytes =>
      match fromUtf8 bytes with
      | .ok text => ofText text
      | .error _ => { value := .invalid, ended := false }
    toVec := fun json =>
      asBytes (String.ofList (JsonSyntax.print JsonSyntax.Layout.compact 0 json))
    toStringPretty := fun json =>
      String.ofList (JsonSyntax.print JsonSyntax.Layout.pretty 0 json) }

/-- What a layout prints is parsed. -/
theorem parse_asBytes_print
    (layout : JsonSyntax.Layout)
    {json : Json}
    (fits : json.Fits JsonText.recursionLimit) :
    referenceJson.parse
        (asBytes (String.ofList (JsonSyntax.print layout 0 json))) =
      { value := json, ended := true } := by
  simp only [referenceJson, fromUtf8_asBytes, ofText, String.toList_ofList,
    JsonSyntax.parse_print layout fits]

theorem referenceJson_lawful : referenceJson.Lawful :=
  { parse_toVec := fun _ fits => parse_asBytes_print _ fits
    parse_toStringPretty := fun _ fits => parse_asBytes_print _ fits }

/-- The address of the key. -/
def knownAddress : String :=
  "B62qiy32p8kAKnny8ZFwoMhYpBppM1DWVCqAPBYNcXnsAHhnfAAuXgg"

/-- A public key. -/
def knownKey : CompressedPubKey :=
  { x :=
      22536877747820698688010660184495467853785925552441222123266613953322243475471
    isOdd := false }

/-- A signer that knows the address of one key. -/
def referenceSigner : MinaSigner :=
  { PubKey := Unit
    intoCompressed := fun _ => knownKey
    intoAddress := fun _ => knownAddress
    pubKeyFromAddress := fun text =>
      if text = knownAddress then .ok () else .error "Invalid address"
    compressedFromAddress := fun text =>
      if text = knownAddress then .ok knownKey else .error "Invalid address" }

theorem referenceSigner_lawful : referenceSigner.Lawful := by
  constructor
  · intro text key read
    by_cases known : text = knownAddress
    · simp only [referenceSigner, if_pos known] at read
      simp only [referenceSigner, if_true, read]
    · simp [referenceSigner, if_neg known] at read
  · intro _ key _
    rfl

/-- A character for each byte. -/
def referenceBase58 : Base58 :=
  { encode := fun bytes =>
      String.ofList (bytes.map fun byte => Char.ofNat byte.toNat)
    decode := fun text =>
      if text.toList.all fun char => char.toNat < 256 then
        some (text.toList.map fun char => UInt8.ofNat char.toNat)
      else none
    digest := fun _ => List.replicate 32 0 }

theorem toNat_ofNat_byte (byte : UInt8) :
    (Char.ofNat byte.toNat).toNat = byte.toNat := by
  have isChar : Nat.isValidChar byte.toNat :=
    Or.inl (Nat.lt_trans byte.toNat_lt (by decide))
  rw [Char.ofNat, dif_pos isChar]
  rfl

/-- Characters below 256 are recovered from their bytes. -/
theorem map_ofNat_byte
    {chars : List Char}
    (small : ∀ char ∈ chars, char.toNat < 256) :
    (chars.map fun char => UInt8.ofNat char.toNat).map
        (fun byte => Char.ofNat byte.toNat) = chars := by
  rw [List.map_map]
  conv_rhs => rw [← List.map_id chars]
  apply List.map_congr_left
  intro char member
  rw [Function.comp_apply, UInt8.toNat_ofNat',
    Nat.mod_eq_of_lt (small char member), Char.ofNat_toNat]
  rfl

theorem referenceBase58_lawful : referenceBase58.Lawful := by
  constructor
  · intro text bytes
    constructor
    · intro decoded
      simp only [referenceBase58] at decoded
      split at decoded
      next small =>
        have small : ∀ char ∈ text.toList, char.toNat < 256 := by
          simpa using small
        rw [← Option.some.inj decoded]
        simp only [referenceBase58]
        rw [map_ofNat_byte small, String.ofList_toList]
      next => exact absurd decoded (by simp)
    · rintro rfl
      have small : ∀ byte ∈ bytes, (Char.ofNat byte.toNat).toNat < 256 := by
        intro byte _
        rw [toNat_ofNat_byte]
        exact byte.toNat_lt
      simp only [referenceBase58, String.toList_ofList]
      rw [if_pos (by simpa using small), List.map_map]
      apply congrArg some
      conv_rhs => rw [← List.map_id bytes]
      apply List.map_congr_left
      intro byte _
      rw [Function.comp_apply, toNat_ofNat_byte, UInt8.ofNat_toNat]
      rfl
  · intro input
    rfl

/-- Field elements as decimal texts of their numbers. -/
def referenceFieldText : FieldText :=
  { toString := fun field => field.val.repr
    parse := fun text => (DecimalText.parse fpModulus text).toOption.map (↑) }

theorem referenceFieldText_lawful : referenceFieldText.Lawful := by
  constructor
  intro field
  simp only [referenceFieldText, DecimalText.parse_repr (ZMod.val_lt field),
    Except.toOption, Option.map_some, ZMod.natCast_val, ZMod.cast_id', id]

/-- The written-out forms. -/
def reference : TextForms :=
  { json := referenceJson
    signer := referenceSigner
    base58 := referenceBase58
    fieldText := referenceFieldText }

theorem reference_lawful : reference.Lawful :=
  { json := referenceJson_lawful
    signer := referenceSigner_lawful
    base58 := referenceBase58_lawful
    fieldText := referenceFieldText_lawful }

end Reference

end TextForms

end Tx
end MinaMultiSig
