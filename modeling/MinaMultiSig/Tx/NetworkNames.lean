import MinaMultiSig.Tx.LegacyMemo
import MinaMultiSig.Tx.MessageFormat

/-!
# The sizes of prefixes with a custom name

A custom name is accepted if it has at most 20 bytes. `create_custom_prefix`
measures and pads in bytes but cuts after 20 characters, so that the domain
string and the body prefix have 20 bytes for names of at most 11 bytes and for
ASCII names, and more than 20 for all other names.
-/

namespace MinaMultiSig
namespace Tx

open FixedWidth

/-- The bytes that `mina-hasher` takes of a domain string; it panics on a longer
one. -/
def maxDomainStringLen : Nat :=
  20

/-- A custom name that is given as the name of a network, or that is decoded
from a message. -/
inductive AcceptedName (codec : ROInputCodec) (name : String) : Prop
  | named
      (text : String)
      (accepted : NetworkId.tryFrom text = .ok (.custom name))
  | decoded
      (input : List UInt8)
      (message : PallasMessage)
      (read : PallasMessage.deserialize codec input = .ok message)
      (network : message.networkId = .custom name)

theorem AcceptedName.nameFits
    {codec : ROInputCodec}
    {name : String}
    (accepted : AcceptedName codec name) :
    name.utf8ByteSize ≤ maxPrefixLength := by
  cases accepted with
  | named text accepted => exact Accepted.name_fits ⟨text, accepted⟩
  | decoded input message read network =>
      have fits := (PallasMessage.exists_encoding_of_deserialize read).1
      rw [network] at fits
      exact fits

/-- The name leaves room for a suffix of nine bytes or is an ASCII text. -/
def LeavesRoom (name : String) : Prop :=
  name.utf8ByteSize ≤ 11 ∨ IsAscii name

instance (name : String) : Decidable (LeavesRoom name) :=
  inferInstanceAs (Decidable (_ ∨ _))

/-- ASCII texts are those with as many bytes as characters. -/
theorem isAscii_iff_length (text : String) :
    IsAscii text ↔ text.toList.length = text.utf8ByteSize := by
  have more := length_lt_utf8ByteSize_iff text
  have chars := length_le_utf8ByteSize text
  rw [← String.length_toList] at more
  constructor
  · intro ascii
    have notMore := more.not.mpr (not_not.mpr ascii)
    omega
  · intro same
    exact not_not.mp (more.not.mp (by omega))

/-- A prefix has 20 bytes exactly for the names that leave room. -/
theorem utf8ByteSize_createCustomPrefix_eq_iff
    {name suffix : String}
    (fits : name.utf8ByteSize ≤ maxPrefixLength)
    (nine : suffix.toList.length = 9)
    (ascii : IsAscii suffix) :
    (NetworkId.createCustomPrefix (name ++ suffix)).utf8ByteSize =
        maxPrefixLength ↔ LeavesRoom name := by
  have units : ∀ char ∈ suffix.toList, char.utf8Size = 1 :=
    fun char member => (utf8Size_eq_one_iff char).mpr (ascii char member)
  have fitsChars : totalSize Char.utf8Size name.toList ≤ maxPrefixLength := by
    rwa [← utf8ByteSize_eq_totalSize]
  rw [utf8ByteSize_eq_totalSize, toList_createCustomPrefix,
    String.toList_append, totalSize_padOrCut_append_eq_iff Char.utf8Size_pos
      (by decide) units fitsChars, ← utf8ByteSize_eq_totalSize, nine,
    LeavesRoom, isAscii_iff_length]
  apply or_congr_left
  unfold maxPrefixLength
  omega

/-- A prefix of more than 20 bytes is too long for the domain string. -/
theorem createCustomPrefix_le_iff
    {name suffix : String}
    (fits : name.utf8ByteSize ≤ maxPrefixLength)
    (nine : suffix.toList.length = 9)
    (ascii : IsAscii suffix) :
    (NetworkId.createCustomPrefix (name ++ suffix)).utf8ByteSize ≤
        maxDomainStringLen ↔ LeavesRoom name := by
  have long := createCustomPrefix_size (name ++ suffix)
  rw [← utf8ByteSize_createCustomPrefix_eq_iff fits nine ascii]
  unfold maxPrefixLength maxDomainStringLen at *
  omega

/-- For every accepted name the domain string and the body prefix have 20 bytes,
and the domain string is short enough for the hasher, exactly if the name leaves
room; the body prefix always is short enough for a field element. -/
theorem names_fit_iff
    (codec : ROInputCodec)
    (name : String)
    (accepted : AcceptedName codec name) :
    ((NetworkId.intoDomainString (.custom name)).utf8ByteSize =
        maxPrefixLength ↔ LeavesRoom name) ∧
      ((NetworkId.bodyPrefix (.custom name)).utf8ByteSize = maxPrefixLength ↔
        LeavesRoom name) ∧
      ((NetworkId.intoDomainString (.custom name)).utf8ByteSize ≤
        maxDomainStringLen ↔ LeavesRoom name) ∧
      (asBytes (NetworkId.bodyPrefix (.custom name))).length ≤
        defaultParam.length ∧
      ∃ field, paramToField (NetworkId.bodyPrefix (.custom name)) =
        .ok field := by
  have fits := accepted.nameFits
  have delimiting := selfDelimiting_custom fits
  have signature : IsAscii "Signature" := (isAscii_iff_length _).mpr rfl
  have body : IsAscii "ZkappBody" := (isAscii_iff_length _).mpr rfl
  refine ⟨utf8ByteSize_createCustomPrefix_eq_iff fits rfl signature,
    utf8ByteSize_createCustomPrefix_eq_iff fits rfl body,
    createCustomPrefix_le_iff fits rfl signature, ?_,
    ⟨_, delimiting.paramToField_eq.2⟩⟩
  rw [length_asBytes]
  exact delimiting.short.trans (by decide)

/-- A name of five characters. -/
theorem names_fit_iff_mynet :
    (NetworkId.intoDomainString (.custom "mynet")).utf8ByteSize =
      maxPrefixLength := by
  have accepted : AcceptedName ROInputCodec.reference "mynet" :=
    .named "mynet" (by decide)
  exact (names_fit_iff _ _ accepted).1.mpr (by decide)

/-- Six characters of two bytes are accepted, and their domain string has 21
bytes. -/
theorem names_fit_umlauts :
    NetworkId.tryFrom "üüüüüü" = .ok (.custom "üüüüüü") ∧
      (NetworkId.intoDomainString (.custom "üüüüüü")).utf8ByteSize = 21 ∧
      (NetworkId.bodyPrefix (.custom "üüüüüü")).utf8ByteSize = 21 ∧
      maxDomainStringLen < 21 := by
  decide

end Tx
end MinaMultiSig
