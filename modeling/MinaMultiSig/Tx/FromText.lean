import MinaMultiSig.Tx.EnvelopeSerde
import MinaMultiSig.Tx.MessageFormat
import Mathlib.Data.List.DropRight

/-!
# Transactions from texts

`TransactionEnvelope::from_str_network` of `mina-tx/src/transactions.rs` accepts
the output of an earlier session, a zkApp command or a legacy transaction. The
codecs of signed transactions are those of `mina-tx/src/signatures.rs`.
-/

namespace MinaMultiSig
namespace Tx

open Codec Fields

section WhiteSpace

/-- The Unicode property `White_Space`. -/
def isWhiteSpace (char : Char) : Bool :=
  let code := char.toNat
  (9 ≤ code && code ≤ 13) || code == 0x20 || code == 0x85 || code == 0xA0 ||
    code == 0x1680 || (0x2000 ≤ code && code ≤ 0x200A) || code == 0x2028 ||
    code == 0x2029 || code == 0x202F || code == 0x205F || code == 0x3000

/-- `str::trim`. -/
def trim (text : String) : String :=
  String.ofList
    ((text.toList.dropWhile isWhiteSpace).rdropWhile isWhiteSpace)

/-- Blanks around braces are cut off. -/
theorem trim_braces
    {leading inner trailing : List Char}
    (leadingBlank : ∀ char ∈ leading, isWhiteSpace char = true)
    (trailingBlank : ∀ char ∈ trailing, isWhiteSpace char = true) :
    trim (String.ofList (leading ++ '{' :: (inner ++ ['}']) ++ trailing)) =
      String.ofList ('{' :: (inner ++ ['}'])) := by
  have opens : ¬isWhiteSpace '{' = true := by decide
  have closes : ¬isWhiteSpace '}' = true := by decide
  have reversedBlank : ∀ char ∈ trailing.reverse,
      isWhiteSpace char = true := by
    intro char inTrailing
    exact trailingBlank char (List.mem_reverse.mp inTrailing)
  rw [trim, String.toList_ofList, List.append_assoc,
    List.dropWhile_append_of_pos leadingBlank, List.cons_append,
    List.dropWhile_cons_of_neg opens, ← List.cons_append, List.rdropWhile,
    List.reverse_append, List.dropWhile_append_of_pos reversedBlank,
    ← List.rdropWhile, ← List.cons_append,
    List.rdropWhile_concat_neg _ _ _ closes]

end WhiteSpace

/-- The decimal texts of numbers of 256 bits. -/
structure BigIntText where
  toString : BigInt → String
  parse : String → Option BigInt

section Codecs

variable (forms : TextForms) (bigInts : BigIntText) (build : Build)

/-- The entries of a signature. -/
structure SigHelper where
  field : String
  scalar : String
  base58 : Option String

/-- How the texts of a signature are read and written. -/
def SigHelper.codec : Codec SigHelper :=
  record
    (required "field" string <|
      required "scalar" string <|
      optional "base58" string done)
    (fun (field, scalar, base58, ()) =>
      { field := field, scalar := scalar, base58 := base58 })
    fun helper => (helper.field, helper.scalar, helper.base58, ())

/-- The numbers of a signature. The base58 text is written but not read. -/
def Sig.codec : Codec Sig :=
  { serialize := fun signature =>
      SigHelper.codec.serialize
        { field := bigInts.toString signature.field
          scalar := bigInts.toString signature.scalar
          base58 := some (signature.toBase58 forms.base58) }
    deserialize := fun origin json => do
      let helper ← SigHelper.codec.deserialize origin json
      match bigInts.parse helper.field with
      | none => customError "Failed to parse 'field' as BigInt<4>"
      | some field =>
          match bigInts.parse helper.scalar with
          | none => customError "Failed to parse 'scalar' as BigInt<4>"
          | some scalar => return { field := field, scalar := scalar }
    nesting := 1 }

/-- A public key by its address. -/
def PubKeySer.codec : Codec forms.signer.PubKey :=
  record
    (required "address"
      (viaString
        (fun key =>
          .ok (forms.signer.intoAddress (forms.signer.intoCompressed key)))
        fun address =>
          match forms.signer.pubKeyFromAddress address with
          | .ok key => .ok key
          | .error _ => customError "Failed to parse 'address' as PubKey")
      done)
    (fun (key, ()) => key) fun key => (key, ())

/-- How a signed transaction is read and written. -/
def TransactionSignature.codec :
    Codec (TransactionSignature build forms.signer) :=
  record
    (required "publicKey" (PubKeySer.codec forms) <|
      required "signature" (Sig.codec forms bigInts) <|
      required "payload" (TransactionEnvelope.codec forms build) done)
    (fun (publicKey, signature, payload, ()) =>
      { publicKey := publicKey, signature := signature, payload := payload })
    fun signed => (signed.publicKey, signed.signature, signed.payload, ())

end Codecs

namespace TransactionEnvelope

section FromText

variable (forms : TextForms) (bigInts : BigIntText) (build : Build)
  (errorText : SerdeError → String)

/-- A transaction from its JSON: one that is signed already keeps its network,
the others are for the given network. -/
def fromStrNetwork
    (s : String)
    (networkId : NetworkId) : MinaTxResult (TransactionEnvelope build) :=
  let bytes := asBytes (trim s)
  (fromSlice forms (TransactionSignature.codec forms bigInts build)
      bytes).handle
    (fun signed => .ok signed.payload)
    fun _ =>
      (fromSlice forms (forms.command build) bytes).handle
        (fun zkapp => .ok (newZkapp networkId zkapp))
        fun zkappErr =>
          (fromSlice forms (LegacyTransaction.codec forms.signer) bytes).handle
            (fun legacy => .ok (newLegacy networkId legacy))
            fun legacyErr =>
              .error (.error (.unknownTransactionType
                ("Unable to parse transaction as ZkApp or Legacy.\n" ++
                  "  ZkApp parse error: " ++ errorText zkappErr ++
                  "\n  Legacy parse error: " ++ errorText legacyErr)))

end FromText

end TransactionEnvelope

section Reading

variable {forms : TextForms} {bigInts : BigIntText} {build : Build}

/-- An envelope is read from the JSON of its network and its kind. -/
theorem TransactionEnvelope.deserialize_entries
    {origin : Origin}
    {name : String}
    {json : Json}
    {network : NetworkId}
    {kind : TransactionKind build}
    (isNetwork : NetworkId.codec.deserialize origin (.string name) =
      .ok network)
    (isKind : (TransactionKind.codec forms build).deserialize origin json =
      .ok kind) :
    (TransactionEnvelope.codec forms build).deserialize origin
        (.object [("networkId", .string name), ("kind", json)]) =
      .ok { networkId := network, kind := kind } := by
  refine @record_reads _ _ _ _ _ _ _ (network, kind, ()) (by simp) ?_ ?_
  · intro entry member
    simp only [List.mem_cons, List.not_mem_nil, or_false] at member
    obtain rfl | rfl := member
    · simp [required, field, isNetwork, Except.map]
    · simp [required, field, isKind, Except.map]
  · apply Outcome.bind_eq_ok.mpr
    refine ⟨network, isNetwork, Outcome.bind_eq_ok.mpr ⟨(kind, ()), ?_, rfl⟩⟩
    exact Outcome.bind_eq_ok.mpr ⟨kind, isKind, rfl⟩

/-- A name that is not built in is read as a custom network. -/
theorem NetworkId.deserialize_custom
    (origin : Origin)
    {name : String}
    (notTestnet : name ≠ "testnet")
    (notMainnet : name ≠ "mainnet") :
    NetworkId.codec.deserialize origin (.string name) = .ok (.custom name) := by
  refine Outcome.bind_eq_ok.mpr ⟨name, rfl, ?_⟩
  dsimp only
  split
  · exact absurd rfl notTestnet
  · exact absurd rfl notMainnet
  · rfl

variable {errorText : SerdeError → String}

/-- What comes out of a text: the payload of a signed transaction, or a
transaction without a signature for the given network. -/
theorem TransactionEnvelope.fromStrNetwork_cases
    {s : String}
    {network : NetworkId}
    {envelope : TransactionEnvelope build}
    (parsed : fromStrNetwork forms bigInts build errorText s network =
      .ok envelope) :
    (∃ signed, fromSlice forms (TransactionSignature.codec forms bigInts build)
        (asBytes (trim s)) = .ok signed ∧ envelope = signed.payload) ∨
      (∃ zkapp, fromSlice forms (forms.command build) (asBytes (trim s)) =
        .ok zkapp ∧ envelope = newZkapp network zkapp) ∨
      ∃ legacy, fromSlice forms (LegacyTransaction.codec forms.signer)
        (asBytes (trim s)) = .ok legacy ∧
          envelope = newLegacy network legacy := by
  unfold fromStrNetwork at parsed
  rcases Outcome.handle_eq_ok.mp parsed with ⟨signed, read, same⟩ |
    ⟨_, -, unsigned⟩
  · exact Or.inl ⟨signed, read, (Except.ok.inj same).symm⟩
  rcases Outcome.handle_eq_ok.mp unsigned with ⟨zkapp, read, same⟩ |
    ⟨zkappErr, -, noCommand⟩
  · exact Or.inr (Or.inl ⟨zkapp, read, (Except.ok.inj same).symm⟩)
  rcases Outcome.handle_eq_ok.mp noCommand with ⟨legacy, read, same⟩ |
    ⟨legacyErr, -, failed⟩
  · exact Or.inr (Or.inr ⟨legacy, read, (Except.ok.inj same).symm⟩)
  · exact absurd failed (by simp)

end Reading

section Example

/-- The four limbs of a number. -/
def limbs (number : Nat) : BigInt :=
  #v[UInt64.ofNat number, UInt64.ofNat (number / 2 ^ 64),
    UInt64.ofNat (number / 2 ^ 128), UInt64.ofNat (number / 2 ^ 192)]

/-- Decimal texts of numbers of 256 bits. -/
def decimalBigInts : BigIntText where
  toString := fun number =>
    (littleEndian (Sig.bigintToBytes number)).repr
  parse := fun text =>
    match DecimalText.parse (2 ^ 256) text with
    | .ok number => some (limbs number)
    | .error _ => none

/-- The JSON of the payment without its network. -/
def unsignedPaymentJson : Json :=
  .object
    [("to", .string TextForms.knownAddress),
      ("from", .string TextForms.knownAddress),
      ("fee", .string "100000000"), ("amount", .string "1000000000"),
      ("nonce", .string "7"), ("memo", .string "rent"),
      ("valid_until", .string "4294967295"),
      ("tag", .array [.bool false, .bool false, .bool false])]

end Example

end Tx
end MinaMultiSig
