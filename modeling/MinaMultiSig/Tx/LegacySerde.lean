import MinaMultiSig.Tx.ZkApp.Serde

/-!
# The JSON form of legacy transactions

The written codec of `mina-tx/src/transactions/legacy_tx.rs`. The amount is left
out for delegations, the memo is its text without the header, and the fields
that are the same for all transactions are not written.
-/

namespace MinaMultiSig

/-- The text of an error. -/
def MinaTxError.text : MinaTxError → String
  | serializationError message => "Serialization error: " ++ message
  | deSerializationError message => "Deserialization error: " ++ message
  | invalidSignature message => "Invalid signature: " ++ message
  | invalidPublicKey message => "Invalid public key: " ++ message
  | invalidMemo message => "Invalid memo: " ++ message
  | memoSerializationError message => "Memo serialization error: " ++ message
  | invalidZkAppCommand message => "Invalid ZKApp command: " ++ message
  | saveSignatureError message => "Failed to save signature: " ++ message
  | unknownTransactionType message => "Unknown transaction type: " ++ message

namespace Tx

open Codec Fields

/-- A result of the transaction library within a codec: an error becomes its
text. -/
def serdeResult {α : Type} : MinaTxResult α → Outcome SerdeError α
  | .ok value => .ok value
  | .error (.error reason) => customError reason.text
  | .error .panic => .error .panic

/-- The entries of a legacy transaction. -/
structure TransactionData where
  toAddress : String
  fromAddress : String
  fee : String
  amount : Option String
  nonce : String
  memo : String
  validUntil : String
  tag : TxTag
  deriving DecidableEq

/-- How the texts of a transaction are read and written. -/
def TransactionData.codec : Codec TransactionData :=
  record
    (required "to" string <|
      required "from" string <|
      required "fee" string <|
      optional "amount" string <|
      required "nonce" string <|
      required "memo" string <|
      required "valid_until" string <|
      required "tag" (Codec.bool.vector 3) done)
    (fun (toAddress, fromAddress, fee, amount, nonce, memo, validUntil, tag,
        ()) =>
      { toAddress := toAddress
        fromAddress := fromAddress
        fee := fee
        amount := amount
        nonce := nonce
        memo := memo
        validUntil := validUntil
        tag := tag })
    fun data =>
      (data.toAddress, data.fromAddress, data.fee, data.amount, data.nonce,
        data.memo, data.validUntil, data.tag, ())

namespace LegacyTransaction

variable (signer : MinaSigner)

/-- A delegation has no amount in JSON. -/
def serialize (tx : LegacyTransaction) : Outcome SerdeError Json := do
  let memoStr ← serdeResult (Outcome.ofExcept tx.getMemoString)
  let amount :=
    if tx.tag = delegationTxTag then []
    else [("amount", Json.string tx.amount.toNat.repr)]
  return .object <|
    [("to", .string (signer.intoAddress tx.receiverPk)),
      ("from", .string (signer.intoAddress tx.sourcePk)),
      ("fee", .string tx.fee.toNat.repr)] ++ amount ++
    [("nonce", .string tx.nonce.toNat.repr),
      ("memo", .string memoStr),
      ("valid_until", .string tx.validUntil.toNat.repr),
      ("tag", .array (tx.tag.toList.map Json.bool))]

/-- A key by its address. -/
def parsePubKey (address : String) : Outcome SerdeError signer.PubKey :=
  match signer.pubKeyFromAddress address with
  | .ok key => .ok key
  | .error message => customError message

/-- The transaction with the entries. -/
def ofData (data : TransactionData) : Outcome SerdeError LegacyTransaction := do
  let source ← parsePubKey signer data.fromAddress
  let receiver ← parsePubKey signer data.toAddress
  let fee := UInt64.ofNat (← parseUnsigned (2 ^ 64) data.fee)
  let nonce := UInt32.ofNat (← parseUnsigned (2 ^ 32) data.nonce)
  let validUntil := UInt32.ofNat (← parseUnsigned (2 ^ 32) data.validUntil)
  if data.tag = paymentTxTag then
    match data.amount with
    | none => customError "Missing amount for payment transaction"
    | some text => do
        let amount := UInt64.ofNat (← parseUnsigned (2 ^ 64) text)
        let tx ← serdeResult
          ((newPayment source receiver amount fee nonce).setMemoStr data.memo)
        return tx.setValidUntil validUntil
  else if data.tag = delegationTxTag then
    if data.amount.isSome then
      customError "Unexpected amount for delegation transaction"
    else do
      let tx ← serdeResult
        ((newDelegation source receiver fee nonce).setMemoStr data.memo)
      return tx.setValidUntil validUntil
  else customError "Invalid transaction tag"

/-- How a legacy transaction is read and written. -/
def codec : Codec LegacyTransaction :=
  { serialize := serialize signer
    deserialize := fun origin json => do
      let data ← TransactionData.codec.deserialize origin json
      ofData signer data
    nesting := 2 }

variable {signer}

theorem toList_memoOf
    (length : UInt8)
    (bytes : List UInt8)
    (full : bytes.length = 32) :
    (memoOf length bytes full).toList = 1 :: length :: bytes := rfl

/-- Only the memo is set, and it is read as the text it is set to. -/
theorem setMemoStr_eq_ok
    {tx result : LegacyTransaction}
    {text : String}
    (set : tx.setMemoStr text = .ok result) :
    ∃ memo, result = { tx with memo := memo } ∧
      result.getMemoString = .ok text := by
  rw [setMemoStr] at set
  split at set
  · exact absurd set (by simp)
  next short =>
    simp only at set
    split at set
    next full =>
      have fits : text.utf8ByteSize ≤ 32 := by
        rw [not_or] at short
        exact Nat.not_lt.mp short.1
      refine ⟨_, (Except.ok.inj set).symm, ?_⟩
      have length : (UInt8.ofNat text.utf8ByteSize).toNat =
          text.utf8ByteSize := by
        rw [UInt8.toNat_ofNat']
        omega
      have front : ((asBytes (text ++ String.ofList
          (List.replicate (32 - text.length) (Char.ofNat 0)))).take
            text.utf8ByteSize) = asBytes text := by
        rw [asBytes_eq_flatMap, String.toList_append, List.flatMap_append,
          ← asBytes_eq_flatMap, ← length_asBytes, List.take_left]
      rw [← Except.ok.inj set, getMemoString]
      simp only [toList_memoOf, List.getD_cons_succ, List.getD_cons_zero,
        length, memoHeaderBytes, List.drop_succ_cons, List.drop_zero, front,
        fromUtf8_asBytes]
      rw [if_neg (by simp only [memoBytes]; omega)]
      rfl
    · exact absurd set (by simp)

/-- The entries of a payment are read. -/
theorem deserialize_payment
    (origin : Origin)
    (toAddress fromAddress fee amount nonce memo validUntil : String) :
    TransactionData.codec.deserialize origin
        (.object
          [("to", .string toAddress), ("from", .string fromAddress),
            ("fee", .string fee), ("amount", .string amount),
            ("nonce", .string nonce), ("memo", .string memo),
            ("valid_until", .string validUntil),
            ("tag", .array [.bool false, .bool false, .bool false])]) =
      .ok
        { toAddress := toAddress
          fromAddress := fromAddress
          fee := fee
          amount := some amount
          nonce := nonce
          memo := memo
          validUntil := validUntil
          tag := paymentTxTag } := by
  rfl

/-- The entries of a delegation are read. -/
theorem deserialize_delegation
    (origin : Origin)
    (toAddress fromAddress fee nonce memo validUntil : String) :
    TransactionData.codec.deserialize origin
        (.object
          [("to", .string toAddress), ("from", .string fromAddress),
            ("fee", .string fee), ("nonce", .string nonce),
            ("memo", .string memo), ("valid_until", .string validUntil),
            ("tag", .array [.bool false, .bool false, .bool true])]) =
      .ok
        { toAddress := toAddress
          fromAddress := fromAddress
          fee := fee
          amount := none
          nonce := nonce
          memo := memo
          validUntil := validUntil
          tag := delegationTxTag } := by
  rfl

theorem parseUnsigned_repr
    {bound number : Nat}
    (below : number < bound) :
    parseUnsigned bound number.repr = .ok number := by
  rw [parseUnsigned, DecimalText.parse_repr below]

theorem parsePubKey_intoAddress
    (lawful : signer.Lawful)
    {address : String}
    {key : signer.PubKey}
    (parsed : parsePubKey signer address = .ok key) :
    parsePubKey signer (signer.intoAddress (signer.intoCompressed key)) =
      .ok key := by
  rw [parsePubKey] at parsed ⊢
  split at parsed
  next other isKey =>
    obtain rfl := Except.ok.inj parsed
    rw [lawful.pubKeyFromAddress_intoAddress address other isKey]
  next => exact absurd parsed (by simp [customError, fail])

theorem serdeResult_eq_ok
    {α : Type}
    {result : MinaTxResult α}
    {value : α} :
    serdeResult result = .ok value ↔ result = .ok value := by
  cases result with
  | ok other => simp [serdeResult]
  | error failure =>
      cases failure with
      | error reason => simp [serdeResult, customError, fail]
      | panic => simp [serdeResult]

section Transmission

variable {source receiver : signer.PubKey} {fee amount : UInt64}
  {nonce validUntil : UInt32} {text : String} {result : LegacyTransaction}
  (sourceRead : parsePubKey signer
    (signer.intoAddress (signer.intoCompressed source)) = .ok source)
  (receiverRead : parsePubKey signer
    (signer.intoAddress (signer.intoCompressed receiver)) = .ok receiver)

include sourceRead receiverRead

theorem payment_transmits
    (set : (newPayment source receiver amount fee nonce).setMemoStr text =
      .ok result) :
    (codec signer).Transmits (result.setValidUntil validUntil) := by
  obtain ⟨memo, rfl, memoText⟩ := setMemoStr_eq_ok set
  refine ⟨.object
    [("to", .string (signer.intoAddress (signer.intoCompressed receiver))),
      ("from", .string (signer.intoAddress (signer.intoCompressed source))),
      ("fee", .string fee.toNat.repr),
      ("amount", .string amount.toNat.repr),
      ("nonce", .string nonce.toNat.repr), ("memo", .string text),
      ("valid_until", .string validUntil.toNat.repr),
      ("tag", .array [.bool false, .bool false, .bool false])], ?_, ?_, ?_⟩
  · apply Outcome.bind_eq_ok.mpr
    refine ⟨text, serdeResult_eq_ok.mpr (Outcome.ofExcept_eq_ok.mpr memoText),
      ?_⟩
    rfl
  · simp [Json.Fits, codec]
  · intro origin
    apply Outcome.bind_eq_ok.mpr
    refine ⟨_, deserialize_payment origin _ _ _ _ _ _ _, ?_⟩
    simp only [ofData, Outcome.bind_eq_ok, sourceRead, receiverRead,
      parseUnsigned_repr fee.toNat_lt, parseUnsigned_repr nonce.toNat_lt,
      parseUnsigned_repr validUntil.toNat_lt,
      parseUnsigned_repr amount.toNat_lt]
    refine ⟨source, rfl, receiver, rfl, _, rfl, _, rfl, _, rfl, ?_⟩
    rw [if_pos trivial]
    apply Outcome.bind_eq_ok.mpr
    refine ⟨_, rfl, ?_⟩
    simp only [UInt64.ofNat_toNat, UInt32.ofNat_toNat, set]
    rfl

theorem delegation_transmits
    (set : (newDelegation source receiver fee nonce).setMemoStr text =
      .ok result) :
    (codec signer).Transmits (result.setValidUntil validUntil) := by
  obtain ⟨memo, rfl, memoText⟩ := setMemoStr_eq_ok set
  refine ⟨.object
    [("to", .string (signer.intoAddress (signer.intoCompressed receiver))),
      ("from", .string (signer.intoAddress (signer.intoCompressed source))),
      ("fee", .string fee.toNat.repr),
      ("nonce", .string nonce.toNat.repr), ("memo", .string text),
      ("valid_until", .string validUntil.toNat.repr),
      ("tag", .array [.bool false, .bool false, .bool true])], ?_, ?_, ?_⟩
  · apply Outcome.bind_eq_ok.mpr
    refine ⟨text, serdeResult_eq_ok.mpr (Outcome.ofExcept_eq_ok.mpr memoText),
      ?_⟩
    rfl
  · simp [Json.Fits, codec]
  · intro origin
    apply Outcome.bind_eq_ok.mpr
    refine ⟨_, deserialize_delegation origin _ _ _ _ _ _, ?_⟩
    simp only [ofData, Outcome.bind_eq_ok, sourceRead, receiverRead,
      parseUnsigned_repr fee.toNat_lt, parseUnsigned_repr nonce.toNat_lt,
      parseUnsigned_repr validUntil.toNat_lt]
    refine ⟨source, rfl, receiver, rfl, _, rfl, _, rfl, _, rfl, ?_⟩
    rw [if_neg (by decide), if_pos trivial]
    simp only [UInt64.ofNat_toNat, UInt32.ofNat_toNat, set]
    rfl

end Transmission

/-- Each transaction that is read is written and read again. -/
theorem codec_faithful
    (lawful : signer.Lawful) :
    (codec signer).Faithful := by
  intro origin json tx read
  obtain ⟨data, -, built⟩ := Outcome.bind_eq_ok.mp read
  simp only [ofData, Outcome.bind_eq_ok] at built
  obtain ⟨source, sourceEq, receiver, receiverEq, fee, -, nonce, -, validUntil,
    -, built⟩ := built
  have sourceRead := parsePubKey_intoAddress lawful sourceEq
  have receiverRead := parsePubKey_intoAddress lawful receiverEq
  split at built
  · split at built
    · exact absurd built (by simp [customError, fail])
    · simp only [Outcome.bind_eq_ok] at built
      obtain ⟨amount, -, result, set, built⟩ := built
      obtain rfl := Except.ok.inj built
      exact payment_transmits sourceRead receiverRead (serdeResult_eq_ok.mp set)
  · split at built
    · split at built
      · exact absurd built (by simp [customError, fail])
      · simp only [Outcome.bind_eq_ok] at built
        obtain ⟨result, set, built⟩ := built
        obtain rfl := Except.ok.inj built
        exact delegation_transmits sourceRead receiverRead
          (serdeResult_eq_ok.mp set)
    · exact absurd built (by simp [customError, fail])

end LegacyTransaction

end Tx
end MinaMultiSig
