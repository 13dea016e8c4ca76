import MinaMultiSig.Tx.FromText
import MinaMultiSig.Tx.LegacyBinding
import MinaMultiSig.Tx.LegacyMemo

/-!
# Mutations for a node

The requests of `mina-tx/src/graphql.rs` and `zkapp_graphql.rs`, and
`TransactionEnvelope::to_graphql_query_json`. A payment or a delegation is sent
as its input, which leaves out what follows from its kind, and which has the
memo as a text. The transaction that is rebuilt from the input is the one that
was signed if the memo is an ASCII text.
-/

namespace MinaMultiSig
namespace Tx

section Requests

/-- A request with its variables in JSON. -/
structure GraphqlRequest where
  operationName : Option String
  query : String
  queryVariables : Option Json

/-- The entry of a value, and none without one. -/
def someEntry
    {α : Type}
    (name : String)
    (toJson : α → Json) : Option α → List (String × Json)
  | none => []
  | some value => [(name, toJson value)]

/-- The JSON of a request; absent parts are left out. -/
def GraphqlRequest.toJson (request : GraphqlRequest) : Json :=
  .object <|
    someEntry "operationName" .string request.operationName ++
      [("query", .string request.query)] ++
      someEntry "variables" id request.queryVariables

/-- The input of a payment. -/
structure SendPaymentInput where
  fromAddress : String
  toAddress : String
  amount : String
  fee : String
  nonce : Option UInt32
  memo : Option String
  validUntil : Option UInt32

/-- The input of a delegation. -/
structure SendDelegationInput where
  fromAddress : String
  toAddress : String
  fee : String
  nonce : Option UInt32
  memo : Option String
  validUntil : Option UInt32

/-- The input of a signature, in one of two forms. -/
inductive SignatureInput
  | raw (rawSignature : String)
  | fieldScalar (field scalar : String)

/-- A number of 32 bits in JSON. -/
def numberJson (number : UInt32) : Json :=
  .natural number.toUInt64

/-- The JSON of the input of a payment. -/
def SendPaymentInput.toJson (input : SendPaymentInput) : Json :=
  .object <|
    [("from", .string input.fromAddress), ("to", .string input.toAddress),
      ("amount", .string input.amount), ("fee", .string input.fee)] ++
      someEntry "nonce" numberJson input.nonce ++
      someEntry "memo" .string input.memo ++
      someEntry "validUntil" numberJson input.validUntil

/-- The JSON of the input of a delegation. -/
def SendDelegationInput.toJson (input : SendDelegationInput) : Json :=
  .object <|
    [("from", .string input.fromAddress), ("to", .string input.toAddress),
      ("fee", .string input.fee)] ++
      someEntry "nonce" numberJson input.nonce ++
      someEntry "memo" .string input.memo ++
      someEntry "validUntil" numberJson input.validUntil

/-- The JSON of the input of a signature. -/
def SignatureInput.toJson : SignatureInput → Json
  | raw rawSignature => .object [("rawSignature", .string rawSignature)]
  | fieldScalar field scalar =>
      .object [("field", .string field), ("scalar", .string scalar)]

/-- `build_send_payment_mutation`. -/
def buildSendPaymentMutation
    (input : SendPaymentInput)
    (signature : SignatureInput) : GraphqlRequest :=
  { operationName := some "SendPaymentSigned"
    query := "\n".intercalate
      ["mutation SendPaymentSigned($input: SendPaymentInput!, " ++
          "$signature: SignatureInput!) \x7b",
        "  sendPayment(input: $input, signature: $signature) \x7b",
        "    payment \x7b",
        "      id", "      hash", "      kind", "      nonce", "      from",
        "      to", "      amount", "      fee", "      memo",
        "      failureReason",
        "    \x7d",
        "  \x7d",
        "\x7d"]
    queryVariables := some <| .object
      [("input", input.toJson), ("signature", signature.toJson)] }

/-- `build_send_delegation_mutation`. -/
def buildSendDelegationMutation
    (input : SendDelegationInput)
    (signature : SignatureInput) : GraphqlRequest :=
  { operationName := some "SendDelegationSigned"
    query := "\n".intercalate
      ["mutation SendDelegationSigned($input: SendDelegationInput!, " ++
          "$signature: SignatureInput!) \x7b",
        "  sendDelegation(input: $input, signature: $signature) \x7b",
        "    delegation \x7b",
        "      id", "      hash", "      kind", "      nonce", "      from",
        "      to", "      fee", "      memo", "      failureReason",
        "      ... on UserCommandDelegation \x7b",
        "        delegator \x7b publicKey \x7d",
        "        delegatee \x7b publicKey \x7d",
        "      \x7d",
        "    \x7d",
        "  \x7d",
        "\x7d"]
    queryVariables := some <| .object
      [("input", input.toJson), ("signature", signature.toJson)] }

/-- `build_send_zkapp_mutation`. -/
def buildSendZkappMutation (zkappCommand : Json) : GraphqlRequest :=
  { operationName := some "SendZkapp"
    query := "\n".intercalate
      ["mutation SendZkapp($input: SendZkappInput!) \x7b",
        "  sendZkapp(input: $input) \x7b",
        "    zkapp \x7b",
        "      id", "      hash",
        "      failureReason \x7b",
        "        index", "        failures",
        "      \x7d",
        "    \x7d",
        "  \x7d",
        "\x7d"]
    queryVariables := some <| .object
      [("input", .object [("zkappCommand", zkappCommand)])] }

end Requests

section Inputs

variable (signer : MinaSigner)

/-- The memo as a text; one that is no text is left out. -/
def LegacyTransaction.memoText (tx : LegacyTransaction) : String :=
  tx.getMemoString.toOption.getD ""

/-- The input of a transaction that is sent as a payment. -/
def SendPaymentInput.ofTransaction (tx : LegacyTransaction) : SendPaymentInput :=
  { fromAddress := signer.intoAddress tx.sourcePk
    toAddress := signer.intoAddress tx.receiverPk
    amount := tx.amount.toNat.repr
    fee := tx.fee.toNat.repr
    nonce := some tx.nonce
    memo := some tx.memoText
    validUntil := some tx.validUntil }

/-- The input of a transaction that is sent as a delegation. -/
def SendDelegationInput.ofTransaction
    (tx : LegacyTransaction) : SendDelegationInput :=
  { fromAddress := signer.intoAddress tx.sourcePk
    toAddress := signer.intoAddress tx.receiverPk
    fee := tx.fee.toNat.repr
    nonce := some tx.nonce
    memo := some tx.memoText
    validUntil := some tx.validUntil }

end Inputs

section Selection

/-- The input of a transaction: one of a delegation, or else of a payment. -/
inductive MutationInput
  | payment (input : SendPaymentInput)
  | delegation (input : SendDelegationInput)

/-- The mutation for an input. -/
def MutationInput.mutation
    (signature : SignatureInput) : MutationInput → GraphqlRequest
  | payment input => buildSendPaymentMutation input signature
  | delegation input => buildSendDelegationMutation input signature

/-- The input by the tag of a transaction. -/
def LegacyTransaction.selectedInput
    (signer : MinaSigner)
    (tx : LegacyTransaction) : MutationInput :=
  if tx.isDelegation then .delegation (.ofTransaction signer tx)
  else .payment (.ofTransaction signer tx)

variable (forms : TextForms) (bigInts : BigIntText)

/-- The mutation that sends a transaction with its signature. -/
def TransactionEnvelope.toGraphqlQueryJson
    (envelope : TransactionEnvelope build)
    (signature : Sig) : Outcome SerdeError String :=
  match envelope.kind with
  | .zkApp zkapp => do
      let command ← (forms.command build).serialize zkapp
      return forms.json.toStringPretty (buildSendZkappMutation command).toJson
  | .legacy legacyTx =>
      let sigInput := SignatureInput.fieldScalar
        (bigInts.toString signature.field) (bigInts.toString signature.scalar)
      if legacyTx.isDelegation then
        let input := SendDelegationInput.ofTransaction forms.signer legacyTx
        let mutation := buildSendDelegationMutation input sigInput
        .ok (forms.json.toStringPretty mutation.toJson)
      else
        let input := SendPaymentInput.ofTransaction forms.signer legacyTx
        let mutation := buildSendPaymentMutation input sigInput
        .ok (forms.json.toStringPretty mutation.toJson)

/-- A legacy transaction is sent as the input that is selected for it. -/
theorem TransactionEnvelope.toGraphqlQueryJson_newLegacy
    (networkId : NetworkId)
    (tx : LegacyTransaction)
    (signature : Sig) :
    (newLegacy networkId tx : TransactionEnvelope build).toGraphqlQueryJson
        forms bigInts signature =
      .ok (forms.json.toStringPretty
        ((tx.selectedInput forms.signer).mutation
          (.fieldScalar (bigInts.toString signature.field)
            (bigInts.toString signature.scalar))).toJson) := by
  unfold toGraphqlQueryJson LegacyTransaction.selectedInput
  simp only [newLegacy]
  split
  · rfl
  · rfl

end Selection

section Rebuilding

variable (signer : MinaSigner)

/-- A value that is given. -/
def given {α : Type} : Option α → Outcome SerdeError α
  | some value => .ok value
  | none => customError "missing value"

/-- The transaction whose input was sent. -/
def MutationInput.rebuild :
    MutationInput → Outcome SerdeError LegacyTransaction
  | payment input => do
      let source ← LegacyTransaction.parsePubKey signer input.fromAddress
      let receiver ← LegacyTransaction.parsePubKey signer input.toAddress
      let amount := UInt64.ofNat (← parseUnsigned (2 ^ 64) input.amount)
      let fee := UInt64.ofNat (← parseUnsigned (2 ^ 64) input.fee)
      let nonce ← given input.nonce
      let tx := LegacyTransaction.newPayment source receiver amount fee nonce
      let tx ← serdeResult (tx.setMemoStr (← given input.memo))
      return tx.setValidUntil (← given input.validUntil)
  | delegation input => do
      let source ← LegacyTransaction.parsePubKey signer input.fromAddress
      let receiver ← LegacyTransaction.parsePubKey signer input.toAddress
      let fee := UInt64.ofNat (← parseUnsigned (2 ^ 64) input.fee)
      let nonce ← given input.nonce
      let tx := LegacyTransaction.newDelegation source receiver fee nonce
      let tx ← serdeResult (tx.setMemoStr (← given input.memo))
      return tx.setValidUntil (← given input.validUntil)

end Rebuilding

/-- Every key is recovered from its address. -/
def MinaSigner.AddressesRoundTrip (signer : MinaSigner) : Prop :=
  ∀ key, signer.pubKeyFromAddress
    (signer.intoAddress (signer.intoCompressed key)) = .ok key

namespace LegacyTransaction

section Building

/-- Transactions that are built with the constructors and the setters. -/
inductive Built (signer : MinaSigner) : LegacyTransaction → Prop
  | newPayment
      (source receiver : signer.PubKey)
      (amount fee : UInt64)
      (nonce : UInt32) :
      Built signer (newPayment source receiver amount fee nonce)
  | newDelegation
      (source receiver : signer.PubKey)
      (fee : UInt64)
      (nonce : UInt32) :
      Built signer (newDelegation source receiver fee nonce)
  | setMemo
      {tx : LegacyTransaction}
      (built : Built signer tx)
      (memo : Vector UInt8 32) :
      Built signer (tx.setMemo memo)
  | setMemoStr
      {tx result : LegacyTransaction}
      {memo : String}
      (built : Built signer tx)
      (set : tx.setMemoStr memo = .ok result) :
      Built signer result
  | setValidUntil
      {tx : LegacyTransaction}
      (built : Built signer tx)
      (globalSlot : UInt32) :
      Built signer (tx.setValidUntil globalSlot)

/-- A header with the length of some bytes, and zeros behind the bytes. -/
def IsMemo (memo : Vector UInt8 memoBytes) : Prop :=
  ∃ bytes : List UInt8, bytes.length ≤ 32 ∧
    memo.toList = 1 :: UInt8.ofNat bytes.length ::
      (bytes ++ List.replicate (32 - bytes.length) 0)

/-- A new transaction, but for the memo and the last slot. -/
inductive IsNewBut (signer : MinaSigner) (tx : LegacyTransaction) : Prop
  | payment
      (source receiver : signer.PubKey)
      (isNew : tx =
        { newPayment source receiver tx.amount tx.fee tx.nonce with
          memo := tx.memo
          validUntil := tx.validUntil })
  | delegation
      (source receiver : signer.PubKey)
      (isNew : tx =
        { newDelegation source receiver tx.fee tx.nonce with
          memo := tx.memo
          validUntil := tx.validUntil })

/-- Setting the memo and the last slot keeps the rest. -/
theorem IsNewBut.set
    {signer : MinaSigner}
    {tx : LegacyTransaction}
    (isNewBut : IsNewBut signer tx)
    (memo : Vector UInt8 memoBytes)
    (validUntil : UInt32) :
    IsNewBut signer { tx with memo := memo, validUntil := validUntil } := by
  cases isNewBut with
  | payment source receiver isNew =>
      apply IsNewBut.payment source receiver
      rw [isNew]
      rfl
  | delegation source receiver isNew =>
      apply IsNewBut.delegation source receiver
      rw [isNew]
      rfl

/-- A memo that is set from a text is an ASCII text. -/
theorem isAscii_of_setMemoStr
    {tx result : LegacyTransaction}
    {memo : String}
    (set : tx.setMemoStr memo = .ok result) :
    memo.utf8ByteSize ≤ 32 ∧ IsAscii memo ∧ MemoSet tx result memo := by
  have short : memo.utf8ByteSize ≤ 32 := by
    rw [← Nat.not_lt, ← setMemoStr_eq_invalidMemo_iff tx memo, set]
    simp
  have ascii : IsAscii memo := by
    by_contra notAscii
    have panics := (setMemoStr_eq_panic_iff tx memo).mpr
      ((memoOverruns_iff memo).mpr ⟨short, notAscii⟩)
    rw [set] at panics
    exact absurd panics (by simp)
  obtain ⟨other, otherSet, memoSet⟩ := exists_setMemoStr tx short ascii
  rw [set] at otherSet
  obtain rfl := Except.ok.inj otherSet
  exact ⟨short, ascii, memoSet⟩

theorem Built.isNewBut
    {signer : MinaSigner}
    {tx : LegacyTransaction}
    (built : Built signer tx) :
    IsNewBut signer tx := by
  induction built with
  | newPayment source receiver amount fee nonce =>
      exact .payment source receiver rfl
  | newDelegation source receiver fee nonce =>
      exact .delegation source receiver rfl
  | setMemo _ memo ih => exact ih.set _ _
  | setMemoStr _ set ih =>
      rw [(isAscii_of_setMemoStr set).2.2.others]
      exact ih.set _ _
  | setValidUntil _ globalSlot ih => exact ih.set _ _

theorem Built.isMemo
    {signer : MinaSigner}
    {tx : LegacyTransaction}
    (built : Built signer tx) :
    IsMemo tx.memo := by
  induction built with
  | newPayment source receiver amount fee nonce =>
      exact ⟨[], Nat.zero_le _, rfl⟩
  | newDelegation source receiver fee nonce =>
      exact ⟨[], Nat.zero_le _, rfl⟩
  | setMemo _ memo _ =>
      have full : memo.toList.length = 32 := memo.length_toList
      refine ⟨memo.toList, full.le, ?_⟩
      rw [full, Nat.sub_self, List.replicate_zero, List.append_nil]
      rfl
  | setMemoStr _ set _ =>
      obtain ⟨short, -, memoSet⟩ := isAscii_of_setMemoStr set
      exact ⟨_, short, memoSet.bytes⟩
  | setValidUntil _ _ ih => exact ih

end Building

section Carrying

variable {tx : LegacyTransaction}

/-- The text of a memo is what stands between the header and the zeros. -/
theorem memoText_eq
    {memo : String}
    (short : memo.utf8ByteSize ≤ 32)
    (isMemo : tx.memo.toList = 1 :: UInt8.ofNat memo.utf8ByteSize ::
      (asBytes memo ++ List.replicate (32 - memo.utf8ByteSize) 0)) :
    tx.memoText = memo := by
  have length : (UInt8.ofNat memo.utf8ByteSize).toNat =
      memo.utf8ByteSize := by
    rw [UInt8.toNat_ofNat']
    omega
  have inside : ¬memo.utf8ByteSize > memoBytes - memoHeaderBytes := by
    simp only [memoBytes, memoHeaderBytes]
    omega
  have read : tx.getMemoString = .ok memo := by
    unfold getMemoString
    simp only [isMemo, List.getD_cons_succ, List.getD_cons_zero, length]
    rw [if_neg inside]
    simp only [memoHeaderBytes, List.drop_succ_cons, List.drop_zero]
    rw [← length_asBytes, List.take_left, fromUtf8_asBytes]
    rfl
  rw [memoText, read]
  rfl

/-- A memo is set again from its text exactly if it is ASCII. -/
theorem setMemoStr_memoText_iff
    (base : LegacyTransaction)
    (isMemo : IsMemo tx.memo) :
    (∃ result, base.setMemoStr tx.memoText = .ok result ∧
        result.memo = tx.memo) ↔
      ∀ byte ∈ tx.memo.toList, byte < 128 := by
  constructor
  · rintro ⟨result, set, sameMemo⟩
    obtain ⟨short, ascii, memoSet⟩ := isAscii_of_setMemoStr set
    have lengthByte : UInt8.ofNat tx.memoText.utf8ByteSize < 128 := by
      rw [UInt8.lt_iff_toNat_lt, UInt8.toNat_ofNat']
      exact (Nat.mod_le _ _).trans_lt (short.trans_lt (by decide))
    rw [← sameMemo, memoSet.bytes]
    simp only [List.forall_mem_cons, List.forall_mem_append]
    refine ⟨by decide, lengthByte, (isAscii_iff_bytes _).mp ascii, ?_⟩
    intro byte zero
    rw [List.eq_of_mem_replicate zero]
    decide
  · intro small
    obtain ⟨bytes, short, isList⟩ := isMemo
    rw [isList] at small
    simp only [List.forall_mem_cons, List.forall_mem_append] at small
    obtain ⟨-, -, smallBytes, -⟩ := small
    obtain ⟨text, ascii, rfl⟩ := exists_isAscii_of_bytes smallBytes
    rw [memoText_eq short isList]
    obtain ⟨result, set, memoSet⟩ := exists_setMemoStr base short ascii
    refine ⟨result, set, Vector.toList_inj.mp ?_⟩
    rw [memoSet.bytes, isList, length_asBytes]

/-- Rebuilding sets the memo and the last slot of a new transaction. -/
theorem rebuild_selectedInput
    {signer : MinaSigner}
    (roundTrip : signer.AddressesRoundTrip)
    (isNewBut : IsNewBut signer tx) :
    ∃ base : LegacyTransaction,
      tx = { base with memo := tx.memo, validUntil := tx.validUntil } ∧
      ∀ rebuilt, (tx.selectedInput signer).rebuild signer = .ok rebuilt ↔
        ∃ result, base.setMemoStr tx.memoText = .ok result ∧
          result.setValidUntil tx.validUntil = rebuilt := by
  have parsed : ∀ key, parsePubKey signer
      (signer.intoAddress (signer.intoCompressed key)) = .ok key := by
    intro key
    rw [parsePubKey, roundTrip]
  cases isNewBut with
  | payment source receiver isNew =>
      refine ⟨_, isNew, ?_⟩
      have isPayment : tx.isDelegation = false := by
        rw [isNew]
        rfl
      have sourcePk : tx.sourcePk = signer.intoCompressed source := by
        rw [isNew]
        rfl
      have receiverPk : tx.receiverPk = signer.intoCompressed receiver := by
        rw [isNew]
        rfl
      intro rebuilt
      rw [selectedInput, isPayment]
      simp only [Bool.false_eq_true, if_false, MutationInput.rebuild,
        SendPaymentInput.ofTransaction, sourcePk, receiverPk, parsed,
        parseUnsigned_repr tx.amount.toNat_lt,
        parseUnsigned_repr tx.fee.toNat_lt, given, Outcome.bind_eq_ok,
        Except.ok.injEq, exists_eq_left', UInt64.ofNat_toNat,
        serdeResult_eq_ok, pure, Except.pure]
  | delegation source receiver isNew =>
      refine ⟨_, isNew, ?_⟩
      have isDelegation : tx.isDelegation = true := by
        rw [isNew]
        rfl
      have sourcePk : tx.sourcePk = signer.intoCompressed source := by
        rw [isNew]
        rfl
      have receiverPk : tx.receiverPk = signer.intoCompressed receiver := by
        rw [isNew]
        rfl
      intro rebuilt
      rw [selectedInput, isDelegation]
      simp only [if_true, MutationInput.rebuild,
        SendDelegationInput.ofTransaction, sourcePk, receiverPk, parsed,
        parseUnsigned_repr tx.fee.toNat_lt, given, Outcome.bind_eq_ok,
        Except.ok.injEq, exists_eq_left', UInt64.ofNat_toNat,
        serdeResult_eq_ok, pure, Except.pure]

/-- The transaction that is rebuilt from the input of a mutation is the one that
was signed, and has the same input to the hash, exactly if its memo is ASCII. -/
theorem rebuild_eq_signed_iff
    {signer : MinaSigner}
    (roundTrip : signer.AddressesRoundTrip)
    (built : Built signer tx) :
    ((tx.selectedInput signer).rebuild signer = .ok tx ↔
      ∀ byte ∈ tx.memo.toList, byte < 128) ∧
    ((∃ rebuilt, (tx.selectedInput signer).rebuild signer = .ok rebuilt ∧
        rebuilt.toRoinput = tx.toRoinput) ↔
      ∀ byte ∈ tx.memo.toList, byte < 128) := by
  have same : (tx.selectedInput signer).rebuild signer = .ok tx ↔
      ∀ byte ∈ tx.memo.toList, byte < 128 := by
    obtain ⟨base, isBase, rebuild⟩ :=
      rebuild_selectedInput roundTrip built.isNewBut
    rw [rebuild, ← setMemoStr_memoText_iff base built.isMemo]
    apply exists_congr
    intro result
    apply and_congr_right
    intro set
    have others := (isAscii_of_setMemoStr set).2.2.others
    constructor
    · intro sameTx
      have memos := congrArg LegacyTransaction.memo sameTx
      exact memos
    · intro sameMemo
      rw [isBase, others, sameMemo]
      rfl
  refine ⟨same, ?_⟩
  rw [← same]
  constructor
  · rintro ⟨rebuilt, isRebuilt, sameInput⟩
    rwa [toRoinput_injective sameInput] at isRebuilt
  · intro isRebuilt
    exact ⟨tx, isRebuilt, rfl⟩

/-- With a memo from the text of a test. -/
theorem rebuild_eq_signed_iff_testMemo :
    ∃ tx, (@newPayment TextForms.referenceSigner () () 1000000 10000
        42).setMemoStr "test memo" = .ok tx ∧
      (tx.selectedInput TextForms.referenceSigner).rebuild
        TextForms.referenceSigner = .ok tx := by
  refine ⟨_, rfl, ?_⟩
  have built := @Built.setMemoStr TextForms.referenceSigner _ _ "test memo"
    (.newPayment () () 1000000 10000 42) rfl
  exact (rebuild_eq_signed_iff (fun _ => rfl) built).1.mpr
    (by decide +kernel)

/-- A memo of 32 bytes that are no text is sent as the empty memo. -/
theorem rebuild_highBytes_differs :
    ∃ rebuilt,
      (((@newPayment TextForms.referenceSigner () () 1 1 0).setMemo
        (Vector.replicate 32 255)).selectedInput
          TextForms.referenceSigner).rebuild TextForms.referenceSigner =
            .ok rebuilt ∧
      rebuilt.toRoinput ≠
        ((@newPayment TextForms.referenceSigner () () 1 1 0).setMemo
          (Vector.replicate 32 255)).toRoinput := by
  refine ⟨@newPayment TextForms.referenceSigner () () 1 1 0, by decide, ?_⟩
  intro same
  have memos := congrArg LegacyTransaction.memo (toRoinput_injective same)
  exact absurd memos (by decide)

end Carrying

end LegacyTransaction

end Tx
end MinaMultiSig
