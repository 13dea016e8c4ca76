import MinaMultiSig.Library.Outcome
import MinaMultiSig.Tx.ROInput
import MinaMultiSig.Tx.Signer
import MinaMultiSig.Tx.Utf8

/-!
# Legacy transactions

Payments and delegations of `mina-tx/src/transactions/legacy_tx.rs`: their
construction, their memos and their random oracle input.
-/

namespace MinaMultiSig
namespace Tx

/-- A result of the transaction library, which may also panic. -/
abbrev MinaTxResult (α : Type) : Type :=
  Outcome MinaTxError α

/-- `MEMO_BYTES`. -/
def memoBytes : Nat :=
  34

/-- `0x01` and the length byte. -/
def memoHeaderBytes : Nat :=
  2

/-- The tag bits of a transaction. -/
abbrev TxTag : Type :=
  Vector Bool 3

/-- `PAYMENT_TX_TAG`. -/
def paymentTxTag : TxTag :=
  #v[false, false, false]

/-- `DELEGATION_TX_TAG`. -/
def delegationTxTag : TxTag :=
  #v[false, false, true]

/-- A payment or a delegation. -/
@[ext]
structure LegacyTransaction where
  fee : UInt64
  feeToken : UInt64
  feePayerPk : CompressedPubKey
  nonce : UInt32
  validUntil : UInt32
  memo : Vector UInt8 memoBytes
  tag : TxTag
  sourcePk : CompressedPubKey
  receiverPk : CompressedPubKey
  tokenId : UInt64
  amount : UInt64
  tokenLocked : Bool
  deriving DecidableEq

namespace LegacyTransaction

section Construction

variable {signer : MinaSigner}

/-- The memo without a text: the header byte and zeros. -/
def emptyMemo : Vector UInt8 memoBytes :=
  Vector.ofFn fun index => if index.val = 0 then 1 else 0

/-- `LegacyTransaction::new_payment`; the source pays the fee. -/
def newPayment
    (source receiver : signer.PubKey)
    (amount fee : UInt64)
    (nonce : UInt32) : LegacyTransaction :=
  { fee := fee
    feeToken := 1
    feePayerPk := signer.intoCompressed source
    nonce := nonce
    validUntil := 4294967295
    memo := emptyMemo
    tag := paymentTxTag
    sourcePk := signer.intoCompressed source
    receiverPk := signer.intoCompressed receiver
    tokenId := 1
    amount := amount
    tokenLocked := false }

/-- `LegacyTransaction::new_delegation`; the source pays the fee. -/
def newDelegation
    (source receiver : signer.PubKey)
    (fee : UInt64)
    (nonce : UInt32) : LegacyTransaction :=
  { fee := fee
    feeToken := 1
    feePayerPk := signer.intoCompressed source
    nonce := nonce
    validUntil := 4294967295
    memo := emptyMemo
    tag := delegationTxTag
    sourcePk := signer.intoCompressed source
    receiverPk := signer.intoCompressed receiver
    tokenId := 1
    amount := 0
    tokenLocked := false }

/-- Set the last slot in which the transaction is valid. -/
def setValidUntil
    (tx : LegacyTransaction)
    (globalSlot : UInt32) : LegacyTransaction :=
  { tx with validUntil := globalSlot }

/-- The memo with a header and 32 bytes. -/
def memoOf
    (length : UInt8)
    (bytes : List UInt8)
    (full : bytes.length = 32) : Vector UInt8 memoBytes :=
  ⟨(1 :: length :: bytes).toArray, by
    rw [List.size_toArray, List.length_cons, List.length_cons, full]
    rfl⟩

/-- A memo of 32 bytes. -/
def setMemo
    (tx : LegacyTransaction)
    (memo : Vector UInt8 32) : LegacyTransaction :=
  { tx with memo := memoOf 32 memo.toList memo.length_toList }

/-- A memo from a text of at most 32 bytes. The text is filled up with zero
characters to 32 characters, not bytes; the copy panics unless these are 32
bytes. -/
def setMemoStr
    (tx : LegacyTransaction)
    (memo : String) : MinaTxResult LegacyTransaction :=
  if memo.utf8ByteSize > memoBytes - memoHeaderBytes ∨
      memo.utf8ByteSize > 255 then
    .error (.error (.invalidMemo "Memo exceeds maximum length"))
  else
    let padded := memo ++ String.ofList
      (List.replicate (32 - memo.length) (Char.ofNat 0))
    if full : (asBytes padded).length = 32 then
      .ok
        { tx with
          memo := memoOf (UInt8.ofNat memo.utf8ByteSize) (asBytes padded) full }
    else .error .panic

end Construction

/-- The text of a memo, as long as its length byte says. -/
def getMemoString (tx : LegacyTransaction) : Except MinaTxError String :=
  let memoLen := (tx.memo.toList.getD 1 0).toNat
  if memoLen > memoBytes - memoHeaderBytes then
    .error (.memoSerializationError "Invalid memo length byte")
  else
    (fromUtf8 ((tx.memo.toList.drop memoHeaderBytes).take memoLen)).mapError
      MinaTxError.memoSerializationError

/-- Whether the tag is the one of a delegation. -/
def isDelegation (tx : LegacyTransaction) : Bool :=
  decide (tx.tag = delegationTxTag)

/-- The input that is hashed for the transaction. -/
def toRoinput (tx : LegacyTransaction) : ROInput :=
  let roi := ROInput.new
    |>.appendField tx.feePayerPk.x
    |>.appendField tx.sourcePk.x
    |>.appendField tx.receiverPk.x
    |>.appendU64 tx.fee
    |>.appendU64 tx.feeToken
    |>.appendBool tx.feePayerPk.isOdd
    |>.appendU32 tx.nonce
    |>.appendU32 tx.validUntil
    |>.appendBytes tx.memo.toList
  (tx.tag.toList.foldl ROInput.appendBool roi)
    |>.appendBool tx.sourcePk.isOdd
    |>.appendBool tx.receiverPk.isOdd
    |>.appendU64 tx.tokenId
    |>.appendU64 tx.amount
    |>.appendBool tx.tokenLocked

/-- The input of a transaction has three fields and a fixed number of bits. -/
theorem length_toRoinput (tx : LegacyTransaction) :
    tx.toRoinput.fields.length = 3 ∧ tx.toRoinput.bits.length = 599 := by
  have memoLength : tx.memo.toList.length = 34 := tx.memo.length_toList
  have tagLength : tx.tag.toList.length = 3 := tx.tag.length_toList
  unfold toRoinput
  simp only [ROInput.foldl_appendBool, ROInput.new, ROInput.appendField,
    ROInput.appendBool, ROInput.appendBytes, ROInput.appendU32,
    ROInput.appendU64, List.length_append, length_bitsOfBytes, length_leBytes,
    memoLength, tagLength]
  exact ⟨rfl, rfl⟩

end LegacyTransaction

end Tx
end MinaMultiSig
