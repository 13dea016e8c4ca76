import MinaMultiSig.Tx.EnvelopeSerde
import MinaMultiSig.Tx.ZkApp.CommandReading
import MinaMultiSig.Tx.ZkApp.WellFormed

/-!
# Which documents make a reader of envelopes panic

A reader of envelopes panics exactly where it sets the memo of a legacy
transaction to a short text that is not all ASCII. An envelope that is read has
a message unless it is a command without a commitment.
-/

namespace MinaMultiSig
namespace Tx

open Codec Fields

section Legacy

/-- The text has at most 32 bytes, but more bytes than characters. -/
def MemoOverruns (memo : String) : Prop :=
  memo.utf8ByteSize ≤ 32 ∧ memo.length < memo.utf8ByteSize

instance (memo : String) : Decidable (MemoOverruns memo) :=
  inferInstanceAs (Decidable (_ ∧ _))

/-- The memo is filled up by characters and not by bytes. -/
theorem LegacyTransaction.setMemoStr_eq_panic_iff
    (tx : LegacyTransaction)
    (memo : String) :
    tx.setMemoStr memo = .error .panic ↔ MemoOverruns memo := by
  have chars : memo.length ≤ memo.utf8ByteSize :=
    length_le_utf8ByteSize memo
  have zeros : ∀ count, (String.ofList
      (List.replicate count (Char.ofNat 0))).utf8ByteSize = count := by
    intro count
    have one : (Char.ofNat 0).utf8Size = 1 := by
      decide
    rw [utf8ByteSize_eq_totalSize, String.toList_ofList]
    simp [FixedWidth.totalSize, one]
  unfold setMemoStr MemoOverruns
  split
  next long =>
    refine iff_of_false (by simp) fun overruns => ?_
    have notLong := overruns.1
    simp only [memoBytes, memoHeaderBytes] at long
    omega
  next short =>
    have size : memo.utf8ByteSize ≤ 32 := by
      simp only [memoBytes, memoHeaderBytes] at short
      omega
    have padded : (asBytes (memo ++ String.ofList
        (List.replicate (32 - memo.length) (Char.ofNat 0)))).length =
          memo.utf8ByteSize + (32 - memo.length) := by
      rw [length_asBytes, String.utf8ByteSize_append, zeros]
    dsimp only
    split
    next full =>
      refine iff_of_false (by simp) fun overruns => ?_
      have more := overruns.2
      omega
    next notFull =>
      refine iff_of_true rfl ⟨size, ?_⟩
      omega

variable (signer : MinaSigner)

/-- Everything but the memo is as it has to be. -/
structure TransactionData.Complete (data : TransactionData) : Prop where
  source : ∃ key,
    LegacyTransaction.parsePubKey signer data.fromAddress = .ok key
  receiver : ∃ key,
    LegacyTransaction.parsePubKey signer data.toAddress = .ok key
  fee : ∃ number, parseUnsigned (2 ^ 64) data.fee = .ok number
  nonce : ∃ number, parseUnsigned (2 ^ 32) data.nonce = .ok number
  validUntil : ∃ number, parseUnsigned (2 ^ 32) data.validUntil = .ok number
  kind : (data.tag = paymentTxTag ∧ ∃ text ∈ data.amount,
      ∃ number, parseUnsigned (2 ^ 64) text = .ok number) ∨
    (data.tag = delegationTxTag ∧ data.amount = none)

theorem TransactionData.codec_panicFree : TransactionData.codec.PanicFree :=
  record_panicFree
    (required_panicFree string_panicFree <|
      required_panicFree string_panicFree <|
      required_panicFree string_panicFree <|
      optional_panicFree string_panicFree <|
      required_panicFree string_panicFree <|
      required_panicFree string_panicFree <|
      required_panicFree string_panicFree <|
      required_panicFree (vector_panicFree bool_panicFree) done_panicFree)

namespace LegacyTransaction

theorem parsePubKey_ne_panic (address : String) :
    parsePubKey signer address ≠ .error .panic := by
  unfold parsePubKey
  split
  · simp
  · exact customError_ne_panic _

theorem serdeResult_eq_panic
    {α : Type}
    {result : MinaTxResult α} :
    serdeResult result = .error .panic ↔ result = .error .panic := by
  rcases result with (reason | _) | value
  · simp [serdeResult, customError, fail]
  · simp [serdeResult]
  · simp [serdeResult]

/-- Setting the memo is the last thing that can go wrong. -/
theorem setMemo_eq_panic_iff
    {tx : LegacyTransaction}
    {memo : String}
    {validUntil : UInt32} :
    (do
      let tx ← serdeResult (tx.setMemoStr memo)
      return tx.setValidUntil validUntil) =
        (.error .panic : Outcome SerdeError LegacyTransaction) ↔
      MemoOverruns memo := by
  rw [Outcome.bind_eq_panic, serdeResult_eq_panic, setMemoStr_eq_panic_iff]
  apply or_iff_left
  rintro ⟨result, -, returned⟩
  exact absurd returned (by simp [pure, Except.pure])

theorem ofData_eq_panic_iff (data : TransactionData) :
    ofData signer data = .error .panic ↔
      data.Complete signer ∧ MemoOverruns data.memo := by
  unfold ofData
  constructor
  · intro panics
    obtain ⟨source, isSource, panics⟩ :=
      Outcome.panic_behind (parsePubKey_ne_panic signer _) panics
    obtain ⟨receiver, isReceiver, panics⟩ :=
      Outcome.panic_behind (parsePubKey_ne_panic signer _) panics
    obtain ⟨fee, isFee, panics⟩ :=
      Outcome.panic_behind (parseUnsigned_ne_panic _ _) panics
    obtain ⟨nonce, isNonce, panics⟩ :=
      Outcome.panic_behind (parseUnsigned_ne_panic _ _) panics
    obtain ⟨validUntil, isValidUntil, panics⟩ :=
      Outcome.panic_behind (parseUnsigned_ne_panic _ _) panics
    have complete := fun kind => TransactionData.Complete.mk
      ⟨source, isSource⟩ ⟨receiver, isReceiver⟩ ⟨fee, isFee⟩
      ⟨nonce, isNonce⟩ ⟨validUntil, isValidUntil⟩ kind
    dsimp only at panics
    split at panics
    next isPayment =>
      split at panics
      · exact absurd panics (customError_ne_panic _)
      next text isAmount =>
        obtain ⟨amount, isNumber, setting⟩ :=
          Outcome.panic_behind (parseUnsigned_ne_panic _ _) panics
        refine ⟨complete (Or.inl ⟨isPayment, text, isAmount, amount,
          isNumber⟩), setMemo_eq_panic_iff.mp setting⟩
    next =>
      split at panics
      next isDelegation =>
        split at panics
        · exact absurd panics (customError_ne_panic _)
        next noAmount =>
          refine ⟨complete (Or.inr ⟨isDelegation, ?_⟩),
            setMemo_eq_panic_iff.mp panics⟩
          simpa using noAmount
      next => exact absurd panics (customError_ne_panic _)
  · rintro ⟨⟨⟨source, isSource⟩, ⟨receiver, isReceiver⟩, ⟨fee, isFee⟩,
      ⟨nonce, isNonce⟩, ⟨validUntil, isValidUntil⟩, kind⟩, overruns⟩
    refine Outcome.bind_eq_panic.mpr (Or.inr ⟨source, isSource, ?_⟩)
    refine Outcome.bind_eq_panic.mpr (Or.inr ⟨receiver, isReceiver, ?_⟩)
    refine Outcome.bind_eq_panic.mpr (Or.inr ⟨fee, isFee, ?_⟩)
    refine Outcome.bind_eq_panic.mpr (Or.inr ⟨nonce, isNonce, ?_⟩)
    refine Outcome.bind_eq_panic.mpr (Or.inr ⟨validUntil, isValidUntil, ?_⟩)
    dsimp only
    rcases kind with ⟨isPayment, text, isAmount, amount, isNumber⟩ |
      ⟨isDelegation, noAmount⟩
    · rw [if_pos isPayment, Option.mem_def.mp isAmount]
      refine Outcome.bind_eq_panic.mpr (Or.inr ⟨amount, isNumber, ?_⟩)
      exact setMemo_eq_panic_iff.mpr overruns
    · rw [isDelegation, if_neg (by decide), if_pos rfl, noAmount]
      exact setMemo_eq_panic_iff.mpr overruns

/-- The entries are read, and the memo they have overruns. -/
def Overruns (origin : Origin) (json : Json) : Prop :=
  ∃ data, TransactionData.codec.deserialize origin json = .ok data ∧
    data.Complete signer ∧ MemoOverruns data.memo

theorem codec_eq_panic_iff
    {origin : Origin}
    {json : Json} :
    (codec signer).deserialize origin json = .error .panic ↔
      Overruns signer origin json := by
  unfold Overruns
  simp only [codec, Outcome.bind_eq_panic, ofData_eq_panic_iff]
  exact or_iff_right (TransactionData.codec_panicFree origin json)

end LegacyTransaction

end Legacy

section Panics

variable (forms : TextForms) (build : Build)

/-- Only legacy transactions make the reader of a kind panic. -/
theorem TransactionKind.read_eq_panic_iff
    {name : String}
    {origin : Origin}
    {json : Json} :
    TransactionKind.read forms build name origin json = .error .panic ↔
      name = "Legacy" ∧
        LegacyTransaction.Overruns forms.signer origin json := by
  unfold TransactionKind.read
  split
  · refine iff_of_false ?_ (by simp)
    rw [Outcome.map_eq_panic]
    exact ZKAppCommand.codec_panicFree _ _ _ build origin json
  · rw [Outcome.map_eq_panic, LegacyTransaction.codec_eq_panic_iff]
    simp
  next notLegacy =>
    exact iff_of_false (fail_ne_panic .mismatch)
      fun legacy => notLegacy legacy.1

/-- The fields of an envelope. -/
def TransactionEnvelope.fields :
    Fields (NetworkId × TransactionKind build × Unit) :=
  required "networkId" NetworkId.codec <|
    required "kind" (TransactionKind.codec forms build) done

theorem NetworkId.codec_panicFree : NetworkId.codec.PanicFree := by
  apply viaString_panicFree
  intro text
  split
  · simp
  · simp
  · simp

/-- A reader of an envelope comes to a legacy transaction in its kind whose memo
overruns. -/
def TransactionEnvelope.ReachesOverrun (document : Json) : Prop :=
  ∃ kind origin json,
    (fields forms build).Reaches .parser document "kind" kind ∧
      Selects "tag" "transaction" .parser kind "Legacy" origin json ∧
        LegacyTransaction.Overruns forms.signer origin json

theorem TransactionEnvelope.probe_eq_panic_iff
    {origin : Origin}
    {name : String}
    {json : Json} :
    (fields forms build).probe origin name json = .error .panic ↔
      name = "kind" ∧
        (TransactionKind.codec forms build).deserialize origin json =
          .error .panic := by
  have noNetwork : (NetworkId.codec.deserialize origin json).map
      (fun _ => ()) ≠ .error .panic := by
    rw [Ne, Outcome.map_eq_panic]
    exact NetworkId.codec_panicFree origin json
  have noOther : done.probe origin name json ≠ .error .panic :=
    done_panicFree.probe origin name json
  simp only [fields, required, field]
  split
  next isNetwork =>
    refine iff_of_false noNetwork ?_
    rintro ⟨isKind, -⟩
    rw [isNetwork] at isKind
    exact absurd isKind (by decide)
  next =>
    split
    next isKind => rw [Outcome.map_eq_panic, and_iff_right isKind]
    next notKind => exact iff_of_false noOther fun both => notKind both.1

/-- The reader of envelopes panics exactly if it comes to a memo that
overruns. -/
theorem TransactionEnvelope.deserialize_eq_panic_iff (bytes : List UInt8) :
    deserialize forms build bytes = .error .panic ↔
      ReachesOverrun forms build (forms.json.parse bytes).value := by
  have settled : (fields forms build).Settled :=
    required_settled (by simp) (required_settled (by simp) done_settled)
  have ended : deserialize forms build bytes = .error .panic ↔
      (codec forms build).deserialize .parser
        (forms.json.parse bytes).value = .error .panic := by
    unfold deserialize fromSlice
    rw [Outcome.bind_eq_panic]
    apply or_iff_left
    rintro ⟨envelope, -, ending⟩
    split at ending
    · exact absurd ending (by simp [pure, Except.pure])
    · exact fail_ne_panic .malformed ending
  rw [ended]
  unfold ReachesOverrun
  refine (record_eq_panic_iff settled).trans ?_
  constructor
  · rintro ⟨name, kind, reaches, probing⟩
    obtain ⟨rfl, reading⟩ := (probe_eq_panic_iff forms build).mp probing
    obtain ⟨variant, origin, json, selects, panics⟩ :=
      exists_selects_of_panic reading
    obtain ⟨rfl, overruns⟩ :=
      (TransactionKind.read_eq_panic_iff forms build).mp panics
    exact ⟨kind, origin, json, reaches, selects, overruns⟩
  · rintro ⟨kind, origin, json, reaches, selects, overruns⟩
    refine ⟨"kind", kind, reaches, (probe_eq_panic_iff forms build).mpr ?_⟩
    refine ⟨rfl, panic_of_selects (by decide) selects ?_⟩
    exact (TransactionKind.read_eq_panic_iff forms build).mpr ⟨rfl, overruns⟩

end Panics

section Messages

variable {forms : TextForms} {build : Build} {hasher : Hasher}
  {bytes : List UInt8} {envelope : TransactionEnvelope build}

/-- The envelope has a message: a command is well formed, and the body prefix of
its network is a field element. -/
def TransactionEnvelope.WellFormed (envelope : TransactionEnvelope build) :
    Prop :=
  ∀ command, envelope.kind = .zkApp command →
    command.WellFormed ∧ Converts envelope.networkId.bodyPrefix

theorem TransactionKind.codec_yields :
    (TransactionKind.codec forms build).Yields fun kind =>
      ∀ command, kind = .zkApp command →
        ∀ update ∈ command.accountUpdates, update.body.Packable := by
  intro origin json kind read command isCommand
  obtain ⟨name, contentOrigin, contentJson, isRead⟩ := exists_read read
  unfold TransactionKind.read at isRead
  split at isRead
  · obtain ⟨inner, innerRead, same⟩ := map_eq_ok.mp isRead
    rw [isCommand] at same
    obtain rfl := TransactionKind.zkApp.inj same
    exact ZKAppCommand.codec_yields _ _ _ _ _ _ _ innerRead
  · obtain ⟨transaction, -, same⟩ := map_eq_ok.mp isRead
    rw [isCommand] at same
    exact absurd same (by simp)
  · exact absurd isRead (by simp [fail])

/-- All account updates of a command that is read can be packed. -/
theorem TransactionEnvelope.packable_of_deserialize
    (read : deserialize forms build bytes = .ok envelope)
    {command : ZKAppCommand build}
    (isCommand : envelope.kind = .zkApp command) :
    ∀ update ∈ command.accountUpdates, update.body.Packable := by
  have yields : (codec forms build).Yields fun envelope =>
      ∀ command, envelope.kind = .zkApp command →
        ∀ update ∈ command.accountUpdates, update.body.Packable :=
    record_yields (field_yields_rest (required_yields
      TransactionKind.codec_yields))
  exact yields _ _ _ (deserialize_of_fromSlice read) command isCommand

/-- The input of an envelope that is read, or else a panic. -/
theorem TransactionEnvelope.exists_toRoinput_iff
    (read : deserialize forms build bytes = .ok envelope) :
    (∃ input, envelope.toRoinput hasher = .ok input) ↔
      envelope.WellFormed := by
  unfold toRoinput WellFormed
  split
  next command isCommand =>
    have packable := packable_of_deserialize read isCommand
    have commits : (∃ commits,
          zkCommit hasher command envelope.networkId = .ok commits) ↔
        command.WellFormed ∧ Converts envelope.networkId.bodyPrefix :=
      exists_zkCommit_iff fun update member =>
        (packable update member).tokenSymbol
    simp only [Outcome.bind_eq_ok, Outcome.unwrap_eq_ok]
    constructor
    · rintro ⟨input, commit, committed, -⟩ other isOther
      rw [isCommand] at isOther
      obtain rfl := TransactionKind.zkApp.inj isOther
      exact commits.mp ⟨commit, committed⟩
    · intro wellFormed
      obtain ⟨commit, committed⟩ := commits.mpr (wellFormed command isCommand)
      exact ⟨_, commit, committed, rfl⟩
  next transaction isLegacy =>
    refine iff_of_true ⟨_, rfl⟩ ?_
    intro command isCommand
    rw [isLegacy] at isCommand
    exact absurd isCommand (by simp)

theorem TransactionEnvelope.exists_toPallasMessage_iff
    (read : deserialize forms build bytes = .ok envelope) :
    (∃ message, envelope.toPallasMessage hasher = .ok message) ↔
      envelope.WellFormed := by
  rw [← @exists_toRoinput_iff forms build hasher bytes envelope read]
  unfold toPallasMessage
  constructor
  · rintro ⟨message, isMessage⟩
    obtain ⟨input, isInput, -⟩ := Outcome.bind_eq_ok.mp isMessage
    exact ⟨input, isInput⟩
  · rintro ⟨input, isInput⟩
    exact ⟨_, Outcome.bind_eq_ok.mpr ⟨input, isInput, rfl⟩⟩

/-- The message is there, or making it panics: no error is returned. -/
theorem TransactionEnvelope.toPallasMessage_ne_error
    (reason : MinaTxError) :
    envelope.toPallasMessage hasher ≠ .error (.error reason) := by
  unfold toPallasMessage toRoinput
  split
  next command _ =>
    cases zkCommit hasher command envelope.networkId with
    | ok commits => simp [Outcome.unwrap, bind, Except.bind, pure, Except.pure]
    | error failure => simp [Outcome.unwrap, bind, Except.bind]
  next => simp [bind, Except.bind, pure, Except.pure]

end Messages


end Tx
end MinaMultiSig
