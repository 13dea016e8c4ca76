import MinaMultiSig.Library.SerdeReading
import MinaMultiSig.Tx.ZkApp.PackingBinding
import MinaMultiSig.Tx.ZkApp.Serde

/-!
# What is read as a zkApp command

No document makes the reader of commands panic, and every account update that is
read can be packed.
-/

namespace MinaMultiSig
namespace Tx

open Codec Fields

section Texts

theorem customError_ne_panic
    {α : Type}
    (message : String) :
    (customError message : Outcome SerdeError α) ≠ .error .panic :=
  fail_ne_panic (.custom message)

theorem parseUnsigned_ne_panic
    (bound : Nat)
    (text : String) :
    parseUnsigned bound text ≠ .error .panic := by
  unfold parseUnsigned
  split
  · simp
  · exact customError_ne_panic _

theorem stringU32_panicFree : stringU32.PanicFree := by
  apply viaString_panicFree
  intro text panics
  exact parseUnsigned_ne_panic _ text (Outcome.map_eq_panic.mp panics)

theorem stringU64_panicFree : stringU64.PanicFree := by
  apply viaString_panicFree
  intro text panics
  exact parseUnsigned_ne_panic _ text (Outcome.map_eq_panic.mp panics)

theorem sign_panicFree : sign.PanicFree := by
  apply viaString_panicFree
  intro text
  unfold deserializeSign
  split
  · simp
  · simp
  · exact customError_ne_panic _

theorem TokenSymbol.codec_panicFree : TokenSymbol.codec.PanicFree := by
  apply viaString_panicFree
  intro text
  split
  · simp
  · exact customError_ne_panic _

theorem ZkappUri.codec_panicFree : ZkappUri.codec.PanicFree :=
  viaString_panicFree fun _ => by simp

theorem AuthRequired.codec_panicFree : AuthRequired.codec.PanicFree :=
  unitVariants_panicFree

variable (signer : MinaSigner) (base58 : Base58) (fieldText : FieldText)

theorem PublicKey.codec_panicFree : (PublicKey.codec signer).PanicFree := by
  apply viaString_panicFree
  intro text
  split
  · simp
  · exact customError_ne_panic _

theorem Fp.codec_panicFree : (Fp.codec fieldText).PanicFree := by
  apply viaString_panicFree
  intro text
  split
  · simp
  · exact customError_ne_panic _

theorem base58Payload_ne_panic
    (title name : String)
    (versionByte : UInt8)
    (length : Nat)
    (text : String) :
    base58Payload base58 title name versionByte length text ≠
      .error .panic := by
  unfold base58Payload
  split
  · split
    · simp
    · exact customError_ne_panic _
  · exact customError_ne_panic _

theorem memoCodec_panicFree : (memoCodec base58).PanicFree := by
  apply viaString_panicFree
  intro text panics
  obtain ⟨decoded, -, built⟩ :=
    Outcome.panic_behind (base58Payload_ne_panic base58 _ _ _ _ text) panics
  split at built
  · exact customError_ne_panic _ built
  · split at built
    · exact absurd built (by simp [pure, Except.pure])
    · exact fail_ne_panic .mismatch built

theorem TokenId.codec_panicFree : (TokenId.codec base58).PanicFree := by
  apply viaString_panicFree
  intro text panics
  obtain ⟨decoded, -, built⟩ :=
    Outcome.panic_behind (base58Payload_ne_panic base58 _ _ _ _ text) panics
  exact absurd built (by simp [pure, Except.pure])

end Texts

section Records

variable (signer : MinaSigner) (base58 : Base58) (fieldText : FieldText)
  (build : Build)

theorem RangeCondition.codec_panicFree
    {α : Type}
    {bound : Codec α}
    (safe : bound.PanicFree) :
    (RangeCondition.codec bound).PanicFree :=
  record_panicFree
    (required_panicFree safe <|
      required_panicFree safe done_panicFree)

theorem VerificationKeyData.codec_panicFree :
    (VerificationKeyData.codec fieldText).PanicFree :=
  record_panicFree
    (required_panicFree string_panicFree <|
      required_panicFree (Fp.codec_panicFree fieldText) done_panicFree)

theorem TimingData.codec_panicFree : TimingData.codec.PanicFree :=
  record_panicFree
    (required_panicFree u64_panicFree <|
      required_panicFree u32_panicFree <|
      required_panicFree u64_panicFree <|
      required_panicFree u32_panicFree <|
      required_panicFree u64_panicFree done_panicFree)

theorem SetVerificationKey.codec_panicFree :
    SetVerificationKey.codec.PanicFree :=
  record_panicFree
    (required_panicFree AuthRequired.codec_panicFree <|
      required_panicFree stringU32_panicFree done_panicFree)

theorem Permissions.codec_panicFree : Permissions.codec.PanicFree :=
  record_panicFree
    (required_panicFree AuthRequired.codec_panicFree <|
      required_panicFree AuthRequired.codec_panicFree <|
      required_panicFree AuthRequired.codec_panicFree <|
      required_panicFree AuthRequired.codec_panicFree <|
      required_panicFree AuthRequired.codec_panicFree <|
      required_panicFree AuthRequired.codec_panicFree <|
      required_panicFree SetVerificationKey.codec_panicFree <|
      required_panicFree AuthRequired.codec_panicFree <|
      required_panicFree AuthRequired.codec_panicFree <|
      required_panicFree AuthRequired.codec_panicFree <|
      required_panicFree AuthRequired.codec_panicFree <|
      required_panicFree AuthRequired.codec_panicFree <|
      required_panicFree AuthRequired.codec_panicFree done_panicFree)

theorem Update.codec_panicFree :
    (Update.codec signer fieldText build).PanicFree :=
  record_panicFree
    (required_panicFree (vector_panicFree
        (option_panicFree (Fp.codec_panicFree fieldText))) <|
      optional_panicFree (PublicKey.codec_panicFree signer) <|
      optional_panicFree (VerificationKeyData.codec_panicFree fieldText) <|
      optional_panicFree Permissions.codec_panicFree <|
      optional_panicFree ZkappUri.codec_panicFree <|
      optional_panicFree TokenSymbol.codec_panicFree <|
      optional_panicFree TimingData.codec_panicFree <|
      optional_panicFree (Fp.codec_panicFree fieldText) done_panicFree)

theorem BalanceChange.codec_panicFree : BalanceChange.codec.PanicFree :=
  record_panicFree
    (required_panicFree stringU64_panicFree <|
      required_panicFree sign_panicFree done_panicFree)

theorem EpochLedger.codec_panicFree :
    (EpochLedger.codec fieldText).PanicFree :=
  record_panicFree
    (optional_panicFree (Fp.codec_panicFree fieldText) <|
      optional_panicFree (RangeCondition.codec_panicFree stringU64_panicFree)
        done_panicFree)

theorem EpochData.codec_panicFree : (EpochData.codec fieldText).PanicFree :=
  record_panicFree
    (required_panicFree (EpochLedger.codec_panicFree fieldText) <|
      optional_panicFree (Fp.codec_panicFree fieldText) <|
      optional_panicFree (Fp.codec_panicFree fieldText) <|
      optional_panicFree (Fp.codec_panicFree fieldText) <|
      optional_panicFree (RangeCondition.codec_panicFree stringU32_panicFree)
        done_panicFree)

theorem NetworkPreconditions.codec_panicFree :
    (NetworkPreconditions.codec fieldText).PanicFree :=
  record_panicFree
    (optional_panicFree (Fp.codec_panicFree fieldText) <|
      optional_panicFree
        (RangeCondition.codec_panicFree stringU32_panicFree) <|
      optional_panicFree
        (RangeCondition.codec_panicFree stringU32_panicFree) <|
      optional_panicFree
        (RangeCondition.codec_panicFree stringU64_panicFree) <|
      optional_panicFree
        (RangeCondition.codec_panicFree stringU32_panicFree) <|
      required_panicFree (EpochData.codec_panicFree fieldText) <|
      required_panicFree (EpochData.codec_panicFree fieldText) done_panicFree)

theorem AccountPreconditions.codec_panicFree :
    (AccountPreconditions.codec signer fieldText build).PanicFree :=
  record_panicFree
    (optional_panicFree
        (RangeCondition.codec_panicFree stringU64_panicFree) <|
      optional_panicFree
        (RangeCondition.codec_panicFree stringU32_panicFree) <|
      optional_panicFree (Fp.codec_panicFree fieldText) <|
      optional_panicFree (PublicKey.codec_panicFree signer) <|
      required_panicFree (vector_panicFree
        (option_panicFree (Fp.codec_panicFree fieldText))) <|
      optional_panicFree
        (transparent_panicFree (Fp.codec_panicFree fieldText)) <|
      optional_panicFree bool_panicFree <|
      optional_panicFree bool_panicFree done_panicFree)

theorem Preconditions.codec_panicFree :
    (Preconditions.codec signer fieldText build).PanicFree :=
  record_panicFree
    (required_panicFree (NetworkPreconditions.codec_panicFree fieldText) <|
      required_panicFree
        (AccountPreconditions.codec_panicFree signer fieldText build) <|
      optional_panicFree (RangeCondition.codec_panicFree stringU32_panicFree)
        done_panicFree)

theorem MayUseToken.codec_panicFree : MayUseToken.codec.PanicFree :=
  record_panicFree
    (required_panicFree bool_panicFree <|
      required_panicFree bool_panicFree done_panicFree)

theorem AuthorizationKind.codec_panicFree :
    (AuthorizationKind.codec fieldText).PanicFree :=
  record_panicFree
    (required_panicFree bool_panicFree <|
      required_panicFree bool_panicFree <|
      required_panicFree (Fp.codec_panicFree fieldText) done_panicFree)

theorem AccountUpdateBody.codec_panicFree :
    (AccountUpdateBody.codec signer base58 fieldText build).PanicFree :=
  have fieldLists := list_panicFree
    (list_panicFree (Fp.codec_panicFree fieldText))
  record_panicFree
    (required_panicFree (PublicKey.codec_panicFree signer) <|
      required_panicFree (TokenId.codec_panicFree base58) <|
      required_panicFree (Update.codec_panicFree signer fieldText build) <|
      required_panicFree BalanceChange.codec_panicFree <|
      required_panicFree bool_panicFree <|
      required_panicFree (transparent_panicFree fieldLists) <|
      required_panicFree (transparent_panicFree fieldLists) <|
      required_panicFree (Fp.codec_panicFree fieldText) <|
      required_panicFree u32_panicFree <|
      required_panicFree
        (Preconditions.codec_panicFree signer fieldText build) <|
      required_panicFree bool_panicFree <|
      required_panicFree bool_panicFree <|
      required_panicFree MayUseToken.codec_panicFree <|
      required_panicFree (AuthorizationKind.codec_panicFree fieldText)
        done_panicFree)

theorem Authorization.codec_panicFree : Authorization.codec.PanicFree :=
  record_panicFree
    (optional_panicFree string_panicFree <|
      optional_panicFree string_panicFree done_panicFree)

theorem AccountUpdate.codec_panicFree :
    (AccountUpdate.codec signer base58 fieldText build).PanicFree :=
  record_panicFree
    (required_panicFree
        (AccountUpdateBody.codec_panicFree signer base58 fieldText build) <|
      required_panicFree Authorization.codec_panicFree done_panicFree)

theorem FeePayer.codec_panicFree : (FeePayer.codec signer).PanicFree :=
  have body : (FeePayerBody.codec signer).PanicFree :=
    record_panicFree
      (required_panicFree (PublicKey.codec_panicFree signer) <|
        required_panicFree stringU64_panicFree <|
        required_panicFree (option_panicFree stringU32_panicFree) <|
        required_panicFree stringU32_panicFree done_panicFree)
  record_panicFree
    (required_panicFree body <|
      required_panicFree string_panicFree done_panicFree)

/-- No document makes the reader of commands panic. -/
theorem ZKAppCommand.codec_panicFree :
    (ZKAppCommand.codec signer base58 fieldText build).PanicFree :=
  record_panicFree
    (required_panicFree (FeePayer.codec_panicFree signer) <|
      required_panicFree (list_panicFree
        (AccountUpdate.codec_panicFree signer base58 fieldText build)) <|
      required_panicFree (memoCodec_panicFree base58) done_panicFree)

end Records

section Packable

variable (signer : MinaSigner) (base58 : Base58) (fieldText : FieldText)
  (build : Build)

theorem sign_yields : sign.Yields fun value => value = 1 ∨ value = -1 := by
  apply viaString_yields
  intro text value parsed
  unfold deserializeSign at parsed
  split at parsed
  · exact Or.inl (Except.ok.inj parsed).symm
  · exact Or.inr (Except.ok.inj parsed).symm
  · exact absurd parsed (by simp [customError, fail])

theorem BalanceChange.codec_yields :
    BalanceChange.codec.Yields fun change =>
      change.sgn = 1 ∨ change.sgn = -1 :=
  record_yields (field_yields_rest (required_yields sign_yields))

theorem TokenSymbol.codec_yields :
    TokenSymbol.codec.Yields fun symbol => symbol.bytes.length ≤ 6 := by
  apply viaString_yields
  intro text symbol parsed
  unfold TokenSymbol.fromStr at parsed
  split at parsed
  next isSymbol =>
    obtain rfl := Except.ok.inj parsed
    split at isSymbol
    next short =>
      obtain rfl := Except.ok.inj isSymbol
      rw [length_asBytes]
      exact short
    next => exact absurd isSymbol (by simp)
  next => exact absurd parsed (by simp [customError, fail])

theorem Update.codec_yields :
    (Update.codec signer fieldText build).Yields fun update =>
      ∀ symbol ∈ update.tokenSymbol, symbol.bytes.length ≤ 6 :=
  record_yields
    (field_yields_rest <| field_yields_rest <| field_yields_rest <|
      field_yields_rest <| field_yields_rest <|
        optional_yields TokenSymbol.codec_yields)

/-- The body of an account update that is read can be packed. -/
theorem AccountUpdateBody.codec_yields :
    (AccountUpdateBody.codec signer base58 fieldText build).Yields
      AccountUpdateBody.Packable := by
  have symbol : (AccountUpdateBody.codec signer base58 fieldText build).Yields
      fun body => ∀ symbol ∈ body.update.tokenSymbol,
        symbol.bytes.length ≤ 6 :=
    record_yields
      (field_yields_rest <| field_yields_rest <|
        required_yields (Update.codec_yields signer fieldText build))
  have sgn : (AccountUpdateBody.codec signer base58 fieldText build).Yields
      fun body => body.balanceChange.sgn = 1 ∨ body.balanceChange.sgn = -1 :=
    record_yields
      (field_yields_rest <| field_yields_rest <| field_yields_rest <|
        required_yields BalanceChange.codec_yields)
  intro origin json body read
  exact ⟨sgn origin json body read, symbol origin json body read⟩

/-- All account updates of a command that is read can be packed. -/
theorem ZKAppCommand.codec_yields :
    (ZKAppCommand.codec signer base58 fieldText build).Yields fun command =>
      ∀ update ∈ command.accountUpdates, update.body.Packable :=
  have update : (AccountUpdate.codec signer base58 fieldText build).Yields
      fun update => update.body.Packable :=
    record_yields (required_yields
      (AccountUpdateBody.codec_yields signer base58 fieldText build))
  record_yields (field_yields_rest (required_yields (list_yields update)))

end Packable

end Tx
end MinaMultiSig
