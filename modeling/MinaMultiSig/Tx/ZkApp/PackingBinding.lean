import Mathlib.Data.List.DropRight
import MinaMultiSig.Tx.ZkApp.PackingLayout

/-!
# The packed fields of an account update bind its body

Every part of a body is packed with one layout, whatever optional parts are
present, and its content determines the part. Events, actions and the zkApp URI
are packed as one hash each, and two token symbols that differ only in zero
bytes behind them are packed alike.
-/

namespace MinaMultiSig
namespace Tx

open Packing (Binds)

section Basic

theorem PublicKey.pack_binds (first second : PublicKey) :
    Binds (PublicKey.pack first) (PublicKey.pack second) (first = second) := by
  refine Binds.new.appendField.appendBool.mono ?_
  rintro ⟨⟨-, x⟩, isOdd⟩
  exact CompressedPubKey.ext x isOdd

theorem Field.pack_binds (first second : Fp) :
    Binds (Field.pack first) (Field.pack second) (first = second) :=
  Binds.new.appendField.mono And.right

theorem ActionState.pack_binds (first second : ActionState) :
    Binds first.pack second.pack (first = second) :=
  Binds.new.appendField.mono fun ⟨_, field⟩ => ActionState.ext field

theorem RangeCondition.packU32_binds (first second : RangeCondition UInt32) :
    Binds first.packU32 second.packU32 (first = second) := by
  refine Binds.new.appendU32.appendU32.mono ?_
  rintro ⟨⟨-, lower⟩, upper⟩
  exact RangeCondition.ext lower upper

theorem RangeCondition.packU64_binds (first second : RangeCondition UInt64) :
    Binds first.packU64 second.packU64 (first = second) := by
  refine Binds.new.appendU64.appendU64.mono ?_
  rintro ⟨⟨-, lower⟩, upper⟩
  exact RangeCondition.ext lower upper

theorem packOptionBool_binds (first second : Option Bool) :
    Binds (packOptionBool first) (packOptionBool second) (first = second) := by
  cases first with
  | none =>
      cases second with
      | none => exact Binds.new.appendBool.appendBool.mono fun _ => rfl
      | some right =>
          exact Binds.new.appendBool.appendBool.mono
            fun ⟨⟨_, flags⟩, _⟩ => absurd flags (by decide)
  | some left =>
      cases second with
      | none =>
          exact Binds.new.appendBool.appendBool.mono
            fun ⟨⟨_, flags⟩, _⟩ => absurd flags (by decide)
      | some right =>
          exact Binds.new.appendBool.appendBool.mono
            fun ⟨_, same⟩ => congrArg some same

theorem TimingData.pack_binds (first second : TimingData) :
    Binds first.pack second.pack (first = second) := by
  refine
    Binds.new.appendU64.appendU32.appendU64.appendU32.appendU64.mono ?_
  rintro ⟨⟨⟨⟨⟨-, minimum⟩, cliffTime⟩, cliffAmount⟩, period⟩, increment⟩
  exact TimingData.ext minimum cliffTime cliffAmount period increment

/-- The three bits of a permission tell the permissions apart. -/
theorem AuthRequired.encode_inj
    {first second : AuthRequired}
    (same : first.encode = second.encode) :
    first = second := by
  cases first <;> cases second <;> first | rfl | exact absurd same (by decide)

theorem AuthRequired.pack_binds (first second : AuthRequired) :
    Binds first.pack second.pack (first = second) := by
  refine Binds.new.appendBool.appendBool.appendBool.mono ?_
  rintro ⟨⟨⟨-, constant⟩, necessary⟩, sufficient⟩
  exact encode_inj (AuthRequiredEncoded.ext constant necessary sufficient)

theorem SetVerificationKey.pack_binds (first second : SetVerificationKey) :
    Binds first.pack second.pack (first = second) := by
  refine ((Binds.new.appendPackedinput
    (AuthRequired.pack_binds first.auth second.auth)).appendU32).mono ?_
  rintro ⟨⟨-, auth⟩, txnVersion⟩
  exact SetVerificationKey.ext auth txnVersion

/-- Of a verification key only the hash is bound. -/
theorem VerificationKeyData.pack_binds (first second : VerificationKeyData) :
    Binds first.pack second.pack (first.hash = second.hash) :=
  Binds.new.appendField.mono And.right

/-- A sign other than `1` and `-1` is packed as `-1`. -/
theorem BalanceChange.pack_binds
    {first second : BalanceChange}
    (firstSign : first.sgn = 1 ∨ first.sgn = -1)
    (secondSign : second.sgn = 1 ∨ second.sgn = -1) :
    Binds first.pack second.pack (first = second) := by
  refine Binds.new.appendU64.appendBool.mono ?_
  rintro ⟨⟨-, magnitude⟩, signs⟩
  have positive : first.sgn = 1 ↔ second.sgn = 1 := decide_eq_decide.mp signs
  refine BalanceChange.ext magnitude ?_
  rcases firstSign with firstPositive | firstNegative
  · rw [firstPositive, positive.mp firstPositive]
  · rcases secondSign with secondPositive | secondNegative
    · rw [secondPositive, positive.mpr secondPositive]
    · rw [firstNegative, secondNegative]

theorem MayUseToken.pack_binds (first second : MayUseToken) :
    Binds first.pack second.pack (first = second) := by
  refine Binds.new.appendBool.appendBool.mono ?_
  rintro ⟨⟨-, parents⟩, inherit⟩
  exact MayUseToken.ext parents inherit

theorem AuthorizationKind.pack_binds (first second : AuthorizationKind) :
    Binds first.pack second.pack (first = second) := by
  refine Binds.new.appendBool.appendBool.appendField.mono ?_
  rintro ⟨⟨⟨-, isSigned⟩, isProved⟩, verificationKeyHash⟩
  exact AuthorizationKind.ext isSigned isProved verificationKeyHash

theorem Permissions.pack_binds (first second : Permissions) :
    Binds first.pack second.pack (first = second) := by
  refine (Binds.new
    |>.appendPackedinput (AuthRequired.pack_binds _ _)
    |>.appendPackedinput (AuthRequired.pack_binds _ _)
    |>.appendPackedinput (AuthRequired.pack_binds _ _)
    |>.appendPackedinput (AuthRequired.pack_binds _ _)
    |>.appendPackedinput (AuthRequired.pack_binds _ _)
    |>.appendPackedinput (AuthRequired.pack_binds _ _)
    |>.appendPackedinput (SetVerificationKey.pack_binds _ _)
    |>.appendPackedinput (AuthRequired.pack_binds _ _)
    |>.appendPackedinput (AuthRequired.pack_binds _ _)
    |>.appendPackedinput (AuthRequired.pack_binds _ _)
    |>.appendPackedinput (AuthRequired.pack_binds _ _)
    |>.appendPackedinput (AuthRequired.pack_binds _ _)
    |>.appendPackedinput (AuthRequired.pack_binds _ _)).mono ?_
  rintro ⟨⟨⟨⟨⟨⟨⟨⟨⟨⟨⟨⟨⟨-, editState⟩, access⟩, send⟩, receive⟩, setDelegate⟩,
    setPermissions⟩, setVerificationKey⟩, setZkappUri⟩, editActionState⟩,
    setTokenSymbol⟩, incrementNonce⟩, setVotingFor⟩, setTiming⟩
  exact Permissions.ext editState access send receive setDelegate
    setPermissions setVerificationKey setZkappUri editActionState
    setTokenSymbol incrementNonce setVotingFor setTiming

end Basic

section TokenSymbols

/-- A token symbol without the zero bytes at its end. -/
def TokenSymbol.trimmed (symbol : TokenSymbol) : List UInt8 :=
  symbol.bytes.rdropWhile (· = 0)

/-- Zero bytes at the end are dropped. -/
theorem rdropWhile_append_zeros
    (bytes : List UInt8)
    (count : Nat) :
    (bytes ++ List.replicate count 0).rdropWhile (· = 0) =
      bytes.rdropWhile (· = 0) := by
  induction count with
  | zero => rw [List.replicate_zero, List.append_nil]
  | succ count ih =>
      rw [List.replicate_succ', ← List.append_assoc,
        List.rdropWhile_concat_pos _ _ _ (by decide), ih]

theorem TokenSymbol.toBytes_eq
    {symbol : TokenSymbol}
    (short : symbol.bytes.length ≤ 6) :
    symbol.toBytes = some
      (symbol.bytes ++ List.replicate (6 - symbol.bytes.length) 0) := by
  rw [toBytes]
  split_ifs with empty
  · rw [List.isEmpty_iff.mp empty]
    rfl
  · rw [List.take_of_length_le short]

theorem TokenSymbol.pack_binds
    {first second : TokenSymbol}
    (firstShort : first.bytes.length ≤ 6)
    (secondShort : second.bytes.length ≤ 6) :
    Binds first.pack second.pack (first.trimmed = second.trimmed) := by
  rw [pack, pack, toBytes_eq firstShort, toBytes_eq secondShort]
  have six : ∀ {symbol : TokenSymbol}, symbol.bytes.length ≤ 6 →
      (symbol.bytes ++ List.replicate (6 - symbol.bytes.length) 0).length =
        6 := by
    intro symbol short
    rw [List.length_append, List.length_replicate]
    omega
  have binds := Binds.new.appendBytes
    ((six firstShort).trans (six secondShort).symm)
    (by rw [six firstShort]; decide)
  refine binds.mono fun ⟨_, padded⟩ => ?_
  have dropped := congrArg (List.rdropWhile (· = 0)) padded
  rwa [rdropWhile_append_zeros, rdropWhile_append_zeros] at dropped

end TokenSymbols

section Hashed

variable (hasher : Hasher)

/-- The parameters of the hashes inside a packing. -/
def packingParams : List String :=
  [zkAppEventsEmpty, zkAppEventsPrefix, zkAppEventPrefix, zkAppActionsEmpty,
    zkAppActionsPrefix, zkActionStateEmpty, minaZkappUri]

theorem packingParams_valid
    {param : String}
    (isParam : param ∈ packingParams) :
    ∃ field, paramToField param = .ok field := by
  have valid : ∀ param ∈ packingParams,
      (paramToField param).toOption.isSome := by
    decide +kernel
  cases result : paramToField param with
  | error message => simpa [result, Except.toOption] using valid param isParam
  | ok field => exact ⟨field, rfl⟩

theorem hashNoinput_isSome
    {param : String}
    (isParam : param ∈ packingParams) :
    (hashNoinput hasher param).toOption.isSome := by
  obtain ⟨field, fieldEq⟩ := packingParams_valid isParam
  rw [hashNoinput, fieldEq]
  rfl

theorem hashWithPrefix_isSome
    {param : String}
    (isParam : param ∈ packingParams)
    (data : List Fp) :
    (hashWithPrefix hasher param data).toOption.isSome := by
  obtain ⟨field, fieldEq⟩ := packingParams_valid isParam
  rw [hashWithPrefix, fieldEq]
  rfl

theorem hashEventList_isSome
    {emptyParam param : String}
    (emptyIsParam : emptyParam ∈ packingParams)
    (isParam : param ∈ packingParams)
    (data : List (List Fp)) :
    (hashEventList hasher emptyParam param data).isSome := by
  obtain ⟨init, initEq⟩ := Option.isSome_iff_exists.mp
    (hashNoinput_isSome hasher emptyIsParam)
  rw [hashEventList, initEq, Option.bind_some]
  induction data with
  | nil => rfl
  | cons event rest ih =>
      obtain ⟨acc, accEq⟩ := Option.isSome_iff_exists.mp ih
      have eventSome := hashWithPrefix_isSome hasher
        (show zkAppEventPrefix ∈ packingParams by simp [packingParams]) event
      obtain ⟨eventHash, eventEq⟩ := Option.isSome_iff_exists.mp eventSome
      rw [List.foldr_cons, accEq, Option.bind_some, eventEq, Option.bind_some]
      exact hashWithPrefix_isSome hasher isParam _

theorem ZkappUri.hash_isSome (uri : ZkappUri) :
    (uri.hash hasher).isSome := by
  have small : PackedInput.Small
      { bits := uri.bits.map BitData.bool, fields := [] } := by
    intro bitData member
    obtain ⟨bit, -, rfl⟩ := List.mem_map.mp member
    simp [BitData.bitDataSize]
  rw [hash, PackedInput.packToFields_eq small, Option.bind_some]
  exact hashWithPrefix_isSome hasher (by simp [packingParams]) _

/-- A part packed as one hash is bound through the hash. -/
theorem hash_binds
    {first second : Option Fp}
    (firstSome : first.isSome)
    (secondSome : second.isSome) :
    Binds (first.bind fun hash => Packing.new.appendField hash)
      (second.bind fun hash => Packing.new.appendField hash)
      ((first.bind fun hash => Packing.new.appendField hash) =
        second.bind fun hash => Packing.new.appendField hash) := by
  obtain ⟨firstHash, rfl⟩ := Option.isSome_iff_exists.mp firstSome
  obtain ⟨secondHash, rfl⟩ := Option.isSome_iff_exists.mp secondSome
  refine Binds.new.appendField.mono fun ⟨_, same⟩ => ?_
  rw [same]

theorem Events.pack_binds (first second : Events) :
    Binds (first.pack hasher) (second.pack hasher)
      (first.pack hasher = second.pack hasher) := by
  have hashed : ∀ events : Events, (hashEventList hasher zkAppEventsEmpty
      zkAppEventsPrefix events.data).isSome := fun events =>
    hashEventList_isSome hasher (by simp [packingParams])
      (by simp [packingParams]) events.data
  exact hash_binds (hashed first) (hashed second)

theorem Actions.pack_binds (first second : Actions) :
    Binds (first.pack hasher) (second.pack hasher)
      (first.pack hasher = second.pack hasher) := by
  have hashed : ∀ actions : Actions, (hashEventList hasher zkAppActionsEmpty
      zkAppActionsPrefix actions.data).isSome := fun actions =>
    hashEventList_isSome hasher (by simp [packingParams])
      (by simp [packingParams]) actions.data
  exact hash_binds (hashed first) (hashed second)

theorem ZkappUri.pack_binds (first second : Option ZkappUri) :
    Binds
      (Packing.ofOption (ZkappUri.pack hasher) (ZkappUri.emptyRoi hasher) first)
      (Packing.ofOption (ZkappUri.pack hasher) (ZkappUri.emptyRoi hasher)
        second)
      (first.map (ZkappUri.pack hasher) =
        second.map (ZkappUri.pack hasher)) := by
  have emptySome := hashWithPrefix_isSome hasher
    (show minaZkappUri ∈ packingParams by simp [packingParams])
    ((ROInput.new.appendField 0).appendField 0).toFields
  have shape : ∀ uri : ZkappUri,
      Binds (uri.pack hasher) (emptyRoi hasher) True := fun uri =>
    (hash_binds (uri.hash_isSome hasher) emptySome).mono fun _ => trivial
  refine Binds.ofOption (fun left _ right _ => ?_) (fun left _ => shape left)
    (fun right _ => shape right) ?_
  · exact hash_binds (left.hash_isSome hasher) (right.hash_isSome hasher)
  · exact (hash_binds emptySome emptySome).refl_layout

theorem ActionState.option_binds (first second : Option ActionState) :
    Binds (Packing.ofOption ActionState.pack (emptyRoi hasher) first)
      (Packing.ofOption ActionState.pack (emptyRoi hasher) second)
      (first = second) := by
  obtain ⟨field, fieldEq⟩ := Option.isSome_iff_exists.mp
    (hashNoinput_isSome hasher
      (show zkActionStateEmpty ∈ packingParams by simp [packingParams]))
  have empty : emptyRoi hasher = ActionState.pack ⟨field⟩ := by
    rw [emptyRoi, fieldEq]
    rfl
  rw [empty]
  exact Binds.ofOption_eq pack_binds ⟨field⟩

end Hashed

section Composite

variable {build : Build} (hasher : Hasher)

/-- Updates that agree on everything but the verification key data; token
symbols agree up to zero bytes at the end and URIs up to their hash. -/
structure SameUpdate (first second : Update build) : Prop where
  appState : first.appState = second.appState
  delegate : first.delegate = second.delegate
  verificationKey : first.verificationKey.map VerificationKeyData.hash =
    second.verificationKey.map VerificationKeyData.hash
  permissions : first.permissions = second.permissions
  zkappUri : first.zkappUri.map (ZkappUri.pack hasher) =
    second.zkappUri.map (ZkappUri.pack hasher)
  tokenSymbol : first.tokenSymbol.map TokenSymbol.trimmed =
    second.tokenSymbol.map TokenSymbol.trimmed
  timing : first.timing = second.timing
  votingFor : first.votingFor = second.votingFor

/-- Bodies that agree on everything but the call depth and the verification key
data; events and actions agree up to the hash they are packed to. -/
structure SameBody (first second : AccountUpdateBody build) : Prop where
  publicKey : first.publicKey = second.publicKey
  tokenId : first.tokenId = second.tokenId
  update : SameUpdate hasher first.update second.update
  balanceChange : first.balanceChange = second.balanceChange
  incrementNonce : first.incrementNonce = second.incrementNonce
  events : first.events.pack hasher = second.events.pack hasher
  actions : first.actions.pack hasher = second.actions.pack hasher
  callData : first.callData = second.callData
  preconditions : first.preconditions = second.preconditions
  useFullCommitment : first.useFullCommitment = second.useFullCommitment
  implicitAccountCreationFee : first.implicitAccountCreationFee =
    second.implicitAccountCreationFee
  mayUseToken : first.mayUseToken = second.mayUseToken
  authorizationKind : first.authorizationKind = second.authorizationKind

/-- A sign of `1` or `-1` and a token symbol of at most six bytes, as every
body read from JSON has them. -/
structure AccountUpdateBody.Packable (body : AccountUpdateBody build) :
    Prop where
  sgn : body.balanceChange.sgn = 1 ∨ body.balanceChange.sgn = -1
  tokenSymbol : ∀ symbol ∈ body.update.tokenSymbol, symbol.bytes.length ≤ 6

/-- The elements of an application state, each with its flag. -/
theorem appState_binds
    {length : Nat}
    (first second : Vector (Option Fp) length) :
    Binds
      (Packing.ofList (Packing.ofOption Field.pack Field.emptyRoi)
        first.toList)
      (Packing.ofList (Packing.ofOption Field.pack Field.emptyRoi)
        second.toList)
      (first = second) := by
  have lengths : first.toList.length = second.toList.length := by
    rw [Vector.length_toList, Vector.length_toList]
  exact (Binds.ofList (fun _ _ => Binds.ofOption_eq Field.pack_binds 0)
    lengths).mono Vector.toList_inj.mp

theorem TokenSymbol.option_binds
    {first second : Option TokenSymbol}
    (firstShort : ∀ symbol ∈ first, symbol.bytes.length ≤ 6)
    (secondShort : ∀ symbol ∈ second, symbol.bytes.length ≤ 6) :
    Binds (Packing.ofOption pack emptyRoi first)
      (Packing.ofOption pack emptyRoi second)
      (first.map trimmed = second.map trimmed) := by
  have emptyShort : (TokenSymbol.mk []).bytes.length ≤ 6 := by decide
  have empty : emptyRoi = TokenSymbol.pack ⟨[]⟩ := by decide
  rw [empty]
  refine Binds.ofOption
    (fun left isFirst right isSecond =>
      pack_binds (firstShort left isFirst) (secondShort right isSecond))
    (fun left isFirst => ?_) (fun right isSecond => ?_)
    (pack_binds emptyShort emptyShort).refl_layout
  · exact (pack_binds (firstShort left isFirst) emptyShort).mono
      fun _ => trivial
  · exact (pack_binds (secondShort right isSecond) emptyShort).mono
      fun _ => trivial

theorem Update.pack_binds
    {first second : Update build}
    (firstShort : ∀ symbol ∈ first.tokenSymbol, symbol.bytes.length ≤ 6)
    (secondShort : ∀ symbol ∈ second.tokenSymbol, symbol.bytes.length ≤ 6) :
    Binds (first.pack hasher) (second.pack hasher)
      (SameUpdate hasher first second) := by
  refine (Binds.new
    |>.appendPackedinput (appState_binds _ _)
    |>.appendPackedinput (Binds.ofOption_eq PublicKey.pack_binds .empty)
    |>.appendPackedinput (Binds.ofOption_default
      VerificationKeyData.pack_binds { data := "", hash := 0 })
    |>.appendPackedinput (Binds.ofOption_eq Permissions.pack_binds _)
    |>.appendPackedinput (ZkappUri.pack_binds hasher _ _)
    |>.appendPackedinput (TokenSymbol.option_binds firstShort secondShort)
    |>.appendPackedinput (Binds.ofOption_eq TimingData.pack_binds _)
    |>.appendPackedinput (Binds.ofOption_eq Field.pack_binds 0)).mono ?_
  rintro ⟨⟨⟨⟨⟨⟨⟨⟨-, appState⟩, delegate⟩, verificationKey⟩, permissions⟩,
    zkappUri⟩, tokenSymbol⟩, timing⟩, votingFor⟩
  exact ⟨appState, delegate, verificationKey, permissions, zkappUri,
    tokenSymbol, timing, votingFor⟩

theorem EpochLedger.pack_binds (first second : EpochLedger) :
    Binds first.pack second.pack (first = second) := by
  refine (Binds.new
    |>.appendPackedinput (Binds.ofOption_eq Field.pack_binds 0)
    |>.appendPackedinput
      (Binds.ofOption_eq RangeCondition.packU64_binds _)).mono ?_
  rintro ⟨⟨-, hash⟩, totalCurrency⟩
  exact EpochLedger.ext hash totalCurrency

theorem EpochData.pack_binds (first second : EpochData) :
    Binds first.pack second.pack (first = second) := by
  refine (Binds.new
    |>.appendPackedinput (EpochLedger.pack_binds _ _)
    |>.appendPackedinput (Binds.ofOption_eq Field.pack_binds 0)
    |>.appendPackedinput (Binds.ofOption_eq Field.pack_binds 0)
    |>.appendPackedinput (Binds.ofOption_eq Field.pack_binds 0)
    |>.appendPackedinput
      (Binds.ofOption_eq RangeCondition.packU32_binds _)).mono ?_
  rintro ⟨⟨⟨⟨⟨-, ledger⟩, seed⟩, startCheckpoint⟩, lockCheckpoint⟩, length⟩
  exact EpochData.ext ledger seed startCheckpoint lockCheckpoint length

theorem NetworkPreconditions.pack_binds
    (first second : NetworkPreconditions) :
    Binds first.pack second.pack (first = second) := by
  refine (Binds.new
    |>.appendPackedinput (Binds.ofOption_eq Field.pack_binds 0)
    |>.appendPackedinput (Binds.ofOption_eq RangeCondition.packU32_binds _)
    |>.appendPackedinput (Binds.ofOption_eq RangeCondition.packU32_binds _)
    |>.appendPackedinput (Binds.ofOption_eq RangeCondition.packU64_binds _)
    |>.appendPackedinput (Binds.ofOption_eq RangeCondition.packU32_binds _)
    |>.appendPackedinput (EpochData.pack_binds _ _)
    |>.appendPackedinput (EpochData.pack_binds _ _)).mono ?_
  rintro ⟨⟨⟨⟨⟨⟨⟨-, ledgerHash⟩, blockchainLength⟩, density⟩, currency⟩, slot⟩,
    staking⟩, next⟩
  exact NetworkPreconditions.ext ledgerHash blockchainLength density currency
    slot staking next

theorem AccountPreconditions.pack_binds
    (first second : AccountPreconditions build) :
    Binds (first.pack hasher) (second.pack hasher) (first = second) := by
  refine (Binds.new
    |>.appendPackedinput (Binds.ofOption_eq RangeCondition.packU64_binds _)
    |>.appendPackedinput (Binds.ofOption_eq RangeCondition.packU32_binds _)
    |>.appendPackedinput (Binds.ofOption_eq Field.pack_binds 0)
    |>.appendPackedinput (Binds.ofOption_eq PublicKey.pack_binds .empty)
    |>.appendPackedinput (appState_binds _ _)
    |>.appendPackedinput (ActionState.option_binds hasher _ _)
    |>.appendPackedinput (packOptionBool_binds _ _)
    |>.appendPackedinput (packOptionBool_binds _ _)).mono ?_
  rintro ⟨⟨⟨⟨⟨⟨⟨⟨-, balance⟩, nonce⟩, receipt⟩, delegate⟩, state⟩,
    actionState⟩, provedState⟩, isNew⟩
  exact AccountPreconditions.ext balance nonce receipt delegate state
    actionState provedState isNew

theorem Preconditions.pack_binds (first second : Preconditions build) :
    Binds (first.pack hasher) (second.pack hasher) (first = second) := by
  refine (Binds.new
    |>.appendPackedinput (NetworkPreconditions.pack_binds _ _)
    |>.appendPackedinput (AccountPreconditions.pack_binds hasher _ _)
    |>.appendPackedinput
      (Binds.ofOption_eq RangeCondition.packU32_binds _)).mono ?_
  rintro ⟨⟨⟨-, network⟩, account⟩, validWhile⟩
  exact Preconditions.ext network account validWhile

theorem AccountUpdateBody.pack_binds
    {first second : AccountUpdateBody build}
    (firstPackable : first.Packable)
    (secondPackable : second.Packable) :
    Binds (first.pack hasher) (second.pack hasher)
      (SameBody hasher first second) := by
  refine (Binds.new
    |>.appendPackedinput (PublicKey.pack_binds _ _)
    |>.appendField
    |>.appendPackedinput (Update.pack_binds hasher
      firstPackable.tokenSymbol secondPackable.tokenSymbol)
    |>.appendPackedinput
      (BalanceChange.pack_binds firstPackable.sgn secondPackable.sgn)
    |>.appendBool
    |>.appendPackedinput (Events.pack_binds hasher _ _)
    |>.appendPackedinput (Actions.pack_binds hasher _ _)
    |>.appendField
    |>.appendPackedinput (Preconditions.pack_binds hasher _ _)
    |>.appendBool
    |>.appendBool
    |>.appendPackedinput (MayUseToken.pack_binds _ _)
    |>.appendPackedinput (AuthorizationKind.pack_binds _ _)).mono ?_
  rintro ⟨⟨⟨⟨⟨⟨⟨⟨⟨⟨⟨⟨⟨-, publicKey⟩, tokenId⟩, update⟩, balanceChange⟩,
    incrementNonce⟩, events⟩, actions⟩, callData⟩, preconditions⟩,
    useFullCommitment⟩, accountCreationFee⟩, mayUseToken⟩, authorizationKind⟩
  exact ⟨publicKey, TokenId.ext tokenId, update, balanceChange,
    incrementNonce, events, actions, callData, preconditions,
    useFullCommitment, accountCreationFee, mayUseToken, authorizationKind⟩

/-- Two bodies are packed with one layout, whatever optional parts they have,
and equal packed field elements make them agree on everything but the call
depth and the verification key data. -/
theorem packedFields_bind_body
    {first second : AccountUpdateBody build}
    (firstPackable : first.Packable)
    (secondPackable : second.Packable) :
    ∃ left right, first.pack hasher = some left ∧
      second.pack hasher = some right ∧
        left.fields.length = right.fields.length ∧
          left.bits.map BitData.bitDataSize =
            right.bits.map BitData.bitDataSize ∧
              left.packToFields.isSome ∧ right.packToFields.isSome ∧
                (left.packToFields = right.packToFields →
                  SameBody hasher first second) := by
  obtain ⟨left, right, leftEq, rightEq, layout, leftSome, rightSome, agreed⟩ :=
    (AccountUpdateBody.pack_binds hasher firstPackable
      secondPackable).packToFields
  exact ⟨left, right, leftEq, rightEq, layout.fields, layout.sizes, leftSome,
    rightSome, agreed⟩

/-- A polynomial in place of the sponge. -/
def Hasher.polynomial : Hasher where
  hashParameter := fun param => param + 1
  hashParameterData := fun param data =>
    data.foldl (fun state field => state * 5 + field + 1) param

/-- A body that only sets a token symbol, at a call depth. -/
def symbolBody (symbol : List UInt8) (callDepth : UInt32) :
    AccountUpdateBody .preMesa :=
  { AccountUpdateBody.default .preMesa with
    callDepth := callDepth
    update := { Update.default .preMesa with tokenSymbol := some ⟨symbol⟩ } }

/-- Two symbols that differ in a zero byte, at two call depths. -/
theorem packedFields_bind_body_symbols :
    symbolBody [77, 0] 0 ≠ symbolBody [77] 3 ∧
      SameBody Hasher.polynomial (symbolBody [77, 0] 0)
        (symbolBody [77] 3) := by
  have firstPackable : (symbolBody [77, 0] 0).Packable :=
    ⟨by decide, by decide⟩
  have secondPackable : (symbolBody [77] 3).Packable :=
    ⟨by decide, by decide⟩
  obtain ⟨left, right, leftEq, rightEq, -, -, -, -, agreed⟩ :=
    packedFields_bind_body Hasher.polynomial firstPackable secondPackable
  have same : some left = some right := by
    rw [← leftEq, ← rightEq]
    rfl
  exact ⟨by decide,
    agreed (congrArg PackedInput.packToFields (Option.some.inj same))⟩

end Composite

end Tx
end MinaMultiSig
