import MinaMultiSig.Tx.ZkApp.Types

/-!
# Injecting signatures into zkApp commands

`mina-tx/src/transactions/zkapp_tx/signature_injection.rs`: the signature of a
group is written to the fee payer and to the signed account updates of the
group key that use the full commitment.
-/

namespace MinaMultiSig
namespace Tx

/-- Possible issues that do not stop an injection. -/
inductive SignatureInjectionWarning
  | feePayerKeyMismatch (expected found : String)
  | partialCommitmentSkipped (index : Nat) (publicKey : String)
  | signatureOverwritten (index : Nat) (publicKey : String)
  | feePayerSignatureOverwritten
  deriving DecidableEq

/-- What was injected, and what was not as expected. -/
structure SignatureInjectionResult where
  accountUpdatesInjected : Nat
  feePayerInjected : Bool
  warnings : List SignatureInjectionWarning
  deriving DecidableEq

namespace ZKAppCommand

variable {build : Build} (signer : MinaSigner) (base58 : Base58)

/-- Write the signature to the fee payer if the key is the group key. -/
def injectFeePayerSignature
    (command : ZKAppCommand build)
    (groupPublicKey : signer.PubKey)
    (sigBase58 : String)
    (warnings : List SignatureInjectionWarning) :
    ZKAppCommand build × List SignatureInjectionWarning × Bool :=
  let feePayerPk := command.feePayer.body.publicKey
  let groupCompressed := signer.intoCompressed groupPublicKey
  if feePayerPk ≠ groupCompressed then
    (command,
      warnings ++ [.feePayerKeyMismatch (signer.intoAddress groupCompressed)
        (signer.intoAddress feePayerPk)],
      false)
  else
    ({ command with
        feePayer := { command.feePayer with authorization := sigBase58 } },
      if command.feePayer.authorization.isEmpty then warnings
      else warnings ++ [.feePayerSignatureOverwritten],
      true)

/-- An update is for a key if it is signed and has the key. -/
def shouldInjectSignature
    (update : AccountUpdate build)
    (groupPublicKey : CompressedPubKey) : Bool :=
  update.body.authorizationKind.isSigned &&
    decide (update.body.publicKey = groupPublicKey)

/-- The loop over the account updates from an index on. -/
def injectUpdatesFrom
    (groupCompressed : CompressedPubKey)
    (sigBase58 : String)
    (index : Nat) :
    List (AccountUpdate build) → List SignatureInjectionWarning → Nat →
      List (AccountUpdate build) × List SignatureInjectionWarning × Nat
  | [], warnings, injectedCount => ([], warnings, injectedCount)
  | update :: rest, warnings, injectedCount =>
      let publicKey := signer.intoAddress update.body.publicKey
      let (update, warnings, injectedCount) :=
        if shouldInjectSignature update groupCompressed then
          if !update.body.useFullCommitment then
            (update, warnings ++ [.partialCommitmentSkipped index publicKey],
              injectedCount)
          else
            let warnings :=
              match update.authorization.signature with
              | some existingSig =>
                  if existingSig.isEmpty then warnings
                  else warnings ++ [.signatureOverwritten index publicKey]
              | none => warnings
            ({ update with
                authorization :=
                  { update.authorization with signature := some sigBase58 } },
              warnings, injectedCount + 1)
        else (update, warnings, injectedCount)
      let (rest, warnings, injectedCount) :=
        injectUpdatesFrom groupCompressed sigBase58 (index + 1) rest warnings
          injectedCount
      (update :: rest, warnings, injectedCount)

/-- Write the signature to the qualifying account updates. -/
def injectAccountUpdateSignatures
    (command : ZKAppCommand build)
    (groupPublicKey : signer.PubKey)
    (sigBase58 : String)
    (warnings : List SignatureInjectionWarning) :
    ZKAppCommand build × List SignatureInjectionWarning × Nat :=
  let (accountUpdates, warnings, injectedCount) :=
    injectUpdatesFrom signer (signer.intoCompressed groupPublicKey) sigBase58 0
      command.accountUpdates warnings 0
  ({ command with accountUpdates := accountUpdates }, warnings, injectedCount)

/-- Inject a signature into the fee payer and the account updates. -/
def injectSignature
    (command : ZKAppCommand build)
    (groupPublicKey : signer.PubKey)
    (signature : Sig) : ZKAppCommand build × SignatureInjectionResult :=
  let sigBase58 := signature.toBase58 base58
  let (command, warnings, feePayerInjected) :=
    injectFeePayerSignature signer command groupPublicKey sigBase58 []
  let (command, warnings, accountUpdatesInjected) :=
    injectAccountUpdateSignatures signer command groupPublicKey sigBase58
      warnings
  (command,
    { accountUpdatesInjected := accountUpdatesInjected
      feePayerInjected := feePayerInjected
      warnings := warnings })

end ZKAppCommand

section Effect

variable {build : Build}

/-- What an injection does to a fee payer. -/
def FeePayer.inject
    (key : CompressedPubKey)
    (text : String)
    (feePayer : FeePayer) : FeePayer :=
  if feePayer.body.publicKey = key then
    { feePayer with authorization := text }
  else feePayer

/-- What an injection does to an account update. -/
def AccountUpdate.inject
    (key : CompressedPubKey)
    (text : String)
    (update : AccountUpdate build) : AccountUpdate build :=
  if ZKAppCommand.shouldInjectSignature update key ∧
      update.body.useFullCommitment then
    { update with
      authorization := { update.authorization with signature := some text } }
  else update

/-- What an injection does to a command. -/
def ZKAppCommand.inject
    (key : CompressedPubKey)
    (text : String)
    (command : ZKAppCommand build) : ZKAppCommand build :=
  { command with
    feePayer := command.feePayer.inject key text
    accountUpdates := command.accountUpdates.map (AccountUpdate.inject key text) }

variable {signer : MinaSigner} {base58 : Base58}

theorem injectUpdatesFrom_fst
    (key : CompressedPubKey)
    (text : String)
    (index : Nat)
    (updates : List (AccountUpdate build))
    (warnings : List SignatureInjectionWarning)
    (count : Nat) :
    (ZKAppCommand.injectUpdatesFrom signer key text index updates warnings
        count).1 =
      updates.map (AccountUpdate.inject key text) := by
  induction updates generalizing index warnings count with
  | nil => rfl
  | cons update rest ih =>
      simp only [ZKAppCommand.injectUpdatesFrom, List.map_cons, ih,
        AccountUpdate.inject]
      congr 1
      split_ifs <;> simp_all

/-- An injection writes what `inject` writes. -/
theorem injectSignature_fst
    (command : ZKAppCommand build)
    (groupPublicKey : signer.PubKey)
    (signature : Sig) :
    (command.injectSignature signer base58 groupPublicKey signature).1 =
      command.inject (signer.intoCompressed groupPublicKey)
        (signature.toBase58 base58) := by
  simp only [ZKAppCommand.injectSignature,
    ZKAppCommand.injectAccountUpdateSignatures, injectUpdatesFrom_fst,
    ZKAppCommand.injectFeePayerSignature, ZKAppCommand.inject, FeePayer.inject]
  split_ifs <;> simp_all

end Effect

section Report

variable {build : Build}

/-- An update that is signed, by the key. -/
def AccountUpdate.SignedBy
    (key : CompressedPubKey)
    (update : AccountUpdate build) : Prop :=
  update.body.authorizationKind.isSigned ∧ update.body.publicKey = key

instance AccountUpdate.decidableSignedBy
    (key : CompressedPubKey)
    (update : AccountUpdate build) :
    Decidable (update.SignedBy key) :=
  inferInstanceAs (Decidable (_ ∧ _))

/-- An update that the signature of the key is written to. -/
def AccountUpdate.Written
    (key : CompressedPubKey)
    (update : AccountUpdate build) : Prop :=
  update.SignedBy key ∧ update.body.useFullCommitment

instance AccountUpdate.decidableWritten
    (key : CompressedPubKey)
    (update : AccountUpdate build) :
    Decidable (update.Written key) :=
  inferInstanceAs (Decidable (_ ∧ _))

/-- An update with a signature that is not empty. -/
def AccountUpdate.HasSignature (update : AccountUpdate build) : Prop :=
  update.authorization.signature ≠ none ∧
    update.authorization.signature ≠ some ""

instance AccountUpdate.decidableHasSignature (update : AccountUpdate build) :
    Decidable update.HasSignature :=
  inferInstanceAs (Decidable (_ ∧ _))

variable (signer : MinaSigner)

/-- The warning about a fee payer, if there is one. -/
def FeePayer.injectionWarnings
    (key : CompressedPubKey)
    (feePayer : FeePayer) : List SignatureInjectionWarning :=
  if feePayer.body.publicKey ≠ key then
    [.feePayerKeyMismatch (signer.intoAddress key)
      (signer.intoAddress feePayer.body.publicKey)]
  else if feePayer.authorization ≠ "" then [.feePayerSignatureOverwritten]
  else []

/-- The warning about the update at an index, if there is one. -/
def AccountUpdate.injectionWarnings
    (key : CompressedPubKey)
    (index : Nat)
    (update : AccountUpdate build) : List SignatureInjectionWarning :=
  if update.SignedBy key ∧ ¬update.body.useFullCommitment then
    [.partialCommitmentSkipped index (signer.intoAddress update.body.publicKey)]
  else if update.Written key ∧ update.HasSignature then
    [.signatureOverwritten index (signer.intoAddress update.body.publicKey)]
  else []

/-- A command after an injection, and the report about it. -/
structure Injected
    (key : CompressedPubKey)
    (text : String)
    (command after : ZKAppCommand build)
    (result : SignatureInjectionResult) : Prop where
  feePayer : after.feePayer =
    { command.feePayer with
      authorization :=
        if command.feePayer.body.publicKey = key then text
        else command.feePayer.authorization }
  updateCount :
    after.accountUpdates.length = command.accountUpdates.length
  updates : ∀ (index : Nat) (update : AccountUpdate build),
    command.accountUpdates[index]? = some update →
    after.accountUpdates[index]? = some
      { update with
        authorization :=
          { update.authorization with
            signature :=
              if update.Written key then some text
              else update.authorization.signature } }
  memo : after.memo = command.memo
  accountUpdatesInjected : result.accountUpdatesInjected =
    command.accountUpdates.countP fun update => update.Written key
  feePayerInjected : result.feePayerInjected ↔
    command.feePayer.body.publicKey = key
  warnings : result.warnings =
    command.feePayer.injectionWarnings signer key ++
      command.accountUpdates.zipIdx.flatMap fun (update, index) =>
        update.injectionWarnings signer key index

variable {signer} {key : CompressedPubKey} {text : String}

theorem shouldInjectSignature_iff (update : AccountUpdate build) :
    ZKAppCommand.shouldInjectSignature update key = true ↔
      update.SignedBy key := by
  unfold ZKAppCommand.shouldInjectSignature AccountUpdate.SignedBy
  rw [Bool.and_eq_true, decide_eq_true_iff]

theorem hasSignature_iff {update : AccountUpdate build} :
    update.HasSignature ↔
      ∃ text, update.authorization.signature = some text ∧ text ≠ "" := by
  unfold AccountUpdate.HasSignature
  cases update.authorization.signature with
  | none => simp
  | some text => simp

/-- The warnings and the count of an update are put behind those before it. -/
theorem injectUpdatesFrom_cons
    (index : Nat)
    (update : AccountUpdate build)
    (rest : List (AccountUpdate build))
    (warnings : List SignatureInjectionWarning)
    (count : Nat) :
    (ZKAppCommand.injectUpdatesFrom signer key text index (update :: rest)
        warnings count).2 =
      (ZKAppCommand.injectUpdatesFrom signer key text (index + 1) rest
        (warnings ++ update.injectionWarnings signer key index)
        (count + if update.Written key then 1 else 0)).2 := by
  rw [ZKAppCommand.injectUpdatesFrom]
  unfold AccountUpdate.injectionWarnings AccountUpdate.Written
  simp only [shouldInjectSignature_iff]
  by_cases signedBy : update.SignedBy key
  · by_cases full : update.body.useFullCommitment = true
    · by_cases signed : update.HasSignature
      · obtain ⟨existing, isExisting, nonempty⟩ := hasSignature_iff.mp signed
        simp [signedBy, full, signed, isExisting, nonempty]
      · have empty : update.authorization.signature = none ∨
            update.authorization.signature = some "" := by
          unfold AccountUpdate.HasSignature at signed
          tauto
        rcases empty with isNone | isEmpty
        · simp [signedBy, full, signed, isNone]
        · simp [signedBy, full, signed, isEmpty]
    · simp [signedBy, full]
  · simp [signedBy]

/-- The loop puts the warnings of the updates behind each other, and counts
those that are written. -/
theorem injectUpdatesFrom_snd
    (index : Nat)
    (updates : List (AccountUpdate build))
    (warnings : List SignatureInjectionWarning)
    (count : Nat) :
    (ZKAppCommand.injectUpdatesFrom signer key text index updates warnings
        count).2 =
      (warnings ++ (updates.zipIdx index).flatMap fun (update, index) =>
          update.injectionWarnings signer key index,
        count + updates.countP fun update => update.Written key) := by
  induction updates generalizing index warnings count with
  | nil => simp [ZKAppCommand.injectUpdatesFrom]
  | cons update rest ih =>
      rw [injectUpdatesFrom_cons, ih, List.zipIdx_cons, List.flatMap_cons,
        List.countP_cons, List.append_assoc]
      simp only [decide_eq_true_eq]
      rw [Nat.add_assoc, Nat.add_comm (ite _ _ _)]

/-- The report on the fee payer. -/
theorem injectFeePayerSignature_snd
    (command : ZKAppCommand build)
    (groupPublicKey : signer.PubKey) :
    (command.injectFeePayerSignature signer groupPublicKey text []).2 =
      (command.feePayer.injectionWarnings signer
          (signer.intoCompressed groupPublicKey),
        decide (command.feePayer.body.publicKey =
          signer.intoCompressed groupPublicKey)) := by
  unfold ZKAppCommand.injectFeePayerSignature FeePayer.injectionWarnings
  by_cases groupKey : command.feePayer.body.publicKey =
      signer.intoCompressed groupPublicKey
  · by_cases empty : command.feePayer.authorization = ""
    · simp [groupKey, empty]
    · simp [groupKey, empty]
  · simp [groupKey]

/-- Only the fee payer is written before the updates are. -/
theorem injectFeePayerSignature_accountUpdates
    (command : ZKAppCommand build)
    (groupPublicKey : signer.PubKey)
    (warnings : List SignatureInjectionWarning) :
    (command.injectFeePayerSignature signer groupPublicKey text
        warnings).1.accountUpdates = command.accountUpdates := by
  rw [ZKAppCommand.injectFeePayerSignature]
  by_cases groupKey : command.feePayer.body.publicKey =
      signer.intoCompressed groupPublicKey
  · simp [groupKey]
  · simp [groupKey]

/-- A fee payer that is written, in full. -/
theorem FeePayer.inject_eq (feePayer : FeePayer) :
    feePayer.inject key text =
      { feePayer with
        authorization :=
          if feePayer.body.publicKey = key then text
          else feePayer.authorization } := by
  rw [inject]
  by_cases groupKey : feePayer.body.publicKey = key
  · rw [if_pos groupKey, if_pos groupKey]
  · rw [if_neg groupKey, if_neg groupKey]

/-- An update that is written, in full. -/
theorem AccountUpdate.inject_eq (update : AccountUpdate build) :
    update.inject key text =
      { update with
        authorization :=
          { update.authorization with
            signature :=
              if update.Written key then some text
              else update.authorization.signature } } := by
  have condition : (ZKAppCommand.shouldInjectSignature update key = true ∧
      update.body.useFullCommitment = true) ↔ update.Written key := by
    rw [shouldInjectSignature_iff]
    rfl
  rw [inject]
  by_cases written : update.Written key
  · rw [if_pos (condition.mpr written), if_pos written]
  · rw [if_neg (condition.not.mpr written), if_neg written]

/-- An injection writes the signature where it belongs and nothing else, and
reports what it did. -/
theorem injectSignature_injected
    (signer : MinaSigner)
    (base58 : Base58)
    (command : ZKAppCommand build)
    (groupPublicKey : signer.PubKey)
    (signature : Sig) :
    Injected signer (signer.intoCompressed groupPublicKey)
      (signature.toBase58 base58) command
      (command.injectSignature signer base58 groupPublicKey signature).1
      (command.injectSignature signer base58 groupPublicKey signature).2 := by
  have after := @injectSignature_fst build signer base58 command groupPublicKey
    signature
  have feePayerReport := @injectFeePayerSignature_snd build signer
    (signature.toBase58 base58) command groupPublicKey
  have updatesReport := @injectUpdatesFrom_snd build signer
    (signer.intoCompressed groupPublicKey) (signature.toBase58 base58) 0
    command.accountUpdates
    (command.feePayer.injectionWarnings signer
      (signer.intoCompressed groupPublicKey)) 0
  have report :
      (command.injectSignature signer base58 groupPublicKey signature).2 =
        { accountUpdatesInjected := command.accountUpdates.countP fun update =>
            update.Written (signer.intoCompressed groupPublicKey)
          feePayerInjected := decide (command.feePayer.body.publicKey =
            signer.intoCompressed groupPublicKey)
          warnings :=
            command.feePayer.injectionWarnings signer
                (signer.intoCompressed groupPublicKey) ++
              command.accountUpdates.zipIdx.flatMap fun (update, index) =>
                update.injectionWarnings signer
                  (signer.intoCompressed groupPublicKey) index } := by
    simp only [ZKAppCommand.injectSignature,
      ZKAppCommand.injectAccountUpdateSignatures,
      injectFeePayerSignature_accountUpdates, feePayerReport, updatesReport,
      Nat.zero_add]
  rw [after, report]
  exact
    { feePayer := FeePayer.inject_eq command.feePayer
      updateCount := List.length_map _
      updates := by
        intro index update isUpdate
        simp only [ZKAppCommand.inject, List.getElem?_map, isUpdate,
          Option.map_some, AccountUpdate.inject_eq]
      memo := rfl
      accountUpdatesInjected := rfl
      feePayerInjected := decide_eq_true_iff
      warnings := rfl }

end Report

end Tx
end MinaMultiSig
