import MinaMultiSig.Tx.Envelope

/-!
# Signing a command with several groups, one after the other

An injection writes only authorizations, which no commitment reads. Injections
for different keys write different places, and a later injection for a key
overwrites an earlier one.
-/

namespace MinaMultiSig
namespace Tx

variable {build : Build}

section Invisible

/-- An account update without its authorization. -/
def AccountUpdate.bare (update : AccountUpdate build) : AccountUpdate build :=
  { update with authorization := { proof := none, signature := none } }

/-- A command without its authorizations. -/
def ZKAppCommand.bare (command : ZKAppCommand build) : ZKAppCommand build :=
  { command with
    feePayer := { command.feePayer with authorization := "" }
    accountUpdates := command.accountUpdates.map AccountUpdate.bare }

/-- The hash of an update does not read its authorization. -/
theorem hashAccountUpdate_bare
    (hasher : Hasher)
    (update : AccountUpdate build)
    (network : NetworkId) :
    hashAccountUpdate hasher update.bare network =
      hashAccountUpdate hasher update network := rfl

theorem hashFeePayer_bare
    (hasher : Hasher)
    (feePayer : FeePayer)
    (network : NetworkId) :
    hashFeePayer hasher build { feePayer with authorization := "" } network =
      hashFeePayer hasher build feePayer network := rfl

theorem callForestHash_bare
    (hasher : Hasher)
    (network : NetworkId)
    (forest : CallForest build) :
    callForestHash hasher network (forest.map AccountUpdate.bare) =
      callForestHash hasher network forest := by
  induction forest with
  | nil => rfl
  | cons update children siblings childrenIh siblingsIh =>
      simp only [DepthForest.map, callForestHash, childrenIh, siblingsIh,
        hashAccountUpdate_bare]

theorem CallForest.ofUpdates_bare (updates : List (AccountUpdate build)) :
    CallForest.ofUpdates (updates.map AccountUpdate.bare) =
      (CallForest.ofUpdates updates).map AccountUpdate.bare := by
  rw [CallForest.ofUpdates, accountUpdatesToCallForestStep, List.length_map]
  exact congrArg Prod.fst
    (DepthForest.parse_map _ (fun _ => rfl) updates.length updates 0)

/-- The commitment of a command does not read its authorizations. -/
theorem zkCommit_bare
    (hasher : Hasher)
    (command : ZKAppCommand build)
    (network : NetworkId) :
    zkCommit hasher command.bare network = zkCommit hasher command network := by
  have depths : isCallDepthValid command.bare = isCallDepthValid command := by
    simp only [isCallDepthValid, ZKAppCommand.bare, List.map_map]
    rfl
  have updates : callForestHash hasher network
      (CallForest.ofUpdates command.bare.accountUpdates) =
        callForestHash hasher network
          (CallForest.ofUpdates command.accountUpdates) := by
    rw [ZKAppCommand.bare, CallForest.ofUpdates_bare, callForestHash_bare]
  have feePayer : hashFeePayer hasher build command.bare.feePayer network =
      hashFeePayer hasher build command.feePayer network :=
    hashFeePayer_bare hasher command.feePayer network
  have memo : memoHash hasher command.bare = memoHash hasher command := rfl
  simp only [zkCommit, depths, updates, feePayer, memo]

variable (key otherKey : CompressedPubKey) (text otherText : String)

theorem AccountUpdate.bare_inject (update : AccountUpdate build) :
    (update.inject key text).bare = update.bare := by
  rw [AccountUpdate.inject]
  split_ifs
  · rfl
  · rfl

/-- An injection changes authorizations only. -/
theorem ZKAppCommand.bare_inject (command : ZKAppCommand build) :
    (command.inject key text).bare = command.bare := by
  have feePayer : ({ command.feePayer.inject key text with
      authorization := "" } : FeePayer) =
        { command.feePayer with authorization := "" } := by
    rw [FeePayer.inject]
    split_ifs
    · rfl
    · rfl
  have updates : (command.accountUpdates.map
      (AccountUpdate.inject key text)).map AccountUpdate.bare =
        command.accountUpdates.map AccountUpdate.bare := by
    rw [List.map_map]
    exact List.map_congr_left fun update _ =>
      AccountUpdate.bare_inject key text update
  simp only [bare, inject, feePayer, updates]

end Invisible

section Order

variable {key otherKey : CompressedPubKey} {text otherText : String}

theorem FeePayer.inject_comm
    (different : key ≠ otherKey)
    (feePayer : FeePayer) :
    (feePayer.inject key text).inject otherKey otherText =
      (feePayer.inject otherKey otherText).inject key text := by
  by_cases isKey : feePayer.body.publicKey = key
  · simp [inject, isKey, different]
  · by_cases isOther : feePayer.body.publicKey = otherKey
    · simp [inject, isOther, different.symm]
    · simp [inject, isKey, isOther]

theorem FeePayer.inject_inject
    (feePayer : FeePayer) :
    (feePayer.inject key text).inject key otherText =
      feePayer.inject key otherText := by
  by_cases isKey : feePayer.body.publicKey = key
  · simp [inject, isKey]
  · simp [inject, isKey]

theorem AccountUpdate.body_inject (update : AccountUpdate build) :
    (update.inject key text).body = update.body := by
  rw [inject]
  split_ifs
  · rfl
  · rfl

theorem AccountUpdate.inject_of_ne
    {update : AccountUpdate build}
    (notKey : update.body.publicKey ≠ key) :
    update.inject key text = update := by
  simp [inject, ZKAppCommand.shouldInjectSignature, notKey]

/-- Injections for two keys write different updates. -/
theorem AccountUpdate.inject_comm
    (different : key ≠ otherKey)
    (update : AccountUpdate build) :
    (update.inject key text).inject otherKey otherText =
      (update.inject otherKey otherText).inject key text := by
  by_cases isKey : update.body.publicKey = key
  · have notOther : update.body.publicKey ≠ otherKey := by
      rw [isKey]
      exact different
    rw [inject_of_ne notOther, inject_of_ne]
    rwa [body_inject]
  · rw [inject_of_ne isKey]
    symm
    apply inject_of_ne
    rwa [body_inject]

theorem AccountUpdate.inject_inject
    (update : AccountUpdate build) :
    (update.inject key text).inject key otherText =
      update.inject key otherText := by
  by_cases isFor : ZKAppCommand.shouldInjectSignature update key ∧
      update.body.useFullCommitment
  · rw [inject, inject, inject, if_pos isFor, if_pos isFor]
    exact if_pos isFor
  · have unchanged : ∀ anyText, update.inject key anyText = update :=
      fun anyText => if_neg isFor
    rw [unchanged, unchanged]

theorem ZKAppCommand.inject_comm
    (different : key ≠ otherKey)
    (command : ZKAppCommand build) :
    (command.inject key text).inject otherKey otherText =
      (command.inject otherKey otherText).inject key text := by
  simp only [inject, List.map_map, FeePayer.inject_comm different]
  congr 1
  exact List.map_congr_left fun update _ =>
    AccountUpdate.inject_comm different update

theorem ZKAppCommand.inject_inject
    (command : ZKAppCommand build) :
    (command.inject key text).inject key otherText =
      command.inject key otherText := by
  simp only [inject, List.map_map, FeePayer.inject_inject]
  congr 1
  exact List.map_congr_left fun update _ => AccountUpdate.inject_inject update

end Order

section Chains

variable (hasher : Hasher) (signer : MinaSigner) (base58 : Base58)

/-- Sign an envelope with one group after the other. -/
def injectAll
    (envelope : TransactionEnvelope build)
    (injections : List (signer.PubKey × Sig)) : TransactionEnvelope build :=
  injections.foldl
    (fun payload injection =>
      (TransactionSignature.newWithZkappInjection signer base58 injection.1
        injection.2 payload).1.payload)
    envelope

/-- One injection into a command. -/
def injectOne
    (command : ZKAppCommand build)
    (injection : signer.PubKey × Sig) : ZKAppCommand build :=
  command.inject (signer.intoCompressed injection.1)
    (injection.2.toBase58 base58)

/-- Injections into an envelope are injections into its command. -/
theorem injectAll_zkapp
    (network : NetworkId)
    (command : ZKAppCommand build)
    (injections : List (signer.PubKey × Sig)) :
    injectAll signer base58 (.newZkapp network command) injections =
      .newZkapp network (injections.foldl (injectOne signer base58)
        command) := by
  induction injections generalizing command with
  | nil => rfl
  | cons injection rest ih =>
      rw [injectAll, List.foldl_cons, List.foldl_cons, ← ih, injectAll]
      congr 1
      rw [TransactionSignature.newWithZkappInjection,
        TransactionEnvelope.newZkapp, TransactionEnvelope.newZkapp, injectOne]
      simp only [injectSignature_fst]

/-- A run of injections keeps the bare command. -/
theorem bare_foldl_injectOne
    (command : ZKAppCommand build)
    (injections : List (signer.PubKey × Sig)) :
    (injections.foldl (injectOne signer base58) command).bare =
      command.bare := by
  induction injections generalizing command with
  | nil => rfl
  | cons injection rest ih =>
      rw [List.foldl_cons, ih, injectOne, ZKAppCommand.bare_inject]

/-- A run of injections keeps the commitment. -/
theorem zkCommit_foldl_injectOne
    (network : NetworkId)
    (command : ZKAppCommand build)
    (injections : List (signer.PubKey × Sig)) :
    zkCommit hasher (injections.foldl (injectOne signer base58) command)
        network =
      zkCommit hasher command network := by
  rw [← zkCommit_bare, bare_foldl_injectOne, zkCommit_bare]

/-- Groups with different keys may sign in any order. -/
theorem injectAll_perm
    (network : NetworkId)
    (command : ZKAppCommand build)
    {injections reordered : List (signer.PubKey × Sig)}
    (perm : injections.Perm reordered)
    (distinct : ∀ first ∈ injections, ∀ second ∈ injections,
      first = second ∨ signer.intoCompressed first.1 ≠
        signer.intoCompressed second.1) :
    injectAll signer base58 (.newZkapp network command) injections =
      injectAll signer base58 (.newZkapp network command) reordered := by
  rw [injectAll_zkapp, injectAll_zkapp]
  congr 1
  refine perm.foldl_eq' (fun first isFirst second isSecond command => ?_) _
  rcases distinct first isFirst second isSecond with rfl | different
  · rfl
  · exact ZKAppCommand.inject_comm different command

/-- Chained signing keeps the message of a zkApp envelope and its commitment,
injections for different keys commute and may be done in any order, and of two
injections for one key the later one counts. -/
theorem chainedSigning_sound
    (network : NetworkId)
    (command : ZKAppCommand build) :
    (∀ injections : List (signer.PubKey × Sig), ∃ signed,
      injectAll signer base58 (.newZkapp network command) injections =
          .newZkapp network signed ∧
        zkCommit hasher signed network = zkCommit hasher command network ∧
        (injectAll signer base58 (.newZkapp network command)
            injections).toPallasMessage hasher =
          (TransactionEnvelope.newZkapp network command).toPallasMessage
            hasher) ∧
      (∀ firstKey secondKey firstSig secondSig,
        signer.intoCompressed firstKey ≠ signer.intoCompressed secondKey →
          injectAll signer base58 (.newZkapp network command)
              [(firstKey, firstSig), (secondKey, secondSig)] =
            injectAll signer base58 (.newZkapp network command)
              [(secondKey, secondSig), (firstKey, firstSig)]) ∧
      (∀ firstKey lastKey firstSig lastSig,
        signer.intoCompressed firstKey = signer.intoCompressed lastKey →
          injectAll signer base58 (.newZkapp network command)
              [(firstKey, firstSig), (lastKey, lastSig)] =
            injectAll signer base58 (.newZkapp network command)
              [(lastKey, lastSig)]) ∧
      ∀ injections reordered : List (signer.PubKey × Sig),
        injections.Perm reordered →
          (∀ first ∈ injections, ∀ second ∈ injections,
            first = second ∨ signer.intoCompressed first.1 ≠
              signer.intoCompressed second.1) →
            injectAll signer base58 (.newZkapp network command) injections =
              injectAll signer base58 (.newZkapp network command)
                reordered := by
  refine ⟨fun injections => ?_, fun firstKey secondKey firstSig secondSig
    different => ?_, fun firstKey lastKey firstSig lastSig same => ?_,
    fun injections reordered => injectAll_perm signer base58 network command⟩
  · have commits := zkCommit_foldl_injectOne hasher signer base58 network
      command injections
    refine ⟨_, injectAll_zkapp signer base58 network command injections,
      commits, ?_⟩
    rw [injectAll_zkapp]
    simp only [TransactionEnvelope.toPallasMessage,
      TransactionEnvelope.toRoinput, TransactionEnvelope.newZkapp, commits]
    rfl
  · rw [injectAll_zkapp, injectAll_zkapp]
    simp only [List.foldl_cons, List.foldl_nil, injectOne]
    rw [ZKAppCommand.inject_comm different]
  · rw [injectAll_zkapp, injectAll_zkapp]
    simp only [List.foldl_cons, List.foldl_nil, injectOne, same]
    rw [ZKAppCommand.inject_inject]

end Chains

end Tx
end MinaMultiSig
