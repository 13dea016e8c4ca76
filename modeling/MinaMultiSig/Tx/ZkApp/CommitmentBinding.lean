import MinaMultiSig.Tx.ZkApp.CallForest
import MinaMultiSig.Tx.ZkApp.PackingBinding

/-!
# The full commitment of a zkApp command binds the command

Without collisions among the hashes of two commitments, commands with one full
commitment have the same memo, the same fee payer up to its authorization, and
account updates with the same call depths and the same packed fields.
-/

namespace MinaMultiSig
namespace Tx

section Bits

theorem packBoolToFieldLegacy_eq (bits : List Bool) :
    packBoolToFieldLegacy bits =
      (chunksOf 254 bits).map fun chunk => (bitsToNat chunk : Fp) := by
  rw [packBoolToFieldLegacy, ROInput.foldl_appendBool]
  rfl

/-- Packed 254 bits at a time, bits of one length are bound. -/
theorem packBoolToFieldLegacy_inj
    {first second : List Bool}
    (lengths : first.length = second.length)
    (same : packBoolToFieldLegacy first = packBoolToFieldLegacy second) :
    first = second := by
  rw [packBoolToFieldLegacy_eq, packBoolToFieldLegacy_eq] at same
  exact (List.append_inj ((map_natCast_chunksOf_eq_iff first second).mp same)
    lengths).1

end Bits

section Queries

variable {build : Build} (hasher : Hasher) (network : NetworkId)

/-- The value of a hash on a parameter field and data. -/
def hashQuery (query : Fp × List Fp) : Fp :=
  hasher.hashParameterData query.1 query.2

/-- The field element of a parameter that has one. -/
def paramField (param : String) : Fp :=
  (paramToField param).toOption.getD 0

/-- The packed fields of an account update. -/
def packedFields (update : AccountUpdate build) : Option PackedInput :=
  (update.pack hasher).bind PackedInput.packToFields

/-- What is hashed for an account update. -/
def updateQuery (update : AccountUpdate build) : Fp × List Fp :=
  (paramField network.bodyPrefix,
    ((packedFields hasher update).map PackedInput.fields).getD [])

/-- What is hashed for a tree of the forest. -/
def nodeQuery (treeHash calls : Fp) : Fp × List Fp :=
  (paramField prefixAccountUpdateNode, [treeHash, calls])

/-- What is hashed for a tree and the trees behind it. -/
def consQuery (nodeHash stackHash : Fp) : Fp × List Fp :=
  (paramField prefixAccountUpdateCons, [nodeHash, stackHash])

/-- What is hashed for the memo. -/
def memoQuery (tx : ZKAppCommand build) : Fp × List Fp :=
  (paramField zkAppMemo, packBoolToFieldLegacy (bitsOfBytes tx.memo.toList))

/-- The hash of a forest without the checks. -/
def forestRoot (forest : CallForest build) : Fp :=
  forest.root (hashQuery hasher) (updateQuery hasher network) nodeQuery
    consQuery emptyStackHash

/-- What is hashed for the full commitment. -/
def fullQuery (tx : ZKAppCommand build) : Fp × List Fp :=
  (paramField prefixAccountUpdateCons,
    [hashQuery hasher (memoQuery tx),
      hashQuery hasher (updateQuery hasher network
        (AccountUpdate.ofFeePayer build tx.feePayer)),
      forestRoot hasher network (CallForest.ofUpdates tx.accountUpdates)])

/-- Every hash with a prefix that a commitment takes outside of the packing. -/
def commitQueries (tx : ZKAppCommand build) : List (Fp × List Fp) :=
  memoQuery tx ::
    updateQuery hasher network (AccountUpdate.ofFeePayer build tx.feePayer) ::
      fullQuery hasher network tx ::
        (CallForest.ofUpdates tx.accountUpdates).queries (hashQuery hasher)
          (updateQuery hasher network) nodeQuery consQuery emptyStackHash

theorem mem_commitQueries (tx : ZKAppCommand build) :
    memoQuery tx ∈ commitQueries hasher network tx ∧
      updateQuery hasher network
          (AccountUpdate.ofFeePayer build tx.feePayer) ∈
        commitQueries hasher network tx ∧
      fullQuery hasher network tx ∈ commitQueries hasher network tx ∧
      ∀ query ∈ (CallForest.ofUpdates tx.accountUpdates).queries
          (hashQuery hasher) (updateQuery hasher network) nodeQuery consQuery
          emptyStackHash,
        query ∈ commitQueries hasher network tx := by
  refine ⟨by simp [commitQueries], by simp [commitQueries],
    by simp [commitQueries], fun query asked => ?_⟩
  simp [commitQueries, asked]

variable {hasher network}

theorem hashWithPrefix_eq
    {param : String}
    {data : List Fp}
    {result : Fp}
    (hashed : hashWithPrefix hasher param data = .ok result) :
    result = hashQuery hasher (paramField param, data) := by
  rw [hashWithPrefix] at hashed
  rw [paramField]
  cases field : paramToField param with
  | error message =>
      rw [field] at hashed
      exact absurd hashed (by simp [Except.map])
  | ok value =>
      rw [field] at hashed
      exact (Except.ok.inj hashed).symm

/-- A packed input has no bits left. -/
theorem packToFields_bits
    {input packed : PackedInput}
    (success : input.packToFields = some packed) :
    packed.bits = [] := by
  rw [PackedInput.packToFields] at success
  split_ifs at success
  · rw [← Option.some.inj success]
  · obtain ⟨state, -, rfl⟩ := Option.map_eq_some_iff.mp success
    rfl

theorem hashAccountUpdate_eq
    {update : AccountUpdate build}
    {result : Fp}
    (hashed : hashAccountUpdate hasher update network = .ok result) :
    result = hashQuery hasher (updateQuery hasher network update) ∧
      packedFields hasher update = some
        { bits := [], fields := (updateQuery hasher network update).2 } := by
  simp only [hashAccountUpdate, Outcome.bind_eq_ok, Outcome.ofExcept_eq_ok,
    Outcome.ofOption_eq_ok] at hashed
  obtain ⟨-, -, roi, roiEq, inputs, inputsEq, finalHash⟩ := hashed
  have packed : packedFields hasher update = some inputs := by
    rw [packedFields, roiEq, Option.bind_some, inputsEq]
  have fields : (updateQuery hasher network update).2 = inputs.fields := by
    rw [updateQuery, packed]
    rfl
  refine ⟨?_, ?_⟩
  · rw [hashWithPrefix_eq finalHash, ← fields]
    rfl
  · rw [packed, fields, ← packToFields_bits inputsEq]

/-- A forest that is hashed has its root as hash, and all its updates pack. -/
theorem callForestHash_eq
    {forest : CallForest build}
    {result : Fp}
    (hashed : callForestHash hasher network forest = .ok result) :
    result = forestRoot hasher network forest ∧
      ∀ depth, ∀ item ∈ forest.flatten depth, packedFields hasher item.1 =
        some
          { bits := []
            fields := (updateQuery hasher network item.1).2 } := by
  induction forest generalizing result with
  | nil =>
      rw [callForestHash] at hashed
      refine ⟨(Except.ok.inj hashed).symm, fun depth item member => ?_⟩
      exact absurd member List.not_mem_nil
  | cons update children siblings childrenIh siblingsIh =>
      simp only [callForestHash, Outcome.bind_eq_ok, Outcome.ofExcept_eq_ok]
        at hashed
      obtain ⟨stackHash, siblingsHashed, calls, childrenHashed, treeHash,
        updateHashed, nodeHash, nodeHashed, stackHashed⟩ := hashed
      obtain ⟨stackEq, siblingsPack⟩ := siblingsIh siblingsHashed
      obtain ⟨callsEq, childrenPack⟩ := childrenIh childrenHashed
      obtain ⟨treeEq, updatePacks⟩ := hashAccountUpdate_eq updateHashed
      refine ⟨?_, fun depth item member => ?_⟩
      · rw [hashWithPrefix_eq stackHashed, hashWithPrefix_eq nodeHashed,
          treeEq, callsEq, stackEq]
        rfl
      · rcases List.mem_cons.mp member with rfl | deeper
        · exact updatePacks
        · rcases List.mem_append.mp deeper with below | beside
          · exact childrenPack _ item below
          · exact siblingsPack _ item beside

/-- What a successful commitment says. -/
theorem zkCommit_eq
    {tx : ZKAppCommand build}
    {updatesCommitment full : Fp}
    (commits : zkCommit hasher tx network = .ok (updatesCommitment, full)) :
    isCallDepthValid tx ∧
      full = hashQuery hasher (fullQuery hasher network tx) ∧
      (∀ update ∈ tx.accountUpdates, packedFields hasher update = some
        { bits := [], fields := (updateQuery hasher network update).2 }) := by
  rw [zkCommit] at commits
  cases valid : isCallDepthValid tx with
  | false => simp [valid, throw, throwThe, bind, Except.bind] at commits
  | true =>
      simp only [valid, Bool.not_true, Bool.false_eq_true, if_false,
        Outcome.bind_eq_ok, Outcome.ofExcept_eq_ok, memoHash,
        hashFeePayer] at commits
      obtain ⟨updatesHash, forestHashed, memo, memoHashed, feePayer,
        feePayerHashed, fullHash, fullHashed, returned⟩ := commits
      obtain ⟨rootEq, packs⟩ := callForestHash_eq forestHashed
      obtain ⟨feePayerEq, -⟩ := hashAccountUpdate_eq feePayerHashed
      refine ⟨rfl, ?_, fun update member => ?_⟩
      · have fullEq : full = fullHash :=
          (congrArg Prod.snd (Except.ok.inj returned)).symm
        rw [fullEq, hashWithPrefix_eq fullHashed, fullQuery,
          hashWithPrefix_eq memoHashed, feePayerEq, rootEq, memoQuery]
      · have inForest := List.mem_map_of_mem member
          (f := fun update => (update, update.body.callDepth.toNat))
        rw [← CallForest.flatten_ofUpdates valid] at inForest
        have packed := packs 0 _ inForest
        exact packed

end Queries

section Binding

variable {build : Build} {hasher : Hasher} {network : NetworkId}

/-- Among the given hash inputs no two have one hash, and none has the hash of
the empty stack. -/
structure CollisionFree (hasher : Hasher) (hashed : Set (Fp × List Fp)) :
    Prop where
  injective : Set.InjOn (hashQuery hasher) hashed
  neverEmpty : ∀ query ∈ hashed, hashQuery hasher query ≠ emptyStackHash

/-- Commands that agree on the memo, on the fee payer up to its authorization,
and on the call depths and the packed fields of the account updates. -/
structure SameCommand (hasher : Hasher) (first second : ZKAppCommand build) :
    Prop where
  memo : first.memo = second.memo
  publicKey : first.feePayer.body.publicKey = second.feePayer.body.publicKey
  fee : first.feePayer.body.fee = second.feePayer.body.fee
  nonce : first.feePayer.body.nonce = second.feePayer.body.nonce
  validUntil : first.feePayer.body.validUntil.getD 4294967295 =
    second.feePayer.body.validUntil.getD 4294967295
  length : first.accountUpdates.length = second.accountUpdates.length
  callDepth : first.accountUpdates.map (·.body.callDepth) =
    second.accountUpdates.map (·.body.callDepth)
  packed : first.accountUpdates.map (packedFields hasher) =
    second.accountUpdates.map (packedFields hasher)

/-- The update of a fee payer can be packed. -/
theorem AccountUpdate.ofFeePayer_packable (feePayer : FeePayer) :
    (AccountUpdate.ofFeePayer build feePayer).body.Packable := by
  refine ⟨Or.inr rfl, fun symbol member => ?_⟩
  exact absurd member (Option.not_mem_none symbol)

/-- The packed update of a fee payer determines what it is made from. -/
theorem feePayer_of_updateQuery
    {first second : FeePayer}
    (same : updateQuery hasher network (AccountUpdate.ofFeePayer build first) =
      updateQuery hasher network (AccountUpdate.ofFeePayer build second)) :
    first.body.publicKey = second.body.publicKey ∧
      first.body.fee = second.body.fee ∧
      first.body.nonce = second.body.nonce ∧
      first.body.validUntil.getD 4294967295 =
        second.body.validUntil.getD 4294967295 := by
  have packable := @AccountUpdate.ofFeePayer_packable build
  obtain ⟨left, right, leftEq, rightEq, -, leftSome, rightSome, agreed⟩ :=
    (AccountUpdateBody.pack_binds hasher (packable first)
      (packable second)).packToFields
  obtain ⟨leftPacked, leftPackedEq⟩ := Option.isSome_iff_exists.mp leftSome
  obtain ⟨rightPacked, rightPackedEq⟩ := Option.isSome_iff_exists.mp rightSome
  have fields : leftPacked.fields = rightPacked.fields := by
    have data := congrArg Prod.snd same
    simp only [updateQuery, packedFields, AccountUpdate.pack, leftEq, rightEq,
      Option.bind_some, leftPackedEq, rightPackedEq, Option.map_some,
      Option.getD_some] at data
    exact data
  have packed : leftPacked = rightPacked := by
    refine PackedInput.ext ?_ fields
    rw [packToFields_bits leftPackedEq, packToFields_bits rightPackedEq]
  have body := agreed (by rw [leftPackedEq, rightPackedEq, packed])
  have preconditions := body.preconditions
  refine ⟨body.publicKey, congrArg BalanceChange.magnitude body.balanceChange,
    ?_, ?_⟩
  · have nonce := congrArg (fun preconditions : Preconditions build =>
      preconditions.account.nonce.map RangeCondition.lower) preconditions
    exact Option.some.inj nonce
  · have slot := congrArg (fun preconditions : Preconditions build =>
      preconditions.network.globalSlotSinceGenesis.map RangeCondition.upper)
      preconditions
    exact Option.some.inj slot

/-- Hashed updates in one order and at one depth each have the same packed
fields. -/
theorem sameUpdates_of_forests
    {first second : ZKAppCommand build}
    (firstValid : isCallDepthValid first)
    (secondValid : isCallDepthValid second)
    (forests : (CallForest.ofUpdates first.accountUpdates).map
        (updateQuery hasher network) =
      (CallForest.ofUpdates second.accountUpdates).map
        (updateQuery hasher network)) :
    first.accountUpdates.map
        (fun update => (updateQuery hasher network update,
          update.body.callDepth.toNat)) =
      second.accountUpdates.map
        (fun update => (updateQuery hasher network update,
          update.body.callDepth.toNat)) := by
  have flattened := congrArg (fun forest => forest.flatten 0) forests
  simpa only [DepthForest.flatten_map, CallForest.flatten_ofUpdates firstValid,
    CallForest.flatten_ofUpdates secondValid, List.map_map,
    Function.comp_def] using flattened

/-- Commands with one full commitment agree, unless the hashes taken for the
two commitments collide. -/
theorem fullCommitment_binds_command
    {first second : ZKAppCommand build}
    {firstUpdates secondUpdates full : Fp}
    (collisionFree : CollisionFree hasher
      { query | query ∈ commitQueries hasher network first ∨
        query ∈ commitQueries hasher network second })
    (firstCommits :
      zkCommit hasher first network = .ok (firstUpdates, full))
    (secondCommits :
      zkCommit hasher second network = .ok (secondUpdates, full)) :
    SameCommand hasher first second := by
  obtain ⟨firstValid, firstFull, firstPacks⟩ := zkCommit_eq firstCommits
  obtain ⟨secondValid, secondFull, secondPacks⟩ := zkCommit_eq secondCommits
  obtain ⟨firstMemo, firstFeePayer, firstWhole, firstForest⟩ :=
    mem_commitQueries hasher network first
  obtain ⟨secondMemo, secondFeePayer, secondWhole, secondForest⟩ :=
    mem_commitQueries hasher network second
  have parts := collisionFree.injective (Or.inl firstWhole)
    (Or.inr secondWhole) (firstFull.symm.trans secondFull)
  simp only [fullQuery, Prod.mk.injEq, List.cons.injEq, and_true, true_and]
    at parts
  obtain ⟨memoHashes, feePayerHashes, roots⟩ := parts
  have memos := collisionFree.injective (Or.inl firstMemo)
    (Or.inr secondMemo) memoHashes
  have feePayers := feePayer_of_updateQuery
    (collisionFree.injective (Or.inl firstFeePayer) (Or.inr secondFeePayer)
      feePayerHashes)
  obtain ⟨publicKey, fee, nonce, validUntil⟩ := feePayers
  have forests := DepthForest.root_inj collisionFree.injective
    collisionFree.neverEmpty (by simp [nodeQuery]) (by simp [consQuery])
    (fun query asked => Or.inl (firstForest query asked))
    (fun query asked => Or.inr (secondForest query asked)) roots
  have updates := sameUpdates_of_forests firstValid secondValid forests
  refine ⟨?_, publicKey, fee, nonce, validUntil, ?_, ?_, ?_⟩
  · have lengths : first.memo.toList.length = second.memo.toList.length := by
      rw [Vector.length_toList, Vector.length_toList]
    have bits := packBoolToFieldLegacy_inj
      (by rw [length_bitsOfBytes, length_bitsOfBytes, lengths])
      (congrArg Prod.snd memos)
    exact Vector.toList_inj.mp (bitsOfBytes_inj lengths bits)
  · simpa only [List.length_map] using congrArg List.length updates
  · have depths := congrArg (List.map fun item => UInt32.ofNat item.2) updates
    simpa only [List.map_map, Function.comp_def, UInt32.ofNat_toNat]
      using depths
  · have fields := congrArg
      (List.map fun item =>
        some ({ bits := [], fields := item.1.2 } : PackedInput)) updates
    simp only [List.map_map, Function.comp_def] at fields
    rwa [← List.map_congr_left firstPacks, ← List.map_congr_left secondPacks]
      at fields

/-- The test vector without account updates, with an authorization. -/
def emptyAccountUpdates (authorization : String) : ZKAppCommand .preMesa :=
  { feePayer :=
      { body :=
          { publicKey :=
              { x :=
                  20874890121061492753724680790593342787884204274853881051988993509159925483629
                isOdd := false }
            fee := 33034803238
            validUntil := some 187142
            nonce := 0 }
        authorization := authorization }
    accountUpdates := []
    memo := Vector.ofFn fun index =>
      ([1, 3, 62, 195, 191] : List UInt8)[index.val]?.getD 0 }

/-- The command with four account updates: the second is called by the first and
calls the third, and has a token symbol. -/
def nestedUpdates
    (symbol : List UInt8)
    (authorization : String) : ZKAppCommand .preMesa :=
  { emptyAccountUpdates authorization with
    accountUpdates :=
      [{ body := symbolBody [65] 0
         authorization := { proof := none, signature := some authorization } },
        { body := symbolBody symbol 1
          authorization := { proof := none, signature := none } },
        { body := symbolBody [66] 2
          authorization := { proof := none, signature := none } },
        { body := symbolBody [67] 0
          authorization := { proof := none, signature := none } }] }

/-- A list of hash inputs whose hashes are all different and not the one of the
empty stack. -/
theorem CollisionFree.of_nodup
    {hasher : Hasher}
    {queries : List (Fp × List Fp)}
    (distinct : (emptyStackHash :: queries.map (hashQuery hasher)).Nodup) :
    CollisionFree hasher { query | query ∈ queries } := by
  obtain ⟨notEmpty, apart⟩ := List.nodup_cons.mp distinct
  constructor
  · exact List.inj_on_of_nodup_map apart
  · intro query asked isEmpty
    exact notEmpty (List.mem_map.mpr ⟨query, asked, isEmpty⟩)

/-- Two commands with one full commitment: they differ in the authorizations and
in a zero byte of the symbol of a nested update. -/
theorem fullCommitment_binds_command_nested :
    nestedUpdates [77] "" ≠ nestedUpdates [77, 0] "7mWxjLYgbJUk" ∧
      (CallForest.ofUpdates (nestedUpdates [77] "").accountUpdates).flatten 0 =
        (nestedUpdates [77] "").accountUpdates.zip [0, 1, 2, 0] ∧
      SameCommand Hasher.polynomial (nestedUpdates [77] "")
        (nestedUpdates [77, 0] "7mWxjLYgbJUk") := by
  have sameQueries : commitQueries Hasher.polynomial .testnet
      (nestedUpdates [77] "") =
        commitQueries Hasher.polynomial .testnet
          (nestedUpdates [77, 0] "7mWxjLYgbJUk") := by
    decide +kernel
  have distinct : (emptyStackHash :: (commitQueries Hasher.polynomial .testnet
      (nestedUpdates [77] "")).map (hashQuery Hasher.polynomial)).Nodup := by
    decide +kernel
  have sameCommits : zkCommit Hasher.polynomial (nestedUpdates [77] "")
      .testnet = zkCommit Hasher.polynomial
        (nestedUpdates [77, 0] "7mWxjLYgbJUk") .testnet := by
    decide +kernel
  have commits : (zkCommit Hasher.polynomial (nestedUpdates [77] "")
      .testnet).isOk = true := by
    decide +kernel
  have collisionFree := CollisionFree.of_nodup distinct
  cases firstCommits : zkCommit Hasher.polynomial (nestedUpdates [77] "")
      .testnet with
  | error failure =>
      rw [firstCommits] at commits
      exact absurd commits Bool.false_ne_true
  | ok result =>
      obtain ⟨updatesCommitment, full⟩ := result
      refine ⟨by decide, by decide, fullCommitment_binds_command ?_
        firstCommits (sameCommits.symm.trans firstCommits)⟩
      rw [← sameQueries]
      simpa only [or_self] using collisionFree

end Binding

end Tx
end MinaMultiSig
