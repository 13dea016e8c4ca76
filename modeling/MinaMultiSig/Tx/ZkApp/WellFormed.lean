import MinaMultiSig.Tx.NetworkSeparation
import MinaMultiSig.Tx.ZkApp.CommitmentBinding

/-!
# Which commands have a commitment

A command has a commitment if its call depths describe a forest, the
authorization kinds of its account updates are coherent, and the body prefix of
its network is a field element.
-/

namespace MinaMultiSig
namespace Tx

section Prefixes

/-- The text becomes a field element: it has at most 32 bytes, and the number
of the padded bytes without the highest bit is a residue. -/
def Converts (text : String) : Prop :=
  (asBytes text).length ≤ 32 ∧
    littleEndian (paramBytes text) % 2 ^ 255 < fpModulus

instance (text : String) : Decidable (Converts text) :=
  inferInstanceAs (Decidable (_ ∧ _))

theorem exists_paramToField_iff (text : String) :
    (∃ field, paramToField text = .ok field) ↔ Converts text := by
  have limit : defaultParam.length = 32 := by
    decide
  unfold paramToField Converts Fp.fromRandomBytes
  rw [limit]
  by_cases long : (asBytes text).length > 32
  · rw [if_pos long]
    refine iff_of_false (by simp) fun converts => ?_
    exact absurd converts.1 (Nat.not_le.mpr long)
  · rw [if_neg long]
    by_cases residue : littleEndian (paramBytes text) % 2 ^ 255 < fpModulus
    · rw [if_pos residue]
      exact iff_of_true ⟨_, rfl⟩ ⟨Nat.not_lt.mp long, residue⟩
    · rw [if_neg residue]
      exact iff_of_false (by simp) fun converts => residue converts.2

theorem exists_hashWithPrefix_iff
    (hasher : Hasher)
    (text : String)
    (data : List Fp) :
    (∃ hash, hashWithPrefix hasher text data = .ok hash) ↔
      Converts text := by
  rw [← exists_paramToField_iff]
  unfold hashWithPrefix
  cases paramToField text with
  | ok field => simp [Except.map]
  | error reason => simp [Except.map]

theorem node_converts : Converts prefixAccountUpdateNode := by
  decide +kernel

theorem cons_converts : Converts prefixAccountUpdateCons := by
  decide +kernel

theorem memo_converts : Converts zkAppMemo := by
  decide +kernel

end Prefixes

variable {build : Build} {hasher : Hasher} {network : NetworkId}

/-- The token symbol has at most six bytes. -/
def AccountUpdateBody.ShortSymbol (body : AccountUpdateBody build) : Prop :=
  ∀ symbol ∈ body.update.tokenSymbol, symbol.bytes.length ≤ 6

instance AccountUpdateBody.decidableShortSymbol
    (body : AccountUpdateBody build) :
    Decidable body.ShortSymbol :=
  inferInstanceAs (Decidable (∀ symbol ∈ body.update.tokenSymbol, _))

/-- At most one of the flags is set, and without a proof the verification key
hash is the dummy one. -/
structure AuthorizationKind.Coherent (kind : AuthorizationKind) : Prop where
  exclusive : ¬(kind.isProved = true ∧ kind.isSigned = true)
  hash : kind.isProved = true ∨ kind.verificationKeyHash = dummyHash

/-- The call depths start at zero and grow by at most one at a time, and the
authorization kinds are coherent. -/
structure ZKAppCommand.WellFormed (command : ZKAppCommand build) : Prop where
  callDepths :
    DepthForest.Gradual AccountUpdate.depth 0 command.accountUpdates
  authorization : ∀ update ∈ command.accountUpdates,
    update.body.authorizationKind.Coherent

section Commitment

theorem assertAuthorizationKind_eq_ok_iff (update : AccountUpdate build) :
    assertAccountUpdateAuthorizationKind update = .ok () ↔
      update.body.authorizationKind.Coherent := by
  unfold assertAccountUpdateAuthorizationKind
  dsimp only
  cases proved : update.body.authorizationKind.isProved with
  | true =>
      cases signed : update.body.authorizationKind.isSigned with
      | true =>
          refine iff_of_false (by simp) fun coherent => ?_
          exact coherent.exclusive ⟨proved, signed⟩
      | false =>
          refine iff_of_true (by simp) ⟨?_, Or.inl proved⟩
          simp [signed]
  | false =>
      by_cases dummy :
          update.body.authorizationKind.verificationKeyHash = dummyHash
      · refine iff_of_true (by simp [dummy]) ⟨?_, Or.inr dummy⟩
        simp [proved]
      · refine iff_of_false (by simp [dummy]) fun coherent => ?_
        rcases coherent.hash with isProved | isDummy
        · rw [proved] at isProved
          exact absurd isProved (by simp)
        · exact dummy isDummy

/-- The fields of an update whose token symbol is short. A sign other than `1` is
packed as `-1`. -/
theorem exists_packToFields
    {update : AccountUpdate build}
    (short : update.body.ShortSymbol) :
    ∃ roi inputs, update.pack hasher = some roi ∧
      roi.packToFields = some inputs := by
  obtain ⟨sgn, isSign, alike⟩ : ∃ sgn : Int8, (sgn = 1 ∨ sgn = -1) ∧
      (update.body.balanceChange.sgn = 1 ↔ sgn = 1) := by
    by_cases positive : update.body.balanceChange.sgn = 1
    · exact ⟨1, Or.inl rfl, by simp [positive]⟩
    · exact ⟨-1, Or.inr rfl, by simp [positive]⟩
  have packable : AccountUpdateBody.Packable
      { update.body with
        balanceChange := { update.body.balanceChange with sgn := sgn } } :=
    ⟨isSign, short⟩
  obtain ⟨roi, -, isRoi, -, -, packed, -, -⟩ :=
    (AccountUpdateBody.pack_binds hasher packable packable).packToFields
  obtain ⟨inputs, isInputs⟩ := Option.isSome_iff_exists.mp packed
  refine ⟨roi, inputs, ?_, isInputs⟩
  rw [← isRoi]
  simp only [AccountUpdate.pack, AccountUpdateBody.pack, BalanceChange.pack,
    alike]

theorem exists_hashAccountUpdate_iff
    {update : AccountUpdate build}
    (short : update.body.ShortSymbol) :
    (∃ hash, hashAccountUpdate hasher update network = .ok hash) ↔
      update.body.authorizationKind.Coherent ∧
        Converts network.bodyPrefix := by
  obtain ⟨roi, inputs, isRoi, isInputs⟩ :=
    @exists_packToFields build hasher update short
  rw [← assertAuthorizationKind_eq_ok_iff,
    ← exists_hashWithPrefix_iff hasher network.bodyPrefix inputs.fields]
  unfold hashAccountUpdate
  simp only [Outcome.bind_eq_ok, Outcome.ofExcept_eq_ok,
    Outcome.ofOption_eq_ok]
  constructor
  · rintro ⟨hash, _, coherent, other, isOther, packed, isPacked, hashed⟩
    rw [isRoi] at isOther
    obtain rfl := Option.some.inj isOther
    rw [isInputs] at isPacked
    obtain rfl := Option.some.inj isPacked
    exact ⟨coherent, hash, hashed⟩
  · rintro ⟨coherent, hash, hashed⟩
    exact ⟨hash, (), coherent, roi, isRoi, inputs, isInputs, hashed⟩

/-- A forest is hashed if all its updates are. -/
theorem exists_callForestHash_iff (forest : CallForest build) :
    (∃ hash, callForestHash hasher network forest = .ok hash) ↔
      ∀ update ∈ forest.preorder,
        ∃ hash, hashAccountUpdate hasher update network = .ok hash := by
  induction forest with
  | nil => simp [callForestHash, DepthForest.preorder]
  | cons update children siblings childrenIh siblingsIh =>
      have parts : (∃ hash, callForestHash hasher network
            (.cons update children siblings) = .ok hash) ↔
          (∃ hash, callForestHash hasher network siblings = .ok hash) ∧
          (∃ hash, callForestHash hasher network children = .ok hash) ∧
          ∃ hash, hashAccountUpdate hasher update network = .ok hash := by
        simp only [callForestHash, Outcome.bind_eq_ok, Outcome.ofExcept_eq_ok]
        constructor
        · rintro ⟨_, stack, isStack, calls, isCalls, tree, isTree, -⟩
          exact ⟨⟨stack, isStack⟩, ⟨calls, isCalls⟩, tree, isTree⟩
        · rintro ⟨⟨stack, isStack⟩, ⟨calls, isCalls⟩, tree, isTree⟩
          obtain ⟨node, isNode⟩ := (exists_hashWithPrefix_iff hasher
            prefixAccountUpdateNode [tree, calls]).mpr node_converts
          obtain ⟨hash, isHash⟩ := (exists_hashWithPrefix_iff hasher
            prefixAccountUpdateCons [node, stack]).mpr cons_converts
          exact ⟨hash, stack, isStack, calls, isCalls, tree, isTree, node,
            isNode, isHash⟩
      rw [parts, childrenIh, siblingsIh, DepthForest.preorder,
        List.forall_mem_cons, List.forall_mem_append]
      constructor
      · rintro ⟨inSiblings, inChildren, first⟩
        exact ⟨first, inChildren, inSiblings⟩
      · rintro ⟨first, inChildren, inSiblings⟩
        exact ⟨inSiblings, inChildren, first⟩

/-- A command with short token symbols has a commitment if it is well formed and
the body prefix of its network is a field element. -/
theorem exists_zkCommit_iff
    {tx : ZKAppCommand build}
    (short : ∀ update ∈ tx.accountUpdates, update.body.ShortSymbol) :
    (∃ commits, zkCommit hasher tx network = .ok commits) ↔
      tx.WellFormed ∧ Converts network.bodyPrefix := by
  have forest : (∃ hash, callForestHash hasher network
        (CallForest.ofUpdates tx.accountUpdates) = .ok hash) ↔
      ∀ update ∈ tx.accountUpdates,
        update.body.authorizationKind.Coherent ∧
          Converts network.bodyPrefix := by
    rw [exists_callForestHash_iff, CallForest.preorder_ofUpdates]
    apply forall₂_congr
    intro update member
    exact exists_hashAccountUpdate_iff (short update member)
  have feePayer : (∃ hash, hashFeePayer hasher build tx.feePayer network =
      .ok hash) ↔ Converts network.bodyPrefix := by
    unfold hashFeePayer
    rw [exists_hashAccountUpdate_iff
      (AccountUpdate.ofFeePayer_packable tx.feePayer).tokenSymbol]
    apply and_iff_right
    exact ⟨by simp [AccountUpdate.ofFeePayer], Or.inr rfl⟩
  constructor
  · rintro ⟨commits, committed⟩
    unfold zkCommit at committed
    dsimp only at committed
    split at committed
    · exact absurd committed (Outcome.throw_bind_ne_ok _ _ _)
    next valid =>
    simp only [Bool.not_eq_true', Bool.not_eq_false] at valid
    simp only [Outcome.bind_eq_ok] at committed
    obtain ⟨updates, isForest, _, -, payer, isPayer, -⟩ := committed
    have converts := feePayer.mp ⟨payer, isPayer⟩
    refine ⟨⟨isCallDepthValid_iff_gradual.mp valid, ?_⟩, converts⟩
    intro update member
    exact (forest.mp ⟨updates, isForest⟩ update member).1
  · rintro ⟨wellFormed, converts⟩
    obtain ⟨updates, isForest⟩ := forest.mpr fun update member =>
      ⟨wellFormed.authorization update member, converts⟩
    obtain ⟨payer, isPayer⟩ := feePayer.mpr converts
    obtain ⟨memo, isMemo⟩ := (exists_hashWithPrefix_iff hasher zkAppMemo
      (packBoolToFieldLegacy (bitsOfBytes tx.memo.toList))).mpr memo_converts
    obtain ⟨full, isFull⟩ := (exists_hashWithPrefix_iff hasher
      prefixAccountUpdateCons [memo, payer, updates]).mpr cons_converts
    have valid := isCallDepthValid_iff_gradual.mpr wellFormed.callDepths
    refine ⟨(updates, full), ?_⟩
    unfold zkCommit memoHash
    simp only [valid, Bool.not_true, Bool.false_eq_true, if_false,
      Outcome.bind_eq_ok, Outcome.ofExcept_eq_ok]
    exact ⟨updates, isForest, memo, isMemo, payer, isPayer, full, isFull, rfl⟩

end Commitment

end Tx
end MinaMultiSig
