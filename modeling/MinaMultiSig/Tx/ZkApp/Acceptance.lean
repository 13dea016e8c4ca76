import MinaMultiSig.Tx.MessageFormat
import MinaMultiSig.Tx.ZkApp.WellFormed

/-!
# Which commands are accepted

`zk_commit` of `zkapp_tx/commit.rs` returns a commitment or an error. For the
networks whose name fits a hash parameter and commands with short token symbols
it never panics, and it accepts exactly the commands whose call depths and
authorization kinds are as they should be, whatever forest they describe.
-/

namespace MinaMultiSig
namespace Tx

variable {build : Build} {hasher : Hasher} {network : NetworkId}

section Networks

/-- The body prefix of a network whose name fits is a field element. -/
theorem bodyPrefix_converts (fits : network.NameFits) :
    Converts network.bodyPrefix := by
  cases network with
  | mainnet => decide +kernel
  | testnet => decide +kernel
  | custom name =>
      apply (exists_paramToField_iff _).mp
      exact ⟨_, (selfDelimiting_custom fits).paramToField_eq.2⟩

end Networks

section Panics

theorem hashAccountUpdate_ne_panic
    {update : AccountUpdate build}
    (short : update.body.ShortSymbol) :
    hashAccountUpdate hasher update network ≠ .error .panic := by
  obtain ⟨roi, inputs, isRoi, isInputs⟩ :=
    @exists_packToFields build hasher update short
  intro panics
  unfold hashAccountUpdate at panics
  obtain ⟨_, -, panics⟩ :=
    Outcome.panic_behind (Outcome.ofExcept_ne_panic _) panics
  simp only [isRoi, isInputs, Outcome.ofOption, bind, Except.bind] at panics
  exact Outcome.ofExcept_ne_panic _ panics

/-- Hashing a forest panics only if hashing one of its updates does. -/
theorem callForestHash_ne_panic
    {forest : CallForest build}
    (safe : ∀ update ∈ forest.preorder,
      hashAccountUpdate hasher update network ≠ .error .panic) :
    callForestHash hasher network forest ≠ .error .panic := by
  induction forest with
  | nil => simp [callForestHash]
  | cons update children siblings childrenIh siblingsIh =>
      rw [DepthForest.preorder, List.forall_mem_cons,
        List.forall_mem_append] at safe
      obtain ⟨updateSafe, childrenSafe, siblingsSafe⟩ := safe
      intro panics
      unfold callForestHash at panics
      obtain ⟨_, -, panics⟩ :=
        Outcome.panic_behind (siblingsIh siblingsSafe) panics
      obtain ⟨_, -, panics⟩ :=
        Outcome.panic_behind (childrenIh childrenSafe) panics
      obtain ⟨_, -, panics⟩ := Outcome.panic_behind updateSafe panics
      obtain ⟨_, -, panics⟩ :=
        Outcome.panic_behind (Outcome.ofExcept_ne_panic _) panics
      exact Outcome.ofExcept_ne_panic _ panics

/-- A command with short token symbols is committed to, or an error is
returned. -/
theorem zkCommit_ne_panic
    {tx : ZKAppCommand build}
    (short : ∀ update ∈ tx.accountUpdates, update.body.ShortSymbol) :
    zkCommit hasher tx network ≠ .error .panic := by
  have forestSafe : callForestHash hasher network
      (CallForest.ofUpdates tx.accountUpdates) ≠ .error .panic := by
    apply callForestHash_ne_panic
    rw [CallForest.preorder_ofUpdates]
    intro update member
    exact hashAccountUpdate_ne_panic (short update member)
  have feePayerSafe : hashFeePayer hasher build tx.feePayer network ≠
      .error .panic :=
    hashAccountUpdate_ne_panic
      (AccountUpdate.ofFeePayer_packable tx.feePayer).tokenSymbol
  intro panics
  unfold zkCommit at panics
  dsimp only at panics
  split at panics
  · exact absurd panics (Outcome.throw_bind_ne_panic _ _)
  obtain ⟨_, -, panics⟩ := Outcome.panic_behind forestSafe panics
  obtain ⟨_, -, panics⟩ :=
    Outcome.panic_behind (Outcome.ofExcept_ne_panic _) panics
  obtain ⟨_, -, panics⟩ := Outcome.panic_behind feePayerSafe panics
  obtain ⟨_, -, panics⟩ :=
    Outcome.panic_behind (Outcome.ofExcept_ne_panic _) panics
  cases panics

end Panics

section Acceptance

/-- The call depths start at zero and grow by at most one at a time; no update
is proved and signed, and an update that is not proved has the dummy
verification key hash. -/
structure ZKAppCommand.Acceptable (command : ZKAppCommand build) : Prop where
  firstDepth : ∀ first, command.accountUpdates[0]? = some first →
    first.body.callDepth = 0
  nextDepth : ∀ (index : Nat) (update next : AccountUpdate build),
    command.accountUpdates[index]? = some update →
      command.accountUpdates[index + 1]? = some next →
        next.body.callDepth.toNat ≤ update.body.callDepth.toNat + 1
  notBoth : ∀ update ∈ command.accountUpdates,
    ¬(update.body.authorizationKind.isProved = true ∧
      update.body.authorizationKind.isSigned = true)
  provedOrDummy : ∀ update ∈ command.accountUpdates,
    update.body.authorizationKind.isProved = true ∨
      update.body.authorizationKind.verificationKeyHash = dummyHash

theorem wellFormed_iff_acceptable (command : ZKAppCommand build) :
    command.WellFormed ↔ command.Acceptable := by
  have zero : ∀ update : AccountUpdate build,
      update.depth ≤ 0 ↔ update.body.callDepth = 0 := by
    intro update
    rw [Nat.le_zero, AccountUpdate.depth, ← UInt32.toNat_inj]
    rfl
  constructor
  · rintro ⟨depths, authorization⟩
    obtain ⟨first, next⟩ := DepthForest.gradual_iff.mp depths
    exact
      { firstDepth := fun update isFirst =>
          (zero update).mp (first update isFirst)
        nextDepth := next
        notBoth := fun update member => (authorization update member).exclusive
        provedOrDummy := fun update member =>
          (authorization update member).hash }
  · rintro ⟨firstDepth, nextDepth, notBoth, provedOrDummy⟩
    refine ⟨DepthForest.gradual_iff.mpr ⟨?_, nextDepth⟩, ?_⟩
    · intro update isFirst
      exact (zero update).mpr (firstDepth update isFirst)
    · intro update member
      exact ⟨notBoth update member, provedOrDummy update member⟩

/-- A command is accepted exactly if it is acceptable, any other one is refused
with an error, and there is no panic. -/
theorem zkCommit_accepts_iff
    (hasher : Hasher)
    (fits : network.NameFits)
    {tx : ZKAppCommand build}
    (short : ∀ update ∈ tx.accountUpdates, update.body.ShortSymbol) :
    ((∃ commits, zkCommit hasher tx network = .ok commits) ↔ tx.Acceptable) ∧
    ((∃ reason, zkCommit hasher tx network = .error (.error reason)) ↔
      ¬tx.Acceptable) ∧
    zkCommit hasher tx network ≠ .error .panic := by
  have safe := @zkCommit_ne_panic build hasher network tx short
  have accepted : (∃ commits, zkCommit hasher tx network = .ok commits) ↔
      tx.Acceptable := by
    rw [exists_zkCommit_iff short, wellFormed_iff_acceptable]
    exact and_iff_left (bodyPrefix_converts fits)
  refine ⟨accepted, ?_, safe⟩
  rw [← accepted]
  cases result : zkCommit hasher tx network with
  | ok commits => simp
  | error failure =>
      cases failure with
      | error reason => simp
      | panic => exact absurd result safe

/-- An update and one that it calls, on a custom network. -/
theorem zkCommit_accepts_iff_devnet :
    ∃ commits, zkCommit Hasher.polynomial
      { emptyAccountUpdates "" with
        accountUpdates :=
          [{ body := symbolBody [77] 0
             authorization := { proof := none, signature := none } },
            { body := symbolBody [77, 0] 1
              authorization := { proof := none, signature := none } }] }
      (.custom "devnet") = .ok commits := by
  have fits : NetworkId.NameFits (.custom "devnet") := by
    change "devnet".utf8ByteSize ≤ maxPrefixLength
    decide
  refine (zkCommit_accepts_iff Hasher.polynomial fits ?_).1.mpr ?_
  · simp only [List.forall_mem_cons]
    exact ⟨by decide, by decide, by simp⟩
  · refine (wellFormed_iff_acceptable _).mp
      ⟨⟨by decide, by decide, trivial⟩, ?_⟩
    simp only [List.forall_mem_cons]
    exact ⟨⟨by decide, Or.inr rfl⟩, ⟨by decide, Or.inr rfl⟩, by simp⟩

end Acceptance

end Tx
end MinaMultiSig
