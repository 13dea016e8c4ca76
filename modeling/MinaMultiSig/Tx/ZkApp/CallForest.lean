import MinaMultiSig.Tx.ZkApp.Commitment

/-!
# The forest of calls of a zkApp command

The forest that `CallForest::from` of `zkapp_tx/commit.rs` builds has the account
updates in their order, whatever their call depths are. The check of the call
depths says that every update is as deep in the forest as its call depth, and a
forest in which this holds is recovered from its updates.
-/

namespace MinaMultiSig
namespace Tx

variable {build : Build}

/-- The call depth of an account update. -/
def AccountUpdate.depth (update : AccountUpdate build) : Nat :=
  update.body.callDepth.toNat

section Depths

theorem callDepthsFollow_iff_gradual
    {current : UInt32}
    {updates : List (AccountUpdate build)} :
    callDepthsFollow current (updates.map (·.body.callDepth)) ↔
      DepthForest.Gradual AccountUpdate.depth (current.toNat + 1) updates := by
  induction updates generalizing current with
  | nil => simp [callDepthsFollow, DepthForest.Gradual]
  | cons update rest ih =>
      simp only [List.map_cons, callDepthsFollow, DepthForest.Gradual]
      rw [AccountUpdate.depth, ← ih]
      by_cases follows : update.body.callDepth.toNat ≤ current.toNat + 1
      · simp [follows]
      · simp [follows]

/-- The check of the call depths is what the forest needs. -/
theorem isCallDepthValid_iff_gradual {tx : ZKAppCommand build} :
    isCallDepthValid tx ↔
      DepthForest.Gradual AccountUpdate.depth 0 tx.accountUpdates := by
  unfold isCallDepthValid
  cases tx.accountUpdates with
  | nil => simp [callDepthsFollow, DepthForest.Gradual]
  | cons update rest =>
      simp only [List.map_cons, List.head?_cons, Option.getD_some,
        List.tail_cons, DepthForest.Gradual]
      rw [AccountUpdate.depth, ← callDepthsFollow_iff_gradual]
      by_cases zero : update.body.callDepth = 0
      · simp [zero]
      · have above : ¬update.body.callDepth.toNat ≤ 0 := by
          intro atMost
          apply zero
          apply UInt32.toNat_inj.mp
          exact Nat.le_zero.mp atMost
        simp only [ne_eq, zero, not_false_eq_true, if_true, above, false_and,
          Bool.false_eq_true]

/-- The forest of a command with valid call depths has its account updates, in
order and at their call depths. -/
theorem CallForest.flatten_ofUpdates
    {tx : ZKAppCommand build}
    (valid : isCallDepthValid tx) :
    (CallForest.ofUpdates tx.accountUpdates).flatten 0 =
      tx.accountUpdates.map
        fun update => (update, update.body.callDepth.toNat) :=
  DepthForest.flatten_parse (isCallDepthValid_iff_gradual.mp valid)

end Depths

namespace CallForest

/-- The steps of the builder end, and no account update is left. -/
theorem builds_ofUpdates (updates : List (AccountUpdate build)) :
    DepthForest.Builds AccountUpdate.depth updates 0 (ofUpdates updates) [] := by
  have builds : DepthForest.Builds AccountUpdate.depth updates 0
      (ofUpdates updates)
      (accountUpdatesToCallForestStep updates.length updates 0).2 :=
    DepthForest.builds_parse (Nat.le_refl _)
  cases left : (accountUpdatesToCallForestStep updates.length updates 0).2 with
  | nil =>
      rw [left] at builds
      exact builds
  | cons next rest =>
      have below := builds.preorder_append.2 next
      rw [left] at below
      exact absurd (below rfl) (Nat.not_lt_zero _)

theorem preorder_ofUpdates (updates : List (AccountUpdate build)) :
    (ofUpdates updates).preorder = updates := by
  have parts := (builds_ofUpdates updates).preorder_append.1
  rwa [List.append_nil] at parts

theorem isCallDepthValid_iff_placed (tx : ZKAppCommand build) :
    isCallDepthValid tx ↔
      (ofUpdates tx.accountUpdates).Placed AccountUpdate.depth 0 := by
  constructor
  · intro valid node member
    rw [flatten_ofUpdates valid] at member
    obtain ⟨update, -, rfl⟩ := List.mem_map.mp member
    rfl
  · intro placed
    have gradual : DepthForest.Gradual AccountUpdate.depth 0
        ((ofUpdates tx.accountUpdates).preorder ++ []) :=
      DepthForest.gradual_preorder placed trivial
    rw [List.append_nil, preorder_ofUpdates] at gradual
    exact isCallDepthValid_iff_gradual.mpr gradual

/-- The forest is exactly the tree the call depths describe: the builder ends
with all account updates in their order, the check of the call depths says that
every node is as deep as its call depth, and each forest of this kind is built
from its updates in preorder, which pass the check. -/
theorem callForest_exact (build : Build) :
    (∀ updates : List (AccountUpdate build),
      DepthForest.Builds AccountUpdate.depth updates 0 (ofUpdates updates) [] ∧
        (ofUpdates updates).preorder = updates) ∧
    (∀ tx : ZKAppCommand build, isCallDepthValid tx ↔
      (ofUpdates tx.accountUpdates).Placed AccountUpdate.depth 0) ∧
    ∀ forest : CallForest build, forest.Placed AccountUpdate.depth 0 →
      ofUpdates forest.preorder = forest ∧
        ∀ tx : ZKAppCommand build, tx.accountUpdates = forest.preorder →
          isCallDepthValid tx := by
  refine ⟨?_, isCallDepthValid_iff_placed, ?_⟩
  · intro updates
    exact ⟨builds_ofUpdates updates, preorder_ofUpdates updates⟩
  · intro forest placed
    have builds : DepthForest.Builds AccountUpdate.depth
        (forest.preorder ++ []) 0 forest [] :=
      DepthForest.builds_preorder placed (by simp)
    rw [List.append_nil] at builds
    have same := (builds_ofUpdates forest.preorder).unique builds
    refine ⟨same.1, ?_⟩
    intro tx isPreorder
    apply (isCallDepthValid_iff_placed tx).mpr
    rw [isPreorder, same.1]
    exact placed

end CallForest

end Tx
end MinaMultiSig
