import MinaMultiSig.Coordinator.SessionInvariant
import MinaMultiSig.Dkg.SessionInvariant

/-!
# A rejected message leaves a session as it was

The session of the coordinator checks everything before it writes. The DKG
session notices a duplicated echo only after it was stored, and there the stored
map is the old one, because both echoes equal the package of the original
sender.
-/

namespace MinaMultiSig

section Dkg

open Dkg

variable {PublicKey Identifier Round1Package Round2Package Payload : Type}
  [DecidableEq PublicKey] [DecidableEq Identifier] [DecidableEq Round1Package]

/-- A DKG session from its first phase on, given arbitrary messages, each with
the identifier the caller takes for its own. -/
def Dkg.callsFrom
    (wire : DkgWire Payload Identifier Round1Package Round2Package)
    (pubkeys : FiniteMap PublicKey Identifier)
    (round1Packages : FiniteMap Identifier Round1Package) :
    TransitionSystem
      (DKGSessionState PublicKey Identifier Round1Package Round2Package)
      (Msg PublicKey Payload × Identifier) where
  initial := .waitingForRound1Packages pubkeys round1Packages
  step state call := some (state.recv wire call.1 call.2).1

namespace Dkg.DKGSessionState

/-- Every stored echo is the package of the original sender. -/
def EchoesMatch :
    DKGSessionState PublicKey Identifier Round1Package Round2Package → Prop
  | .waitingForRound1PackagesBroadcast _ round1Packages broadcasted =>
      ∀ original sender package,
        broadcastedBy broadcasted original sender = some package →
          round1Packages.lookup original = some package
  | _ => True

variable {wire : DkgWire Payload Identifier Round1Package Round2Package}
  {state next :
    DKGSessionState PublicKey Identifier Round1Package Round2Package}
  {msg : Msg PublicKey Payload} {selfIdentifier : Identifier}

omit [DecidableEq PublicKey] [DecidableEq Round1Package] in
theorem echoesMatch_advanceRound1
    (pubkeys : FiniteMap PublicKey Identifier)
    (round1Packages : FiniteMap Identifier Round1Package) :
    EchoesMatch
      (advanceRound1 pubkeys round1Packages :
        DKGSessionState PublicKey Identifier Round1Package Round2Package) := by
  unfold advanceRound1
  split_ifs
  · intro original sender package stored
    exact absurd stored (by simp)
  · trivial
  · trivial

theorem EchoesMatch.accepts
    (echoesMatch : EchoesMatch state)
    (accepts : Accepts wire selfIdentifier msg state next) :
    EchoesMatch next := by
  cases accepts with
  | round1 => exact echoesMatch_advanceRound1 _ _
  | broadcast decoded known originalKnown notOwn notRedundant matching fresh =>
      unfold advanceBroadcast
      split_ifs
      · trivial
      · intro original sender package isStored
        rw [broadcastedBy_insertBroadcast] at isStored
        split_ifs at isStored with same
        · rw [same.1, matching, isStored]
        · exact echoesMatch original sender package isStored
  | round2 =>
      unfold advanceRound2
      split_ifs
      · trivial
      · trivial

/-- A rejected message leaves a state whose echoes match as it was. -/
theorem EchoesMatch.recv_error
    {error : SessionError}
    (echoesMatch : EchoesMatch state)
    (received : recv wire state msg selfIdentifier = (next, .error error)) :
    next = state := by
  cases state_of_recv_error received with
  | inl unchanged => exact unchanged
  | inr duplicated =>
      obtain ⟨pubkeys, packages, broadcasted, original, sender, package, rfl,
        rfl, matching, duplicate⟩ := duplicated
      obtain ⟨earlier, isEarlier⟩ := Option.isSome_iff_exists.mp duplicate
      have same : earlier = package := by
        rw [← Option.some.injEq, ← matching]
        exact (echoesMatch original sender earlier isEarlier).symm
      rw [insertBroadcast_of_broadcastedBy (same ▸ isEarlier)]

theorem EchoesMatch.recv
    (echoesMatch : EchoesMatch state) :
    EchoesMatch (recv wire state msg selfIdentifier).1 := by
  cases received : state.recv wire msg selfIdentifier with
  | mk next result =>
      cases result with
      | ok =>
          exact echoesMatch.accepts (recv_eq_ok_iff.mp received)
      | error error =>
          rw [echoesMatch.recv_error received]
          exact echoesMatch

theorem EchoesMatch.of_reachable
    {pubkeys : FiniteMap PublicKey Identifier}
    {round1Packages : FiniteMap Identifier Round1Package}
    (reachable : (callsFrom wire pubkeys round1Packages).Reachable state) :
    EchoesMatch state := by
  apply reachable.invariant trivial
  intro state call next echoesMatch stepped
  obtain rfl := Option.some.inj stepped
  exact echoesMatch.recv

end Dkg.DKGSessionState

end Dkg

/-- Whatever message either session rejects, its state after the call is the
state before it: in every state of the coordinator's session, and in every state
a DKG session reaches. -/
theorem rejected_unchanged
    {PublicKey Identifier Commitments Share Round1Package Round2Package Payload
      DkgPayload : Type}
    [DecidableEq PublicKey] [DecidableEq Identifier]
    [DecidableEq Round1Package]
    (coordinatorWire : Coordinator.CoordinatorWire Payload Commitments Share)
    (dkgWire : Dkg.DkgWire DkgPayload Identifier Round1Package Round2Package)
    (pubkeys : FiniteMap PublicKey Identifier)
    (round1Packages : FiniteMap Identifier Round1Package) :
    (∀ (state : Coordinator.CoordinatorSessionState PublicKey Identifier
        Commitments Share) msg next error,
      state.recv coordinatorWire msg = (next, .error error) →
        next = state) ∧
    ∀ state msg selfIdentifier next error,
      (Dkg.callsFrom dkgWire pubkeys round1Packages).Reachable state →
        state.recv dkgWire msg selfIdentifier = (next, .error error) →
          next = state := by
  refine ⟨?_, ?_⟩
  · intro state msg next error received
    cases state.recv_cases coordinatorWire msg with
    | inl accepted =>
        obtain ⟨other, isOther, -⟩ := accepted
        rw [isOther] at received
        exact absurd (Prod.mk.inj received).2 (by simp)
    | inr rejected =>
        obtain ⟨other, isOther⟩ := rejected
        rw [isOther] at received
        exact (Prod.mk.inj received).1.symm
  · intro state msg selfIdentifier next error reachable received
    exact (Dkg.DKGSessionState.EchoesMatch.of_reachable reachable).recv_error
      received

/-- Two others send their Round 1 Packages to participant 0, and one of them
echoes the package of the other one. -/
def echoedCalls : List (Msg Nat Dkg.NumberedPayload × Nat) :=
  [(⟨1, .inl 7⟩, 0), (⟨2, .inl 8⟩, 0), (⟨1, .inr (.inl (2, 8))⟩, 0)]

theorem rejected_unchanged_echo :
    ∃ state, (Dkg.callsFrom (Dkg.taggedWire Nat Nat Nat)
        (Dkg.numberedPubkeys 3) ∅).run
        (.waitingForRound1Packages (Dkg.numberedPubkeys 3) ∅) echoedCalls =
          some state ∧
      (state.recv (Dkg.taggedWire Nat Nat Nat)
        ⟨1, .inr (.inl (2, 8))⟩ 0).2 =
          .error (.report "duplicated broadcast Round 1 Package") ∧
      (state.recv (Dkg.taggedWire Nat Nat Nat)
        ⟨1, .inr (.inl (2, 8))⟩ 0).1 = state := by
  refine ⟨_, rfl, by decide +kernel, ?_⟩
  exact (rejected_unchanged Coordinator.taggedWire
    (Dkg.taggedWire Nat Nat Nat) (Dkg.numberedPubkeys 3) ∅).2 _
    ⟨1, .inr (.inl (2, 8))⟩ 0 _
    (.report "duplicated broadcast Round 1 Package") ⟨echoedCalls, rfl⟩
    (Prod.ext rfl (by decide +kernel))

end MinaMultiSig
