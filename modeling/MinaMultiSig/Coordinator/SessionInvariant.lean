import MinaMultiSig.Coordinator.Session
import MinaMultiSig.Dkg.Numbered
import MinaMultiSig.Library.Transition

/-!
# What holds in every state of a signing session

A session of some signers, given any messages in any order, goes through its
phases one by one. It stores lists of the right length for known identifiers
only, and the two completion tests, one by counting and one by sets of keys, both
say that all signers have been heard.
-/

namespace MinaMultiSig
namespace Coordinator

variable {PublicKey Identifier Commitments Share Payload α : Type}
  [DecidableEq PublicKey] [DecidableEq Identifier]

namespace CoordinatorSessionState

/-- The transitions of `recv` that return `Ok`. -/
inductive Accepts
    (wire : CoordinatorWire Payload Commitments Share)
    (msg : Msg PublicKey Payload) :
    CoordinatorSessionState PublicKey Identifier Commitments Share →
      CoordinatorSessionState PublicKey Identifier Commitments Share → Prop
  | commitments
      {args stored pubkeys values identifier}
      (decoded : wire.fromSliceCommitments msg.msg = some values)
      (length : values.length = args.numMessages)
      (known : pubkeys.lookup msg.sender = some identifier) :
      Accepts wire msg (.waitingForCommitments args stored pubkeys)
        (advanceCommitments args (stored.insert identifier values) pubkeys)
  | shares
      {args commitments pubkeys stored values identifier}
      (decoded : wire.fromSliceShares msg.msg = some values)
      (length : values.length = args.numMessages)
      (known : pubkeys.lookup msg.sender = some identifier)
      (committed : identifier ∈ commitments.keys) :
      Accepts wire msg
        (.waitingForSignatureShares args commitments pubkeys stored)
        (advanceShares args commitments pubkeys
          (stored.insert identifier values))

variable {wire : CoordinatorWire Payload Commitments Share}
  {msg : Msg PublicKey Payload}
  {state next :
    CoordinatorSessionState PublicKey Identifier Commitments Share}

/-- A message is accepted along `Accepts`, or it leaves the state as it is. -/
theorem recv_cases
    (wire : CoordinatorWire Payload Commitments Share)
    (msg : Msg PublicKey Payload)
    (state :
      CoordinatorSessionState PublicKey Identifier Commitments Share) :
    (∃ next, recv wire state msg = (next, .ok ()) ∧
      Accepts wire msg state next) ∨
    ∃ error, recv wire state msg = (state, .error error) := by
  cases state with
  | waitingForCommitments args stored pubkeys =>
      unfold recv handleCommitments
      cases decoded : wire.fromSliceCommitments msg.msg with
      | none => exact Or.inr ⟨_, rfl⟩
      | some values =>
          by_cases length : values.length = args.numMessages
          · cases known : pubkeys.lookup msg.sender with
            | none =>
                exact Or.inr ⟨.report "unknown participant",
                  by simp [length, known]⟩
            | some identifier =>
                refine Or.inl ⟨_, ?_, Accepts.commitments decoded length known⟩
                simp [length, known]
          · exact Or.inr ⟨.report "wrong number of commitments",
              by simp [length]⟩
  | waitingForSignatureShares args commitments pubkeys stored =>
      unfold recv handleSignatureShare
      cases decoded : wire.fromSliceShares msg.msg with
      | none => exact Or.inr ⟨_, rfl⟩
      | some values =>
          by_cases length : values.length = args.numMessages
          · cases known : pubkeys.lookup msg.sender with
            | none =>
                exact Or.inr ⟨.report "unknown participant",
                  by simp [length, known]⟩
            | some identifier =>
                by_cases committed : identifier ∈ commitments.keys
                · refine Or.inl ⟨_, ?_,
                    Accepts.shares decoded length known committed⟩
                  simp [length, known, committed]
                · exact Or.inr ⟨.report "invalid identifier",
                    by simp [length, known, committed]⟩
          · exact Or.inr ⟨.report "wrong number of signature shares",
              by simp [length]⟩
  | signatureSharesReady args stored => exact Or.inr ⟨_, rfl⟩

/-- How far a session is. -/
def phase :
    CoordinatorSessionState PublicKey Identifier Commitments Share → Nat
  | .waitingForCommitments _ _ _ => 0
  | .waitingForSignatureShares _ _ _ _ => 1
  | .signatureSharesReady _ _ => 2

/-- A message leaves the phase as it is or ends it. -/
theorem Accepts.phase (accepts : Accepts wire msg state next) :
    phase next = phase state ∨ phase next = phase state + 1 := by
  cases accepts with
  | commitments =>
      unfold advanceCommitments
      split_ifs
      · exact Or.inr rfl
      · exact Or.inl rfl
  | shares =>
      unfold advanceShares
      split_ifs
      · exact Or.inr rfl
      · exact Or.inl rfl

theorem phase_recv
    (wire : CoordinatorWire Payload Commitments Share)
    (msg : Msg PublicKey Payload)
    (state :
      CoordinatorSessionState PublicKey Identifier Commitments Share) :
    phase (recv wire state msg).1 = phase state ∨
      phase (recv wire state msg).1 = phase state + 1 := by
  cases recv_cases wire msg state with
  | inl accepted =>
      obtain ⟨next, received, accepts⟩ := accepted
      rw [received]
      exact accepts.phase
  | inr rejected =>
      obtain ⟨error, received⟩ := rejected
      rw [received]
      exact Or.inl rfl

/-- The commitments are fixed: no later message changes them. -/
def Frozen
    (args : CoordinatorSessionStateArgs)
    (commitments : FiniteMap Identifier (List Commitments))
    (pubkeys : FiniteMap PublicKey Identifier) :
    CoordinatorSessionState PublicKey Identifier Commitments Share → Prop
  | .waitingForCommitments _ _ _ => False
  | .waitingForSignatureShares otherArgs otherCommitments otherPubkeys _ =>
      otherArgs = args ∧ otherCommitments = commitments ∧
        otherPubkeys = pubkeys
  | .signatureSharesReady _ _ => True

theorem Frozen.recv
    {args : CoordinatorSessionStateArgs}
    {stored : FiniteMap Identifier (List Commitments)}
    {pubkeys : FiniteMap PublicKey Identifier}
    (frozen : Frozen args stored pubkeys state) :
    Frozen args stored pubkeys (recv wire state msg).1 := by
  cases recv_cases wire msg state with
  | inl accepted =>
      obtain ⟨next, received, accepts⟩ := accepted
      rw [received]
      cases accepts with
      | commitments => exact absurd frozen id
      | shares =>
          unfold advanceShares
          split_ifs
          · trivial
          · exact frozen
  | inr rejected =>
      obtain ⟨error, received⟩ := rejected
      rw [received]
      exact frozen

end CoordinatorSessionState

/-- The signers of a session: their communication keys with their identifiers,
at least one of them and no identifier twice. -/
structure Signers (PublicKey Identifier : Type)
    [DecidableEq PublicKey] where
  pubkeys : FiniteMap PublicKey Identifier
  injective : FiniteMap.Injective pubkeys
  nonempty : pubkeys.keys.Nonempty

namespace Signers

variable (signers : Signers PublicKey Identifier)

/-- The identifiers of the signers. -/
def identifiers : Finset Identifier :=
  FiniteMap.values signers.pubkeys

/-- The number of the signers. -/
def numSigners : Nat :=
  signers.pubkeys.keys.card

variable {signers}

theorem card_identifiers : signers.identifiers.card = signers.numSigners :=
  FiniteMap.card_values signers.injective

theorem identifiers_nonempty : signers.identifiers.Nonempty := by
  rw [← Finset.card_pos, card_identifiers]
  exact Finset.card_pos.mpr signers.nonempty

theorem mem_identifiers
    {key : PublicKey}
    {identifier : Identifier}
    (known : signers.pubkeys.lookup key = some identifier) :
    identifier ∈ signers.identifiers :=
  FiniteMap.mem_values.mpr ⟨key, known⟩

/-- The completion test by counting agrees with the one by key sets. -/
theorem card_keys_eq_iff
    {map : FiniteMap Identifier α}
    (subset : map.keys ⊆ signers.identifiers) :
    map.keys.card = signers.numSigners ↔ map.keys = signers.identifiers := by
  rw [← card_identifiers]
  constructor
  · intro count
    exact Finset.eq_of_subset_of_card_le subset count.ge
  · intro full
    rw [full]

end Signers

/-- Every list of the map has an entry for each message, and belongs to a
signer. -/
structure Filled
    (numMessages : Nat)
    (signers : Signers PublicKey Identifier)
    (map : FiniteMap Identifier (List α)) : Prop where
  length : ∀ identifier values,
    map.lookup identifier = some values → values.length = numMessages
  keys_subset : map.keys ⊆ signers.identifiers

namespace Filled

variable {numMessages : Nat}
  {signers : Signers PublicKey Identifier}
  {map : FiniteMap Identifier (List α)}

theorem empty :
    Filled numMessages signers (∅ : FiniteMap Identifier (List α)) where
  length := by simp
  keys_subset := by simp

theorem insert
    {key : PublicKey}
    {identifier : Identifier}
    {values : List α}
    (filled : Filled numMessages signers map)
    (known : signers.pubkeys.lookup key = some identifier)
    (length : values.length = numMessages) :
    Filled numMessages signers (map.insert identifier values) where
  length := by
    intro other stored lookup
    rw [FiniteMap.lookup_insert_eq] at lookup
    split_ifs at lookup
    · rw [← Option.some.inj lookup, length]
    · exact filled.length other stored lookup
  keys_subset := by
    rw [FiniteMap.keys_insert]
    exact Finset.insert_subset (Signers.mem_identifiers known)
      filled.keys_subset

/-- The lists of a filled map are turned into one map for each message. -/
theorem columns_eq_ok (filled : Filled numMessages signers map) :
    CoordinatorSessionState.columns numMessages map =
      .ok ((List.range numMessages).map fun index =>
        FiniteMap.filterMap (fun values => values[index]?) map) := by
  unfold CoordinatorSessionState.columns
  apply Outcome.mapM_eq_ok
  intro index inRange
  unfold CoordinatorSessionState.columnAt
  rw [if_pos]
  intro entry member
  rw [filled.length entry.1 entry.2 (Finmap.lookup_eq_some_iff.mpr member)]
  exact List.mem_range.mp inRange

/-- There is a map for each message, with the same keys. -/
theorem columns
    {numMessages : Nat}
    {signers : Signers PublicKey Identifier}
    {map : FiniteMap Identifier (List α)}
    (filled : Filled numMessages signers map) :
    ∃ maps, CoordinatorSessionState.columns numMessages map = .ok maps ∧
      maps.length = numMessages ∧
      ∀ column ∈ maps, column.keys = map.keys := by
  refine ⟨_, filled.columns_eq_ok, ?_, ?_⟩
  · rw [List.length_map, List.length_range]
  · intro column member
    obtain ⟨index, inRange, rfl⟩ := List.mem_map.mp member
    apply FiniteMap.keys_filterMap
    intro identifier values isValues
    have bound : index < values.length := by
      rw [filled.length identifier values isValues]
      exact List.mem_range.mp inRange
    exact ⟨values[index], List.getElem?_eq_getElem bound⟩

end Filled

section Runs

variable (wire : CoordinatorWire Payload Commitments Share)
  (numMessages : Nat)
  (signers : Signers PublicKey Identifier)

/-- A session that is given arbitrary messages. -/
def session :
    TransitionSystem
      (CoordinatorSessionState PublicKey Identifier Commitments Share)
      (Msg PublicKey Payload) where
  initial := .new numMessages signers.numSigners signers.pubkeys
  step state msg := some (state.recv wire msg).1

/-- The arguments `new` was called with. -/
def sessionArgs : CoordinatorSessionStateArgs :=
  { numMessages := numMessages, numSigners := signers.numSigners }

/-- What holds in every state: full lists of known identifiers are stored, and a
phase is left as soon as all signers were heard in it. -/
def Sound :
    CoordinatorSessionState PublicKey Identifier Commitments Share → Prop
  | .waitingForCommitments args commitments pubkeys =>
      args = sessionArgs numMessages signers ∧ pubkeys = signers.pubkeys ∧
        Filled numMessages signers commitments ∧
        commitments.keys ≠ signers.identifiers
  | .waitingForSignatureShares args commitments pubkeys signatureShares =>
      args = sessionArgs numMessages signers ∧ pubkeys = signers.pubkeys ∧
        Filled numMessages signers commitments ∧
        commitments.keys = signers.identifiers ∧
        Filled numMessages signers signatureShares ∧
        signatureShares.keys ≠ signers.identifiers
  | .signatureSharesReady args signatureShares =>
      args = sessionArgs numMessages signers ∧
        Filled numMessages signers signatureShares ∧
        signatureShares.keys = signers.identifiers

variable {wire numMessages signers}
variable {msg : Msg PublicKey Payload}
  {state next :
    CoordinatorSessionState PublicKey Identifier Commitments Share}

theorem empty_keys_ne :
    (∅ : FiniteMap Identifier (List α)).keys ≠ signers.identifiers := by
  rw [Finmap.keys_empty]
  exact signers.identifiers_nonempty.ne_empty.symm

theorem sound_advanceCommitments
    {commitments : FiniteMap Identifier (List Commitments)}
    (filled : Filled numMessages signers commitments) :
    Sound numMessages signers
      (CoordinatorSessionState.advanceCommitments
        (sessionArgs numMessages signers) commitments signers.pubkeys :
        CoordinatorSessionState PublicKey Identifier Commitments Share) := by
  unfold CoordinatorSessionState.advanceCommitments
  split_ifs with complete
  · exact ⟨rfl, rfl, filled,
      (Signers.card_keys_eq_iff filled.keys_subset).mp complete,
      Filled.empty, empty_keys_ne⟩
  · refine ⟨rfl, rfl, filled, ?_⟩
    intro full
    exact complete ((Signers.card_keys_eq_iff filled.keys_subset).mpr full)

theorem sound_advanceShares
    {commitments : FiniteMap Identifier (List Commitments)}
    {signatureShares : FiniteMap Identifier (List Share)}
    (filled : Filled numMessages signers commitments)
    (complete : commitments.keys = signers.identifiers)
    (sharesFilled : Filled numMessages signers signatureShares) :
    Sound numMessages signers
      (CoordinatorSessionState.advanceShares
        (sessionArgs numMessages signers) commitments signers.pubkeys
        signatureShares) := by
  unfold CoordinatorSessionState.advanceShares
  split_ifs with allShares
  · exact ⟨rfl, sharesFilled, allShares.trans complete⟩
  · refine ⟨rfl, rfl, filled, complete, sharesFilled, ?_⟩
    intro full
    exact allShares (full.trans complete.symm)

theorem sound_initial :
    Sound numMessages signers (session wire numMessages signers).initial :=
  ⟨rfl, rfl, Filled.empty, empty_keys_ne⟩

/-- One message keeps the invariant. -/
theorem Sound.recv
    (sound : Sound numMessages signers state) :
    Sound numMessages signers (state.recv wire msg).1 := by
  cases CoordinatorSessionState.recv_cases wire msg state with
  | inl accepted =>
      obtain ⟨next, received, accepts⟩ := accepted
      rw [received]
      cases accepts with
      | commitments decoded length known =>
          obtain ⟨rfl, rfl, filled, -⟩ := sound
          exact sound_advanceCommitments (filled.insert known length)
      | shares decoded length known committed =>
          obtain ⟨rfl, rfl, filled, complete, sharesFilled, -⟩ := sound
          exact sound_advanceShares filled complete
            (sharesFilled.insert known length)
  | inr rejected =>
      obtain ⟨error, received⟩ := rejected
      rw [received]
      exact sound

theorem Sound.of_reachable
    (reachable : (session wire numMessages signers).Reachable state) :
    Sound numMessages signers state := by
  apply reachable.invariant sound_initial
  intro state msg next sound stepped
  obtain rfl := Option.some.inj stepped
  exact sound.recv

/-- Commitments that were complete once are returned by every later state that
has commitments. -/
theorem commitments_of_reaches
    {args : CoordinatorSessionStateArgs}
    {commitments : FiniteMap Identifier (List Commitments)}
    {pubkeys : FiniteMap PublicKey Identifier}
    {signatureShares : FiniteMap Identifier (List Share)}
    {later : CoordinatorSessionState PublicKey Identifier Commitments Share}
    (reaches : (session wire numMessages signers).Reaches
      (.waitingForSignatureShares args commitments pubkeys signatureShares)
      later)
    (complete : later.hasCommitments) :
    later.commitments =
      (CoordinatorSessionState.waitingForSignatureShares args commitments
        pubkeys signatureShares).commitments := by
  have frozen : CoordinatorSessionState.Frozen args commitments pubkeys
      later := by
    apply reaches.invariant _ ⟨rfl, rfl, rfl⟩
    intro state msg next frozen stepped
    obtain rfl := Option.some.inj stepped
    exact frozen.recv
  cases later with
  | waitingForCommitments => exact absurd frozen id
  | waitingForSignatureShares =>
      obtain ⟨rfl, rfl, rfl⟩ := frozen
      rfl
  | signatureSharesReady => exact absurd complete Bool.false_ne_true

/-- The session goes through its phases one by one, stores full lists of known
signers only, and its accessors return the maps of all signers for all messages
when their tests hold; the commitments returned are the same from then on. -/
theorem session_sound
    (reachable : (session wire numMessages signers).Reachable state) :
    (∀ msg, (state.recv wire msg).1.phase = state.phase ∨
      (state.recv wire msg).1.phase = state.phase + 1) ∧
    Sound numMessages signers state ∧
    (state.hasCommitments → ∃ maps,
      state.commitments = .ok (maps, signers.pubkeys) ∧
        maps.length = numMessages ∧
        (∀ map ∈ maps, map.keys = signers.identifiers) ∧
        ∀ later, (session wire numMessages signers).Reaches state later →
          later.hasCommitments →
            later.commitments = .ok (maps, signers.pubkeys)) ∧
    (state.hasSignatureShares → ∃ maps,
      state.signatureShares = .ok maps ∧ maps.length = numMessages ∧
        ∀ map ∈ maps, map.keys = signers.identifiers) := by
  have sound := Sound.of_reachable reachable
  refine ⟨fun msg => state.phase_recv wire msg, sound, ?_, ?_⟩
  · intro complete
    cases state with
    | waitingForCommitments => exact absurd complete Bool.false_ne_true
    | waitingForSignatureShares args commitments pubkeys shares =>
        obtain ⟨rfl, rfl, filled, full, -, -⟩ := sound
        obtain ⟨maps, isMaps, count, keys⟩ := filled.columns
        have returned : (CoordinatorSessionState.waitingForSignatureShares
            (sessionArgs numMessages signers) commitments signers.pubkeys
            shares).commitments = .ok (maps, signers.pubkeys) :=
          Outcome.bind_eq_ok.mpr ⟨maps, isMaps, rfl⟩
        refine ⟨maps, returned, count, ?_, ?_⟩
        · intro map member
          rw [keys map member, full]
        · intro later reaches laterComplete
          rw [commitments_of_reaches reaches laterComplete]
          exact returned
    | signatureSharesReady => exact absurd complete Bool.false_ne_true
  · intro complete
    cases state with
    | waitingForCommitments => exact absurd complete Bool.false_ne_true
    | waitingForSignatureShares => exact absurd complete Bool.false_ne_true
    | signatureSharesReady args shares =>
        obtain ⟨rfl, filled, full⟩ := sound
        obtain ⟨maps, isMaps, count, keys⟩ := filled.columns
        refine ⟨maps, isMaps, count, ?_⟩
        intro map member
        rw [keys map member, full]

/-- The signers `0, …, count - 1`, each with its number as identifier. -/
def numberedSigners (count : Nat) (nonempty : 0 < count) : Signers Nat Nat where
  pubkeys := Dkg.numberedPubkeys count
  injective := Dkg.injective_numberedPubkeys count
  nonempty := by
    rw [Dkg.keys_numberedPubkeys]
    exact Finset.nonempty_range_iff.mpr nonempty.ne'

/-- Payloads tagged with their kind. -/
def taggedWire : CoordinatorWire (List Nat ⊕ List Nat) Nat Nat where
  fromSliceCommitments := Sum.getLeft?
  fromSliceShares := Sum.getRight?

/-- Two signers send commitments for two messages, one of them twice, and one
sends its shares. -/
def resentRun : List (Msg Nat (List Nat ⊕ List Nat)) :=
  [⟨0, .inl [10, 11]⟩, ⟨0, .inl [12, 13]⟩, ⟨1, .inl [20]⟩, ⟨1, .inl [20, 21]⟩,
    ⟨1, .inr [5, 6]⟩]

theorem session_sound_resent :
    ∃ state, (session taggedWire 2 (numberedSigners 2 (by decide))).run
        (session taggedWire 2 (numberedSigners 2 (by decide))).initial
        resentRun = some state ∧
      state.phase = 1 ∧ Sound 2 (numberedSigners 2 (by decide)) state ∧
      ∃ maps, state.commitments = .ok (maps, Dkg.numberedPubkeys 2) ∧
        maps.length = 2 :=
  ⟨_, rfl, rfl, (session_sound ⟨resentRun, rfl⟩).2.1,
    (session_sound ⟨resentRun, rfl⟩).2.2.1 rfl |>.imp
      fun _ returned => ⟨returned.1, returned.2.1⟩⟩

end Runs

end Coordinator
end MinaMultiSig
