import MinaMultiSig.Signing.Loops

/-!
# What each stage has sent and received

For each stage of a coordinator and of a participant, what its cipher has sent and
received so far. A step of one of them leaves the others alone.
-/

namespace MinaMultiSig
namespace Signing

open Coordinator (CoordinatorSessionState Signers readList sessionArgs Filled)

variable {PublicKey Identifier Commitments Share Args Signature : Type}
  {Payload Ephemeral Message ε Coordination Run Instance : Type}
  {snow : Channel.Snow PublicKey Ephemeral Payload Message}

/-- The part of the network that belongs to one cipher. -/
structure View
    (snow : Channel.Snow PublicKey Ephemeral Payload Message) where
  cipher : Option (Channel.Cipher snow)
  sent : PublicKey → List Payload
  received : PublicKey → List Payload

/-- What an instance sees of the network. -/
def viewOf
    (world : Channel.World snow Instance)
    (index : Instance) : View snow where
  cipher := world.ciphers index
  sent := fun key => world.sent (index, key)
  received := fun key => world.received (index, key)

/-- The view of another cipher stays. -/
theorem viewOf_of_onlyMoved
    {index other : Instance}
    {world next : Channel.World snow Instance}
    (onlyMoved : Channel.World.OnlyMoved index world next)
    (different : other ≠ index) :
    viewOf next other = viewOf world other := by
  unfold viewOf
  congr 1
  · exact onlyMoved.ciphers other different
  · funext key
    exact onlyMoved.sent (other, key) different
  · funext key
    exact onlyMoved.received (other, key) different

namespace View

/-- Nothing has happened. -/
structure Silent (view : View snow) : Prop where
  unmade : view.cipher = none
  sent : ∀ key, view.sent key = []
  received : ∀ key, view.received key = []

/-- The cipher is made for some peers. -/
def MadeFor (peers : Finset PublicKey) (view : View snow) : Prop :=
  ∃ cipher, view.cipher = some cipher ∧ cipher.sendNoiseMap.keys = peers

/-- All that is sent is sent to the given peers, the same to each. -/
def SentTo
    [DecidableEq PublicKey]
    (peers : Finset PublicKey)
    (payloads : List Payload)
    (view : View snow) : Prop :=
  ∀ key, view.sent key = if key ∈ peers then payloads else []

end View

variable [DecidableEq PublicKey] [DecidableEq Identifier]

section Participant

variable
  (setup : Setup Identifier Commitments Share Args Signature ε snow
    Coordination Run)
  (run : Run)

/-- A participant has answered: with its commitments, and with the share for the
only arguments it has received. -/
structure Answered
    (coordinator : PublicKey)
    (args : Args)
    (share : Share)
    (view : View snow) : Prop where
  signed : setup.sign run args = .ok share
  sent : ∃ first second,
    setup.wire.toVecCommitments [setup.commitments run] = some first ∧
      setup.wire.toVecShares [share] = some second ∧
      view.SentTo {coordinator} [first, second]
  received : ∃ request, view.received coordinator = [request] ∧
    setup.wire.fromSliceArgs request = some args

/-- What a participant has sent. -/
inductive Said (view : View snow) : Prop
  | nothing (sent : ∀ key, view.sent key = [])
  | commitments
      {coordinator : PublicKey}
      {first : Payload}
      (isFirst : setup.wire.toVecCommitments [setup.commitments run] =
        some first)
      (sent : view.SentTo {coordinator} [first])
  | answered
      {coordinator : PublicKey}
      {args : Args}
      {share : Share}
      (answered : Answered setup run coordinator args share view)

/-- What a participant has sent and received in a stage. -/
inductive ParticipantState (view : View snow) :
    ParticipantStage PublicKey ε → Prop
  | starting
      (silent : view.Silent) :
      ParticipantState view .starting
  | waiting
      {coordinator : PublicKey}
      {first : Payload}
      (made : view.MadeFor {coordinator})
      (isFirst : setup.wire.toVecCommitments [setup.commitments run] =
        some first)
      (sent : view.SentTo {coordinator} [first])
      (unread : ∀ key, view.received key = []) :
      ParticipantState view (.waiting coordinator)
  | ended
      {result : Outcome (ParticipantError ε) Unit}
      (said : Said setup run view) :
      ParticipantState view (.ended result)

end Participant

section Coordinator

variable
  (setup : Setup Identifier Commitments Share Args Signature ε snow
    Coordination Run)
  (coordination : Coordination)

/-- A coordinator has nothing sent, or one payload to some signers: the arguments
for commitments of all of them. -/
def SentArgs (view : View snow) : Prop :=
  ∀ key, view.sent key = [] ∨ ∃ commitments payload,
    key ∈ (setup.signers coordination).pubkeys.keys ∧
      commitments.keys = (setup.signers coordination).identifiers ∧
      setup.wire.toVecArgs (setup.signingArgs coordination commitments) =
        some payload ∧
      view.sent key = [payload]

/-- A map with the only entry of what was read from each signer. -/
structure Entries
    {α : Type}
    (signers : Signers PublicKey Identifier)
    (fromSlice : Payload → Option (List α))
    (received : PublicKey → List Payload)
    (map : FiniteMap Identifier α) : Prop where
  keys_eq : map.keys = signers.identifiers
  entry : ∀ {key identifier},
    signers.pubkeys.lookup key = some identifier →
      ∃ values, Scanned (readList fromSlice 1) (received key) (some values) ∧
        map.lookup identifier = values[0]?

/-- The commitments are collected, and sent to the signers. -/
structure Requested
    (commitments : FiniteMap Identifier Commitments)
    (received : PublicKey → List Payload)
    (view : View snow) : Prop where
  entries : Entries (setup.signers coordination)
    setup.wire.fromSliceCommitments received commitments
  sent : ∃ payload,
    setup.wire.toVecArgs (setup.signingArgs coordination commitments) =
        some payload ∧
      view.SentTo (setup.signers coordination).pubkeys.keys [payload]

/-- What a coordinator has sent and received in a stage. -/
inductive CoordinatorState (view : View snow) :
    CoordinatorStage PublicKey Identifier Commitments Share Signature ε → Prop
  | starting
      (silent : view.Silent) :
      CoordinatorState view .starting
  | gettingCommitments
      {session :
        CoordinatorSessionState PublicKey Identifier Commitments Share}
      {senders : Finset PublicKey}
      {map : FiniteMap Identifier (List Commitments)}
      (made : view.MadeFor (setup.signers coordination).pubkeys.keys)
      (unsent : ∀ key, view.sent key = [])
      (collected : Collected (setup.signers coordination)
        (readList setup.wire.fromSliceCommitments 1) view.received senders map)
      (isSession : session = .advanceCommitments
        (sessionArgs 1 (setup.signers coordination)) map
        (setup.signers coordination).pubkeys) :
      CoordinatorState view (.gettingCommitments session senders)
  | gettingShares
      {commitments : FiniteMap Identifier Commitments}
      {session :
        CoordinatorSessionState PublicKey Identifier Commitments Share}
      {senders : Finset PublicKey}
      {before received : PublicKey → List Payload}
      {stored : FiniteMap Identifier (List Commitments)}
      {map : FiniteMap Identifier (List Share)}
      (made : view.MadeFor (setup.signers coordination).pubkeys.keys)
      (requested : Requested setup coordination commitments before view)
      (isReceived : ∀ key, view.received key = before key ++ received key)
      (collected : Collected (setup.signers coordination)
        (readList setup.wire.fromSliceShares 1) received senders map)
      (full : stored.keys = (setup.signers coordination).identifiers)
      (isSession : session = .advanceShares
        (sessionArgs 1 (setup.signers coordination)) stored
        (setup.signers coordination).pubkeys map) :
      CoordinatorState view (.gettingShares commitments session senders)
  | failed
      {failure : CoordinatorFailure}
      (sent : SentArgs setup coordination view) :
      CoordinatorState view (.failed failure)
  | concluded
      {commitments : FiniteMap Identifier Commitments}
      {signatureShares : FiniteMap Identifier Share}
      {before received : PublicKey → List Payload}
      (requested : Requested setup coordination commitments before view)
      (isReceived : ∀ key, view.received key = before key ++ received key)
      (entries : Entries (setup.signers coordination)
        setup.wire.fromSliceShares received signatureShares) :
      CoordinatorState view
        (.concluded commitments signatureShares
          (setup.aggregate coordination commitments signatureShares))

variable {setup} {coordination} {view : View snow}

theorem Requested.sentArgs
    {commitments : FiniteMap Identifier Commitments}
    {received : PublicKey → List Payload}
    (requested : Requested setup coordination commitments received view) :
    SentArgs setup coordination view := by
  obtain ⟨payload, isPayload, sent⟩ := requested.sent
  intro key
  rw [sent key]
  split_ifs with member
  · exact .inr ⟨commitments, payload, member, requested.entries.keys_eq,
      isPayload, rfl⟩
  · exact .inl rfl

/-- In every stage a coordinator has sent arguments only. -/
theorem CoordinatorState.sentArgs
    {stage :
      CoordinatorStage PublicKey Identifier Commitments Share Signature ε}
    (state : CoordinatorState setup coordination view stage) :
    SentArgs setup coordination view := by
  cases state with
  | starting silent => exact fun key => .inl (silent.sent key)
  | gettingCommitments _ unsent => exact fun key => .inl (unsent key)
  | gettingShares _ requested => exact requested.sentArgs
  | failed sent => exact sent
  | concluded requested => exact requested.sentArgs

end Coordinator

section Entries

variable {α : Type} {signers : Signers PublicKey Identifier}
  {fromSlice : Payload → Option (List α)}
  {received : PublicKey → List Payload}
  {senders : Finset PublicKey}
  {map : FiniteMap Identifier (List α)}

theorem Collected.filled
    (collected : Collected signers (readList fromSlice 1) received senders
      map) :
    Filled 1 signers map where
  length := by
    intro identifier values lookup
    have member := FiniteMap.mem_keys_iff_lookup.mpr ⟨values, lookup⟩
    obtain ⟨key, known⟩ :=
      FiniteMap.mem_values.mp (collected.keys_subset member)
    have scanned := collected.entry known
    rw [lookup] at scanned
    obtain ⟨payload, -, isRead⟩ := scanned.exists_read
    exact (Coordinator.readList_eq_some.mp isRead).2
  keys_subset := collected.keys_subset

/-- The only entries of a full map. -/
theorem Collected.entries
    (collected : Collected signers (readList fromSlice 1) received senders map)
    (full : map.keys = signers.identifiers) :
    Entries signers fromSlice received
      (FiniteMap.filterMap (fun values => values[0]?) map) where
  keys_eq := by
    rw [FiniteMap.keys_filterMap, full]
    intro identifier values lookup
    have one := collected.filled.length identifier values lookup
    exact ⟨values[0], List.getElem?_eq_getElem (by omega)⟩
  entry := by
    intro key identifier known
    obtain ⟨values, isValues, scanned⟩ := collected.exists_entry full known
    refine ⟨values, scanned, ?_⟩
    rw [FiniteMap.lookup_filterMap, isValues, Option.bind_some]

end Entries

end Signing
end MinaMultiSig
