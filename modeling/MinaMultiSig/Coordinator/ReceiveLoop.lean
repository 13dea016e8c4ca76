import MinaMultiSig.Coordinator.Gathered

/-!
# What the receive loops return

A loop ends when every signer has sent something valid, and returns what each of
them sent first. The entry of a signer depends on that signer's messages alone.
-/

namespace MinaMultiSig
namespace Coordinator

variable {PublicKey Identifier Commitments Share Noise Payload Plain α : Type}

section Receive

variable [DecidableEq PublicKey] [DecidableEq Identifier]
  {readMessage : Noise → Payload → Noise × Option Plain}
  {wire : CoordinatorWire Plain Commitments Share}
  {signers : Signers PublicKey Identifier}
  {done :
    CoordinatorSessionState PublicKey Identifier Commitments Share → Bool}
  {cipher : Cipher PublicKey Noise}
  {msgs : List (Msg PublicKey Payload)}
  {loop next : LoopState PublicKey Identifier Commitments Share Noise}
  {map : FiniteMap Identifier (List α)}

/-- A loop ends behind the first batch that makes the session done. -/
theorem receive_eq_some
    {batches : List (List (Msg PublicKey Payload))}
    (received : LoopState.receive readMessage wire done loop batches =
      some next) :
    ∃ consumed rest, batches = consumed ++ rest ∧
      LoopState.receive readMessage wire done loop consumed = some next ∧
      (∀ fewer, fewer <+: consumed → fewer ≠ consumed →
        LoopState.receive readMessage wire done loop fewer = none) ∧
      next = consumed.flatten.foldl
        (LoopState.receiveMsg readMessage wire) loop ∧
      done next.session := by
  induction batches generalizing loop with
  | nil => exact absurd received (by simp [LoopState.receive])
  | cons batch batches ih =>
      unfold LoopState.receive at received
      by_cases complete : done
          (batch.foldl (LoopState.receiveMsg readMessage wire) loop).session
      · rw [if_pos complete] at received
        obtain rfl := Option.some.inj received
        refine ⟨[batch], batches, rfl, ?_, ?_, ?_, complete⟩
        · unfold LoopState.receive
          exact if_pos complete
        · intro fewer isPrefix shorter
          cases List.prefix_cons_iff.mp isPrefix with
          | inl empty =>
              subst empty
              rfl
          | inr started =>
              obtain ⟨tail, rfl, isNil⟩ := started
              rw [List.prefix_nil.mp isNil] at shorter
              exact absurd rfl shorter
        · simp
      · rw [if_neg complete] at received
        obtain ⟨consumed, rest, rfl, same, least, isNext, finished⟩ :=
          ih received
        refine ⟨batch :: consumed, rest, rfl, ?_, ?_, ?_, finished⟩
        · unfold LoopState.receive
          rw [if_neg complete]
          exact same
        · intro fewer isPrefix shorter
          cases List.prefix_cons_iff.mp isPrefix with
          | inl empty =>
              subst empty
              rfl
          | inr started =>
              obtain ⟨tail, rfl, tailPrefix⟩ := started
              unfold LoopState.receive
              rw [if_neg complete]
              apply least tail tailPrefix
              rintro rfl
              exact shorter rfl
        · rw [isNext, List.flatten_cons, List.foldl_append]

/-- A loop that does not end leaves its session undone. -/
theorem not_done_of_receive_eq_none
    {batches : List (List (Msg PublicKey Payload))}
    (waiting : LoopState.receive readMessage wire done loop batches = none)
    (notDone : ¬done loop.session) :
    ¬done (batches.flatten.foldl
      (LoopState.receiveMsg readMessage wire) loop).session := by
  induction batches generalizing loop with
  | nil => exact notDone
  | cons batch batches ih =>
      unfold LoopState.receive at waiting
      by_cases complete : done
          (batch.foldl (LoopState.receiveMsg readMessage wire) loop).session
      · rw [if_pos complete] at waiting
        exact absurd waiting (by simp)
      · rw [if_neg complete] at waiting
        rw [List.flatten_cons, List.foldl_append]
        exact ih waiting complete

/-- The first valid message of a sender in a session for one message, and the
entry it has for that message. -/
def firstEntry
    (readMessage : Noise → Payload → Noise × Option Plain)
    (fromSlice : Plain → Option (List α))
    (cipher : Cipher PublicKey Noise)
    (key : PublicKey)
    (payloads : List Payload) : Option α :=
  (firstOf readMessage (readList fromSlice 1) cipher key payloads).bind
    fun values => values[0]?

section FirstEntry

variable {fromSlice : Plain → Option (List α)}
  {key : PublicKey} {payloads : List Payload}

omit [DecidableEq Identifier] in
theorem length_of_firstOf
    {numMessages : Nat}
    {values : List α}
    (found : firstOf readMessage (readList fromSlice numMessages) cipher key
      payloads = some values) :
    values.length = numMessages := by
  obtain ⟨plain, isRead⟩ := exists_read_of_firstOf found
  exact (readList_eq_some.mp isRead).2

omit [DecidableEq Identifier] in
theorem isSome_firstEntry :
    (firstEntry readMessage fromSlice cipher key payloads).isSome ↔
      (firstOf readMessage (readList fromSlice 1) cipher key
        payloads).isSome := by
  unfold firstEntry
  cases found : firstOf readMessage (readList fromSlice 1) cipher key
      payloads with
  | none => rfl
  | some values =>
      have one := length_of_firstOf found
      simp [one]

omit [DecidableEq Identifier] in
theorem firstEntry_append_of_isSome
    (found : (firstEntry readMessage fromSlice cipher key payloads).isSome)
    (later : List Payload) :
    firstEntry readMessage fromSlice cipher key (payloads ++ later) =
      firstEntry readMessage fromSlice cipher key payloads := by
  rw [isSome_firstEntry] at found
  obtain ⟨values, isValues⟩ := Option.isSome_iff_exists.mp found
  unfold firstEntry
  rw [isValues, firstOf_append_of_some isValues later]

theorem Gathered.filled
    {numMessages : Nat}
    (gathered : Gathered readMessage signers (readList fromSlice numMessages)
      cipher msgs loop map) :
    Filled numMessages signers map where
  length := by
    intro identifier values lookup
    have member := FiniteMap.mem_keys_iff_lookup.mpr ⟨values, lookup⟩
    obtain ⟨key, known⟩ :=
      FiniteMap.mem_values.mp (gathered.keys_subset member)
    rw [gathered.entry known] at lookup
    exact length_of_firstOf lookup
  keys_subset := gathered.keys_subset

end FirstEntry

end Receive

section Undisturbed

variable [DecidableEq PublicKey] [DecidableEq Identifier]

/-- What a receive loop returns, given the first valid entry in a list of
payloads: it ends when it has one of each signer, not because of any message,
and these entries are the result. -/
structure ReturnsFirst
    (signers : Signers PublicKey Identifier)
    (loop : List (List (Msg PublicKey Payload)) →
      Option (Outcome SessionError
        (FiniteMap Identifier α ×
          HTTPComms PublicKey Identifier Commitments Share Noise)))
    (first : PublicKey → List Payload → Option α) : Prop where
  ends_iff : ∀ batches, (loop batches).isSome ↔
    ∀ key ∈ signers.pubkeys.keys,
      (first key (payloadsOf key batches.flatten)).isSome
  returns : ∀ {batches result}, loop batches = some result →
    ∃ map comms, result = .ok (map, comms) ∧
      map.keys = signers.identifiers ∧
      ∃ consumed rest, batches = consumed ++ rest ∧
        loop consumed = some result ∧
        (∀ fewer, fewer <+: consumed → fewer ≠ consumed →
          loop fewer = none) ∧
        ∀ key identifier, signers.pubkeys.lookup key = some identifier →
          map.lookup identifier =
            first key (payloadsOf key consumed.flatten)

/-- Besides, the entry of a signer does not depend on the messages of the
others. -/
structure Undisturbed
    (signers : Signers PublicKey Identifier)
    (loop : List (List (Msg PublicKey Payload)) →
      Option (Outcome SessionError
        (FiniteMap Identifier α ×
          HTTPComms PublicKey Identifier Commitments Share Noise)))
    (first : PublicKey → List Payload → Option α) : Prop
    extends ReturnsFirst signers loop first where
  independent : ∀ {batches others map otherMap comms otherComms},
    loop batches = some (.ok (map, comms)) →
      loop others = some (.ok (otherMap, otherComms)) →
        ∀ key identifier, signers.pubkeys.lookup key = some identifier →
          payloadsOf key batches.flatten = payloadsOf key others.flatten →
            map.lookup identifier = otherMap.lookup identifier

section ReturnsFirst

variable {signers : Signers PublicKey Identifier}
  {loop : List (List (Msg PublicKey Payload)) →
    Option (Outcome SessionError
      (FiniteMap Identifier α ×
        HTTPComms PublicKey Identifier Commitments Share Noise))}
  {first : PublicKey → List Payload → Option α}

/-- The entry of a signer is the first valid one of all its payloads, also of
those that were not processed any more. -/
theorem ReturnsFirst.lookup
    {batches : List (List (Msg PublicKey Payload))}
    {map : FiniteMap Identifier α}
    {comms : HTTPComms PublicKey Identifier Commitments Share Noise}
    {key : PublicKey}
    {identifier : Identifier}
    (returnsFirst : ReturnsFirst signers loop first)
    (stays : ∀ key payloads later, (first key payloads).isSome →
      first key (payloads ++ later) = first key payloads)
    (ended : loop batches = some (.ok (map, comms)))
    (known : signers.pubkeys.lookup key = some identifier) :
    map.lookup identifier = first key (payloadsOf key batches.flatten) := by
  obtain ⟨_, _, same, full, consumed, rest, rfl, -, -, entry⟩ :=
    returnsFirst.returns ended
  cases same
  have member : identifier ∈ map.keys := by
    rw [full]
    exact Signers.mem_identifiers known
  have found : (first key (payloadsOf key consumed.flatten)).isSome := by
    rw [← entry key identifier known]
    exact Option.isSome_iff_exists.mpr (FiniteMap.mem_keys_iff_lookup.mp member)
  rw [List.flatten_append, payloadsOf_append, stays key _ _ found]
  exact entry key identifier known

theorem ReturnsFirst.undisturbed
    (returnsFirst : ReturnsFirst signers loop first)
    (stays : ∀ key payloads later, (first key payloads).isSome →
      first key (payloads ++ later) = first key payloads) :
    Undisturbed signers loop first where
  toReturnsFirst := returnsFirst
  independent := by
    intro batches others map otherMap comms otherComms ended otherEnded key
      identifier known same
    rw [returnsFirst.lookup stays ended known,
      returnsFirst.lookup stays otherEnded known, same]

end ReturnsFirst

section OfPhase

variable {readMessage : Noise → Payload → Noise × Option Plain}
  {wire : CoordinatorWire Plain Commitments Share}
  {signers : Signers PublicKey Identifier}
  {fromSlice : Plain → Option (List α)}
  {advance : FiniteMap Identifier (List α) →
    CoordinatorSessionState PublicKey Identifier Commitments Share}
  {done :
    CoordinatorSessionState PublicKey Identifier Commitments Share → Bool}
  {cipher : Cipher PublicKey Noise}
  {next : LoopState PublicKey Identifier Commitments Share Noise}
  {batches : List (List (Msg PublicKey Payload))}

/-- What a loop has gathered when it ends. -/
theorem gathered_of_receive
    (phase :
      ReceivingPhase signers wire (readList fromSlice 1) advance done)
    (covers : cipher.Covers signers)
    (received : LoopState.receive readMessage wire done
      { session := advance ∅, cipher := cipher, senders := ∅ } batches =
        some next) :
    ∃ consumed rest map, batches = consumed ++ rest ∧
      LoopState.receive readMessage wire done
        { session := advance ∅, cipher := cipher, senders := ∅ } consumed =
          some next ∧
      (∀ fewer, fewer <+: consumed → fewer ≠ consumed →
        LoopState.receive readMessage wire done
          { session := advance ∅, cipher := cipher, senders := ∅ } fewer =
            none) ∧
      Gathered readMessage signers (readList fromSlice 1) cipher
        consumed.flatten next map ∧
      next.session = advance map ∧ map.keys = signers.identifiers := by
  obtain ⟨consumed, rest, split, same, least, rfl, complete⟩ :=
    receive_eq_some received
  obtain ⟨map, gathered, isSession⟩ :=
    (Gathered.start signers (advance ∅)).foldl_receiveMsg phase covers rfl
      consumed.flatten
  rw [List.nil_append] at gathered
  refine ⟨consumed, rest, map, split, same, least, gathered, isSession, ?_⟩
  rw [isSession] at complete
  exact (phase.done_iff gathered.keys_subset).mp complete

/-- A loop ends when every signer has sent something valid. -/
theorem isSome_receive_iff
    (phase :
      ReceivingPhase signers wire (readList fromSlice 1) advance done)
    (covers : cipher.Covers signers)
    (batches : List (List (Msg PublicKey Payload))) :
    (LoopState.receive readMessage wire done
        { session := advance ∅, cipher := cipher, senders := ∅ }
        batches).isSome ↔
      ∀ key ∈ signers.pubkeys.keys,
        (firstEntry readMessage fromSlice cipher key
          (payloadsOf key batches.flatten)).isSome := by
  constructor
  · intro ended key member
    obtain ⟨next, received⟩ := Option.isSome_iff_exists.mp ended
    obtain ⟨consumed, rest, map, rfl, -, -, gathered, -, full⟩ :=
      gathered_of_receive phase covers received
    have found := gathered.full_iff.mp full key member
    rw [← isSome_firstEntry] at found
    rw [List.flatten_append, payloadsOf_append,
      firstEntry_append_of_isSome found]
    exact found
  · intro all
    by_contra waiting
    rw [Bool.not_eq_true, Option.isSome_eq_false_iff,
      Option.isNone_iff_eq_none] at waiting
    obtain ⟨map, gathered, isSession⟩ :=
      (Gathered.start signers (advance ∅)).foldl_receiveMsg phase covers rfl
        batches.flatten
    rw [List.nil_append] at gathered
    apply not_done_of_receive_eq_none waiting
    · exact fun complete => empty_keys_ne
        ((phase.done_iff (Finset.empty_subset _)).mp complete)
    · rw [isSession, phase.done_iff gathered.keys_subset, gathered.full_iff]
      intro key member
      rw [← isSome_firstEntry]
      exact all key member

theorem undisturbed_of_phase
    (phase :
      ReceivingPhase signers wire (readList fromSlice 1) advance done)
    (covers : cipher.Covers signers)
    (finish : LoopState PublicKey Identifier Commitments Share Noise →
      Outcome SessionError
        (FiniteMap Identifier α ×
          HTTPComms PublicKey Identifier Commitments Share Noise))
    (finished : ∀ loop map, loop.session = advance map →
      Filled 1 signers map → map.keys = signers.identifiers →
        ∃ comms, finish loop = .ok
          (FiniteMap.filterMap (fun values => values[0]?) map, comms)) :
    Undisturbed signers
      (fun batches => (LoopState.receive readMessage wire done
        { session := advance ∅, cipher := cipher, senders := ∅ }
        batches).map finish)
      (firstEntry readMessage fromSlice cipher) := by
  apply ReturnsFirst.undisturbed
  · constructor
    · intro batches
      rw [Option.isSome_map]
      exact isSome_receive_iff phase covers batches
    · intro batches result ended
      obtain ⟨next, received, rfl⟩ := Option.map_eq_some_iff.mp ended
      obtain ⟨consumed, rest, map, split, same, least, gathered, isSession,
        full⟩ := gathered_of_receive phase covers received
      obtain ⟨comms, isResult⟩ :=
        finished next map isSession gathered.filled full
      refine ⟨_, comms, isResult, ?_, consumed, rest, split, ?_, ?_, ?_⟩
      · rw [FiniteMap.keys_filterMap, full]
        intro identifier values lookup
        have one := gathered.filled.length identifier values lookup
        exact ⟨values[0], List.getElem?_eq_getElem (by omega)⟩
      · rw [same, Option.map_some]
      · intro fewer isPrefix shorter
        rw [least fewer isPrefix shorter, Option.map_none]
      · intro key identifier known
        rw [FiniteMap.lookup_filterMap, gathered.entry known]
        rfl
  · intro key payloads later found
    exact firstEntry_append_of_isSome found later

end OfPhase

section Loops

variable {readMessage : Noise → Payload → Noise × Option Plain}
  {wire : CoordinatorWire Plain Commitments Share}
  {signers : Signers PublicKey Identifier}
  {cipher : Cipher PublicKey Noise}

/-- Where the second loop starts: all commitments, no shares yet, and a cipher
for the signers. -/
def AwaitsShares
    (signers : Signers PublicKey Identifier)
    (comms : HTTPComms PublicKey Identifier Commitments Share Noise)
    (cipher : Cipher PublicKey Noise) : Prop :=
  comms.cipher = some cipher ∧ cipher.Covers signers ∧
    ∃ commitments, commitments.keys = signers.identifiers ∧
      comms.state = .waitingForSignatureShares (sessionArgs 1 signers)
        commitments signers.pubkeys ∅

theorem new_eq_advance :
    (CoordinatorSessionState.new 1 signers.numSigners signers.pubkeys :
        CoordinatorSessionState PublicKey Identifier Commitments Share) =
      CoordinatorSessionState.advanceCommitments (sessionArgs 1 signers) ∅
        signers.pubkeys := by
  unfold CoordinatorSessionState.advanceCommitments
  rw [if_neg]
  · rfl
  · exact fun complete => empty_keys_ne
      ((Signers.card_keys_eq_iff (Finset.empty_subset _)).mp complete)

theorem advanceCommitments_of_full
    {map : FiniteMap Identifier (List Commitments)}
    (full : map.keys = signers.identifiers) :
    (CoordinatorSessionState.advanceCommitments (sessionArgs 1 signers) map
        signers.pubkeys :
        CoordinatorSessionState PublicKey Identifier Commitments Share) =
      .waitingForSignatureShares (sessionArgs 1 signers) map signers.pubkeys
        ∅ :=
  if_pos ((Signers.card_keys_eq_iff full.subset).mpr full)

/-- With one message there is one map of commitments, made of the only
entries. -/
theorem commitments_of_full
    {map : FiniteMap Identifier (List Commitments)}
    (filled : Filled 1 signers map)
    (full : map.keys = signers.identifiers) :
    (CoordinatorSessionState.advanceCommitments (sessionArgs 1 signers) map
        signers.pubkeys :
        CoordinatorSessionState PublicKey Identifier Commitments
          Share).commitments =
      .ok ([FiniteMap.filterMap (fun values => values[0]?) map],
        signers.pubkeys) := by
  rw [advanceCommitments_of_full full]
  exact Outcome.bind_eq_ok.mpr ⟨_, filled.columns_eq_ok, rfl⟩

theorem signatureShares_of_full
    {commitments : FiniteMap Identifier (List Commitments)}
    {map : FiniteMap Identifier (List Share)}
    (filled : Filled 1 signers map)
    (same : map.keys = commitments.keys) :
    (CoordinatorSessionState.advanceShares (sessionArgs 1 signers) commitments
        signers.pubkeys map).signatureShares =
      .ok [FiniteMap.filterMap (fun values => values[0]?) map] := by
  unfold CoordinatorSessionState.advanceShares
  rw [if_pos same]
  exact filled.columns_eq_ok

/-- The cipher still covers the signers when a loop has ended. -/
theorem Gathered.covers
    {read : Plain → Option (List α)}
    {msgs : List (Msg PublicKey Payload)}
    {loop : LoopState PublicKey Identifier Commitments Share Noise}
    {map : FiniteMap Identifier (List α)}
    (gathered : Gathered readMessage signers read cipher msgs loop map)
    (covers : cipher.Covers signers) :
    loop.cipher.Covers signers := by
  unfold Cipher.Covers at covers ⊢
  rw [← covers]
  ext key
  rw [FiniteMap.mem_keys_iff_lookup, FiniteMap.mem_keys_iff_lookup,
    ← Option.isSome_iff_exists, ← Option.isSome_iff_exists, gathered.noise,
    scan, Option.isSome_map, Option.isSome_map]

/-- The coordinator and the entry of each signer are undisturbed by the other
participants: in the loop for the commitments, which leads to where the loop for
the signature shares starts, and in the latter, whatever the state it starts
with. -/
theorem receiveLoops_undisturbed
    (readMessage : Noise → Payload → Noise × Option Plain)
    (wire : CoordinatorWire Plain Commitments Share)
    (covers : cipher.Covers signers) :
    Undisturbed signers
      ((HTTPComms.new signers.numSigners signers.pubkeys).getSigningCommitments
        readMessage wire cipher)
      (firstEntry readMessage wire.fromSliceCommitments cipher) ∧
    (∀ batches map comms,
      (HTTPComms.new signers.numSigners signers.pubkeys).getSigningCommitments
          readMessage wire cipher batches = some (.ok (map, comms)) →
        ∃ cipher, AwaitsShares signers comms cipher) ∧
    ∀ comms cipher, AwaitsShares signers comms cipher →
      Undisturbed signers
        (comms.sendSigningPackageAndGetSignatureShares readMessage wire)
        (firstEntry readMessage wire.fromSliceShares cipher) := by
  refine ⟨?_, ?_, ?_⟩
  · unfold HTTPComms.getSigningCommitments HTTPComms.new
    dsimp only
    rw [new_eq_advance]
    apply undisturbed_of_phase (commitmentsPhase wire signers 1) covers
    intro loop map isSession filled full
    rw [isSession, commitments_of_full filled full]
    exact ⟨_, rfl⟩
  · intro batches map comms ended
    unfold HTTPComms.getSigningCommitments HTTPComms.new at ended
    dsimp only at ended
    rw [new_eq_advance] at ended
    obtain ⟨next, received, finished⟩ := Option.map_eq_some_iff.mp ended
    obtain ⟨consumed, rest, stored, -, -, -, gathered, isSession, full⟩ :=
      gathered_of_receive (commitmentsPhase wire signers 1) covers received
    rw [isSession, commitments_of_full gathered.filled full] at finished
    cases finished
    exact ⟨next.cipher, rfl, gathered.covers covers, stored, full,
      advanceCommitments_of_full full⟩
  · rintro comms cipher ⟨isCipher, covers, commitments, full, isState⟩
    have isStart : comms.state =
        CoordinatorSessionState.advanceShares (sessionArgs 1 signers)
          commitments signers.pubkeys ∅ := by
      rw [isState, CoordinatorSessionState.advanceShares, if_neg]
      exact full ▸ empty_keys_ne
    unfold HTTPComms.sendSigningPackageAndGetSignatureShares
    rw [isCipher, isStart]
    apply undisturbed_of_phase (sharesPhase wire signers 1 full) covers
    intro loop map isSession filled shareFull
    rw [isSession, signatureShares_of_full filled (shareFull.trans full.symm)]
    exact ⟨_, rfl⟩

/-- A reader that expects its sender to number the messages. -/
def readNumbered (expected : Nat) (payload : Nat × α) : Nat × Option α :=
  if payload.1 = expected then (expected + 1, some payload.2)
  else (expected, none)

/-- Every signer is expected to start at zero. -/
def numberedCipher (count : Nat) : Cipher Nat Nat where
  recvNoiseMap := FiniteMap.filterMap (fun _ => some 0)
    (Dkg.numberedPubkeys count)

theorem numberedCipher_covers (count : Nat) (nonempty : 0 < count) :
    (numberedCipher count).Covers (numberedSigners count nonempty) :=
  FiniteMap.keys_filterMap fun _ _ _ => ⟨0, rfl⟩

/-- An unknown sender, a message out of order, one of the wrong length and one
for the other phase between the commitments of two signers. -/
def noisyBatches : List (List (Msg Nat (Nat × (List Nat ⊕ List Nat)))) :=
  [[⟨7, 0, .inl [9]⟩, ⟨0, 3, .inl [9]⟩, ⟨0, 0, .inl [9, 9]⟩, ⟨0, 1, .inl [10]⟩],
    [⟨1, 0, .inr [9]⟩, ⟨0, 2, .inl [11]⟩, ⟨1, 1, .inl [20]⟩, ⟨1, 2, .inl [9]⟩]]

theorem receiveLoops_undisturbed_noisy :
    ∃ map comms,
      (HTTPComms.new (numberedSigners 2 (by decide)).numSigners
        (Dkg.numberedPubkeys 2)).getSigningCommitments readNumbered taggedWire
          (numberedCipher 2) noisyBatches = some (.ok (map, comms)) ∧
      map.lookup 0 = some 10 ∧ map.lookup 1 = some 20 ∧
      ∃ cipher,
        AwaitsShares (numberedSigners 2 (by decide)) comms cipher := by
  have covers := numberedCipher_covers 2 (by decide)
  obtain ⟨undisturbed, leads, -⟩ :=
    receiveLoops_undisturbed readNumbered taggedWire covers
  have ends := (undisturbed.ends_iff noisyBatches).mpr (by decide +kernel)
  obtain ⟨result, ended⟩ := Option.isSome_iff_exists.mp ends
  obtain ⟨map, comms, rfl, -⟩ := undisturbed.returns ended
  refine ⟨map, comms, ended, ?_, ?_, leads noisyBatches map comms ended⟩
  · rw [undisturbed.lookup
      (fun _ _ later found => firstEntry_append_of_isSome found later)
      ended (Dkg.lookup_numberedPubkeys 2 0)]
    decide +kernel
  · rw [undisturbed.lookup
      (fun _ _ later found => firstEntry_append_of_isSome found later)
      ended (Dkg.lookup_numberedPubkeys 2 1)]
    decide +kernel

end Loops

end Undisturbed

end Coordinator
end MinaMultiSig
