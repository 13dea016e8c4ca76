import MinaMultiSig.Coordinator.HttpComms
import MinaMultiSig.Coordinator.SessionInvariant

/-!
# What a receive loop gathers

One invariant covers both receive loops. It describes the cipher, the accepted
senders and the stored map by the messages processed so far, one sender at a
time: the entry of a signer is the first message of that signer that is
decrypted, read and of the right length.
-/

namespace MinaMultiSig
namespace Coordinator

variable {PublicKey Identifier Commitments Share Noise Payload Plain α β : Type}

section FirstValid

variable [DecidableEq PublicKey]
  (readMessage : Noise → Payload → Noise × Option Plain)
  (read : Plain → Option β)

/-- The payloads of one sender, in the order of their arrival. -/
def payloadsOf
    (key : PublicKey)
    (msgs : List (Msg PublicKey Payload)) : List Payload :=
  (msgs.filter fun msg => msg.sender = key).map Msg.msg

/-- Decrypt payloads up to the first one that can be decrypted and read: the
Noise state behind it, and what was read. -/
def firstValid : Noise → List Payload → Noise × Option β
  | noise, [] => (noise, none)
  | noise, payload :: payloads =>
      let (next, plain) := readMessage noise payload
      match plain.bind read with
      | none => firstValid next payloads
      | some value => (next, some value)

/-- The same for a sender, if the cipher has a state for it. -/
def scan
    (cipher : Cipher PublicKey Noise)
    (key : PublicKey)
    (payloads : List Payload) : Option (Noise × Option β) :=
  (cipher.recvNoiseMap.lookup key).map fun noise =>
    firstValid readMessage read noise payloads

/-- The first valid message of a sender. -/
def firstOf
    (cipher : Cipher PublicKey Noise)
    (key : PublicKey)
    (payloads : List Payload) : Option β :=
  (scan readMessage read cipher key payloads).bind Prod.snd

variable {readMessage read}

theorem payloadsOf_append
    (key : PublicKey)
    (first second : List (Msg PublicKey Payload)) :
    payloadsOf key (first ++ second) =
      payloadsOf key first ++ payloadsOf key second := by
  simp [payloadsOf]

@[simp] theorem payloadsOf_single_self (msg : Msg PublicKey Payload) :
    payloadsOf msg.sender [msg] = [msg.msg] := by
  simp [payloadsOf]

theorem payloadsOf_single_of_ne
    {key : PublicKey}
    {msg : Msg PublicKey Payload}
    (other : msg.sender ≠ key) :
    payloadsOf key [msg] = [] := by
  simp [payloadsOf, other]

/-- Behind a valid payload nothing is decrypted any more. -/
theorem firstValid_append_of_some
    {noise next : Noise}
    {first : List Payload}
    {value : β}
    (found : firstValid readMessage read noise first = (next, some value))
    (second : List Payload) :
    firstValid readMessage read noise (first ++ second) =
      (next, some value) := by
  induction first generalizing noise with
  | nil => exact absurd (Prod.mk.inj found).2 (by simp)
  | cons payload payloads ih =>
      rw [List.cons_append]
      unfold firstValid at found ⊢
      cases isRead : (readMessage noise payload).2.bind read with
      | none =>
          simp only [isRead] at found ⊢
          exact ih found
      | some other =>
          simp only [isRead] at found ⊢
          exact found

theorem firstValid_append_of_none
    {noise next : Noise}
    {first : List Payload}
    (found : firstValid readMessage read noise first = (next, none))
    (second : List Payload) :
    firstValid readMessage read noise (first ++ second) =
      firstValid readMessage read next second := by
  induction first generalizing noise with
  | nil => rw [List.nil_append, ← (Prod.mk.inj found).1]
  | cons payload payloads ih =>
      rw [List.cons_append]
      unfold firstValid at found
      rw [firstValid]
      cases isRead : (readMessage noise payload).2.bind read with
      | none =>
          simp only [isRead] at found ⊢
          exact ih found
      | some other =>
          simp only [isRead] at found
          exact absurd (Prod.mk.inj found).2 (by simp)

/-- What a scan finds was read from some payload. -/
theorem exists_read_of_firstValid
    {noise next : Noise}
    {payloads : List Payload}
    {value : β}
    (found : firstValid readMessage read noise payloads =
      (next, some value)) :
    ∃ plain, read plain = some value := by
  induction payloads generalizing noise with
  | nil => exact absurd (Prod.mk.inj found).2 (by simp)
  | cons payload payloads ih =>
      unfold firstValid at found
      cases isRead : (readMessage noise payload).2.bind read with
      | none =>
          simp only [isRead] at found
          exact ih found
      | some other =>
          simp only [isRead] at found
          obtain ⟨plain, -, isOther⟩ := Option.bind_eq_some_iff.mp isRead
          exact ⟨plain, isOther.trans (Prod.mk.inj found).2⟩

variable {cipher : Cipher PublicKey Noise} {key : PublicKey}

theorem exists_read_of_firstOf
    {payloads : List Payload}
    {value : β}
    (found : firstOf readMessage read cipher key payloads = some value) :
    ∃ plain, read plain = some value := by
  obtain ⟨⟨next, result⟩, scanned, isValue⟩ :=
    Option.bind_eq_some_iff.mp found
  obtain rfl : result = some value := isValue
  obtain ⟨noise, -, reached⟩ := Option.map_eq_some_iff.mp scanned
  exact exists_read_of_firstValid reached

theorem scan_eq_none_iff {payloads : List Payload} :
    scan readMessage read cipher key payloads = none ↔
      cipher.recvNoiseMap.lookup key = none := by
  unfold scan
  rw [Option.map_eq_none_iff]

/-- How one more payload of its sender changes a scan that found nothing yet. -/
theorem scan_append_single
    {payloads : List Payload}
    {noise : Noise}
    (nothing : scan readMessage read cipher key payloads =
      some (noise, none))
    (payload : Payload) :
    scan readMessage read cipher key (payloads ++ [payload]) =
      some ((readMessage noise payload).1,
        (readMessage noise payload).2.bind read) := by
  unfold scan at nothing ⊢
  obtain ⟨start, isStart, reached⟩ := Option.map_eq_some_iff.mp nothing
  rw [isStart, Option.map_some, firstValid_append_of_none reached]
  unfold firstValid
  cases isRead : (readMessage noise payload).2.bind read with
  | none => simp [isRead, firstValid]
  | some value => simp [isRead]

/-- A scan that found something does not change. -/
theorem scan_append_of_some
    {payloads : List Payload}
    {noise : Noise}
    {value : β}
    (found : scan readMessage read cipher key payloads =
      some (noise, some value))
    (later : List Payload) :
    scan readMessage read cipher key (payloads ++ later) =
      some (noise, some value) := by
  unfold scan at found ⊢
  obtain ⟨start, isStart, reached⟩ := Option.map_eq_some_iff.mp found
  rw [isStart, Option.map_some, firstValid_append_of_some reached]

/-- The first valid message stays the first one when more arrive. -/
theorem firstOf_append_of_some
    {payloads : List Payload}
    {value : β}
    (found : firstOf readMessage read cipher key payloads = some value)
    (later : List Payload) :
    firstOf readMessage read cipher key (payloads ++ later) =
      some value := by
  obtain ⟨⟨noise, result⟩, scanned, isValue⟩ :=
    Option.bind_eq_some_iff.mp found
  obtain rfl : result = some value := isValue
  unfold firstOf
  rw [scan_append_of_some scanned later, Option.bind_some]

end FirstValid

section Phases

variable [DecidableEq PublicKey] [DecidableEq Identifier]

/-- The list in a payload, if it can be read and has an entry for each
message. -/
def readList
    (fromSlice : Plain → Option (List α))
    (numMessages : Nat)
    (payload : Plain) : Option (List α) :=
  (fromSlice payload).filter fun values => values.length = numMessages

theorem readList_eq_some
    {fromSlice : Plain → Option (List α)}
    {numMessages : Nat}
    {payload : Plain}
    {values : List α} :
    readList fromSlice numMessages payload = some values ↔
      fromSlice payload = some values ∧ values.length = numMessages := by
  unfold readList
  rw [Option.filter_eq_some_iff, decide_eq_true_eq]

/-- A phase of the session, seen as a map that is filled: the state for a stored
map, and what the messages of signers do to the map until it is full. -/
structure ReceivingPhase
    (signers : Signers PublicKey Identifier)
    (wire : CoordinatorWire Plain Commitments Share)
    (read : Plain → Option (List α))
    (advance : FiniteMap Identifier (List α) →
      CoordinatorSessionState PublicKey Identifier Commitments Share)
    (done :
      CoordinatorSessionState PublicKey Identifier Commitments Share → Bool) :
    Prop where
  accepted : ∀ {map} msg {identifier values},
    map.keys ⊆ signers.identifiers → map.keys ≠ signers.identifiers →
      signers.pubkeys.lookup msg.sender = some identifier →
        read msg.msg = some values →
          (advance map).recv wire msg =
            (advance (map.insert identifier values), .ok ())
  rejected : ∀ {map} msg,
    map.keys ⊆ signers.identifiers → map.keys ≠ signers.identifiers →
      read msg.msg = none →
        ∃ error, (advance map).recv wire msg = (advance map, .error error)
  done_iff : ∀ {map}, map.keys ⊆ signers.identifiers →
    (done (advance map) ↔ map.keys = signers.identifiers)

variable (wire : CoordinatorWire Plain Commitments Share)
  (signers : Signers PublicKey Identifier)
  (numMessages : Nat)

theorem commitmentsPhase :
    ReceivingPhase signers wire
      (readList wire.fromSliceCommitments numMessages)
      (fun map => CoordinatorSessionState.advanceCommitments
        (sessionArgs numMessages signers) map signers.pubkeys)
      CoordinatorSessionState.hasCommitments where
  accepted := by
    intro map msg identifier values subset incomplete known isRead
    obtain ⟨decoded, length⟩ := readList_eq_some.mp isRead
    have waiting : map.keys.card ≠ signers.numSigners := by
      rw [ne_eq, Signers.card_keys_eq_iff subset]
      exact incomplete
    rw [CoordinatorSessionState.advanceCommitments, sessionArgs,
      if_neg waiting]
    simp [CoordinatorSessionState.recv,
      CoordinatorSessionState.handleCommitments, decoded, length, known]
  rejected := by
    intro map msg subset incomplete notRead
    have waiting : map.keys.card ≠ signers.numSigners := by
      rw [ne_eq, Signers.card_keys_eq_iff subset]
      exact incomplete
    rw [CoordinatorSessionState.advanceCommitments, sessionArgs,
      if_neg waiting]
    cases CoordinatorSessionState.recv_cases wire msg
        (.waitingForCommitments
          { numMessages := numMessages, numSigners := signers.numSigners } map
          signers.pubkeys) with
    | inl accepted =>
        obtain ⟨next, -, accepts⟩ := accepted
        cases accepts with
        | commitments decoded length known =>
            have isRead := readList_eq_some.mpr ⟨decoded, length⟩
            exact absurd (notRead.symm.trans isRead) (by simp)
    | inr rejected => exact rejected
  done_iff := by
    intro map subset
    rw [← Signers.card_keys_eq_iff subset,
      CoordinatorSessionState.advanceCommitments, sessionArgs]
    split_ifs with complete
    · exact iff_of_true rfl complete
    · exact iff_of_false Bool.false_ne_true complete

theorem sharesPhase
    {commitments : FiniteMap Identifier (List Commitments)}
    (full : commitments.keys = signers.identifiers) :
    ReceivingPhase signers wire
      (readList wire.fromSliceShares numMessages)
      (CoordinatorSessionState.advanceShares
        (sessionArgs numMessages signers) commitments signers.pubkeys)
      CoordinatorSessionState.hasSignatureShares where
  accepted := by
    intro map msg identifier values subset incomplete known isRead
    obtain ⟨decoded, length⟩ := readList_eq_some.mp isRead
    have committed : identifier ∈ commitments.keys := by
      rw [full]
      exact Signers.mem_identifiers known
    rw [CoordinatorSessionState.advanceShares, if_neg (full ▸ incomplete)]
    simp [CoordinatorSessionState.recv,
      CoordinatorSessionState.handleSignatureShare, decoded, length, known,
      committed, sessionArgs]
  rejected := by
    intro map msg subset incomplete notRead
    rw [CoordinatorSessionState.advanceShares, if_neg (full ▸ incomplete)]
    cases CoordinatorSessionState.recv_cases wire msg
        (.waitingForSignatureShares (sessionArgs numMessages signers)
          commitments signers.pubkeys map) with
    | inl accepted =>
        obtain ⟨next, -, accepts⟩ := accepted
        cases accepts with
        | shares decoded length known committed =>
            have isRead := readList_eq_some.mpr ⟨decoded, length⟩
            exact absurd (notRead.symm.trans isRead) (by simp)
    | inr rejected => exact rejected
  done_iff := by
    intro map subset
    rw [← full, CoordinatorSessionState.advanceShares]
    split_ifs with complete
    · exact iff_of_true rfl complete
    · exact iff_of_false Bool.false_ne_true complete

end Phases

section Gathered

variable [DecidableEq PublicKey] [DecidableEq Identifier]
  {readMessage : Noise → Payload → Noise × Option Plain}
  {wire : CoordinatorWire Plain Commitments Share}
  {signers : Signers PublicKey Identifier}
  {read : Plain → Option (List α)}
  {advance : FiniteMap Identifier (List α) →
    CoordinatorSessionState PublicKey Identifier Commitments Share}
  {done :
    CoordinatorSessionState PublicKey Identifier Commitments Share → Bool}

/-- What a loop has gathered from the messages processed so far, starting with
an empty map and the given cipher. -/
structure Gathered
    (readMessage : Noise → Payload → Noise × Option Plain)
    (signers : Signers PublicKey Identifier)
    (read : Plain → Option (List α))
    (cipher : Cipher PublicKey Noise)
    (msgs : List (Msg PublicKey Payload))
    (loop : LoopState PublicKey Identifier Commitments Share Noise)
    (map : FiniteMap Identifier (List α)) : Prop where
  noise : ∀ key, loop.cipher.recvNoiseMap.lookup key =
    (scan readMessage read cipher key (payloadsOf key msgs)).map Prod.fst
  entry : ∀ {key identifier},
    signers.pubkeys.lookup key = some identifier →
      map.lookup identifier =
        firstOf readMessage read cipher key (payloadsOf key msgs)
  seen : ∀ {key identifier},
    signers.pubkeys.lookup key = some identifier →
      (key ∈ loop.senders ↔ identifier ∈ map.keys)
  keys_subset : map.keys ⊆ signers.identifiers

/-- The cipher has a state for each signer and for nobody else. -/
def Cipher.Covers
    (cipher : Cipher PublicKey Noise)
    (signers : Signers PublicKey Identifier) : Prop :=
  cipher.recvNoiseMap.keys = signers.pubkeys.keys

omit [DecidableEq Identifier] in
theorem Cipher.Covers.exists_iff
    {cipher : Cipher PublicKey Noise}
    (covers : cipher.Covers signers)
    (key : PublicKey) :
    (∃ noise, cipher.recvNoiseMap.lookup key = some noise) ↔
      ∃ identifier, signers.pubkeys.lookup key = some identifier := by
  rw [← FiniteMap.mem_keys_iff_lookup, ← FiniteMap.mem_keys_iff_lookup, covers]

variable {cipher : Cipher PublicKey Noise}
  {msgs : List (Msg PublicKey Payload)}
  {msg : Msg PublicKey Payload}
  {loop next : LoopState PublicKey Identifier Commitments Share Noise}
  {map : FiniteMap Identifier (List α)}

namespace Gathered

theorem start
    (signers : Signers PublicKey Identifier)
    (session :
      CoordinatorSessionState PublicKey Identifier Commitments Share) :
    Gathered readMessage signers read cipher []
      { session := session, cipher := cipher, senders := ∅ } ∅ where
  noise := by
    intro key
    unfold scan
    rw [Option.map_map]
    cases cipher.recvNoiseMap.lookup key <;> rfl
  entry := by
    intro key identifier known
    cases isNoise : cipher.recvNoiseMap.lookup key <;>
      simp [firstOf, scan, payloadsOf, firstValid, isNoise]
  seen := by simp
  keys_subset := by simp

/-- A message changes the Noise state of its sender only. -/
theorem noise_append
    (gathered :
      Gathered readMessage signers read cipher msgs loop map)
    (others : ∀ key, key ≠ msg.sender →
      next.cipher.recvNoiseMap.lookup key =
        loop.cipher.recvNoiseMap.lookup key)
    (noise : next.cipher.recvNoiseMap.lookup msg.sender =
      (scan readMessage read cipher msg.sender
        (payloadsOf msg.sender msgs ++ [msg.msg])).map Prod.fst)
    (key : PublicKey) :
    next.cipher.recvNoiseMap.lookup key =
      (scan readMessage read cipher key
        (payloadsOf key (msgs ++ [msg]))).map Prod.fst := by
  rw [payloadsOf_append]
  by_cases same : msg.sender = key
  · subst same
    rw [payloadsOf_single_self, noise]
  · rw [payloadsOf_single_of_ne same, List.append_nil, ← gathered.noise,
      others key (Ne.symm same)]

/-- A message that leaves the map as it is. -/
theorem ignore
    (gathered :
      Gathered readMessage signers read cipher msgs loop map)
    (senders : next.senders = loop.senders)
    (others : ∀ key, key ≠ msg.sender →
      next.cipher.recvNoiseMap.lookup key =
        loop.cipher.recvNoiseMap.lookup key)
    (noise : next.cipher.recvNoiseMap.lookup msg.sender =
      (scan readMessage read cipher msg.sender
        (payloadsOf msg.sender msgs ++ [msg.msg])).map Prod.fst)
    (entry : firstOf readMessage read cipher msg.sender
        (payloadsOf msg.sender msgs ++ [msg.msg]) =
      firstOf readMessage read cipher msg.sender
        (payloadsOf msg.sender msgs)) :
    Gathered readMessage signers read cipher (msgs ++ [msg]) next map where
  noise := gathered.noise_append others noise
  entry := by
    intro key identifier known
    rw [payloadsOf_append, gathered.entry known]
    by_cases same : msg.sender = key
    · subst same
      rw [payloadsOf_single_self, entry]
    · rw [payloadsOf_single_of_ne same, List.append_nil]
  seen := by
    intro key identifier known
    rw [senders]
    exact gathered.seen known
  keys_subset := gathered.keys_subset

/-- The first valid message of a signer. -/
theorem store
    {identifier : Identifier}
    {values : List α}
    (gathered :
      Gathered readMessage signers read cipher msgs loop map)
    (senders : next.senders = insert msg.sender loop.senders)
    (others : ∀ key, key ≠ msg.sender →
      next.cipher.recvNoiseMap.lookup key =
        loop.cipher.recvNoiseMap.lookup key)
    (noise : next.cipher.recvNoiseMap.lookup msg.sender =
      (scan readMessage read cipher msg.sender
        (payloadsOf msg.sender msgs ++ [msg.msg])).map Prod.fst)
    (known : signers.pubkeys.lookup msg.sender = some identifier)
    (entry : firstOf readMessage read cipher msg.sender
      (payloadsOf msg.sender msgs ++ [msg.msg]) = some values) :
    Gathered readMessage signers read cipher (msgs ++ [msg]) next
      (map.insert identifier values) where
  noise := gathered.noise_append others noise
  entry := by
    intro key other keyKnown
    rw [payloadsOf_append, FiniteMap.lookup_insert_eq]
    by_cases same : msg.sender = key
    · subst same
      rw [payloadsOf_single_self, entry, if_pos]
      exact Option.some.inj (keyKnown.symm.trans known)
    · rw [payloadsOf_single_of_ne same, List.append_nil, if_neg,
        gathered.entry keyKnown]
      rintro rfl
      exact same (signers.injective _ _ _ known keyKnown)
  seen := by
    intro key other keyKnown
    rw [senders, FiniteMap.keys_insert, Finset.mem_insert, Finset.mem_insert,
      gathered.seen keyKnown]
    apply or_congr_left
    constructor
    · rintro rfl
      exact Option.some.inj (keyKnown.symm.trans known)
    · rintro rfl
      exact signers.injective _ _ _ keyKnown known
  keys_subset := by
    rw [FiniteMap.keys_insert]
    exact Finset.insert_subset (Signers.mem_identifiers known)
      gathered.keys_subset

/-- A message that changes nothing at all: its scan is over or never began. -/
theorem skip
    (gathered :
      Gathered readMessage signers read cipher msgs loop map)
    (same : scan readMessage read cipher msg.sender
        (payloadsOf msg.sender msgs ++ [msg.msg]) =
      scan readMessage read cipher msg.sender (payloadsOf msg.sender msgs)) :
    Gathered readMessage signers read cipher (msgs ++ [msg]) loop map := by
  apply gathered.ignore rfl (fun _ _ => rfl)
  · rw [same]
    exact gathered.noise msg.sender
  · unfold firstOf
    rw [same]

/-- An accepted sender has been scanned to the end. -/
theorem scan_of_seen
    {identifier : Identifier}
    (gathered :
      Gathered readMessage signers read cipher msgs loop map)
    (known : signers.pubkeys.lookup msg.sender = some identifier)
    (seen : msg.sender ∈ loop.senders) :
    scan readMessage read cipher msg.sender
        (payloadsOf msg.sender msgs ++ [msg.msg]) =
      scan readMessage read cipher msg.sender
        (payloadsOf msg.sender msgs) := by
  obtain ⟨values, isValues⟩ := FiniteMap.mem_keys_iff_lookup.mp
    ((gathered.seen known).mp seen)
  rw [gathered.entry known] at isValues
  obtain ⟨⟨noise, result⟩, scanned, isResult⟩ :=
    Option.bind_eq_some_iff.mp isValues
  obtain rfl : result = some values := isResult
  rw [scanned]
  exact scan_append_of_some scanned [msg.msg]

/-- A sender that is not accepted yet has sent nothing valid yet. -/
theorem scan_of_not_seen
    {identifier : Identifier}
    {noise : Noise}
    (gathered :
      Gathered readMessage signers read cipher msgs loop map)
    (known : signers.pubkeys.lookup msg.sender = some identifier)
    (notSeen : msg.sender ∉ loop.senders)
    (isNoise : loop.cipher.recvNoiseMap.lookup msg.sender = some noise) :
    scan readMessage read cipher msg.sender (payloadsOf msg.sender msgs) =
      some (noise, none) := by
  rw [gathered.noise] at isNoise
  obtain ⟨⟨_, result⟩, scanned, rfl⟩ := Option.map_eq_some_iff.mp isNoise
  rw [scanned]
  have missing : map.lookup identifier = none :=
    FiniteMap.lookup_eq_none_of_notMem fun member =>
      notSeen ((gathered.seen known).mpr member)
  rw [gathered.entry known, firstOf, scanned, Option.bind_some] at missing
  rw [show result = none from missing]

/-- One more message of a signer that is not accepted yet. -/
theorem receiveMsg_unseen
    {identifier : Identifier}
    {noise : Noise}
    (phase : ReceivingPhase signers wire read advance done)
    (gathered :
      Gathered readMessage signers read cipher msgs loop map)
    (isSession : loop.session = advance map)
    (known : signers.pubkeys.lookup msg.sender = some identifier)
    (notSeen : msg.sender ∉ loop.senders)
    (isNoise : loop.cipher.recvNoiseMap.lookup msg.sender = some noise) :
    ∃ stored,
      Gathered readMessage signers read cipher (msgs ++ [msg])
        (loop.receiveMsg readMessage wire msg) stored ∧
      (loop.receiveMsg readMessage wire msg).session = advance stored := by
  have nothing := gathered.scan_of_not_seen known notSeen isNoise
  have scanned := scan_append_single nothing msg.msg
  have before : firstOf readMessage read cipher msg.sender
      (payloadsOf msg.sender msgs) = none := by
    rw [firstOf, nothing, Option.bind_some]
  have incomplete : map.keys ≠ signers.identifiers := by
    intro complete
    apply notSeen
    rw [gathered.seen known, complete]
    exact Signers.mem_identifiers known
  have others : ∀ key, key ≠ msg.sender →
      (loop.cipher.recvNoiseMap.insert msg.sender
        (readMessage noise msg.msg).1).lookup key =
          loop.cipher.recvNoiseMap.lookup key :=
    fun key other => Finmap.lookup_insert_of_ne _ other
  have noiseEq : (loop.cipher.recvNoiseMap.insert msg.sender
      (readMessage noise msg.msg).1).lookup msg.sender =
        (scan readMessage read cipher msg.sender
          (payloadsOf msg.sender msgs ++ [msg.msg])).map Prod.fst := by
    rw [scanned]
    exact Finmap.lookup_insert _
  unfold LoopState.receiveMsg Cipher.decrypt
  rw [if_neg notSeen, isNoise]
  dsimp only
  cases decrypted : (readMessage noise msg.msg).2 with
  | none =>
      refine ⟨map, gathered.ignore rfl others noiseEq ?_, isSession⟩
      rw [before, firstOf, scanned, decrypted]
      rfl
  | some plain =>
      cases isRead : read plain with
      | none =>
          obtain ⟨error, rejected⟩ := phase.rejected
            { sender := msg.sender, msg := plain }
            gathered.keys_subset incomplete isRead
          rw [isSession]
          dsimp only
          rw [rejected]
          refine ⟨map, gathered.ignore rfl others noiseEq ?_, rfl⟩
          rw [before, firstOf, scanned, decrypted]
          exact isRead
      | some values =>
          have accepted := phase.accepted
            { sender := msg.sender, msg := plain }
            gathered.keys_subset incomplete known isRead
          rw [isSession]
          dsimp only
          rw [accepted]
          refine ⟨_, gathered.store rfl others noiseEq known ?_, rfl⟩
          rw [firstOf, scanned, decrypted]
          exact isRead

/-- One more message. -/
theorem receiveMsg
    (phase : ReceivingPhase signers wire read advance done)
    (covers : cipher.Covers signers)
    (gathered :
      Gathered readMessage signers read cipher msgs loop map)
    (isSession : loop.session = advance map)
    (msg : Msg PublicKey Payload) :
    ∃ stored,
      Gathered readMessage signers read cipher (msgs ++ [msg])
        (loop.receiveMsg readMessage wire msg) stored ∧
      (loop.receiveMsg readMessage wire msg).session = advance stored := by
  cases isNoise : loop.cipher.recvNoiseMap.lookup msg.sender with
  | none =>
      -- an unknown sender: it is skipped or cannot be decrypted
      have unchanged : loop.receiveMsg readMessage wire msg = loop := by
        unfold LoopState.receiveMsg Cipher.decrypt
        rw [isNoise]
        exact ite_self loop
      rw [unchanged]
      refine ⟨map, gathered.skip ?_, isSession⟩
      rw [gathered.noise, Option.map_eq_none_iff] at isNoise
      rw [isNoise, scan_eq_none_iff]
      exact scan_eq_none_iff.mp isNoise
  | some noise =>
      have hasState : ∃ start,
          cipher.recvNoiseMap.lookup msg.sender = some start := by
        rw [← Option.isSome_iff_exists, Option.isSome_iff_ne_none]
        intro unknown
        rw [gathered.noise, scan_eq_none_iff.mpr unknown] at isNoise
        exact absurd isNoise (by simp)
      obtain ⟨identifier, known⟩ := (covers.exists_iff msg.sender).mp hasState
      by_cases seen : msg.sender ∈ loop.senders
      · have unchanged : loop.receiveMsg readMessage wire msg = loop :=
          if_pos seen
        rw [unchanged]
        exact ⟨map, gathered.skip (gathered.scan_of_seen known seen),
          isSession⟩
      · exact gathered.receiveMsg_unseen phase isSession known seen isNoise

/-- A list of messages. -/
theorem foldl_receiveMsg
    (phase : ReceivingPhase signers wire read advance done)
    (covers : cipher.Covers signers)
    (gathered :
      Gathered readMessage signers read cipher msgs loop map)
    (isSession : loop.session = advance map)
    (more : List (Msg PublicKey Payload)) :
    ∃ stored,
      Gathered readMessage signers read cipher (msgs ++ more)
        (more.foldl (LoopState.receiveMsg readMessage wire) loop) stored ∧
      (more.foldl (LoopState.receiveMsg readMessage wire) loop).session =
        advance stored := by
  induction more generalizing msgs loop map with
  | nil =>
      rw [List.append_nil]
      exact ⟨map, gathered, isSession⟩
  | cons msg more ih =>
      obtain ⟨stored, next, isNext⟩ :=
        gathered.receiveMsg phase covers isSession msg
      rw [List.append_cons, List.foldl_cons]
      exact ih next isNext

/-- The map is full when every signer has sent something valid. -/
theorem full_iff
    (gathered :
      Gathered readMessage signers read cipher msgs loop map) :
    map.keys = signers.identifiers ↔
      ∀ key ∈ signers.pubkeys.keys,
        (firstOf readMessage read cipher key (payloadsOf key msgs)).isSome := by
  constructor
  · intro full key member
    obtain ⟨identifier, known⟩ := FiniteMap.mem_keys_iff_lookup.mp member
    rw [← gathered.entry known, Option.isSome_iff_exists,
      ← FiniteMap.mem_keys_iff_lookup, full]
    exact Signers.mem_identifiers known
  · intro all
    apply Finset.Subset.antisymm gathered.keys_subset
    intro identifier member
    obtain ⟨key, known⟩ := FiniteMap.mem_values.mp member
    have sent := all key (FiniteMap.mem_keys_iff_lookup.mpr ⟨_, known⟩)
    rw [← gathered.entry known, Option.isSome_iff_exists] at sent
    exact FiniteMap.mem_keys_iff_lookup.mpr sent

end Gathered

end Gathered

end Coordinator
end MinaMultiSig
