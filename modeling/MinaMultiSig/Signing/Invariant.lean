import MinaMultiSig.Signing.Stages

/-!
# Every stage is reached as it should be

Every step of a coordinator or a participant takes its part of the network from
what its stage has sent and received to what the next stage has.
-/

namespace MinaMultiSig
namespace Signing

open Coordinator (CoordinatorSessionState Signers readList sessionArgs)

variable {PublicKey Identifier Commitments Share Args Signature : Type}
  {Payload Ephemeral Message ε Coordination Run : Type}
  {snow : Channel.Snow PublicKey Ephemeral Payload Message}
variable [DecidableEq PublicKey] [DecidableEq Ephemeral]
  [DecidableEq Message] [DecidableEq Coordination] [DecidableEq Run]

variable {setup : Setup Identifier Commitments Share Args Signature ε snow
    Coordination Run}
  {channel after : Channel.World snow (Coordination ⊕ Run)}

/-- Reading sends nothing. -/
theorem sent_viewOf
    {index : Coordination ⊕ Run}
    {peers : Finset PublicKey}
    (reads : setup.network.Read index peers channel after) :
    (viewOf after index).sent = (viewOf channel index).sent := by
  funext key
  exact congrFun reads.sent (index, key)

/-- A cipher is made where there was none. -/
theorem setCipher_of_new
    (documented : setup.noiseK.Documented)
    (reachable : setup.network.system.Reachable channel)
    (index : Coordination ⊕ Run)
    (peers : List PublicKey)
    (silent : (viewOf channel index).Silent) :
    ∃ cipher,
      Channel.Cipher.new (setup.network.privateKey index) peers = .ok cipher ∧
        setup.network.system.Reachable (channel.setCipher index cipher) ∧
        Channel.Network.MadeFor index peers.toFinset
          (channel.setCipher index cipher) := by
  obtain ⟨cipher, isNew, -, keys⟩ := Channel.NoiseK.exists_new documented
    (setup.network.privateKey index) peers
  have stepped : setup.network.system.step channel (.new index peers) =
      some (channel.setCipher index cipher) := by
    have unmade : channel.ciphers index = none := silent.unmade
    simp only [Channel.Network.system, Channel.Network.step, unmade, isNew]
  exact ⟨cipher, isNew, reachable.step stepped, cipher,
    Function.update_self _ _ _, keys⟩

section Participant

variable {run : Run} {coordinator : PublicKey} {ephemeral : Ephemeral}

/-- Sending to the only peer: the payload is sent, or it may be if there is an
error. -/
theorem sent_of_sendToCoordinator
    (documented : setup.noiseK.Documented)
    (reachable : setup.network.system.Reachable channel)
    (made : Channel.Network.MadeFor (.inr run) {coordinator} channel)
    (fresh : channel.author ephemeral = none)
    {payload : Payload}
    {result : Outcome (ParticipantError ε) Unit}
    (sent : Setup.sendToCoordinator run channel ephemeral (some payload) =
      (after, result)) :
    setup.network.Sent (.inr run) {coordinator} [(coordinator, payload)] channel
        after ∧
      (result = .ok () → ∀ key, after.sent (.inr run, key) =
        channel.sent (.inr run, key) ++
          Channel.payloadsTo key [(coordinator, payload)]) := by
  cases encrypted : channel.encrypt (.inr run) ephemeral none payload with
  | mk middle outcome =>
    simp only [Setup.sendToCoordinator, encrypted, Prod.mk.injEq] at sent
    obtain ⟨rfl, rfl⟩ := sent
    rw [Channel.Network.encrypt_none made] at encrypted
    have sentAll : channel.sendAll (.inr run) [ephemeral]
        [(coordinator, payload)] =
          some (middle, outcome.map fun _ => ()) := by
      unfold Channel.World.sendAll
      rw [if_pos fresh, encrypted]
      cases outcome with
      | ok message => rfl
      | error failure => rfl
    obtain ⟨effect, complete⟩ := Channel.Network.sent_of_sendAll documented
      reachable made sentAll
    refine ⟨effect, fun isOk => complete ?_⟩
    exact Outcome.mapError_eq_ok.mp isOk

/-- What is sent to the only peer, if an error may cut it short. -/
theorem exists_sentTo
    {index : Coordination ⊕ Run}
    {before : List Payload}
    {payload : Payload}
    (sentTo : (viewOf channel index).SentTo {coordinator} before)
    (sent : setup.network.Sent index {coordinator} [(coordinator, payload)]
      channel after) :
    ∃ payloads, payloads <+: before ++ [payload] ∧
      (viewOf after index).SentTo {coordinator} payloads := by
  have isBefore : channel.sent (index, coordinator) = before :=
    (sentTo coordinator).trans (if_pos (Finset.mem_singleton_self coordinator))
  refine ⟨after.sent (index, coordinator), ?_, ?_⟩
  · have isPrefix := sent.sent_isPrefix coordinator
    rwa [isBefore, Channel.payloadsTo_cons, if_pos rfl] at isPrefix
  · intro key
    split_ifs with member
    · rw [Finset.mem_singleton.mp member]
      rfl
    · have other : coordinator ≠ key :=
        fun same => member (Finset.mem_singleton.mpr same.symm)
      have nothing : channel.sent (index, key) = [] :=
        (sentTo key).trans (if_neg member)
      have isPrefix := sent.sent_isPrefix key
      rw [nothing, Channel.payloadsTo_cons, if_neg other] at isPrefix
      exact List.prefix_nil.mp isPrefix

omit [DecidableEq Ephemeral] [DecidableEq Message]
  [DecidableEq Coordination] [DecidableEq Run] in
/-- What is sent to the only peer, without an error. -/
theorem sentTo_concat
    {index : Coordination ⊕ Run}
    {before : List Payload}
    {payload : Payload}
    (sentTo : (viewOf channel index).SentTo {coordinator} before)
    (sent : ∀ key, after.sent (index, key) = channel.sent (index, key) ++
      Channel.payloadsTo key [(coordinator, payload)]) :
    (viewOf after index).SentTo {coordinator} (before ++ [payload]) := by
  intro key
  have isBefore : channel.sent (index, key) =
      if key ∈ ({coordinator} : Finset PublicKey) then before else [] :=
    sentTo key
  have isAfter : (viewOf after index).sent key =
      channel.sent (index, key) ++
        Channel.payloadsTo key [(coordinator, payload)] := sent key
  rw [isAfter, isBefore, Channel.payloadsTo_cons]
  by_cases same : coordinator = key
  · subst same
    simp [Channel.payloadsTo]
  · simp [same, Ne.symm same, Channel.payloadsTo]

/-- A participant joins. -/
theorem state_of_join
    (documented : setup.noiseK.Documented)
    (reachable : setup.network.system.Reachable channel)
    (silent : (viewOf channel (.inr run)).Silent)
    (fresh : channel.author ephemeral = none)
    {stage : ParticipantStage PublicKey ε}
    (joined : setup.join run channel coordinator ephemeral = (after, stage)) :
    setup.network.system.Reachable after ∧
      Channel.World.OnlyMoved (.inr run) channel after ∧
      ParticipantState setup run (viewOf after (.inr run)) stage := by
  unfold Setup.join at joined
  split_ifs at joined with contact
  · obtain ⟨cipher, isNew, newReachable, made⟩ :=
      setCipher_of_new documented reachable (.inr run) [coordinator] silent
    have isNew : Channel.Cipher.new (setup.participantKey run) [coordinator] =
        .ok cipher := isNew
    have setOnly : Channel.World.OnlyMoved (.inr run) channel
        (channel.setCipher (.inr run) cipher) := .setCipher cipher
    have unsent : (viewOf (channel.setCipher (.inr run) cipher)
        (.inr run)).SentTo {coordinator} [] := by
      intro key
      rw [ite_self]
      exact silent.sent key
    rw [isNew] at joined
    dsimp only at joined
    cases isFirst : setup.wire.toVecCommitments [setup.commitments run] with
    | none =>
        simp only [isFirst, Setup.sendToCoordinator, Prod.mk.injEq] at joined
        obtain ⟨rfl, rfl⟩ := joined
        exact ⟨newReachable, setOnly, .ended (.nothing silent.sent)⟩
    | some first =>
        cases sent : (Setup.sendToCoordinator run
            (channel.setCipher (.inr run) cipher) ephemeral (some first) :
            _ × Outcome (ParticipantError ε) Unit) with
        | mk middle result =>
          simp only [isFirst, sent] at joined
          obtain ⟨effect, complete⟩ := sent_of_sendToCoordinator documented
            newReachable (by simpa using made) fresh sent
          cases result with
          | error failure =>
              obtain ⟨rfl, rfl⟩ := Prod.mk.inj joined
              obtain ⟨payloads, start, sentTo⟩ := exists_sentTo unsent effect
              refine ⟨effect.reachable, setOnly.trans effect.onlyMoved,
                .ended ?_⟩
              rcases List.prefix_cons_iff.mp start with rfl | ⟨rest, rfl, isNil⟩
              · exact .nothing fun key => (sentTo key).trans (ite_self _)
              · rw [List.prefix_nil.mp isNil] at sentTo
                exact .commitments isFirst sentTo
          | ok value =>
              obtain ⟨rfl, rfl⟩ := Prod.mk.inj joined
              refine ⟨effect.reachable, setOnly.trans effect.onlyMoved,
                .waiting effect.made isFirst
                  (sentTo_concat unsent (complete rfl)) ?_⟩
              intro key
              exact (congrFun effect.received (.inr run, key)).trans
                (silent.received key)
  · obtain ⟨rfl, rfl⟩ := Prod.mk.inj joined
    exact ⟨reachable, .refl _, .ended (.nothing silent.sent)⟩

/-- A participant that waits handles a message. -/
theorem said_of_participantReceive
    (documented : setup.noiseK.Documented)
    (reachable : setup.network.system.Reachable channel)
    (state : ParticipantState setup run (viewOf channel (.inr run))
      (.waiting coordinator))
    (fresh : channel.author ephemeral = none)
    {msg : Msg PublicKey Message}
    (delivered : setup.network.CanDeliver channel msg.msg)
    {result : Outcome (ParticipantError ε) Unit}
    (handled : setup.participantReceive run channel msg ephemeral =
      (after, result)) :
    setup.network.system.Reachable after ∧
      Channel.World.OnlyMoved (.inr run) channel after ∧
      Said setup run (viewOf after (.inr run)) := by
  cases state with
  | @waiting _ first made isFirst sentFirst unread =>
    obtain ⟨middle, outcome, decrypted, read, effect⟩ :=
      Channel.Network.read_of_decrypt documented reachable made delivered
    have freshMiddle : middle.author ephemeral = none := by
      have author := Channel.Network.author_decrypt setup.network channel
        (.inr run) msg
      rw [decrypted] at author
      rw [show middle.author = channel.author from author]
      exact fresh
    have sentMiddle : (viewOf middle (.inr run)).SentTo {coordinator}
        [first] := by
      intro key
      exact (congrFun read.sent (.inr run, key)).trans (sentFirst key)
    have stopped : Said setup run (viewOf middle (.inr run)) :=
      .commitments isFirst sentMiddle
    unfold Setup.participantReceive at handled
    rw [decrypted] at handled
    rcases effect with ⟨payload, rfl, peer, received⟩ |
      ⟨failure, rfl, received⟩
    · obtain isSender : msg.sender = coordinator := Finset.mem_singleton.mp peer
      dsimp only at handled
      cases isArgs : setup.wire.fromSliceArgs payload with
      | none =>
          simp only [isArgs, Prod.mk.injEq] at handled
          obtain ⟨rfl, -⟩ := handled
          exact ⟨read.reachable, read.onlyMoved, stopped⟩
      | some args =>
          cases signed : setup.sign run args with
          | error failure =>
              simp only [isArgs, signed, Prod.mk.injEq] at handled
              obtain ⟨rfl, -⟩ := handled
              exact ⟨read.reachable, read.onlyMoved, stopped⟩
          | ok share =>
              simp only [isArgs, signed] at handled
              cases isSecond : setup.wire.toVecShares [share] with
              | none =>
                  simp only [isSecond, Setup.sendToCoordinator,
                    Prod.mk.injEq] at handled
                  obtain ⟨rfl, -⟩ := handled
                  exact ⟨read.reachable, read.onlyMoved, stopped⟩
              | some second =>
                  rw [isSecond] at handled
                  obtain ⟨sent, -⟩ := sent_of_sendToCoordinator documented
                    read.reachable read.made freshMiddle handled
                  obtain ⟨payloads, start, sentTo⟩ :=
                    exists_sentTo sentMiddle sent
                  refine ⟨sent.reachable, read.onlyMoved.trans sent.onlyMoved,
                    ?_⟩
                  rcases List.prefix_cons_iff.mp start with
                    rfl | ⟨rest, rfl, behind⟩
                  · exact .nothing fun key => (sentTo key).trans (ite_self _)
                  · rcases List.prefix_cons_iff.mp behind with
                      rfl | ⟨tail, rfl, isNil⟩
                    · exact .commitments isFirst sentTo
                    · rw [List.prefix_nil.mp isNil] at sentTo
                      refine .answered ⟨signed,
                        ⟨first, second, isFirst, isSecond, sentTo⟩, payload, ?_,
                        isArgs⟩
                      subst isSender
                      change after.received (.inr run, msg.sender) = [payload]
                      rw [sent.received, received, Function.update_self,
                        show channel.received (.inr run, msg.sender) = [] from
                          unread msg.sender]
                      rfl
    · simp only [Prod.mk.injEq] at handled
      obtain ⟨rfl, -⟩ := handled
      exact ⟨read.reachable, read.onlyMoved, stopped⟩

end Participant

section Coordinator

variable [DecidableEq Identifier]
variable {coordination : Coordination} {batch : List (Msg PublicKey Message)}
  {ephemerals : List Ephemeral}

omit [DecidableEq Identifier] [DecidableEq Ephemeral] [DecidableEq Message]
  [DecidableEq Coordination] [DecidableEq Run] in
/-- The payload of a coordinator for each of its signers. -/
theorem payloadsTo_order
    (setup : Setup Identifier Commitments Share Args Signature ε snow
      Coordination Run)
    (coordination : Coordination)
    (payload : Payload)
    (key : PublicKey) :
    Channel.payloadsTo key ((setup.order coordination).map (·, payload)) =
      if key ∈ (setup.signers coordination).pubkeys.keys then [payload]
      else [] := by
  have flat : (setup.order coordination).map (·, payload) =
      (setup.order coordination).flatMap fun other =>
        [payload].map (other, ·) := by
    rw [List.map_eq_flatMap]
    rfl
  rw [flat, Channel.payloadsTo_flatMap key _ (setup.order_nodup coordination)]
  simp only [setup.mem_order]

/-- The session before the second loop is the one with no shares. -/
theorem advanceShares_empty
    {signers : Signers PublicKey Identifier}
    {stored : FiniteMap Identifier (List Commitments)}
    (full : stored.keys = signers.identifiers) :
    (CoordinatorSessionState.advanceCommitments (sessionArgs 1 signers) stored
        signers.pubkeys :
        CoordinatorSessionState PublicKey Identifier Commitments Share) =
      .advanceShares (sessionArgs 1 signers) stored signers.pubkeys ∅ := by
  rw [Coordinator.advanceCommitments_of_full full,
    CoordinatorSessionState.advanceShares, if_neg]
  rw [full]
  exact Coordinator.empty_keys_ne

/-- Behind the first loop the arguments are sent. -/
theorem state_of_sendSigningPackage
    (documented : setup.noiseK.Documented)
    {start : Channel.World snow (Coordination ⊕ Run)}
    {loop : Loop Identifier Commitments Share snow (Coordination ⊕ Run)}
    {map : FiniteMap Identifier (List Commitments)}
    {received : PublicKey → List Payload}
    (unsent : ∀ key, start.sent (.inl coordination, key) = [])
    (reads : setup.network.Read (.inl coordination)
      (setup.signers coordination).pubkeys.keys start loop.channel)
    (isReceived : ∀ key,
      loop.channel.received (.inl coordination, key) = received key)
    (collected : Collected (setup.signers coordination)
      (readList setup.wire.fromSliceCommitments 1) received loop.senders map)
    (isSession : loop.session = .advanceCommitments
      (sessionArgs 1 (setup.signers coordination)) map
      (setup.signers coordination).pubkeys)
    (full : map.keys = (setup.signers coordination).identifiers)
    {stage :
      CoordinatorStage PublicKey Identifier Commitments Share Signature ε}
    (sent : setup.sendSigningPackage coordination loop ephemerals =
      some (after, stage)) :
    setup.network.system.Reachable after ∧
      Channel.World.OnlyMoved (.inl coordination) start after ∧
      CoordinatorState setup coordination (viewOf after (.inl coordination))
        stage := by
  have isCommitments : onlyCommitments loop.session =
      .ok (FiniteMap.filterMap (fun values => values[0]?) map) := by
    unfold onlyCommitments
    rw [isSession, Coordinator.commitments_of_full collected.filled full]
    rfl
  have unsentLoop : ∀ key,
      loop.channel.sent (.inl coordination, key) = [] := by
    intro key
    rw [reads.sent]
    exact unsent key
  unfold Setup.sendSigningPackage at sent
  rw [isCommitments] at sent
  dsimp only at sent
  cases isPayload : setup.wire.toVecArgs (setup.signingArgs coordination
      (FiniteMap.filterMap (fun values => values[0]?) map)) with
  | none =>
      simp only [isPayload, Option.some.injEq, Prod.mk.injEq] at sent
      obtain ⟨rfl, rfl⟩ := sent
      exact ⟨reads.reachable, reads.onlyMoved,
        .failed fun key => .inl (unsentLoop key)⟩
  | some payload =>
      simp only [isPayload] at sent
      obtain ⟨⟨channel, result⟩, isSent, isNext⟩ :=
        Option.map_eq_some_iff.mp sent
      obtain ⟨effect, complete⟩ := Channel.Network.sent_of_sendAll documented
        reads.reachable reads.made isSent
      have entries := collected.entries full
      cases result with
      | error failure =>
          obtain ⟨rfl, rfl⟩ := Prod.mk.inj isNext
          refine ⟨effect.reachable, reads.onlyMoved.trans effect.onlyMoved,
            .failed ?_⟩
          intro key
          have start := effect.sent_isPrefix key
          rw [unsentLoop, payloadsTo_order, List.nil_append] at start
          split_ifs at start with member
          · rcases List.prefix_cons_iff.mp start with
              isNil | ⟨rest, isCons, behind⟩
            · exact .inl isNil
            · rw [List.prefix_nil.mp behind] at isCons
              exact .inr ⟨_, payload, member, entries.keys_eq, isPayload,
                isCons⟩
          · exact .inl (List.prefix_nil.mp start)
      | ok value =>
          obtain ⟨rfl, rfl⟩ := Prod.mk.inj isNext
          refine ⟨effect.reachable, reads.onlyMoved.trans effect.onlyMoved,
            .gettingShares effect.made ⟨entries, payload, isPayload, ?_⟩
              (fun key => ?_) .empty full
              (isSession.trans (advanceShares_empty full))⟩
          · intro key
            change channel.sent (.inl coordination, key) = _
            rw [complete rfl, unsentLoop, payloadsTo_order, List.nil_append]
          · change channel.received (.inl coordination, key) = _
            rw [effect.received, isReceived, List.append_nil]

omit [DecidableEq Ephemeral] [DecidableEq Message]
  [DecidableEq Coordination] [DecidableEq Run] in
theorem Requested.of_sent
    {commitments : FiniteMap Identifier Commitments}
    {received : PublicKey → List Payload}
    {view nextView : View snow}
    (requested : Requested setup coordination commitments received view)
    (same : nextView.sent = view.sent) :
    Requested setup coordination commitments received nextView := by
  obtain ⟨payload, isPayload, sent⟩ := requested.sent
  refine ⟨requested.entries, payload, isPayload, ?_⟩
  intro key
  rw [same]
  exact sent key

/-- A coordinator handles a batch. -/
theorem state_of_coordinatorReceive
    (documented : setup.noiseK.Documented)
    (reachable : setup.network.system.Reachable channel)
    {stage nextStage :
      CoordinatorStage PublicKey Identifier Commitments Share Signature ε}
    (state : CoordinatorState setup coordination
      (viewOf channel (.inl coordination)) stage)
    (delivered : ∀ msg ∈ batch, setup.network.CanDeliver channel msg.msg)
    (handled : setup.coordinatorReceive coordination channel stage batch
      ephemerals = some (after, nextStage)) :
    setup.network.system.Reachable after ∧
      Channel.World.OnlyMoved (.inl coordination) channel after ∧
      CoordinatorState setup coordination (viewOf after (.inl coordination))
        nextStage := by
  cases state with
  | starting => exact absurd handled (by simp [Setup.coordinatorReceive])
  | failed => exact absurd handled (by simp [Setup.coordinatorReceive])
  | concluded => exact absurd handled (by simp [Setup.coordinatorReceive])
  | @gettingCommitments session senders map made unsent collected isSession =>
      have phase := Coordinator.commitmentsPhase
        setup.wire.toCoordinatorWire (setup.signers coordination) 1
      have looping := (Looping.mk (.refl reachable made)
        ⟨_, map, fun key => (List.nil_append _).symm, collected, isSession⟩ :
        Looping setup.network (.inl coordination) (setup.signers coordination)
          _ _ (fun _ => []) channel
          { channel := channel, session := session, senders := senders }
        ).foldl_receiveMsg documented phase delivered
      obtain ⟨received, stored, isReceived, gathered, isNext⟩ :=
        looping.collected
      unfold Setup.coordinatorReceive at handled
      dsimp only at handled
      split_ifs at handled with complete
      · rw [isNext, phase.done_iff gathered.keys_subset] at complete
        exact state_of_sendSigningPackage documented unsent looping.reads
          (fun key => by rw [isReceived, List.nil_append]) gathered isNext
          complete handled
      · simp only [Option.some.injEq, Prod.mk.injEq] at handled
        obtain ⟨rfl, rfl⟩ := handled
        refine ⟨looping.reads.reachable, looping.reads.onlyMoved,
          .gettingCommitments looping.reads.made ?_ ?_ isNext⟩
        · intro key
          rw [sent_viewOf looping.reads]
          exact unsent key
        · convert gathered using 1
          funext key
          exact (isReceived key).trans (List.nil_append _)
  | @gettingShares commitments session senders before received stored map made
      requested isReceived collected full isSession =>
      have phase := Coordinator.sharesPhase setup.wire.toCoordinatorWire
        (setup.signers coordination) 1 full
      have looping := (Looping.mk (.refl reachable made)
        ⟨received, map, isReceived, collected, isSession⟩ :
        Looping setup.network (.inl coordination) (setup.signers coordination)
          _ _ before channel
          { channel := channel, session := session, senders := senders }
        ).foldl_receiveMsg documented phase delivered
      obtain ⟨receivedNext, mapNext, isReceivedNext, gathered, isNext⟩ :=
        looping.collected
      have requestedNext := requested.of_sent (sent_viewOf looping.reads)
      unfold Setup.coordinatorReceive at handled
      dsimp only at handled
      split_ifs at handled with complete
      · rw [isNext, phase.done_iff gathered.keys_subset] at complete
        simp only [Option.some.injEq, Prod.mk.injEq] at handled
        obtain ⟨rfl, rfl⟩ := handled
        refine ⟨looping.reads.reachable, looping.reads.onlyMoved, ?_⟩
        have isShares : onlyShares (batch.foldl
            (Loop.receiveMsg setup.network setup.wire.toCoordinatorWire
              (.inl coordination))
            { channel := channel, session := session, senders := senders }
            ).session =
            .ok (FiniteMap.filterMap (fun values => values[0]?) mapNext) := by
          unfold onlyShares
          rw [isNext, Coordinator.signatureShares_of_full gathered.filled
            (complete.trans full.symm)]
          rfl
        unfold Setup.conclude
        rw [isShares]
        exact .concluded requestedNext isReceivedNext
          (gathered.entries complete)
      · simp only [Option.some.injEq, Prod.mk.injEq] at handled
        obtain ⟨rfl, rfl⟩ := handled
        exact ⟨looping.reads.reachable, looping.reads.onlyMoved,
          .gettingShares looping.reads.made requestedNext isReceivedNext
            gathered full isNext⟩

end Coordinator

section Invariant

variable [DecidableEq Identifier]

/-- Every coordinator and every participant has sent and received what belongs to
its stage. -/
structure Invariant
    (setup : Setup Identifier Commitments Share Args Signature ε snow
      Coordination Run)
    (world : World Identifier Commitments Share Signature ε snow
      Coordination Run) : Prop where
  reachable : setup.network.system.Reachable world.channel
  coordinators : ∀ coordination, CoordinatorState setup coordination
    (viewOf world.channel (.inl coordination)) (world.coordinators coordination)
  participants : ∀ run, ParticipantState setup run
    (viewOf world.channel (.inr run)) (world.participants run)

variable {world next : World Identifier Commitments Share Signature ε snow
  Coordination Run}

namespace Invariant

theorem initial : Invariant setup Setup.initial where
  reachable := .initial
  coordinators := fun _ => .starting ⟨rfl, fun _ => rfl, fun _ => rfl⟩
  participants := fun _ => .starting ⟨rfl, fun _ => rfl, fun _ => rfl⟩

/-- A coordinator moves on. -/
theorem moveCoordinator
    (invariant : Invariant setup world)
    {coordination : Coordination}
    {stage :
      CoordinatorStage PublicKey Identifier Commitments Share Signature ε}
    (reachable : setup.network.system.Reachable channel)
    (onlyMoved : Channel.World.OnlyMoved (.inl coordination) world.channel
      channel)
    (state : CoordinatorState setup coordination
      (viewOf channel (.inl coordination)) stage) :
    Invariant setup
      { world with
        channel := channel
        coordinators :=
          Function.update world.coordinators coordination stage } where
  reachable := reachable
  coordinators := by
    intro other
    by_cases same : other = coordination
    · subst same
      simp only [Function.update_self]
      exact state
    · simp only [Function.update_of_ne same]
      rw [viewOf_of_onlyMoved onlyMoved (by simpa using same)]
      exact invariant.coordinators other
  participants := by
    intro run
    dsimp only
    rw [viewOf_of_onlyMoved onlyMoved (by simp)]
    exact invariant.participants run

/-- A participant moves on. -/
theorem moveParticipant
    (invariant : Invariant setup world)
    {run : Run}
    {stage : ParticipantStage PublicKey ε}
    (reachable : setup.network.system.Reachable channel)
    (onlyMoved : Channel.World.OnlyMoved (.inr run) world.channel channel)
    (state : ParticipantState setup run (viewOf channel (.inr run)) stage) :
    Invariant setup
      { world with
        channel := channel
        participants := Function.update world.participants run stage } where
  reachable := reachable
  coordinators := by
    intro coordination
    dsimp only
    rw [viewOf_of_onlyMoved onlyMoved (by simp)]
    exact invariant.coordinators coordination
  participants := by
    intro other
    by_cases same : other = run
    · subst same
      simp only [Function.update_self]
      exact state
    · simp only [Function.update_of_ne same]
      rw [viewOf_of_onlyMoved onlyMoved (by simpa using same)]
      exact invariant.participants other

theorem step
    (documented : setup.noiseK.Documented)
    (invariant : Invariant setup world)
    {action : Action PublicKey Ephemeral Message Coordination Run}
    (stepped : setup.step world action = some next) :
    Invariant setup next := by
  cases action with
  | start coordination =>
      unfold Setup.step at stepped
      have state := invariant.coordinators coordination
      cases stage : world.coordinators coordination with
      | starting =>
          simp only [stage] at stepped state
          cases state with
          | starting silent =>
            obtain ⟨cipher, isNew, reachable, made⟩ := setCipher_of_new
              documented invariant.reachable (.inl coordination)
              (setup.order coordination) silent
            have isNew : Channel.Cipher.new (setup.coordinatorKey coordination)
                (setup.order coordination) = .ok cipher := isNew
            rw [isNew] at stepped
            obtain rfl := Option.some.inj stepped
            refine invariant.moveCoordinator reachable (.setCipher cipher)
              (.gettingCommitments ?_ silent.sent ?_
                Coordinator.new_eq_advance)
            · have isKeys : (setup.order coordination).toFinset =
                  (setup.signers coordination).pubkeys.keys := by
                ext key
                rw [List.mem_toFinset, setup.mem_order]
              rw [← isKeys]
              exact made
            · have nothing : (viewOf (world.channel.setCipher
                  (.inl coordination) cipher) (.inl coordination)).received =
                    fun _ => [] := funext silent.received
              rw [nothing]
              exact .empty
      | gettingCommitments => simp [stage] at stepped
      | gettingShares => simp [stage] at stepped
      | failed => simp [stage] at stepped
      | concluded => simp [stage] at stepped
  | coordinatorReceive coordination batch ephemerals =>
      simp only [Setup.step] at stepped
      split_ifs at stepped with delivered
      obtain ⟨⟨channel, stage⟩, handled, rfl⟩ :=
        Option.map_eq_some_iff.mp stepped
      obtain ⟨reachable, onlyMoved, state⟩ := state_of_coordinatorReceive
        documented invariant.reachable (invariant.coordinators coordination)
        delivered handled
      exact invariant.moveCoordinator reachable onlyMoved state
  | join run coordinator ephemeral =>
      unfold Setup.step at stepped
      have state := invariant.participants run
      cases stage : world.participants run with
      | starting =>
          simp only [stage] at stepped state
          split_ifs at stepped with fresh
          obtain rfl := Option.some.inj stepped
          cases state with
          | starting silent =>
            obtain ⟨reachable, onlyMoved, state⟩ := state_of_join documented
              invariant.reachable silent fresh rfl
            exact invariant.moveParticipant reachable onlyMoved state
      | waiting => simp [stage] at stepped
      | ended => simp [stage] at stepped
  | participantReceive run batch ephemeral =>
      unfold Setup.step at stepped
      have state := invariant.participants run
      cases stage : world.participants run with
      | waiting coordinator =>
          cases batch with
          | nil => simp [stage] at stepped
          | cons msg batch =>
              simp only [stage] at stepped state
              split_ifs at stepped with enabled
              obtain rfl := Option.some.inj stepped
              obtain ⟨reachable, onlyMoved, said⟩ :=
                said_of_participantReceive documented invariant.reachable state
                  enabled.1 enabled.2 rfl
              exact invariant.moveParticipant reachable onlyMoved (.ended said)
      | starting => simp [stage] at stepped
      | ended => simp [stage] at stepped

theorem of_reachable
    (documented : setup.noiseK.Documented)
    (reachable : setup.session.Reachable world) :
    Invariant setup world :=
  reachable.invariant initial fun invariant stepped =>
    invariant.step documented stepped

end Invariant

end Invariant

end Signing
end MinaMultiSig
