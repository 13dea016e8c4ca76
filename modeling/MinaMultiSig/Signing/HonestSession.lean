import MinaMultiSig.Signing.MinaSessions

/-!
# A session of honest signers

A coordinator whose signers are honest and hold shares of one key ends with a
signature of its transaction, to which every signer has agreed, if it ends with
shares at all.
-/

namespace MinaMultiSig
namespace Signing

open Frost Tx Participant

variable {PublicKey Payload Ephemeral Message ε F G Coordination Run : Type}
variable [DecidableEq PublicKey] [Field F] [DecidableEq F] [AddCommGroup G]
  [Module F G]
  {snow : Channel.Snow PublicKey Ephemeral Payload Message}

namespace MinaSessions

/-- The signers of a coordinator hold shares of the key it signs for, and are as
many as needed. -/
structure Holds
    (sessions : MinaSessions ε F G snow Coordination Run)
    (dealt : DealtKey F)
    (coordination : Coordination) : Prop where
  keyPackage : ∀ run identifier,
    (sessions.signers coordination).pubkeys.lookup
        (sessions.setup.participantPubkey run) = some identifier →
      sessions.keyPackage run = dealt.keyPackage sessions.generator identifier
  publicKeyPackage : sessions.publicKeyPackage coordination =
    (dealt.output sessions.generator).pubkeyPackage
  hold : ∀ identifier ∈ (sessions.signers coordination).identifiers,
    identifier ∈ dealt.identifiers
  enough : dealt.coefficients.length ≤
    (sessions.signers coordination).numSigners

/-- No other coordinator of the same user has sent anything to the signers. -/
def Alone
    (sessions : MinaSessions ε F G snow Coordination Run)
    (world : World (Identifier F) (SigningCommitments G) F (Signature F G)
      (SigningError ε) snow Coordination Run)
    (coordination : Coordination) : Prop :=
  ∀ other, other ≠ coordination →
    sessions.setup.coordinatorPubkey other =
        sessions.setup.coordinatorPubkey coordination →
      ∀ key ∈ (sessions.signers coordination).pubkeys.keys,
        world.channel.sent (.inl other, key) = []

variable [DecidableEq Ephemeral] [DecidableEq Message]
  [DecidableEq Coordination] [DecidableEq Run]
  {sessions : MinaSessions ε F G snow Coordination Run}
  {world : World (Identifier F) (SigningCommitments G) F (Signature F G)
    (SigningError ε) snow Coordination Run}
  {coordination : Coordination}
  {commitments : FiniteMap (Identifier F) (SigningCommitments G)}
  {signatureShares : FiniteMap (Identifier F) F}
  {result : Outcome (SigningError ε) (Signature F G)}
  {dealt : DealtKey F}

/-- The entries of a signer come from a run that has answered the coordinator: it
has agreed to the transaction of the coordinator and signed the package that the
coordinator aggregates for. -/
theorem exists_signed
    (noise : sessions.noiseK.Documented)
    (lawful : sessions.wire.Lawful)
    (reachable : sessions.setup.session.Reachable world)
    (concluded : world.coordinators coordination =
      .concluded commitments signatureShares result)
    (honestCoordinator :
      sessions.setup.coordinatorPubkey coordination ∈ sessions.honest)
    (alone : sessions.Alone world coordination)
    {key : PublicKey}
    {identifier : Identifier F}
    (known : (sessions.signers coordination).pubkeys.lookup key =
      some identifier)
    (honest : key ∈ sessions.honest) :
    ∃ run share bytes, sessions.setup.participantPubkey run = key ∧
      commitments.lookup identifier =
        some ((sessions.nonces run).commitments sessions.generator) ∧
      signatureShares.lookup identifier = some share ∧
      Answered sessions.setup run
        (sessions.setup.coordinatorPubkey coordination)
        (sessions.setup.signingArgs coordination commitments) share
        (viewOf world.channel (.inr run)) ∧
      confirmMessage sessions.tools.forms sessions.tools.build
        sessions.tools.debug sessions.tools.errorText (sessions.terminal run)
        (sessions.setup.signingArgs coordination commitments)
        (sessions.yes run) = .ok () ∧
      messageBytes sessions.tools.forms sessions.tools.build
        sessions.tools.hasher sessions.tools.codec
        (sessions.message coordination) = .ok bytes ∧
      sessions.tools.frost.sign sessions.tools.suite
        (sessions.tools.signingPackage commitments bytes) (sessions.nonces run)
        (sessions.keyPackage run) = .ok share := by
  obtain ⟨run, args, share, rfl, isCommitments, isShare, answered⟩ :=
    exists_answered noise lawful reachable concluded honestCoordinator known
      honest
  obtain rfl := args_eq_of_alone noise lawful reachable concluded
    honestCoordinator honest answered fun other different same =>
      alone other different same _
        (FiniteMap.mem_keys_iff_lookup.mpr ⟨_, known⟩)
  have signed := answered.signed
  obtain ⟨package, made, signed⟩ := Outcome.bind_eq_ok.mp signed
  obtain ⟨confirmed, sent, bytes, isFirst, isBytes, isPackage⟩ :=
    of_signingPackageForCrypto (Outcome.mapError_eq_ok.mp made)
  obtain rfl := Option.some.inj isFirst
  obtain rfl := isPackage
  exact ⟨run, share, bytes, rfl, isCommitments, isShare, answered, confirmed,
    isBytes, Outcome.mapError_eq_ok.mp signed⟩

omit [DecidableEq Ephemeral] [DecidableEq Message] [DecidableEq Coordination]
  [DecidableEq Run] in
/-- The shares for the package of a coordinator are aggregated to a signature. -/
theorem exists_signature
    (documented : sessions.tools.frost.Documented sessions.generator)
    (curveLawful : sessions.tools.curve.Lawful)
    (holds : sessions.Holds dealt coordination)
    (fullCommitments : commitments.keys =
      (sessions.signers coordination).identifiers)
    (fullShares : signatureShares.keys =
      (sessions.signers coordination).identifiers)
    {bytes : List UInt8}
    (noncesOf : Identifier F → SigningNonces F)
    (shareOf : Identifier F → F)
    (entries : ∀ identifier ∈ (sessions.signers coordination).identifiers,
      commitments.lookup identifier =
          some ((noncesOf identifier).commitments sessions.generator) ∧
        signatureShares.lookup identifier = some (shareOf identifier) ∧
        sessions.tools.frost.sign sessions.tools.suite
          (sessions.tools.signingPackage commitments bytes)
          (noncesOf identifier)
          (dealt.keyPackage sessions.generator identifier) =
            .ok (shareOf identifier)) :
    ∃ signature c,
      sessions.tools.frost.aggregate sessions.tools.suite
          (sessions.tools.signingPackage commitments bytes)
          (FiniteMap.entriesIn sessions.tools.identifierOrder signatureShares)
          (sessions.publicKeyPackage coordination) = .ok signature ∧
        sessions.tools.suite.challenge signature.R
          (dealt.verifyingKey sessions.generator) bytes = .ok c ∧
        signature.z • sessions.generator =
          signature.R + c • dealt.verifyingKey sessions.generator ∧
        isEven (sessions.tools.curve.y signature.R) = true ∧
        (signature.R ≠ 0 →
          MinaValid sessions.tools.curve sessions.generator
            (dealt.verifyingKey sessions.generator) c
            (translateSig sessions.tools.curve signature)) := by
  let identifiers := (sessions.signers coordination).identifiers
  let ordered := sessions.tools.identifierOrder identifiers
  have member : ∀ identifier, identifier ∈ ordered ↔
      identifier ∈ identifiers := sessions.tools.mem_identifierOrder identifiers
  let signers : List (Signer F) := ordered.map fun identifier =>
    { identifier := identifier, nonces := noncesOf identifier }
  have isIdentifiers : signers.map Signer.identifier = ordered := by
    rw [List.map_map]
    exact List.map_id ordered
  have distinct : (signers.map Signer.identifier).Nodup := by
    rw [isIdentifiers]
    exact sessions.tools.identifierOrder_nodup identifiers
  have hold : ∀ identifier ∈ signers.map Signer.identifier,
      identifier ∈ dealt.identifiers := by
    intro identifier isMember
    rw [isIdentifiers, member] at isMember
    exact holds.hold identifier isMember
  have count : signers.length = (sessions.signers coordination).numSigners := by
    rw [← Coordinator.Signers.card_identifiers, List.length_map,
      ← List.toFinset_card_of_nodup
        (sessions.tools.identifierOrder_nodup identifiers)]
    congr 1
    ext identifier
    rw [List.mem_toFinset]
    exact member identifier
  have enough : dealt.coefficients.length ≤ signers.length := by
    rw [count]
    exact holds.enough
  let session := dealt.session signers bytes distinct hold enough
  have isPackage : session.package sessions.generator =
      sessions.tools.signingPackage commitments bytes := by
    apply SigningPackage.ext
    · change signers.map _ = FiniteMap.entriesIn _ commitments
      rw [FiniteMap.entriesIn_eq_map
        (fun _ => (sessions.tools.mem_identifierOrder _ _).mp)
        (fun identifier inKeys =>
          (entries identifier (fullCommitments ▸ inKeys)).1),
        fullCommitments, List.map_map]
      rfl
    · rfl
  have isShares : FiniteMap.entriesIn sessions.tools.identifierOrder
      signatureShares = session.signers.map fun signer =>
        (signer.identifier, shareOf signer.identifier) := by
    rw [FiniteMap.entriesIn_eq_map
      (fun _ => (sessions.tools.mem_identifierOrder _ _).mp)
      (fun identifier inKeys =>
        (entries identifier (fullShares ▸ inKeys)).2.1),
      fullShares]
    change _ = signers.map _
    rw [List.map_map]
    rfl
  have someone : session.signers ≠ [] := by
    have positive : 0 < signers.length := by
      rw [count]
      exact Finset.card_pos.mpr (sessions.signers coordination).nonempty
    exact List.ne_nil_of_length_pos positive
  have isKeys : sessions.publicKeyPackage coordination =
      session.publicKeyPackage sessions.generator := holds.publicKeyPackage
  rw [isShares, ← isPackage, isKeys]
  apply session.exists_aggregate documented curveLawful someone
    fun signer => shareOf signer.identifier
  intro signer inSigners
  obtain ⟨identifier, inOrdered, rfl⟩ := List.mem_map.mp inSigners
  rw [isPackage]
  exact (entries identifier ((member identifier).mp inOrdered)).2.2

/-- Whatever the server does: a coordinator of honest signers that has received a
share of each of them has a signature of the bytes for its transaction that
verifies under the key and passes the check of Mina, unless `R` is zero. Every
entry it holds is of a run of the signer that has received the signing package of
this coordinator, has agreed to it and has answered it, and nothing else. -/
theorem concluded_valid
    (noise : sessions.noiseK.Documented)
    (lawful : sessions.wire.Lawful)
    (documented : sessions.tools.frost.Documented sessions.generator)
    (curveLawful : sessions.tools.curve.Lawful)
    (reachable : sessions.setup.session.Reachable world)
    (holds : sessions.Holds dealt coordination)
    (honest : ∀ key ∈ (sessions.signers coordination).pubkeys.keys,
      key ∈ sessions.honest)
    (honestCoordinator :
      sessions.setup.coordinatorPubkey coordination ∈ sessions.honest)
    (alone : sessions.Alone world coordination)
    (concluded : world.coordinators coordination =
      .concluded commitments signatureShares result) :
    (∃ bytes signature c,
      messageBytes sessions.tools.forms sessions.tools.build
          sessions.tools.hasher sessions.tools.codec
          (sessions.message coordination) = .ok bytes ∧
        result = .ok signature ∧
        sessions.tools.suite.challenge signature.R
          (dealt.verifyingKey sessions.generator) bytes = .ok c ∧
        signature.z • sessions.generator =
          signature.R + c • dealt.verifyingKey sessions.generator ∧
        (signature.R ≠ 0 →
          MinaValid sessions.tools.curve sessions.generator
            (dealt.verifyingKey sessions.generator) c
            (translateSig sessions.tools.curve signature))) ∧
      ∀ key identifier,
        (sessions.signers coordination).pubkeys.lookup key = some identifier →
        ∃ run share, sessions.setup.participantPubkey run = key ∧
          commitments.lookup identifier =
            some ((sessions.nonces run).commitments sessions.generator) ∧
          signatureShares.lookup identifier = some share ∧
          Answered sessions.setup run
            (sessions.setup.coordinatorPubkey coordination)
            (sessions.setup.signingArgs coordination commitments) share
            (viewOf world.channel (.inr run)) ∧
          confirmMessage sessions.tools.forms sessions.tools.build
            sessions.tools.debug sessions.tools.errorText
            (sessions.terminal run)
            (sessions.setup.signingArgs coordination commitments)
            (sessions.yes run) = .ok () := by
  obtain ⟨fullCommitments, fullShares, isResult⟩ :=
    keys_of_concluded noise reachable concluded
  have signer : ∀ key identifier,
      (sessions.signers coordination).pubkeys.lookup key = some identifier →
        ∃ run share bytes, _ :=
    fun key identifier known =>
      exists_signed noise lawful reachable concluded honestCoordinator alone
        known (honest key (FiniteMap.mem_keys_iff_lookup.mpr ⟨_, known⟩))
  refine ⟨?_, ?_⟩
  · obtain ⟨firstKey, isFirst⟩ := (sessions.signers coordination).nonempty
    obtain ⟨firstIdentifier, firstKnown⟩ :=
      FiniteMap.mem_keys_iff_lookup.mp isFirst
    obtain ⟨firstRun, firstShare, bytes, -, -, -, -, -, isBytes, -⟩ :=
      signer firstKey firstIdentifier firstKnown
    have each : ∀ identifier, ∃ run share,
        identifier ∈ (sessions.signers coordination).identifiers →
          commitments.lookup identifier =
              some ((sessions.nonces run).commitments sessions.generator) ∧
            signatureShares.lookup identifier = some share ∧
            sessions.tools.frost.sign sessions.tools.suite
              (sessions.tools.signingPackage commitments bytes)
              (sessions.nonces run)
              (dealt.keyPackage sessions.generator identifier) = .ok share := by
      intro identifier
      by_cases member :
          identifier ∈ (sessions.signers coordination).identifiers
      · obtain ⟨key, known⟩ := FiniteMap.mem_values.mp member
        obtain ⟨run, share, other, rfl, isCommitments, isShare, -, -, isOther,
          signed⟩ := signer key identifier known
        obtain rfl := Except.ok.inj (isBytes.symm.trans isOther)
        rw [holds.keyPackage run identifier known] at signed
        exact ⟨run, share, fun _ => ⟨isCommitments, isShare, signed⟩⟩
      · exact ⟨firstRun, firstShare, fun isMember => absurd isMember member⟩
    choose runOf shareOf entries using each
    obtain ⟨signature, c, aggregated, challengeEq, equation, -, valid⟩ :=
      exists_signature documented curveLawful holds fullCommitments fullShares
        (fun identifier => sessions.nonces (runOf identifier)) shareOf entries
    refine ⟨bytes, signature, c, isBytes, ?_, challengeEq, equation, valid⟩
    rw [isResult]
    exact Outcome.bind_eq_ok.mpr ⟨bytes, Outcome.mapError_eq_ok.mpr isBytes,
      Outcome.mapError_eq_ok.mpr aggregated⟩
  · intro key identifier known
    obtain ⟨run, share, -, isKey, isCommitments, isShare, answered, confirmed,
      -⟩ := signer key identifier known
    exact ⟨run, share, isKey, isCommitments, isShare, answered, confirmed⟩

end MinaSessions

section FiveElements

-- Literals of these types, without a proof of their own in each definition.
local instance four_neZero : NeZero 4 :=
  ⟨by decide⟩

local instance five_neZero : NeZero 5 :=
  ⟨by decide⟩

instance signingPackage_decidableEq :
    DecidableEq (SigningPackage (ZMod 5) (ZMod 5)) :=
  fun _ _ => decidable_of_iff _ SigningPackage.ext_iff.symm

instance sendSigningPackageArgs_decidableEq :
    DecidableEq (SendSigningPackageArgs (ZMod 5) (ZMod 5)) := by
  rintro ⟨packages, auxMsg⟩ ⟨otherPackages, otherMsg⟩
  exact decidable_of_iff (packages = otherPackages ∧ auxMsg = otherMsg)
    (by rw [SendSigningPackageArgs.mk.injEq])

/-- The payloads of the sessions. -/
abbrev FiveMessage : Type :=
  TaggedPayload (SigningCommitments (ZMod 5)) (ZMod 5)
    (SendSigningPackageArgs (ZMod 5) (ZMod 5))

instance : DecidableEq FiveMessage :=
  inferInstance

/-- The only document is that of a payment. -/
def paymentForms : TextForms :=
  { TextForms.reference with
    json := { TextForms.reference.json with
      parse := fun _ =>
        { value := TransactionEnvelope.paymentJson, ended := true } } }

/-- The identifiers in their order. -/
def ascending
    (identifiers : Finset (Identifier (ZMod 5))) :
    List (Identifier (ZMod 5)) :=
  (List.ofFn identifierBehind).filter (· ∈ identifiers)

theorem nodup_ascending
    (identifiers : Finset (Identifier (ZMod 5))) :
    (ascending identifiers).Nodup := by
  apply List.Nodup.filter
  decide

theorem mem_ascending
    (identifiers : Finset (Identifier (ZMod 5)))
    (identifier : Identifier (ZMod 5)) :
    identifier ∈ ascending identifiers ↔ identifier ∈ identifiers := by
  rw [ascending, List.mem_filter, decide_eq_true_eq]
  refine and_iff_right ?_
  revert identifier
  decide

/-- Tools over the integers modulo five. -/
def fiveTools : Tools FrostError (ZMod 5) (ZMod 5) where
  forms := paymentForms
  build := .preMesa
  debug := fun _ => ""
  errorText := fun _ => ""
  hasher := Hasher.polynomial
  codec := emptyCodec
  minaHasher := polynomialHasher
  frost := fiveFrost
  curve := fiveCurve
  identifierOrder := ascending
  identifierOrder_nodup := nodup_ascending
  mem_identifierOrder := mem_ascending

/-- The identifier of a user. -/
def fiveIdentifier (key : Nat) : Identifier (ZMod 5) :=
  if key = 0 then identifierBehind 0 else identifierBehind 1

theorem lookup_fiveIdentifier
    {key : Nat}
    {identifier : Identifier (ZMod 5)} :
    (FiniteMap.ofKeys fiveIdentifier [0, 1]).lookup key = some identifier ↔
      (key = 0 ∨ key = 1) ∧ identifier = fiveIdentifier key := by
  rw [FiniteMap.lookup_ofKeys]
  split_ifs with member
  · have isKey : key = 0 ∨ key = 1 := by simpa using member
    rw [and_iff_right isKey, Option.some.injEq, eq_comm]
  · have noKey : ¬(key = 0 ∨ key = 1) := by simpa using member
    simp [noKey]

/-- The two users that sign. -/
def fivePair : Coordinator.Signers Nat (Identifier (ZMod 5)) where
  pubkeys := .ofKeys fiveIdentifier [0, 1]
  injective := by
    intro first second identifier isFirst isSecond
    obtain ⟨firstKey, rfl⟩ := lookup_fiveIdentifier.mp isFirst
    obtain ⟨secondKey, same⟩ := lookup_fiveIdentifier.mp isSecond
    rcases firstKey with rfl | rfl <;> rcases secondKey with rfl | rfl
    · rfl
    · exact absurd same (by decide)
    · exact absurd same (by decide)
    · rfl
  nonempty :=
    ⟨0, FiniteMap.mem_keys_iff_lookup.mpr
      ⟨_, lookup_fiveIdentifier.mpr ⟨Or.inl rfl, rfl⟩⟩⟩

theorem mem_fivePair {key : Nat} :
    key ∈ fivePair.pubkeys.keys ↔ key = 0 ∨ key = 1 := by
  rw [FiniteMap.mem_keys_iff_lookup]
  constructor
  · rintro ⟨identifier, known⟩
    exact (lookup_fiveIdentifier.mp known).1
  · intro isKey
    exact ⟨_, lookup_fiveIdentifier.mpr ⟨isKey, rfl⟩⟩

theorem nodup_pair : [0, 1].Nodup := by
  decide

theorem mem_pair {key : Nat} : key ∈ [0, 1] ↔ key ∈ fivePair.pubkeys.keys := by
  rw [mem_fivePair]
  simp

/-- The user `2` coordinates a session for a payment, which the users `0` and `1`
sign. -/
def fiveSessions :
    MinaSessions FrostError (ZMod 5) (ZMod 5)
      (Channel.Reference.snow Nat Nat fun _ : FiveMessage => 100) Unit Nat where
  tools := fiveTools
  generator := 1
  noiseK := Channel.Reference.noiseK Nat Nat fun _ => 100
  honest := {0, 1, 2}
  wire := .tagged
  coordinatorKey := fun _ => (2 : Nat)
  signers := fun _ => fivePair
  order := fun _ => [0, 1]
  order_nodup := fun _ => nodup_pair
  mem_order := fun _ _ => mem_pair
  message := fun _ =>
    TextForms.reference.json.toVec TransactionEnvelope.paymentJson
  publicKeyPackage := fun _ => (threeHolders.output 1).pubkeyPackage
  participantKey := fun run => run
  contacts := fun _ => {2}
  keyPackage := fun run => threeHolders.keyPackage 1 (fiveIdentifier run)
  nonces := fun run =>
    { hidingPart := Fin.ofNat 5 (run + 1), bindingPart := Fin.ofNat 5 2 }
  terminal := fun _ => noTerminal
  yes := fun _ => true

/-- What the coordinator sends. -/
def fiveRequest : SendSigningPackageArgs (ZMod 5) (ZMod 5) :=
  fiveSessions.setup.signingArgs ()
    (.ofKeys (fun identifier =>
        if identifier = fiveIdentifier 0 then fiveSessions.setup.commitments 0
        else fiveSessions.setup.commitments 1)
      [fiveIdentifier 0, fiveIdentifier 1])

/-- Both users join, agree and sign. -/
def fiveSigningRun :
    List (Action Nat Nat (Channel.Reference.Ciphertext Nat Nat FiveMessage)
      Unit Nat) :=
  let commitments := fun run : Nat => (Sum.inl
    [fiveSessions.setup.commitments run] : FiveMessage)
  let request : FiveMessage := .inr (.inr fiveRequest)
  let share : FiveMessage := .inr (.inl [Fin.ofNat 5 4])
  [.start (), .join 0 2 10, .join 1 2 11,
    .coordinatorReceive ()
      [⟨0, some (⟨0, 2, 10⟩, 0, commitments 0)⟩,
        ⟨1, some (⟨1, 2, 11⟩, 0, commitments 1)⟩] [20, 21],
    .participantReceive 0 [⟨2, some (⟨2, 0, 20⟩, 0, request)⟩] 30,
    .participantReceive 1 [⟨2, some (⟨2, 1, 21⟩, 0, request)⟩] 31,
    .coordinatorReceive ()
      [⟨0, some (⟨0, 2, 10⟩, 1, share)⟩, ⟨1, some (⟨1, 2, 11⟩, 1, share)⟩] []]

theorem holds_fiveSessions : fiveSessions.Holds threeHolders () where
  keyPackage := by
    intro run identifier known
    rw [(lookup_fiveIdentifier.mp known).2]
    rfl
  publicKeyPackage := rfl
  hold := by
    intro identifier member
    obtain ⟨key, known⟩ := FiniteMap.mem_values.mp member
    obtain ⟨rfl | rfl, rfl⟩ := lookup_fiveIdentifier.mp known <;> decide
  enough := by decide

/-- The coordinator has a signature of the payment, and both signers have answered
it. -/
theorem concluded_valid_five :
    ∃ world, ∃ signature : Frost.Signature (ZMod 5) (ZMod 5),
      ∃ bytes, ∃ c : ZMod 5, ∃ commitments signatureShares,
      fiveSessions.setup.session.Reachable world ∧
      world.coordinators () =
        .concluded commitments signatureShares (.ok signature) ∧
      (∀ key ∈ [0, 1], ∃ run share,
        fiveSessions.setup.participantPubkey run = key ∧
          Answered fiveSessions.setup run 2
            (fiveSessions.setup.signingArgs () commitments) share
            (viewOf world.channel (.inr run))) ∧
      messageBytes paymentForms .preMesa Hasher.polynomial emptyCodec
        (fiveSessions.message ()) = .ok bytes ∧
      fiveTools.suite.challenge signature.R
        (threeHolders.verifyingKey (1 : ZMod 5)) bytes = .ok c ∧
      signature.z • (1 : ZMod 5) =
        signature.R + c • threeHolders.verifyingKey (1 : ZMod 5) := by
  have evaluated : ((fiveSessions.setup.session.run
      fiveSessions.setup.session.initial fiveSigningRun).any
        fun world => (world.coordinators ()).isConcluded) = true := by
    decide +kernel
  obtain ⟨world, ran, isConcluded⟩ := (Option.any_eq_true _ _).mp evaluated
  obtain ⟨commitments, signatureShares, result, concluded⟩ :=
    CoordinatorStage.exists_of_isConcluded isConcluded
  have everyone : ∀ key ∈ (fiveSessions.signers ()).pubkeys.keys,
      key ∈ fiveSessions.honest := by
    intro key member
    rcases mem_fivePair.mp member with rfl | rfl <;> decide
  have honestCoordinator : fiveSessions.setup.coordinatorPubkey () ∈
      fiveSessions.honest := by
    decide
  obtain ⟨⟨bytes, signature, c, isBytes, rfl, challengeEq, equation, -⟩,
    everyAnswer⟩ :=
    MinaSessions.concluded_valid (Channel.Reference.documented Nat Nat _)
      Wire.tagged_lawful (Reference.frostCore_documented 1 fiveBindingFactor)
      fiveCurve_lawful ⟨fiveSigningRun, ran⟩ holds_fiveSessions everyone
      honestCoordinator (fun _ different => absurd rfl different) concluded
  refine ⟨world, signature, bytes, c, commitments, signatureShares,
    ⟨fiveSigningRun, ran⟩, concluded, ?_, isBytes, challengeEq, equation⟩
  intro key member
  obtain ⟨identifier, known⟩ :=
    FiniteMap.mem_keys_iff_lookup.mp (mem_pair.mp member)
  obtain ⟨run, share, isKey, -, -, answered, -⟩ :=
    everyAnswer key identifier known
  exact ⟨run, share, isKey, answered⟩

end FiveElements

end Signing
end MinaMultiSig
