import MinaMultiSig.Frost.DealerSigning
import MinaMultiSig.Participant.Sign
import MinaMultiSig.Signing.Authenticity

/-!
# Sessions that sign Mina transactions

The coordinators of `coordinate_signing.rs` and the participants of `sign.rs` with
the transactions they sign. If all signers of a coordinator hold shares of one key
and are honest, what they send adds up to a signature of its transaction, whatever
the server does and however often a signer starts again.
-/

namespace MinaMultiSig

namespace Frost

open ShamirSharing Tx

variable {ε F G : Type}

section Aggregate

variable [Field F] [AddCommGroup G]
  {frost : FrostCore ε F G} {curve : Coordinates G}

/-- The hook of a signer computes the group commitment first. -/
theorem exists_of_preCommitmentSign
    {package : SigningPackage F G}
    {nonces : SigningNonces F}
    {factors : BindingFactorList F}
    {hooked : SigningPackage F G}
    (isHooked : (preCommitmentSign frost curve package nonces factors).map
      Prod.fst = .ok hooked) :
    ∃ commitment, frost.computeGroupCommitment package factors =
      .ok commitment := by
  cases computed : frost.computeGroupCommitment package factors with
  | ok commitment => exact ⟨commitment, rfl⟩
  | error failure =>
      unfold preCommitmentSign at isHooked
      rw [computed] at isHooked
      exact absurd isHooked (by simp [bind, Except.bind, Except.map])

omit [Field F] in
theorem ne_zero_of_evenCommitment
    {commitment : G}
    (nonzero : evenCommitment curve commitment ≠ 0) :
    commitment ≠ 0 := by
  rintro rfl
  apply nonzero
  unfold evenCommitment
  split
  · rfl
  · exact neg_zero

variable [DecidableEq F] [Module F G] {generator : G}

/-- Once every signer of a session has returned a share, the coordinator aggregates
them to a signature. -/
theorem SigningSession.exists_aggregate
    (documented : frost.Documented generator)
    (lawful : curve.Lawful)
    {challengeOf : G → G → List UInt8 → Outcome ε F}
    (session : SigningSession F)
    (someone : session.signers ≠ [])
    (shareOf : Signer F → F)
    (signed : ∀ signer ∈ session.signers,
      frost.sign (bluePallasOf frost curve challengeOf)
        (session.package generator) signer.nonces
        (session.keyPackage generator signer.identifier) =
          .ok (shareOf signer)) :
    ∃ signature c,
      frost.aggregate (bluePallasOf frost curve challengeOf)
          (session.package generator)
          (session.signers.map fun signer =>
            (signer.identifier, shareOf signer))
          (session.publicKeyPackage generator) = .ok signature ∧
        challengeOf signature.R (session.verifyingKey generator)
          session.message = .ok c ∧
        signature.z • generator =
          signature.R + c • session.verifyingKey generator ∧
        isEven (curve.y signature.R) = true ∧
        (signature.R ≠ 0 →
          MinaValid curve generator (session.verifyingKey generator) c
            (translateSig curve signature)) := by
  obtain ⟨first, isFirst⟩ := List.exists_mem_of_ne_nil _ someone
  have entryMember : (first.identifier, first.nonces.commitments generator) ∈
      (session.package generator).commitments :=
    List.mem_map.mpr ⟨first, isFirst, rfl⟩
  have enough : session.coefficients.length ≤
      (session.package generator).commitments.length := by
    rw [package, packageWith, List.length_map]
    exact session.enough
  obtain ⟨factors, hooked, _, _, _, _, prepared, -⟩ :=
    (documented.sign_eq_ok_iff _ _ _ _ _ enough entryMember).mp
      (signed first isFirst)
  obtain ⟨commitment, computed⟩ := exists_of_preCommitmentSign prepared.hookedEq
  have factorsEq : frost.computeBindingFactorList (session.package generator)
      (session.verifyingKey generator) = .ok factors := prepared.factorsEq
  obtain ⟨c, challengeEq, -⟩ :=
    (sign_eq_ok_iff documented factorsEq computed isFirst).mp
      (signed first isFirst)
  -- the other signers have computed the same challenge
  have isShare : ∀ signer ∈ session.signers, shareOf signer =
      session.share (adjustment curve commitment) factors c signer := by
    intro signer member
    obtain ⟨other, otherEq, isValue⟩ :=
      (sign_eq_ok_iff documented factorsEq computed member).mp
        (signed signer member)
    rw [isValue, Except.ok.inj (otherEq.symm.trans challengeEq)]
  have shares : (session.signers.map fun signer =>
      (signer.identifier, shareOf signer)) =
        session.signers.map fun signer => (signer.identifier,
          session.share (adjustment curve commitment) factors c signer) := by
    apply List.map_congr_left
    intro signer member
    rw [isShare signer member]
  rw [shares]
  obtain ⟨signature, aggregated⟩ :=
    aggregate_eq_ok documented factorsEq computed challengeEq
  have isSignature := of_aggregate documented factorsEq computed aggregated
  have isCommitment : signature.R = evenCommitment curve commitment := by
    rw [isSignature]
  have equation : signature.z • generator =
      signature.R + c • session.verifyingKey generator := by
    rw [isSignature]
    exact sum_signatureShares curve documented computed c
  refine ⟨signature, c, aggregated, ?_, equation, ?_, ?_⟩
  · rw [isCommitment]
    exact challengeEq
  · rw [isCommitment]
    exact isEven_evenCommitment lawful commitment
  · intro nonzero
    rw [isCommitment] at nonzero
    exact minaValid_of_equation lawful (ne_zero_of_evenCommitment nonzero)
      isCommitment equation

end Aggregate

end Frost

namespace Signing

open Frost Tx Participant
open Coordinator (Signers)

variable {PublicKey Payload Ephemeral Message ε F G Coordination Run : Type}

/-- Why there is no share or no signature. -/
inductive SigningError (ε : Type)
  | refused (reason : SignError)
  | frost (reason : ε)

/-- What coordinators and participants compute with, and the order in which a
`BTreeMap` lists identifiers. -/
structure Tools (ε F G : Type) [Zero F] where
  forms : TextForms
  build : Build
  debug : TransactionEnvelope build → String
  errorText : SerdeError → String
  hasher : Hasher
  codec : ROInputCodec
  minaHasher : MinaHasher
  frost : FrostCore ε F G
  curve : Coordinates G
  identifierOrder : Finset (Identifier F) → List (Identifier F)
  identifierOrder_nodup : ∀ identifiers, (identifierOrder identifiers).Nodup
  mem_identifierOrder : ∀ identifiers identifier,
    identifier ∈ identifierOrder identifiers ↔ identifier ∈ identifiers

/-- The bytes that are signed for the transaction in a signing package. -/
def messageBytes
    (forms : TextForms)
    (build : Build)
    (hasher : Hasher)
    (codec : ROInputCodec)
    (message : List UInt8) : Outcome SignError (List UInt8) := do
  let transaction ←
    (TransactionEnvelope.deserialize forms build message).mapError
      SignError.serde
  let pallasMessage ←
    (transaction.toPallasMessage hasher).mapError SignError.transaction
  (Outcome.ofExcept (pallasMessage.serialize codec)).mapError
    SignError.transaction

/-- A participant signs the bytes for the first package, with its
commitments. -/
theorem of_signingPackageForCrypto
    [Zero F]
    {forms : TextForms}
    {build : Build}
    {debug : TransactionEnvelope build → String}
    {errorText : SerdeError → String}
    {hasher : Hasher}
    {codec : ROInputCodec}
    {terminal : Terminal}
    {args : SendSigningPackageArgs F G}
    {yes : Bool}
    {package : SigningPackage F G}
    (made : signingPackageForCrypto forms build debug errorText hasher codec
      terminal args yes = .ok package) :
    confirmMessage forms build debug errorText terminal args yes = .ok () ∧
      ∃ sent bytes, args.signingPackage.head? = some sent ∧
        messageBytes forms build hasher codec sent.message = .ok bytes ∧
        package = { sent with message := bytes } := by
  unfold signingPackageForCrypto at made
  obtain ⟨_, confirmed, made⟩ := Outcome.bind_eq_ok.mp made
  obtain ⟨sent, isFirst, made⟩ := Outcome.bind_eq_ok.mp made
  obtain ⟨transaction, isRead, made⟩ := Outcome.bind_eq_ok.mp made
  obtain ⟨pallasMessage, isMessage, made⟩ := Outcome.bind_eq_ok.mp made
  obtain ⟨bytes, isBytes, made⟩ := Outcome.bind_eq_ok.mp made
  refine ⟨confirmed, sent, bytes, ?_, ?_, (Except.ok.inj made).symm⟩
  · cases head : args.signingPackage.head? with
    | none =>
        rw [head] at isFirst
        exact absurd isFirst (by simp [Outcome.ofOption])
    | some other =>
        rw [head] at isFirst
        rw [Except.ok.inj isFirst]
  · exact Outcome.bind_eq_ok.mpr ⟨transaction, isRead,
      Outcome.bind_eq_ok.mpr ⟨pallasMessage, isMessage, isBytes⟩⟩

namespace Tools

variable [Field F] [DecidableEq F] [AddCommGroup G] (tools : Tools ε F G)

/-- The ciphersuite of the tools. -/
def suite : Ciphersuite ε F G :=
  bluePallas tools.frost tools.curve tools.minaHasher tools.codec

/-- `SigningPackage::new`. -/
def signingPackage
    (commitments : FiniteMap (Identifier F) (SigningCommitments G))
    (message : List UInt8) : SigningPackage F G where
  commitments := FiniteMap.entriesIn tools.identifierOrder commitments
  message := message
  distinct := by
    rw [FiniteMap.map_fst_entriesIn fun _ =>
      (tools.mem_identifierOrder _ _).mp]
    exact tools.identifierOrder_nodup _

/-- What a participant signs, if it agrees. -/
def sign
    (keyPackage : KeyPackage F G)
    (nonces : SigningNonces F)
    (terminal : Terminal)
    (yes : Bool)
    (args : SendSigningPackageArgs F G) : Outcome (SigningError ε) F := do
  let package ← (signingPackageForCrypto tools.forms tools.build tools.debug
    tools.errorText tools.hasher tools.codec terminal args yes).mapError .refused
  (tools.frost.sign tools.suite package nonces keyPackage).mapError .frost

/-- The signature a coordinator aggregates. -/
def aggregate
    (message : List UInt8)
    (publicKeyPackage : PublicKeyPackage F G)
    (commitments : FiniteMap (Identifier F) (SigningCommitments G))
    (signatureShares : FiniteMap (Identifier F) F) :
    Outcome (SigningError ε) (Signature F G) := do
  let bytes ← (messageBytes tools.forms tools.build tools.hasher tools.codec
    message).mapError .refused
  (tools.frost.aggregate tools.suite (tools.signingPackage commitments bytes)
    (FiniteMap.entriesIn tools.identifierOrder signatureShares)
    publicKeyPackage).mapError .frost

end Tools

/-- Coordinators with the transactions they sign and the key they sign for, and
participants with their keys, their nonces and whether they agree. -/
structure MinaSessions
    [DecidableEq PublicKey]
    (ε F G : Type)
    [Zero F]
    (snow : Channel.Snow PublicKey Ephemeral Payload Message)
    (Coordination Run : Type) where
  tools : Tools ε F G
  generator : G
  noiseK : Channel.NoiseK snow
  honest : Finset PublicKey
  wire : Wire Payload (SigningCommitments G) F (SendSigningPackageArgs F G)
  coordinatorKey : Coordination → snow.PrivateKey
  signers : Coordination → Signers PublicKey (Identifier F)
  order : Coordination → List PublicKey
  order_nodup : ∀ coordination, (order coordination).Nodup
  mem_order : ∀ coordination key,
    key ∈ order coordination ↔ key ∈ (signers coordination).pubkeys.keys
  message : Coordination → List UInt8
  publicKeyPackage : Coordination → PublicKeyPackage F G
  participantKey : Run → snow.PrivateKey
  contacts : Run → Finset PublicKey
  keyPackage : Run → KeyPackage F G
  nonces : Run → SigningNonces F
  terminal : Run → Terminal
  yes : Run → Bool

namespace MinaSessions

variable [DecidableEq PublicKey] [Field F] [DecidableEq F]
  [AddCommGroup G] [Module F G]
  {snow : Channel.Snow PublicKey Ephemeral Payload Message}

/-- What is sent and computed in the sessions. -/
def setup
    (sessions : MinaSessions ε F G snow Coordination Run) :
    Setup (Identifier F) (SigningCommitments G) F (SendSigningPackageArgs F G)
      (Signature F G) (SigningError ε) snow Coordination Run where
  noiseK := sessions.noiseK
  honest := sessions.honest
  wire := sessions.wire
  coordinatorKey := sessions.coordinatorKey
  signers := sessions.signers
  order := sessions.order
  order_nodup := sessions.order_nodup
  mem_order := sessions.mem_order
  signingArgs := fun coordination commitments =>
    { signingPackage := [sessions.tools.signingPackage commitments
        (sessions.message coordination)]
      auxMsg := [] }
  aggregate := fun coordination =>
    sessions.tools.aggregate (sessions.message coordination)
      (sessions.publicKeyPackage coordination)
  participantKey := sessions.participantKey
  contacts := sessions.contacts
  commitments := fun run =>
    (sessions.nonces run).commitments sessions.generator
  sign := fun run =>
    sessions.tools.sign (sessions.keyPackage run) (sessions.nonces run)
      (sessions.terminal run) (sessions.yes run)

end MinaSessions

end Signing
end MinaMultiSig
