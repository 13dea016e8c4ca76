import MinaMultiSig.Dkg.KeygenDealt

/-!
# Signing with a generated key

Enough participants that finished key generation sign with the packages they
ended up with, and any one of them aggregates. The signature verifies under the
key of the group, whatever the dishonest participants of key generation did.
-/

namespace MinaMultiSig

namespace Frost

variable {ε F G : Type} [Zero F]

/-- Every signer signs the package with its key, and the coordinator
aggregates. -/
def signWith
    (frost : FrostCore ε F G)
    (suite : Ciphersuite ε F G)
    (package : SigningPackage F G)
    (signers : List (KeyPackage F G × SigningNonces F))
    (publicKeys : PublicKeyPackage F G) : Outcome ε (Signature F G) := do
  let signatureShares ← signers.mapM fun signer => do
    let share ← frost.sign suite package signer.2 signer.1
    return (signer.1.identifier, share)
  frost.aggregate suite package signatureShares publicKeys

end Frost

namespace Dkg

open Frost ShamirSharing

namespace Keygen

variable {PublicKey Payload ε δ F G Proof R : Type}
variable [DecidableEq PublicKey] [Field F] [DecidableEq F]
variable [AddCommGroup G] [Module F G]
variable {keygen : Keygen PublicKey Payload ε F G Proof R} {generator : G}
variable [DecidableEq Proof] [DecidableEq G] [DecidableEq Payload]
variable {fifo : Bool}
variable {world : World PublicKey (Frost.Identifier F)
  (Frost.Round1Package G Proof) F Payload}

/-- A participant finished key generation with this result. -/
structure Holds
    (keygen : Keygen PublicKey Payload ε F G Proof R)
    (world : World PublicKey (Frost.Identifier F)
      (Frost.Round1Package G Proof) F Payload)
    (key : PublicKey)
    (result : KeygenResult PublicKey F G) : Prop where
  honest : keygen.setup.Honest key
  returned : keygen.outcome world key = some (.ok result)

/-- Participants of key generation that sign a message, with their nonces and
the packages they hold: someone does, and they are as many as the threshold. -/
structure Signing
    (keygen : Keygen PublicKey Payload ε F G Proof R)
    (generator : G)
    (world : World PublicKey (Frost.Identifier F)
      (Frost.Round1Package G Proof) F Payload)
    (signers : List (PublicKey × SigningNonces F))
    (resultOf : PublicKey → KeygenResult PublicKey F G)
    (package : SigningPackage F G) : Prop where
  nonempty : signers ≠ []
  hold : ∀ signer ∈ signers,
    Holds keygen world signer.1 (resultOf signer.1)
  enough : ∀ signer ∈ signers, keygen.minSigners signer.1 ≤ signers.length
  commitments_eq : package.commitments = signers.map fun signer =>
    ((resultOf signer.1).keyPackage.identifier,
      signer.2.commitments generator)

/-- What the signers sign with. -/
def signingKeys
    (signers : List (PublicKey × SigningNonces F))
    (resultOf : PublicKey → KeygenResult PublicKey F G) :
    List (KeyPackage F G × SigningNonces F) :=
  signers.map fun signer => ((resultOf signer.1).keyPackage, signer.2)

variable {signers : List (PublicKey × SigningNonces F)}
variable {resultOf : PublicKey → KeygenResult PublicKey F G}
variable {package : SigningPackage F G}
variable {coordinator : PublicKey}

/-- Signing with a generated key is a session of holders of shares. -/
theorem exists_session
    (frost : FrostCore δ F G)
    (suite : Ciphersuite δ F G)
    (documented : keygen.core.Documented generator)
    (generates : Generates F generator)
    (reachable : (keygen.setup.session fifo).Reachable world)
    (signing : Signing keygen generator world signers resultOf package)
    (holds : Holds keygen world coordinator (resultOf coordinator)) :
    ∃ session : SigningSession F,
      session.signers ≠ [] ∧
      session.package generator = package ∧
        session.verifyingKey generator =
          (resultOf coordinator).publicKeyPackage.verifyingKey ∧
        session.sign generator frost suite =
          signWith frost suite package (signingKeys signers resultOf)
            (resultOf coordinator).publicKeyPackage := by
  obtain ⟨dealt, deals⟩ := exists_deals documented generates reachable
  have dealtTo : ∀ {key}, Holds keygen world key (resultOf key) →
      ∃ identifier, keygen.pubkeys.lookup key = some identifier ∧
        dealt.coefficients.length = keygen.minSigners key ∧
          resultOf key =
            { keyPackage := dealt.keyPackage generator identifier
              publicKeyPackage := (dealt.output generator).pubkeyPackage
              pubkeyMap := keygen.pubkeys } := by
    intro key holder
    obtain ⟨identifier, known⟩ :=
      FiniteMap.mem_keys_iff_lookup.mp holder.honest.1
    exact ⟨identifier, known, deals.results key identifier _ holder.honest.2 known
      holder.returned⟩
  have isKey : ∀ signer ∈ signers, (resultOf signer.1).keyPackage =
      dealt.keyPackage generator
        (resultOf signer.1).keyPackage.identifier := by
    intro signer member
    obtain ⟨identifier, -, -, isResult⟩ := dealtTo (signing.hold signer member)
    rw [isResult]
    rfl
  let sessionSigners : List (Signer F) := signers.map fun signer =>
    { identifier := (resultOf signer.1).keyPackage.identifier
      nonces := signer.2 }
  have identifiers : sessionSigners.map Signer.identifier =
      package.commitments.map Prod.fst := by
    rw [signing.commitments_eq, List.map_map, List.map_map]
    rfl
  have hold : ∀ identifier ∈ sessionSigners.map Signer.identifier,
      identifier ∈ dealt.identifiers := by
    intro identifier member
    rw [List.map_map] at member
    obtain ⟨signer, inSigners, rfl⟩ := List.mem_map.mp member
    obtain ⟨identifier, known, -, isResult⟩ :=
      dealtTo (signing.hold signer inSigners)
    rw [deals.holders, keygen.core.mem_identifierOrder, FiniteMap.mem_values]
    refine ⟨signer.1, ?_⟩
    rw [Function.comp_apply, isResult]
    exact known
  have enough : dealt.coefficients.length ≤ sessionSigners.length := by
    obtain ⟨signer, member⟩ := List.exists_mem_of_ne_nil _ signing.nonempty
    obtain ⟨-, -, length, -⟩ := dealtTo (signing.hold signer member)
    rw [length, List.length_map]
    exact signing.enough signer member
  have distinct : (sessionSigners.map Signer.identifier).Nodup := by
    rw [identifiers]
    exact package.distinct
  obtain ⟨_, -, -, isCoordinator⟩ := dealtTo holds
  refine ⟨dealt.session sessionSigners package.message distinct hold enough,
    fun isNil => signing.nonempty (List.map_eq_nil_iff.mp isNil), ?_, ?_, ?_⟩
  · apply SigningPackage.ext
    · rw [signing.commitments_eq, SigningSession.package,
        SigningSession.packageWith]
      exact List.map_map
    · rfl
  · rw [isCoordinator]
    rfl
  · have samePackage : (dealt.session sessionSigners package.message distinct
        hold enough).package generator = package := by
      apply SigningPackage.ext
      · rw [signing.commitments_eq]
        exact List.map_map
      · rfl
    rw [SigningSession.sign, signWith, signingKeys, samePackage, isCoordinator,
      Outcome.mapM_map_congr fun signer member => by rw [isKey signer member]]
    congr 1
    exact Outcome.mapM_map_congr fun signer _ => rfl

/-- Enough participants that finished key generation sign every message whose
challenge can be computed, and what they return is a signature for the challenge
of the suite under the key of the group. It passes the check of Mina, unless their
commitments add up to zero. -/
theorem keygen_signs
    (frost : FrostCore δ F G)
    (curve : Coordinates G)
    (hasher : MinaHasher)
    (codec : Tx.ROInputCodec)
    (frostDocumented : frost.Documented generator)
    (lawful : curve.Lawful)
    (documented : keygen.core.Documented generator)
    (generates : Generates F generator)
    (reachable : (keygen.setup.session fifo).Reachable world)
    (signing : Signing keygen generator world signers resultOf package)
    (holds : Holds keygen world coordinator (resultOf coordinator))
    (factors : BindingFactorList F)
    (commitment : G)
    (factorsEq : frost.computeBindingFactorList package
      (resultOf coordinator).publicKeyPackage.verifyingKey = .ok factors)
    (computed : frost.computeGroupCommitment package factors =
      .ok commitment) :
    let suite := bluePallas frost curve hasher codec
    let publicKeys := (resultOf coordinator).publicKeyPackage
    (∀ signature,
      signWith frost suite package (signingKeys signers resultOf) publicKeys =
          .ok signature →
        ∃ c,
          suite.challenge signature.R publicKeys.verifyingKey package.message =
              .ok c ∧
            signature.z • generator =
              signature.R + c • publicKeys.verifyingKey ∧
            isEven (curve.y signature.R) = true ∧
            (commitment ≠ 0 →
              MinaValid curve generator publicKeys.verifyingKey c
                (translateSig curve signature))) ∧
      (∀ c,
        suite.challenge commitment publicKeys.verifyingKey package.message =
            .ok c →
          ∃ signature,
            signWith frost suite package (signingKeys signers resultOf)
              publicKeys = .ok signature) := by
  intro suite publicKeys
  obtain ⟨session, someone, rfl, isKey, signs⟩ := exists_session frost suite
    documented generates reachable signing holds
  have isMessage : session.message = (session.package generator).message := rfl
  rw [← isKey] at factorsEq
  simp only [publicKeys, ← signs, ← isKey, ← isMessage]
  constructor
  · intro signature signed
    obtain ⟨c, challengeEq, isCommitment, equation⟩ := SigningSession.of_sign
      frostDocumented factorsEq computed someone signed
    rw [← isCommitment] at challengeEq
    refine ⟨c, challengeEq, equation, ?_, fun nonzero =>
      SigningSession.minaValid_of_equation lawful nonzero isCommitment equation⟩
    rw [isCommitment]
    exact isEven_evenCommitment lawful commitment
  · intro c challengeEq
    apply SigningSession.exists_sign frostDocumented factorsEq computed
    rw [challenge, x_evenCommitment lawful]
    exact challengeEq

end Keygen

section FiveElements

/-- The package that the two honest participants sign. -/
def fivePackage : SigningPackage (ZMod 5) (ZMod 5) :=
  { commitments := fiveSigners.map fun signer =>
      (identifierBehind signer.1.castSucc,
        signer.2.commitments (1 : ZMod 5))
    message := [115, 105, 103, 110]
    distinct := by decide }

/-- The two honest participants sign with the key they generated. -/
theorem keygen_signs_five :
    ∃ world results signature c,
      ((fiveKeygen {2}).setup.session true).Reachable world ∧
        signWith (Reference.frostCore (1 : ZMod 5) fun _ _ _ => 1)
            (bluePallas (Reference.frostCore (1 : ZMod 5) fun _ _ _ => 1)
              fiveCurve polynomialHasher emptyCodec) fivePackage
            (Keygen.signingKeys fiveSigners results)
            (results 0).publicKeyPackage = .ok signature ∧
          MinaValid fiveCurve (1 : ZMod 5)
            (results 0).publicKeyPackage.verifyingKey c
            (translateSig fiveCurve signature) := by
  obtain ⟨world, reachable, finish⟩ := outcome_fiveRun
  have both : ∀ key : Fin 3, ∃ result, key ∈ [(0 : Fin 3), 1] →
      (fiveKeygen {2}).outcome world key = some (.ok result) := by
    intro key
    by_cases member : key ∈ [(0 : Fin 3), 1]
    · obtain ⟨result, returned⟩ := finish key member
      exact ⟨result, fun _ => returned⟩
    · obtain ⟨result, -⟩ := finish 0 (by decide)
      exact ⟨result, fun other => absurd other member⟩
  choose results returned using both
  have holds : ∀ key ∈ [(0 : Fin 3), 1],
      Keygen.Holds (fiveKeygen {2}) world key (results key) := by
    intro key member
    refine ⟨⟨?_, ?_⟩, returned key member⟩
    · exact FiniteMap.mem_keys_iff_lookup.mpr ⟨_, lookup_fivePubkeys key⟩
    · revert key
      decide
  obtain ⟨dealt, deals⟩ := Keygen.exists_deals fiveCore_documented
    fiveProof_generates reachable
  have identifiers : ∀ key ∈ [(0 : Fin 3), 1],
      (results key).keyPackage.identifier = identifierBehind key.castSucc := by
    intro key member
    rw [(deals.results key _ _ (holds key member).honest.2
      (lookup_fivePubkeys key) (returned key member)).2]
    rfl
  have signing : Keygen.Signing (fiveKeygen {2}) (1 : ZMod 5) world fiveSigners
      results fivePackage := by
    have members : ∀ signer ∈ fiveSigners, signer.1 ∈ [(0 : Fin 3), 1] := by
      decide
    refine ⟨List.cons_ne_nil _ _,
      fun signer member => holds _ (members signer member),
      fun _ _ => le_refl 2, ?_⟩
    apply List.map_congr_left
    intro signer member
    rw [identifiers _ (members signer member)]
  have documented := Reference.frostCore_documented (1 : ZMod 5)
    fun (_ : SigningPackage (ZMod 5) (ZMod 5)) _ _ => (1 : ZMod 5)
  have computed : (Reference.frostCore (1 : ZMod 5)
      fun (_ : SigningPackage (ZMod 5) (ZMod 5)) _ _ => (1 : ZMod 5)
      ).computeGroupCommitment fivePackage (fun identifier =>
        if identifier ∈ fivePackage.commitments.map Prod.fst then some 1
        else none) = .ok 3 := by
    apply (documented.computeGroupCommitment_eq_ok_iff _ _ _).mpr
    decide +kernel
  obtain ⟨valid, returns⟩ := Keygen.keygen_signs _ fiveCurve polynomialHasher
    emptyCodec documented fiveCurve_lawful fiveCore_documented
    fiveProof_generates reachable signing (holds 0 (by decide)) _ 3 rfl computed
  obtain ⟨signature, signed⟩ := returns _ rfl
  obtain ⟨c, -, -, -, minaValid⟩ := valid signature signed
  exact ⟨world, results, signature, c, reachable, signed,
    minaValid (by decide)⟩

end FiveElements

end Dkg
end MinaMultiSig
