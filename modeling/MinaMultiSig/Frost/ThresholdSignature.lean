import Mathlib.Algebra.Field.ZMod
import MinaMultiSig.Frost.BluePallas
import MinaMultiSig.Frost.Reference

/-!
# Threshold signing

The signers of a session sign one package with shares of one key, and the
coordinator adds up what they return. Signers and coordinator decide about the
negation on their own. Both cases of it are one computation on adjusted nonces,
so that the shares add up to a signature with an even ordinate in either case.
-/

namespace MinaMultiSig
namespace Frost

open ShamirSharing Tx

variable {ε F G : Type}

/-- A signer with the nonces it has committed to. -/
structure Signer (F : Type) [Zero F] where
  identifier : Identifier F
  nonces : SigningNonces F

/-- A sharing of a key, and signers of a message that hold enough shares. The
threshold is the number of coefficients. -/
structure SigningSession (F : Type) [Zero F] where
  coefficients : List F
  holders : List (Identifier F)
  signers : List (Signer F)
  message : List UInt8
  holdersDistinct : holders.Nodup
  signersDistinct : (signers.map Signer.identifier).Nodup
  signersHold : ∀ signer ∈ signers, signer.identifier ∈ holders
  enough : coefficients.length ≤ signers.length

namespace SigningSession

variable [Field F] [AddCommGroup G] [Module F G]

section Definitions

variable (session : SigningSession F) (generator : G)

/-- The shared secret. -/
def secret : F :=
  evaluate session.coefficients 0

/-- The share of a holder. -/
def signingShare (identifier : Identifier F) : F :=
  evaluate session.coefficients identifier

/-- The public key of the group. -/
def verifyingKey : G :=
  session.secret • generator

/-- The package for nonces that a hook has adjusted. -/
def packageWith
    (adjust : SigningNonces F → SigningNonces F) : SigningPackage F G :=
  { commitments := session.signers.map fun signer =>
      (signer.identifier, (adjust signer.nonces).commitments generator)
    message := session.message
    distinct := by
      rw [List.map_map]
      exact session.signersDistinct }

/-- The package that is given to the signers and the coordinator. -/
def package : SigningPackage F G :=
  session.packageWith generator id

/-- The key package of a holder. -/
def keyPackage (identifier : Identifier F) : KeyPackage F G :=
  { identifier := identifier
    signingShare := session.signingShare identifier
    verifyingKey := session.verifyingKey generator
    minSigners := session.coefficients.length }

/-- The public key package of the group. -/
def publicKeyPackage : PublicKeyPackage F G :=
  { verifyingShares := session.holders.map fun holder =>
      (holder, session.signingShare holder • generator)
    verifyingKey := session.verifyingKey generator
    minSigners := some session.coefficients.length }

/-- Every signer signs the package, and the coordinator aggregates. -/
def sign
    (frost : FrostCore ε F G)
    (suite : Ciphersuite ε F G) : Outcome ε (Signature F G) := do
  let signatureShares ← session.signers.mapM fun signer => do
    let share ← frost.sign suite (session.package generator) signer.nonces
      (session.keyPackage generator signer.identifier)
    return (signer.identifier, share)
  frost.aggregate suite (session.package generator) signatureShares
    (session.publicKeyPackage generator)

end Definitions

/-- The identifiers of the signers as scalars. -/
def nodes [DecidableEq F] (session : SigningSession F) : Finset F :=
  (session.signers.map fun signer => signer.identifier.val).toFinset

section Sums

variable {session : SigningSession F} {generator : G}
  (adjust : SigningNonces F → SigningNonces F) (factors : BindingFactorList F)

theorem nodup_scalars :
    (session.signers.map fun signer => signer.identifier.val).Nodup := by
  have scalars := session.signersDistinct.map Subtype.val_injective
  rw [List.map_map] at scalars
  exact scalars

/-- The nonce of a signer with its binding factor. -/
def boundNonce (signer : Signer F) : F :=
  (adjust signer.nonces).hidingPart +
    (adjust signer.nonces).bindingPart * (factors signer.identifier).getD 0

/-- The commitments to the nonces commit to the sum of the nonces. -/
theorem commitmentSum_packageWith :
    (session.packageWith generator adjust).commitmentSum factors =
      (session.signers.map (boundNonce adjust factors)).sum • generator := by
  rw [SigningPackage.commitmentSum, packageWith, List.map_map, List.sum_smul,
    List.map_map]
  apply congrArg List.sum
  apply List.map_congr_left
  intro signer _member
  simp only [Function.comp_apply, SigningNonces.commitments, boundNonce,
    smul_smul, add_smul]
  rw [mul_comm]

variable [DecidableEq F]

theorem nodes_packageWith :
    (session.packageWith generator adjust).nodes = session.nodes := by
  rw [SigningPackage.nodes, packageWith, List.map_map]
  rfl

/-- The weighted shares of the key add up to the key. -/
theorem sum_signingShare :
    (session.signers.map fun signer =>
      interpolatingValue session.nodes signer.identifier *
        session.signingShare signer.identifier).sum = session.secret := by
  have distinctScalars : (session.signers.map fun signer =>
      signer.identifier.val).Nodup := nodup_scalars
  have enoughNodes : session.coefficients.length ≤ session.nodes.card := by
    rw [nodes, List.toFinset_card_of_nodup distinctScalars, List.length_map]
    exact session.enough
  have interpolated := sum_interpolatingValue enoughNodes
  conv_lhs at interpolated => rw [nodes]
  rw [List.sum_toFinset _ distinctScalars, List.map_map] at interpolated
  exact interpolated

/-- The share of a signer. -/
def share (session : SigningSession F) (challenge : F) (signer : Signer F) :
    F :=
  boundNonce adjust factors signer +
    interpolatingValue session.nodes signer.identifier *
      session.signingShare signer.identifier * challenge

/-- The shares add up to a solution of the equation of a signature. -/
theorem sum_share (challenge : F) :
    (session.signers.map (session.share adjust factors challenge)).sum •
        generator =
      (session.packageWith generator adjust).commitmentSum factors +
        challenge • session.verifyingKey generator := by
  have split : (session.signers.map
      (session.share adjust factors challenge)).sum =
        (session.signers.map (boundNonce adjust factors)).sum +
          session.secret * challenge := by
    rw [← sum_signingShare, ← List.sum_map_mul_right, ← List.sum_map_add]
    rfl
  rw [split, add_smul, commitmentSum_packageWith, verifyingKey, smul_smul,
    mul_comm challenge]

end Sums

end SigningSession

section Negation

variable [Field F] [AddCommGroup G]

theorem SigningPackage.Usable.negateY
    {package : SigningPackage F G}
    {factors : BindingFactorList F}
    (usable : package.Usable factors) :
    package.negateY.Usable factors := by
  intro entry member
  obtain ⟨original, originalMember, rfl⟩ := List.mem_map.mp member
  obtain ⟨hidingNonzero, bindingNonzero, hasFactor⟩ :=
    usable original originalMember
  exact ⟨neg_ne_zero.mpr hidingNonzero, neg_ne_zero.mpr bindingNonzero,
    hasFactor⟩

variable [Module F G]

theorem SigningPackage.commitmentSum_negateY
    (package : SigningPackage F G)
    (factors : BindingFactorList F) :
    package.negateY.commitmentSum factors =
      -package.commitmentSum factors := by
  rw [commitmentSum, commitmentSum, List.sum_neg, negateY, List.map_map,
    List.map_map]
  apply congrArg List.sum
  apply List.map_congr_left
  intro entry _member
  simp only [Function.comp_apply, SigningCommitments.negateY, smul_neg,
    neg_add]

/-- Negated nonces have negated commitments. -/
theorem SigningNonces.commitments_negateY
    (generator : G)
    (nonces : SigningNonces F) :
    nonces.negateY.commitments generator =
      (nonces.commitments generator).negateY := by
  rw [commitments, commitments, SigningNonces.negateY,
    SigningCommitments.negateY, neg_smul, neg_smul]

/-- What the hooks do to nonces. -/
def adjustment
    (curve : Coordinates G)
    (commitment : G) : SigningNonces F → SigningNonces F :=
  if isEven (curve.y commitment) then id else SigningNonces.negateY

/-- The commitment or its negation, whichever has an even ordinate. -/
def evenCommitment (curve : Coordinates G) (commitment : G) : G :=
  if isEven (curve.y commitment) then commitment else -commitment

theorem isEven_evenCommitment
    {curve : Coordinates G}
    (lawful : curve.Lawful)
    (commitment : G) :
    isEven (curve.y (evenCommitment curve commitment)) = true := by
  rw [evenCommitment]
  split
  next even => exact even
  next odd =>
      rw [lawful.y_neg]
      exact isEven_neg (by simpa using odd)

theorem x_evenCommitment
    {curve : Coordinates G}
    (lawful : curve.Lawful)
    (commitment : G) :
    curve.x (evenCommitment curve commitment) = curve.x commitment := by
  rw [evenCommitment]
  split
  · rfl
  · exact lawful.x_neg commitment

theorem evenCommitment_ne_zero
    (curve : Coordinates G)
    {commitment : G}
    (nonzero : commitment ≠ 0) :
    evenCommitment curve commitment ≠ 0 := by
  rw [evenCommitment]
  split
  · exact nonzero
  · exact neg_ne_zero.mpr nonzero

end Negation

namespace SigningSession

variable [Field F] [DecidableEq F] [AddCommGroup G] [Module F G]
  {frost : FrostCore ε F G}
  {curve : Coordinates G}
  {session : SigningSession F}
  {generator : G}
  {factors : BindingFactorList F}
  {commitment : G}

omit [DecidableEq F] in
/-- A hook leaves the package for the adjusted nonces. -/
theorem package_adjustment :
    (if isEven (curve.y commitment) then session.package generator
      else (session.package generator).negateY) =
      session.packageWith generator (adjustment curve commitment) := by
  rw [adjustment]
  split
  · rfl
  · apply SigningPackage.ext
    · simp only [package, packageWith, SigningPackage.negateY, List.map_map]
      apply List.map_congr_left
      intro signer _member
      rw [Function.comp_apply, SigningNonces.commitments_negateY]
      rfl
    · rfl

section Hooks

variable (curve) (computed : frost.computeGroupCommitment (session.package generator)
  factors = .ok commitment)

include computed

omit [DecidableEq F] in
theorem preCommitmentAggregate_eq :
    preCommitmentAggregate frost curve (session.package generator) factors =
      .ok (session.packageWith generator (adjustment curve commitment)) := by
  rw [preCommitmentAggregate, computed, ← package_adjustment]
  change (if isEven (curve.y commitment) = true then _ else _) = _
  split
  · rfl
  · rfl

omit [DecidableEq F] in
theorem preCommitmentSign_eq (nonces : SigningNonces F) :
    preCommitmentSign frost curve (session.package generator) nonces factors =
      .ok (session.packageWith generator (adjustment curve commitment),
        adjustment curve commitment nonces) := by
  rw [preCommitmentSign, computed, ← package_adjustment, adjustment]
  change (if isEven (curve.y commitment) = true then _ else _) = _
  split
  · rfl
  · rfl

variable (documented : frost.Documented generator)

include documented

/-- The group commitment of the package that a hook leaves. -/
theorem computeGroupCommitment_adjustment :
    frost.computeGroupCommitment
        (session.packageWith generator (adjustment curve commitment)) factors =
      .ok (evenCommitment curve commitment) := by
  obtain ⟨usable, commitmentEq⟩ :=
    (documented.computeGroupCommitment_eq_ok_iff _ _ _).mp computed
  apply (documented.computeGroupCommitment_eq_ok_iff _ _ _).mpr
  rw [← package_adjustment, evenCommitment]
  split
  · exact ⟨usable, commitmentEq⟩
  · refine ⟨usable.negateY, ?_⟩
    rw [SigningPackage.commitmentSum_negateY, commitmentEq]

end Hooks

section Signing

variable {challengeOf : G → G → List UInt8 → Outcome ε F}
  (documented : frost.Documented generator)
  (factorsEq : frost.computeBindingFactorList (session.package generator)
    (session.verifyingKey generator) = .ok factors)
  (computed : frost.computeGroupCommitment (session.package generator)
    factors = .ok commitment)

include documented factorsEq computed

/-- A signer returns its share of a signature for the challenge. -/
theorem sign_eq_ok_iff
    {signer : Signer F}
    (member : signer ∈ session.signers)
    {value : F} :
    frost.sign (bluePallasOf frost curve challengeOf)
        (session.package generator) signer.nonces
        (session.keyPackage generator signer.identifier) = .ok value ↔
      ∃ c,
        challengeOf (evenCommitment curve commitment)
            (session.verifyingKey generator) session.message = .ok c ∧
          value =
            session.share (adjustment curve commitment) factors c signer := by
  have hooked := preCommitmentSign_eq curve computed signer.nonces
  have adjusted :=
    computeGroupCommitment_adjustment curve computed documented
  have entryMember : (signer.identifier, signer.nonces.commitments generator) ∈
      (session.package generator).commitments :=
    List.mem_map.mpr ⟨signer, member, rfl⟩
  have enoughSigners : session.coefficients.length ≤
      (session.package generator).commitments.length := by
    rw [package, packageWith, List.length_map]
    exact session.enough
  rw [documented.sign_eq_ok_iff _ _ _ _ _ enoughSigners entryMember]
  constructor
  · rintro ⟨signFactors, signPackage, signNonces, signCommitment, factor, c,
      prepared, noncesEq, signFactorEq, -, challengeEq, rfl⟩
    have factorEq : signFactors signer.identifier = some factor := signFactorEq
    obtain rfl := Except.ok.inj (factorsEq.symm.trans prepared.factorsEq)
    have packageEq := prepared.hookedEq
    simp only [bluePallasOf, hooked, Except.map, Except.ok.injEq]
      at packageEq noncesEq
    subst packageEq noncesEq
    obtain rfl := Except.ok.inj (adjusted.symm.trans prepared.commitmentEq)
    refine ⟨c, challengeEq, ?_⟩
    rw [share, boundNonce, nodes_packageWith, factorEq]
    rfl
  · rintro ⟨c, challengeEq, rfl⟩
    have usable :=
      ((documented.computeGroupCommitment_eq_ok_iff _ _ _).mp computed).1
    obtain ⟨factor, factorEq⟩ :=
      Option.isSome_iff_exists.mp (usable _ entryMember).2.2
    refine ⟨factors, session.packageWith generator (adjustment curve commitment),
      adjustment curve commitment signer.nonces,
      evenCommitment curve commitment, factor, c, ⟨factorsEq, ?_, adjusted⟩, ?_,
      factorEq, ?_, challengeEq, ?_⟩
    · simp only [bluePallasOf, hooked, Except.map]
    · simp only [bluePallasOf, hooked, Except.map]
    · rw [nodes_packageWith, nodes, List.mem_toFinset]
      exact List.mem_map.mpr ⟨signer, member, rfl⟩
    · rw [share, boundNonce, nodes_packageWith, factorEq]
      rfl

/-- The coordinator returns the even commitment and the sum of the shares. -/
theorem of_aggregate
    {shares : List (Identifier F × F)}
    {signature : Signature F G}
    (aggregated : frost.aggregate (bluePallasOf frost curve challengeOf)
      (session.package generator) shares (session.publicKeyPackage generator) =
        .ok signature) :
    signature =
      { R := evenCommitment curve commitment
        z := (shares.map Prod.snd).sum } := by
  obtain ⟨otherFactors, hooked, otherCommitment, prepared, rfl⟩ :=
    documented.of_aggregate _ _ _ _ _ aggregated
  obtain rfl := Except.ok.inj (factorsEq.symm.trans prepared.factorsEq)
  obtain rfl := Except.ok.inj ((preCommitmentAggregate_eq curve computed).symm.trans
    prepared.hookedEq)
  obtain rfl := Except.ok.inj ((computeGroupCommitment_adjustment curve computed
    documented).symm.trans prepared.commitmentEq)
  rfl

variable (curve) in
omit factorsEq in
/-- The shares of the signers for a challenge, as the coordinator has them. -/
theorem sum_signatureShares (c : F) :
    (((session.signers.map fun signer => (signer.identifier,
      session.share (adjustment curve commitment) factors c signer)).map
        Prod.snd).sum) • generator =
      evenCommitment curve commitment + c • session.verifyingKey generator := by
  have adjusted :=
    computeGroupCommitment_adjustment curve computed documented
  have commitmentSum :=
    ((documented.computeGroupCommitment_eq_ok_iff _ _ _).mp adjusted).2
  rw [commitmentSum, ← sum_share, List.map_map]
  rfl

/-- The coordinator accepts the shares of the signers. -/
theorem aggregate_eq_ok
    {c : F}
    (challengeEq : challengeOf (evenCommitment curve commitment)
      (session.verifyingKey generator) session.message = .ok c) :
    ∃ signature,
      frost.aggregate (bluePallasOf frost curve challengeOf)
        (session.package generator)
        (session.signers.map fun signer => (signer.identifier,
          session.share (adjustment curve commitment) factors c signer))
        (session.publicKeyPackage generator) = .ok signature := by
  refine ⟨_, documented.aggregate_of_verifies _ _ _ _ factors
    (session.packageWith generator (adjustment curve commitment))
    (evenCommitment curve commitment) c ?_ ?_ ?_ ⟨factorsEq, ?_, ?_⟩ challengeEq
    (sum_signatureShares curve documented computed c)⟩
  · rw [package, packageWith, List.map_map, List.map_map]
    rfl
  · intro minSigners isThreshold
    rw [List.length_map, ← Option.mem_some_iff.mp isThreshold]
    exact session.enough
  · intro entry entryMember
    obtain ⟨signer, member, rfl⟩ := List.mem_map.mp entryMember
    rw [publicKeyPackage, List.map_map]
    exact List.mem_map.mpr
      ⟨signer.identifier, session.signersHold signer member, rfl⟩
  · exact preCommitmentAggregate_eq curve computed
  · exact computeGroupCommitment_adjustment curve computed documented

/-- The shares that the signers return, once one of them returned one. -/
theorem mapM_sign_eq_ok
    {c : F}
    (challengeEq : challengeOf (evenCommitment curve commitment)
      (session.verifyingKey generator) session.message = .ok c) :
    (session.signers.mapM fun signer => do
      let share ← frost.sign (bluePallasOf frost curve challengeOf)
        (session.package generator) signer.nonces
        (session.keyPackage generator signer.identifier)
      return (signer.identifier, share)) =
      .ok (session.signers.map fun signer => (signer.identifier,
        session.share (adjustment curve commitment) factors c signer)) := by
  apply Outcome.mapM_eq_ok
  intro signer member
  apply Outcome.bind_eq_ok.mpr
  exact ⟨_, (sign_eq_ok_iff documented factorsEq computed member).mpr
    ⟨c, challengeEq, rfl⟩, rfl⟩

omit factorsEq in
/-- Without signers the group commitment is zero. -/
theorem signers_ne_nil (nonzero : commitment ≠ 0) : session.signers ≠ [] := by
  intro noSigner
  apply nonzero
  rw [((documented.computeGroupCommitment_eq_ok_iff _ _ _).mp computed).2,
    package, commitmentSum_packageWith, noSigner, List.map_nil, List.sum_nil,
    zero_smul]

/-- Some signer computed the challenge. -/
theorem exists_challenge
    (someone : session.signers ≠ [])
    {shares : List (Identifier F × F)}
    (signed : (session.signers.mapM fun signer => do
      let share ← frost.sign (bluePallasOf frost curve challengeOf)
        (session.package generator) signer.nonces
        (session.keyPackage generator signer.identifier)
      return (signer.identifier, share)) = .ok shares) :
    ∃ c, challengeOf (evenCommitment curve commitment)
      (session.verifyingKey generator) session.message = .ok c := by
  obtain ⟨signer, member⟩ := List.exists_mem_of_ne_nil _ someone
  obtain ⟨_, signerSigned⟩ :=
    Outcome.exists_of_mapM_eq_ok signed signer member
  obtain ⟨_, shareEq, -⟩ := Outcome.bind_eq_ok.mp signerSigned
  obtain ⟨c, challengeEq, -⟩ :=
    (sign_eq_ok_iff documented factorsEq computed member).mp shareEq
  exact ⟨c, challengeEq⟩

/-- A session returns the even commitment and a solution of the equation of
Schnorr for its challenge. -/
theorem of_sign
    (someone : session.signers ≠ [])
    {signature : Signature F G}
    (signed : session.sign generator frost
      (bluePallasOf frost curve challengeOf) = .ok signature) :
    ∃ c,
      challengeOf (evenCommitment curve commitment)
          (session.verifyingKey generator) session.message = .ok c ∧
        signature.R = evenCommitment curve commitment ∧
        signature.z • generator =
          signature.R + c • session.verifyingKey generator := by
  rw [sign, Outcome.bind_eq_ok] at signed
  obtain ⟨shares, sharesEq, aggregated⟩ := signed
  obtain ⟨c, challengeEq⟩ :=
    exists_challenge documented factorsEq computed someone sharesEq
  obtain rfl := Except.ok.inj (sharesEq.symm.trans
    (mapM_sign_eq_ok documented factorsEq computed challengeEq))
  obtain rfl := of_aggregate documented factorsEq computed aggregated
  exact ⟨c, challengeEq, rfl, sum_signatureShares curve documented computed c⟩

/-- A session whose challenge can be computed returns a signature. -/
theorem exists_sign
    {c : F}
    (challengeEq : challengeOf (evenCommitment curve commitment)
      (session.verifyingKey generator) session.message = .ok c) :
    ∃ signature,
      session.sign generator frost (bluePallasOf frost curve challengeOf) =
        .ok signature := by
  obtain ⟨signature, aggregated⟩ :=
    aggregate_eq_ok documented factorsEq computed challengeEq
  refine ⟨signature, Outcome.bind_eq_ok.mpr ⟨_, ?_, aggregated⟩⟩
  exact mapM_sign_eq_ok documented factorsEq computed challengeEq

end Signing

omit [DecidableEq F] in
/-- A solution of the equation of Schnorr for an even commitment passes the
check of Mina. -/
theorem minaValid_of_equation
    {curve : Coordinates G}
    (lawful : curve.Lawful)
    (nonzero : commitment ≠ 0)
    {publicKey : G}
    {signature : Signature F G}
    {c : F}
    (isCommitment : signature.R = evenCommitment curve commitment)
    (equation : signature.z • generator = signature.R + c • publicKey) :
    MinaValid curve generator publicKey c (translateSig curve signature) := by
  have difference := sub_eq_of_eq_add equation
  constructor
  · rw [translateSig, difference, isCommitment]
    exact evenCommitment_ne_zero curve nonzero
  · rw [translateSig, difference, isCommitment]
    exact isEven_evenCommitment lawful commitment
  · rw [translateSig, difference]

/-- A session whose group commitment is not the identity returns a signature
that satisfies the equation of Schnorr for the challenge of the suite, has an
even ordinate and passes the check of Mina. It returns one whenever the challenge
can be computed. -/
theorem sign_valid
    (frost : FrostCore ε F G)
    (curve : Coordinates G)
    (hasher : MinaHasher)
    (codec : ROInputCodec)
    (generator : G)
    (documented : frost.Documented generator)
    (lawful : curve.Lawful)
    (session : SigningSession F)
    (factors : BindingFactorList F)
    (commitment : G)
    (factorsEq : frost.computeBindingFactorList (session.package generator)
      (session.verifyingKey generator) = .ok factors)
    (computed : frost.computeGroupCommitment (session.package generator)
      factors = .ok commitment)
    (nonzero : commitment ≠ 0) :
    (∀ signature,
      session.sign generator frost (bluePallas frost curve hasher codec) =
          .ok signature →
        ∃ c,
          (challenge curve hasher codec signature.R
              (session.verifyingKey generator) session.message :
                Outcome ε F) = .ok c ∧
            signature.z • generator =
              signature.R + c • session.verifyingKey generator ∧
            isEven (curve.y signature.R) = true ∧
            MinaValid curve generator (session.verifyingKey generator) c
              (translateSig curve signature)) ∧
      (∀ c,
        (challenge curve hasher codec commitment
            (session.verifyingKey generator) session.message : Outcome ε F) =
          .ok c →
        ∃ signature,
          session.sign generator frost (bluePallas frost curve hasher codec) =
            .ok signature) := by
  constructor
  · intro signature signed
    have someone := signers_ne_nil documented computed nonzero
    obtain ⟨c, challengeEq, isCommitment, equation⟩ :=
      of_sign documented factorsEq computed someone signed
    rw [← isCommitment] at challengeEq
    refine ⟨c, challengeEq, equation, ?_,
      minaValid_of_equation lawful nonzero isCommitment equation⟩
    rw [isCommitment]
    exact isEven_evenCommitment lawful commitment
  · intro c challengeEq
    apply exists_sign documented factorsEq computed
    rw [challenge, x_evenCommitment lawful]
    exact challengeEq

end SigningSession

section FiveElements

/-- There is a field of five elements. -/
instance fact_prime_five : Fact (Nat.Prime 5) :=
  ⟨Nat.prime_five⟩

-- Literals of the fields, without a proof of their own in each definition.
local instance two_atLeastTwo : Nat.AtLeastTwo 2 :=
  ⟨by decide⟩

local instance five_atLeastTwo : Nat.AtLeastTwo 5 :=
  ⟨by decide⟩

local instance seven_atLeastTwo : Nat.AtLeastTwo 7 :=
  ⟨by decide⟩

/-- Two of three holders of shares of the key 3. -/
def fiveSession : SigningSession (ZMod 5) :=
  { coefficients := [3, 2]
    holders := [⟨1, by decide⟩, ⟨2, by decide⟩, ⟨3, by decide⟩]
    signers :=
      [{ identifier := ⟨1, by decide⟩
         nonces := { hidingPart := 1, bindingPart := 2 } },
       { identifier := ⟨3, by decide⟩
         nonces := { hidingPart := 4, bindingPart := 3 } }]
    message := [115, 105, 103, 110]
    holdersDistinct := by decide
    signersDistinct := by decide
    signersHold := by decide
    enough := by decide }

/-- Coordinates of the integers modulo five. -/
def fiveCurve : Coordinates (ZMod 5) :=
  { x := fun point => (point.val * (5 - point.val) : Nat)
    y := fun point =>
      if point.val ≤ 2 then (point.val * 2 : Nat)
      else -(((5 - point.val) * 2 : Nat) : Fp) }

/-- A binding factor that depends on everything it is given. -/
def fiveBindingFactor
    (package : SigningPackage (ZMod 5) (ZMod 5))
    (verifyingKey : ZMod 5)
    (identifier : Identifier (ZMod 5)) : ZMod 5 :=
  package.message.length + verifyingKey * identifier.val

/-- The reference functions with this binding factor. -/
def fiveFrost : FrostCore FrostError (ZMod 5) (ZMod 5) :=
  Reference.frostCore 1 fiveBindingFactor

/-- Polynomials in place of the hashes. -/
def polynomialHasher : MinaHasher :=
  { legacy := fun domain fields =>
      fields.foldl (fun state field => state * 5 + field) domain.length
    kimchi := fun domain fields =>
      fields.foldl (fun state field => state * 7 + field) domain.length }

/-- A codec that knows the encoding of the empty input. -/
def emptyCodec : ROInputCodec :=
  { serialize := fun _ => []
    deserialize := fun bytes => if bytes = [] then some ROInput.new else none }

theorem fiveCurve_lawful : fiveCurve.Lawful where
  x_neg := by decide +kernel
  y_neg := by decide +kernel
  y_ne_zero := by decide +kernel

/-- The two holders sign with negated nonces. -/
theorem sign_valid_negated :
    isEven (fiveCurve.y (3 : ZMod 5)) = false ∧
      ∃ signature c,
        fiveSession.sign (1 : ZMod 5) fiveFrost
            (bluePallas fiveFrost fiveCurve polynomialHasher emptyCodec) =
          .ok signature ∧
        MinaValid fiveCurve 1 (fiveSession.verifyingKey (1 : ZMod 5)) c
          (translateSig fiveCurve signature) := by
  have documented : fiveFrost.Documented (1 : ZMod 5) :=
    Reference.frostCore_documented 1 fiveBindingFactor
  have computed : fiveFrost.computeGroupCommitment
      (fiveSession.package (1 : ZMod 5))
      (fun identifier =>
        if identifier ∈ (fiveSession.package (1 : ZMod 5)).commitments.map
            Prod.fst then
          some (fiveBindingFactor (fiveSession.package (1 : ZMod 5))
            (fiveSession.verifyingKey (1 : ZMod 5)) identifier)
        else none) = .ok 3 := by
    apply (documented.computeGroupCommitment_eq_ok_iff _ _ _).mpr
    decide +kernel
  obtain ⟨valid, returns⟩ := SigningSession.sign_valid fiveFrost fiveCurve
    polynomialHasher emptyCodec 1 documented fiveCurve_lawful fiveSession _ 3
    rfl computed (by decide)
  obtain ⟨signature, signed⟩ := returns _ rfl
  obtain ⟨c, -, -, -, minaValid⟩ := valid signature signed
  exact ⟨by decide +kernel, signature, c, signed, minaValid⟩

end FiveElements

end Frost
end MinaMultiSig
