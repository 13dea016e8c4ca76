import MinaMultiSig.Frost.ThresholdSignature

/-!
# The hooks of signers and coordinator agree

`pre_commitment_sign` and `pre_commitment_aggregate` of
`frost-bluepallas/src/lib.rs` decide on their own about the negation. They
multiply all commitments of any package by one sign, and the nonces too, so that
the group commitment has an even ordinate and a second call changes nothing.
-/

namespace MinaMultiSig
namespace Frost

open Tx

variable {ε F G : Type} [Field F] [AddCommGroup G] [Module F G]

section Signs

/-- Both commitments times a sign. -/
def SigningCommitments.scale
    (sign : F)
    (commitments : SigningCommitments G) : SigningCommitments G :=
  { hidingPart := sign • commitments.hidingPart
    bindingPart := sign • commitments.bindingPart }

/-- Both nonces times a sign. -/
def SigningNonces.scale
    (sign : F)
    (nonces : SigningNonces F) : SigningNonces F :=
  { hidingPart := sign * nonces.hidingPart
    bindingPart := sign * nonces.bindingPart }

theorem SigningCommitments.scale_one (commitments : SigningCommitments G) :
    commitments.scale (1 : F) = commitments := by
  unfold scale
  rw [one_smul, one_smul]

theorem SigningCommitments.scale_neg_one
    (commitments : SigningCommitments G) :
    commitments.scale (-1 : F) = commitments.negateY := by
  unfold scale negateY
  rw [neg_one_smul, neg_one_smul]

omit [AddCommGroup G] [Module F G] in
theorem SigningNonces.scale_one (nonces : SigningNonces F) :
    nonces.scale 1 = nonces := by
  unfold scale
  rw [one_mul, one_mul]

omit [AddCommGroup G] [Module F G] in
theorem SigningNonces.scale_neg_one (nonces : SigningNonces F) :
    nonces.scale (-1) = nonces.negateY := by
  unfold scale negateY
  rw [neg_one_mul, neg_one_mul]

end Signs

/-- The ordinates of an element other than the identity and of its inverse have
different parities. -/
def Coordinates.OppositeParity (curve : Coordinates G) : Prop :=
  ∀ point, point ≠ 0 → isEven (curve.y (-point)) = !isEven (curve.y point)

omit [Module F G] in
/-- The coordinates of the curve have this property. -/
theorem Coordinates.Lawful.oppositeParity
    {curve : Coordinates G}
    (lawful : curve.Lawful) :
    curve.OppositeParity := by
  intro point nonzero
  rw [lawful.y_neg]
  cases parity : isEven (curve.y point) with
  | false => exact isEven_neg parity
  | true =>
      have ordinate : curve.y point ≠ 0 := lawful.y_ne_zero point nonzero
      have below : (curve.y point).val < fpModulus := ZMod.val_lt _
      have even : (curve.y point).val % 2 = 0 := by
        simpa [isEven] using parity
      have modulusOdd : fpModulus % 2 = 1 := by
        decide
      have negVal : (-curve.y point).val = fpModulus - (curve.y point).val := by
        rw [ZMod.neg_val, if_neg ordinate]
      have odd : (-curve.y point).val % 2 = 1 := by
        omega
      simp [isEven, odd]

/-- The group commitment of `frost-core` is the sum of the commitments. -/
def FrostCore.SumsCommitments (frost : FrostCore ε F G) : Prop :=
  ∀ package factors commitment,
    frost.computeGroupCommitment package factors = .ok commitment ↔
      package.Usable factors ∧ commitment = package.commitmentSum factors

/-- What the hooks return for a package and nonces: both return one package, in
which one sign is multiplied to all that was committed to, and they leave it as
it is. -/
structure HooksAgree
    (frost : FrostCore ε F G)
    (curve : Coordinates G)
    (package : SigningPackage F G)
    (nonces : SigningNonces F)
    (factors : BindingFactorList F)
    (sign : F)
    (hooked : SigningPackage F G)
    (hookedNonces : SigningNonces F) : Prop where
  signed : preCommitmentSign frost curve package nonces factors =
    .ok (hooked, hookedNonces)
  aggregated : preCommitmentAggregate frost curve package factors = .ok hooked
  sameIdentifiers :
    hooked.commitments.map Prod.fst = package.commitments.map Prod.fst
  sameMessage : hooked.message = package.message
  isSign : sign = 1 ∨ sign = -1
  commitmentsEq : hooked.commitments =
    package.commitments.map fun entry => (entry.1, entry.2.scale sign)
  noncesEq : hookedNonces = nonces.scale sign
  stillCommitted : ∀ generator identifier,
    (identifier, nonces.commitments generator) ∈ package.commitments →
      (identifier, hookedNonces.commitments generator) ∈ hooked.commitments
  evenOrdinate : ∃ commitment,
    frost.computeGroupCommitment hooked factors = .ok commitment ∧
      isEven (curve.y commitment) = true
  signedAgain : preCommitmentSign frost curve hooked hookedNonces factors =
    .ok (hooked, hookedNonces)
  aggregatedAgain :
    preCommitmentAggregate frost curve hooked factors = .ok hooked

section Hooks

variable {frost : FrostCore ε F G}
  {curve : Coordinates G}
  {package : SigningPackage F G}
  {factors : BindingFactorList F}
  {commitment : G}
  (computed : frost.computeGroupCommitment package factors = .ok commitment)
include computed

omit [Module F G] in
theorem hooks_of_even
    (even : isEven (curve.y commitment) = true)
    (nonces : SigningNonces F) :
    preCommitmentSign frost curve package nonces factors =
        .ok (package, nonces) ∧
      preCommitmentAggregate frost curve package factors = .ok package := by
  unfold preCommitmentSign preCommitmentAggregate
  rw [computed]
  constructor
  · apply Outcome.bind_eq_ok.mpr
    exact ⟨commitment, rfl, if_pos even⟩
  · apply Outcome.bind_eq_ok.mpr
    exact ⟨commitment, rfl, if_pos even⟩

omit [Module F G] in
theorem hooks_of_odd
    (odd : isEven (curve.y commitment) = false)
    (nonces : SigningNonces F) :
    preCommitmentSign frost curve package nonces factors =
        .ok (package.negateY, nonces.negateY) ∧
      preCommitmentAggregate frost curve package factors =
        .ok package.negateY := by
  have notEven : ¬isEven (curve.y commitment) = true := by
    rw [odd]
    exact Bool.false_ne_true
  unfold preCommitmentSign preCommitmentAggregate
  rw [computed]
  constructor
  · apply Outcome.bind_eq_ok.mpr
    exact ⟨commitment, rfl, if_neg notEven⟩
  · apply Outcome.bind_eq_ok.mpr
    exact ⟨commitment, rfl, if_neg notEven⟩

theorem computeGroupCommitment_negateY
    (sums : frost.SumsCommitments) :
    frost.computeGroupCommitment package.negateY factors =
      .ok (-commitment) := by
  have original := (sums package factors commitment).mp computed
  apply (sums _ _ _).mpr
  refine ⟨original.1.negateY, ?_⟩
  rw [SigningPackage.commitmentSum_negateY, original.2]

/-- The hooks agree on every package whose group commitment is not the
identity. -/
theorem hooks_agree
    (opposite : curve.OppositeParity)
    (sums : frost.SumsCommitments)
    (nonzero : commitment ≠ 0)
    (nonces : SigningNonces F) :
    ∃ sign hooked hookedNonces,
      HooksAgree frost curve package nonces factors sign hooked
        hookedNonces := by
  cases parity : isEven (curve.y commitment) with
  | true =>
      have hooks := hooks_of_even computed parity nonces
      refine ⟨1, package, nonces, ?_⟩
      exact
        { signed := hooks.1
          aggregated := hooks.2
          sameIdentifiers := rfl
          sameMessage := rfl
          isSign := Or.inl rfl
          commitmentsEq := by simp [SigningCommitments.scale_one]
          noncesEq := nonces.scale_one.symm
          stillCommitted := fun _ _ member => member
          evenOrdinate := ⟨commitment, computed, parity⟩
          signedAgain := hooks.1
          aggregatedAgain := hooks.2 }
  | false =>
      have hooks := hooks_of_odd computed parity nonces
      have negated := computeGroupCommitment_negateY computed sums
      have even : isEven (curve.y (-commitment)) = true := by
        rw [opposite commitment nonzero, parity]
        rfl
      have again := hooks_of_even negated even nonces.negateY
      refine ⟨-1, package.negateY, nonces.negateY, ?_⟩
      exact
        { signed := hooks.1
          aggregated := hooks.2
          sameIdentifiers := by
            unfold SigningPackage.negateY
            rw [List.map_map]
            rfl
          sameMessage := rfl
          isSign := Or.inr rfl
          commitmentsEq := by
            simp only [SigningCommitments.scale_neg_one]
            rfl
          noncesEq := nonces.scale_neg_one.symm
          stillCommitted := by
            intro generator identifier member
            rw [SigningNonces.commitments_negateY]
            exact List.mem_map.mpr ⟨_, member, rfl⟩
          evenOrdinate := ⟨-commitment, negated, even⟩
          signedAgain := again.1
          aggregatedAgain := again.2 }

end Hooks

/-- The binding factors of the session of two holders. -/
def fiveFactors : BindingFactorList (ZMod 5) := fun identifier =>
  some (fiveBindingFactor (fiveSession.package (1 : ZMod 5))
    (fiveSession.verifyingKey (1 : ZMod 5)) identifier)

/-- The hooks agree on a package whose commitments are negated. -/
theorem hooks_agree_negated :
    isEven (fiveCurve.y (3 : ZMod 5)) = false ∧
      ∃ sign hooked hookedNonces,
        HooksAgree fiveFrost fiveCurve (fiveSession.package (1 : ZMod 5))
          { hidingPart := 1, bindingPart := 2 } fiveFactors sign hooked
          hookedNonces := by
  have sums : fiveFrost.SumsCommitments :=
    Reference.computeGroupCommitment_eq_ok_iff
  have computed : fiveFrost.computeGroupCommitment
      (fiveSession.package (1 : ZMod 5)) fiveFactors = .ok 3 := by
    apply (sums _ _ _).mpr
    decide +kernel
  exact ⟨by decide +kernel, hooks_agree computed
    fiveCurve_lawful.oppositeParity sums (by decide) _⟩

end Frost
end MinaMultiSig
