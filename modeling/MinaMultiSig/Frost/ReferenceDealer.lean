import MinaMultiSig.Frost.Dealer

/-!
# A reference for the dealer

Keys are dealt from a list of scalars in place of a random generator. The
reference meets the assumptions on the functions that keys and nonces come from,
and a signer of the reference for FROST refuses too few commitments.
-/

namespace MinaMultiSig
namespace Frost
namespace Reference

open ShamirSharing

variable {ε F G : Type} [Field F] [DecidableEq F] [AddCommGroup G] [Module F G]

/-- The next scalars, and zeros behind the last one. -/
def draw (count : Nat) (rng : List F) : List F :=
  (List.range count).map fun index => rng.getD index 0

variable (refusal : ε)

/-- The identifier of a number that is not zero in the field. -/
def identifier (number : UInt16) : Outcome ε (Identifier F) :=
  if nonzero : (number.toNat : F) ≠ 0 then .ok ⟨number.toNat, nonzero⟩
  else .error (.error refusal)

/-- The identifiers for a list: by default, the numbers of the signers. -/
def identifiers
    (maxSigners : UInt16) :
    IdentifierList F → Outcome ε (List (Identifier F))
  | .default =>
      if nonzero : ∀ number ∈ List.range' 1 maxSigners.toNat,
          (number : F) ≠ 0 then
        .ok ((List.range' 1 maxSigners.toNat).pmap
          (fun (number : Nat) numberNonzero => ⟨number, numberNonzero⟩)
          nonzero)
      else .error (.error refusal)
  | .custom identifiers => .ok identifiers

variable (generator : G)

/-- The shares of the polynomial with the coefficients. -/
def deal
    (maxSigners minSigners : UInt16)
    (list : IdentifierList F)
    (coefficients : List F) : Outcome ε (DealerOutput F G) := do
  let identifiers ← identifiers refusal maxSigners list
  if valid : (identifiers.Nodup ∧ 2 ≤ coefficients.length ∧
      coefficients.length ≤ identifiers.length) ∧
      coefficients.length = minSigners.toNat ∧
        identifiers.length = maxSigners.toNat then
    return DealtKey.output
      { coefficients := coefficients
        identifiers := identifiers
        distinct := valid.1.1
        two := valid.1.2.1
        enough := valid.1.2.2 } generator
  else throw (.error refusal)

variable [DecidableEq G]

/-- Take a share that verifies. -/
def keyPackage (share : SecretShare F G) : Outcome ε (KeyPackage F G) :=
  if share.commitment ≠ [] ∧ share.signingShare • generator =
      commitmentAt share.commitment share.identifier.val then
    .ok
      { identifier := share.identifier
        signingShare := share.signingShare
        verifyingKey := share.commitment.headD 0
        minSigners := share.commitment.length }
  else .error (.error refusal)

/-- Two nonces from the generator, and their commitments. -/
def commit
    (rng : List F) :
    (SigningNonces F × SigningCommitments G) × List F :=
  let nonces : SigningNonces F :=
    { hidingPart := rng.getD 0 0, bindingPart := rng.getD 1 0 }
  ((nonces, nonces.commitments generator), rng.drop 2)

/-- The reference functions of a dealer. -/
def frostKeys : FrostKeys ε F G (List F) :=
  { generateWithDealer := fun maxSigners minSigners list rng =>
      (deal refusal generator maxSigners minSigners list
        (draw minSigners.toNat rng), rng.drop minSigners.toNat)
    split := fun key maxSigners minSigners list rng =>
      (deal refusal generator maxSigners minSigners list
        (key :: draw (minSigners.toNat - 1) rng),
        rng.drop (minSigners.toNat - 1))
    keyPackage := keyPackage refusal generator
    identifier := identifier refusal
    malformedIdentifier := refusal
    commit := fun _share => commit generator }

section Documented

variable {refusal : ε} {generator : G}

omit [DecidableEq G] [AddCommGroup G] [Module F G] in
/-- The identifiers have the scalars that were asked for. -/
theorem of_identifiers
    {maxSigners : UInt16}
    {list : IdentifierList F}
    {found : List (Identifier F)}
    (foundEq : identifiers refusal maxSigners list = .ok found)
    (scalar : F) :
    (∃ identifier ∈ found, identifier.val = scalar) ↔
      list.Lists maxSigners scalar := by
  cases list with
  | custom asked =>
      obtain rfl := Except.ok.inj foundEq
      rfl
  | default =>
      rw [identifiers] at foundEq
      split at foundEq
      next nonzero =>
        obtain rfl := Except.ok.inj foundEq
        simp only [List.mem_pmap, List.mem_range'_1, IdentifierList.Lists]
        constructor
        · rintro ⟨_, ⟨number, isNumber, rfl⟩, rfl⟩
          exact ⟨number, isNumber.1, by omega, rfl⟩
        · rintro ⟨number, positive, atMost, rfl⟩
          exact ⟨_, ⟨number, ⟨positive, by omega⟩, rfl⟩, rfl⟩
      next => exact absurd foundEq (by simp)

omit [DecidableEq G] in
/-- What is dealt are the shares of a polynomial. -/
theorem of_deal
    {maxSigners minSigners : UInt16}
    {list : IdentifierList F}
    {coefficients : List F}
    {output : DealerOutput F G}
    (dealtEq : deal refusal generator maxSigners minSigners list coefficients =
      .ok output) :
    ∃ dealt : DealtKey F, dealt.IsFor maxSigners minSigners list ∧
      output = dealt.output generator := by
  obtain ⟨found, foundEq, returned⟩ := Outcome.bind_eq_ok.mp dealtEq
  split at returned
  next valid =>
    refine ⟨⟨coefficients, found, valid.1.1, valid.1.2.1, valid.1.2.2⟩,
      ⟨valid.2.1, valid.2.2, of_identifiers foundEq⟩, ?_⟩
    exact (Except.ok.inj returned).symm
  next => exact absurd returned (Outcome.throw_ne_ok _ _)

/-- The reference meets the assumptions. -/
theorem frostKeys_documented :
    (frostKeys (F := F) refusal generator).Documented generator where
  of_deals := by
    rintro maxSigners minSigners list output
      ⟨rng, rest, generated | ⟨key, split⟩⟩
    · exact of_deal (congrArg Prod.fst generated)
    · exact of_deal (congrArg Prod.fst split)
  keyPackage_eq := by
    intro share nonempty verifies
    exact if_pos ⟨nonempty, verifies⟩
  identifier_eq := by
    intro number nonzero
    exact dif_pos nonzero
  commit_eq := by
    intro share rng
    rfl

variable (bindingFactor : SigningPackage F G → G → Identifier F → F)

/-- A signer of the reference refuses too few commitments. -/
theorem frostCore_refusesFewCommitments :
    (frostCore generator bindingFactor).RefusesFewCommitments := by
  intro suite package nonces key few
  refine ⟨.incorrectNumberOfCommitments, ?_⟩
  have refused : ensure (key.minSigners ≤ package.commitments.length)
      .incorrectNumberOfCommitments =
        .error (.error .incorrectNumberOfCommitments) :=
    if_neg (Nat.not_le_of_lt few)
  simp only [frostCore, sign, refused]
  rfl

end Documented

end Reference
end Frost
end MinaMultiSig
