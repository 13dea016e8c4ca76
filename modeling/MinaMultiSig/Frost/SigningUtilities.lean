import MinaMultiSig.Frost.Dealer

/-!
# Signing with the shares of a dealer

`sign_from_packages` of `frost-bluepallas/src/signing_utilities.rs` signs for
the participants 1, 2 and 3, or for 1 and 2 if there are only two shares. This
works for thresholds up to three and identifiers that include these numbers. A
missing identifier panics, and a higher threshold is refused by the first
signer.
-/

namespace MinaMultiSig
namespace Frost

open ShamirSharing

variable {ε F G R : Type}

/-- The maps of the nonces and of the commitments. -/
@[ext]
structure RoundOne (F G : Type) [Zero F] where
  nonces : EntryMap (Identifier F) (SigningNonces F)
  commitments : EntryMap (Identifier F) (SigningCommitments G)

section Definitions

variable [Field F] [DecidableEq F]

/-- Nobody has committed. -/
def RoundOne.empty : RoundOne F G :=
  { nonces := .empty, commitments := .empty }

/-- The package that is signed. -/
def RoundOne.signingPackage
    (round : RoundOne F G)
    (message : List UInt8) : SigningPackage F G :=
  { commitments := round.commitments.entries
    message := message
    distinct := round.commitments.distinct }

variable (keys : FrostKeys ε F G R) (frost : FrostCore ε F G)
  (suite : Ciphersuite ε F G)

/-- The key packages of the shares, which are verified. -/
def keyPackagesOf
    (shares : EntryMap (Identifier F) (SecretShare F G)) :
    Outcome ε (EntryMap (Identifier F) (KeyPackage F G)) :=
  EntryMap.collect Prod.fst (fun entry => keys.keyPackage entry.2)
    shares.entries .empty

/-- The participants with the given numbers draw nonces. The key package of a
participant that is not there panics. -/
def roundOne
    (keyPackages : EntryMap (Identifier F) (KeyPackage F G)) :
    List Nat → RoundOne F G → R → Outcome ε (RoundOne F G)
  | [], round, _ => .ok round
  | participantIndex :: rest, round, rng => do
      let participantIdentifier ←
        (keys.identifier (UInt16.ofNat participantIndex)).mapError fun _ =>
          keys.malformedIdentifier
      let keyPackage ←
        Outcome.ofOption (keyPackages.lookup participantIdentifier)
      let ((nonces, commitments), rng) :=
        keys.commit keyPackage.signingShare rng
      roundOne keyPackages rest
        { nonces := round.nonces.insert participantIdentifier nonces
          commitments :=
            round.commitments.insert participantIdentifier commitments }
        rng

/-- The participants that have nonces sign. -/
def roundTwo
    (keyPackages : EntryMap (Identifier F) (KeyPackage F G))
    (nonces : EntryMap (Identifier F) (SigningNonces F))
    (signingPackage : SigningPackage F G) :
    Outcome ε (EntryMap (Identifier F) F) :=
  EntryMap.collect id
    (fun participantIdentifier => do
      let keyPackage ←
        Outcome.ofOption (keyPackages.lookup participantIdentifier)
      let signerNonces ← Outcome.ofOption (nonces.lookup participantIdentifier)
      frost.sign suite signingPackage signerNonces keyPackage)
    nonces.keys .empty

/-- The numbers of the participants that sign. -/
def participants (pubkeyPackage : PublicKeyPackage F G) : List Nat :=
  List.range' 1 (min pubkeyPackage.verifyingShares.length 3)

/-- `sign_from_packages`: both rounds and the aggregation. -/
def signFromPackages
    (message : List UInt8)
    (shares : EntryMap (Identifier F) (SecretShare F G))
    (pubkeyPackage : PublicKeyPackage F G)
    (rng : R) : Outcome ε (Signature F G × G) := do
  let keyPackages ← keyPackagesOf keys shares
  let round ←
    roundOne keys keyPackages (participants pubkeyPackage) .empty rng
  let signingPackage := round.signingPackage message
  let signatureShares ←
    roundTwo frost suite keyPackages round.nonces signingPackage
  let groupSignature ← frost.aggregate suite signingPackage
    signatureShares.entries pubkeyPackage
  return (groupSignature, pubkeyPackage.verifyingKey)

/-- Sign with a fresh key, shared three of five. -/
def generateSignatureRandom
    (message : List UInt8)
    (rng : R) : Outcome ε (Signature F G × G) := do
  let (dealt, rng) := keys.generateWithDealer 5 3 .default rng
  let output ← dealt
  signFromPackages keys frost suite message output.shares output.pubkeyPackage
    rng

/-- Sign with a key, shared three of five. -/
def generateSignatureFromSk
    (message : List UInt8)
    (signingKey : F)
    (rng : R) : Outcome ε (Signature F G × G) := do
  let (dealt, rng) := keys.split signingKey 5 3 .default rng
  let output ← dealt
  signFromPackages keys frost suite message output.shares output.pubkeyPackage
    rng

end Definitions

section RoundOne

variable [Field F] [DecidableEq F] {keys : FrostKeys ε F G R}

/-- The signers with the nonces they draw, one after the other. -/
def drawSigners
    (keys : FrostKeys ε F G R)
    (signingShare : Identifier F → F) :
    List (Identifier F) → R → List (Signer F)
  | [], _ => []
  | identifier :: rest, rng =>
      { identifier := identifier
        nonces := (keys.commit (signingShare identifier) rng).1.1 } ::
        drawSigners keys signingShare rest
          (keys.commit (signingShare identifier) rng).2

omit [DecidableEq F] in
theorem map_identifier_drawSigners
    (signingShare : Identifier F → F)
    (identifiers : List (Identifier F))
    (rng : R) :
    (drawSigners keys signingShare identifiers rng).map Signer.identifier =
      identifiers := by
  induction identifiers generalizing rng with
  | nil => rfl
  | cons first rest ih => rw [drawSigners, List.map_cons, ih]

/-- The identifiers are those of the numbers. -/
abbrev Numbered
    (keys : FrostKeys ε F G R)
    (indices : List Nat)
    (identifiers : List (Identifier F)) : Prop :=
  List.Forall₂ (fun index identifier =>
    keys.identifier (UInt16.ofNat index) = .ok identifier) indices identifiers

/-- One step of the first round. -/
theorem roundOne_cons
    {keyPackages : EntryMap (Identifier F) (KeyPackage F G)}
    {index : Nat}
    {rest : List Nat}
    {round : RoundOne F G}
    {rng : R}
    {identifier : Identifier F}
    {keyPackage : KeyPackage F G}
    (numbered : keys.identifier (UInt16.ofNat index) = .ok identifier)
    (present : keyPackages.lookup identifier = some keyPackage) :
    roundOne keys keyPackages (index :: rest) round rng =
      roundOne keys keyPackages rest
        { nonces := round.nonces.insert identifier
            (keys.commit keyPackage.signingShare rng).1.1
          commitments := round.commitments.insert identifier
            (keys.commit keyPackage.signingShare rng).1.2 }
        (keys.commit keyPackage.signingShare rng).2 := by
  rw [roundOne, numbered]
  simp only [Outcome.mapError, Outcome.ok_bind, present, Outcome.ofOption]

/-- A participant without a key package panics. -/
theorem roundOne_eq_panic
    {keyPackages : EntryMap (Identifier F) (KeyPackage F G)}
    {indices : List Nat}
    {identifiers : List (Identifier F)}
    (numbered : Numbered keys indices identifiers)
    (absent : ∃ identifier ∈ identifiers, keyPackages.lookup identifier = none)
    (round : RoundOne F G)
    (rng : R) :
    roundOne keys keyPackages indices round rng = .error .panic := by
  induction numbered generalizing round rng with
  | nil =>
      obtain ⟨_, member, -⟩ := absent
      exact absurd member List.not_mem_nil
  | @cons index identifier rest others isFirst numbered ih =>
      cases found : keyPackages.lookup identifier with
      | none =>
          rw [roundOne, isFirst]
          simp only [Outcome.mapError, Outcome.ok_bind, found, Outcome.ofOption]
          rfl
      | some keyPackage =>
          rw [roundOne_cons isFirst found]
          apply ih
          obtain ⟨missing, member, isMissing⟩ := absent
          rcases List.mem_cons.mp member with rfl | behind
          · rw [found] at isMissing
            exact absurd isMissing (by simp)
          · exact ⟨missing, behind, isMissing⟩

variable [AddCommGroup G] [Module F G] {generator : G}

/-- The participants that are there draw nonces and commit to them. -/
theorem roundOne_eq_ok
    (documented : keys.Documented generator)
    {keyPackages : EntryMap (Identifier F) (KeyPackage F G)}
    {signingShare : Identifier F → F}
    {indices : List Nat}
    {identifiers : List (Identifier F)}
    (numbered : Numbered keys indices identifiers)
    (distinct : identifiers.Nodup)
    (present : ∀ identifier ∈ identifiers, ∃ keyPackage,
      keyPackages.lookup identifier = some keyPackage ∧
        keyPackage.signingShare = signingShare identifier)
    {round : RoundOne F G}
    (sameKeys : round.nonces.keys = round.commitments.keys)
    (new : ∀ identifier ∈ identifiers, identifier ∉ round.nonces.keys)
    (rng : R) :
    ∃ result, roundOne keys keyPackages indices round rng = .ok result ∧
      result.nonces.entries = round.nonces.entries ++
        (drawSigners keys signingShare identifiers rng).map (fun signer =>
          (signer.identifier, signer.nonces)) ∧
      result.commitments.entries = round.commitments.entries ++
        (drawSigners keys signingShare identifiers rng).map (fun signer =>
          (signer.identifier, signer.nonces.commitments generator)) := by
  induction numbered generalizing round rng with
  | nil => exact ⟨round, rfl, by simp [drawSigners], by simp [drawSigners]⟩
  | @cons index identifier rest others isFirst numbered ih =>
      obtain ⟨keyPackage, found, isShare⟩ :=
        present identifier List.mem_cons_self
      rw [List.nodup_cons] at distinct
      have newFirst := new identifier List.mem_cons_self
      have newCommitment : identifier ∉ round.commitments.keys := by
        rw [← sameKeys]
        exact newFirst
      let drawn := keys.commit (signingShare identifier) rng
      let inserted : RoundOne F G :=
        { nonces := round.nonces.insert identifier drawn.1.1
          commitments := round.commitments.insert identifier drawn.1.2 }
      have sameInserted : inserted.nonces.keys = inserted.commitments.keys := by
        rw [EntryMap.keys_insert_of_new newFirst,
          EntryMap.keys_insert_of_new newCommitment, sameKeys]
      have newBehind : ∀ other ∈ others, other ∉ inserted.nonces.keys := by
        intro other member isKey
        rw [EntryMap.keys_insert_of_new newFirst, List.mem_append,
          List.mem_singleton] at isKey
        rcases isKey with old | rfl
        · exact new other (List.mem_cons_of_mem _ member) old
        · exact distinct.1 member
      obtain ⟨result, resultEq, noncesEq, commitmentsEq⟩ := ih distinct.2
        (fun other member => present other (List.mem_cons_of_mem _ member))
        sameInserted newBehind drawn.2
      refine ⟨result, ?_, ?_, ?_⟩
      · rw [roundOne_cons isFirst found, isShare]
        exact resultEq
      · rw [noncesEq, EntryMap.entries_insert_of_new newFirst, drawSigners,
          List.map_cons, List.append_assoc]
        rfl
      · rw [commitmentsEq, EntryMap.entries_insert_of_new newCommitment,
          documented.commit_eq, drawSigners, List.map_cons, List.append_assoc]
        rfl

end RoundOne

end Frost
end MinaMultiSig
