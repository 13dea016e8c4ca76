import Mathlib.Algebra.Field.ZMod
import MinaMultiSig.Dkg.Keygen
import MinaMultiSig.Dkg.Numbered
import MinaMultiSig.Frost.DealerSigning
import MinaMultiSig.Frost.ReferenceDkg

/-!
# Key generation deals one key

The packages that honest participants end up with are those of one dealer,
whatever the dishonest participants and the server did: the key is the sum of the
polynomials that the Round 1 Packages commit to. Three participants over the field
of five elements run it.
-/

namespace MinaMultiSig
namespace Dkg

open Frost ShamirSharing

namespace Keygen

variable {PublicKey Payload ε F G Proof R : Type}
variable [DecidableEq PublicKey] [Field F] [DecidableEq F]
variable [AddCommGroup G] [Module F G]
variable {keygen : Keygen PublicKey Payload ε F G Proof R} {generator : G}
  (documented : keygen.core.Documented generator)
variable {key : PublicKey} {identifier : Frost.Identifier F}
variable [DecidableEq Proof] [DecidableEq G] [DecidableEq Payload]
variable {fifo : Bool}
variable {world : World PublicKey (Frost.Identifier F)
  (Frost.Round1Package G Proof) F Payload}
variable {round1Packages :
    FiniteMap (Frost.Identifier F) (Frost.Round1Package G Proof)}
variable {round2Packages : FiniteMap (Frost.Identifier F) F}
variable {result : KeygenResult PublicKey F G}

/-- Polynomials that the commitments of a participant commit to. -/
def Commits
    (keygen : Keygen PublicKey Payload ε F G Proof R)
    (generator : G)
    (key : PublicKey)
    (round1Packages :
      FiniteMap (Frost.Identifier F) (Frost.Round1Package G Proof))
    (coefficientsOf : Frost.Identifier F → List F) : Prop :=
  ∀ sender ∈ FiniteMap.values keygen.pubkeys,
    (coefficientsOf sender).map (· • generator) =
      (keygen.secret key).round2.commitmentOf round1Packages sender

variable (generates : Generates F generator)
variable {coefficientsOf : Frost.Identifier F → List F}

namespace Finished

variable (finished : Finished keygen generator key identifier world
  round1Packages round2Packages result)
variable (commits : Commits keygen generator key round1Packages coefficientsOf)

include documented finished commits

omit [DecidableEq Proof] [DecidableEq G] [DecidableEq Payload]

theorem length_coefficientsOf
    {sender : Frost.Identifier F}
    (member : sender ∈ FiniteMap.values keygen.pubkeys) :
    (coefficientsOf sender).length = keygen.minSigners key := by
  rw [← finished.length_commitmentOf documented member, ← commits sender member,
    List.length_map]

include generates

/-- A value that was accepted is that of the polynomial of its sender. -/
theorem received_eq
    {sender : Frost.Identifier F}
    (member : sender ∈ round1Packages.keys) :
    (round2Packages.lookup sender).getD 0 =
      evaluate (coefficientsOf sender) identifier.val := by
  obtain ⟨-, -, own, -⟩ := of_part1 documented finished.honest finished.known
  have ownIdentifier : (keygen.secret key).round2.identifier = identifier := own
  have isDealer : sender ∈ FiniteMap.values keygen.pubkeys := by
    rw [← finished.full]
    exact Finset.mem_insert_of_mem member
  have notOwn : sender ≠ identifier := by
    rintro rfl
    exact finished.notOwn member
  obtain ⟨package, packageFound⟩ := FiniteMap.mem_keys_iff_lookup.mp member
  rw [← finished.accepts.senders] at member
  obtain ⟨share, shareFound⟩ := FiniteMap.mem_keys_iff_lookup.mp member
  have verifies := finished.accepts.verifies sender package share packageFound
    shareFound
  have committed := commits sender isDealer
  rw [Round2SecretPackage.commitmentOf, ownIdentifier, if_neg notOwn,
    packageFound] at committed
  rw [ownIdentifier, show package.commitment =
    (coefficientsOf sender).map (· • generator) from committed.symm] at verifies
  rw [shareFound]
  exact generates.eq_evaluate verifies

/-- The value a participant kept is that of its own polynomial. -/
theorem own_eq :
    (keygen.secret key).round2.secretShare =
      evaluate (coefficientsOf identifier) identifier.val := by
  obtain ⟨-, -, own, -, ownCommitment, -⟩ :=
    of_part1 documented finished.honest finished.known
  have ownIdentifier : (keygen.secret key).round2.identifier = identifier := own
  have committed := commits identifier
    (FiniteMap.mem_values.mpr ⟨key, finished.known⟩)
  rw [Round2SecretPackage.commitmentOf, ownIdentifier, if_pos rfl] at committed
  apply generates.eq_evaluate
  rw [committed, show (keygen.secret key).round2.commitment =
    (keygen.secret key).coefficients.map (· • generator) from ownCommitment]
  have share : (keygen.secret key).round2.secretShare =
      evaluate (keygen.secret key).coefficients identifier.val := by
    rw [← own]
    rfl
  rw [share]
  exact verifies_evaluate generator _ _

/-- The signing share is a share of the sum of the polynomials. -/
theorem signingShare_eq :
    result.keyPackage.signingShare =
      evaluate (sumLists (keygen.minSigners key)
        (FiniteMap.values keygen.pubkeys) coefficientsOf) identifier.val := by
  have received := Finset.sum_congr rfl fun sender member =>
    finished.received_eq documented generates commits member
  rw [finished.keyPackage_eq, evaluate_sumLists fun sender member =>
      finished.length_coefficientsOf documented commits member,
    ← finished.full, Finset.sum_insert finished.notOwn, ← received,
    ← finished.own_eq documented generates commits, add_comm]
  change (∑ sender ∈ round2Packages.keys, _) + _ = _
  rw [finished.accepts.senders]

omit generates in
/-- The group commitment is that to the sum of the polynomials. -/
theorem groupCommitment_eq :
    (keygen.secret key).round2.groupCommitment round1Packages =
      (sumLists (keygen.minSigners key) (FiniteMap.values keygen.pubkeys)
        coefficientsOf).map (· • generator) := by
  rw [sumLists_smul, Round2SecretPackage.groupCommitment,
    finished.dealers_eq documented,
    show (keygen.secret key).round2.commitment.length = keygen.minSigners key
      from length_commitment documented finished.honest finished.known]
  apply sumLists_congr
  intro sender member
  exact (commits sender member).symm

/-- What a participant returns is what a dealer of the sum of the polynomials
returns. -/
theorem eq_dealt
    {dealt : DealtKey F}
    (isSum : dealt.coefficients = sumLists (keygen.minSigners key)
      (FiniteMap.values keygen.pubkeys) coefficientsOf)
    (holders : dealt.identifiers =
      keygen.core.identifierOrder (FiniteMap.values keygen.pubkeys)) :
    result =
      { keyPackage := dealt.keyPackage generator identifier
        publicKeyPackage := (dealt.output generator).pubkeyPackage
        pubkeyMap := keygen.pubkeys } := by
  obtain ⟨-, -, own, -, -, threshold, -⟩ :=
    of_part1 documented finished.honest finished.known
  have group := finished.groupCommitment_eq documented commits
  have signingShare := finished.signingShare_eq documented generates commits
  rw [← isSum] at group signingShare
  have verifyingKey :
      ((keygen.secret key).round2.groupCommitment round1Packages).headD 0 =
        dealt.verifyingKey generator := by
    rw [group, DealtKey.verifyingKey]
    cases dealt.coefficients with
    | nil => simp [evaluate]
    | cons first rest => simp [evaluate]
  have length : dealt.coefficients.length = keygen.minSigners key := by
    rw [isSum, length_sumLists]
  have isKey : result.keyPackage = dealt.keyPackage generator identifier := by
    rw [DealtKey.keyPackage, DealtKey.signingShare, ← signingShare,
      ← verifyingKey, length, ← own, ← threshold, finished.keyPackage_eq]
    rfl
  have isPublic : result.publicKeyPackage =
      (dealt.output generator).pubkeyPackage := by
    have shares : ∀ holder : Frost.Identifier F,
        commitmentAt (dealt.coefficients.map (· • generator)) holder.val =
          dealt.signingShare holder • generator :=
      fun holder => commitmentAt_smul dealt.coefficients generator holder.val
    rw [finished.publicKeyPackage_eq, DealtKey.output, ← verifyingKey,
      Round2SecretPackage.publicKeyPackage, finished.dealers_eq documented]
    simp only [group, shares, holders, List.length_map]
  rw [← isKey, ← isPublic, ← finished.pubkeyMap_eq]

end Finished

/-- A dealer has dealt what honest participants finished with. -/
structure Deals
    (keygen : Keygen PublicKey Payload ε F G Proof R)
    (generator : G)
    (world : World PublicKey (Frost.Identifier F)
      (Frost.Round1Package G Proof) F Payload)
    (dealt : DealtKey F) : Prop where
  holders : dealt.identifiers =
    keygen.core.identifierOrder (FiniteMap.values keygen.pubkeys)
  results : ∀ key identifier result, key ∉ keygen.dishonest →
    keygen.pubkeys.lookup key = some identifier →
      keygen.outcome world key = some (.ok result) →
        dealt.coefficients.length = keygen.minSigners key ∧
          result =
            { keyPackage := dealt.keyPackage generator identifier
              publicKeyPackage := (dealt.output generator).pubkeyPackage
              pubkeyMap := keygen.pubkeys }

theorem exists_deals
    (documented : keygen.core.Documented generator)
    (generates : Generates F generator)
    (reachable : (keygen.setup.session fifo).Reachable world) :
    ∃ dealt : DealtKey F, Deals keygen generator world dealt := by
  have invariant := ConcludedInvariant.of_reachable reachable
  have distinct := keygen.core.identifierOrder_nodup
    (FiniteMap.values keygen.pubkeys)
  have count : (keygen.core.identifierOrder
      (FiniteMap.values keygen.pubkeys)).length = keygen.pubkeys.keys.card := by
    rw [← FiniteMap.card_values keygen.injective,
      ← List.toFinset_card_of_nodup distinct]
    congr 1
    ext identifier
    rw [List.mem_toFinset, keygen.core.mem_identifierOrder]
  by_cases someone : ∃ key identifier result, key ∉ keygen.dishonest ∧
      keygen.pubkeys.lookup key = some identifier ∧
        keygen.outcome world key = some (.ok result)
  · obtain ⟨first, firstIdentifier, firstResult, honest, known, returned⟩ :=
      someone
    obtain ⟨first1, first2, firstFinished⟩ :=
      finished_of_outcome documented invariant honest known returned
    obtain ⟨two, atMost, -⟩ := of_part1 documented honest known
    choose coefficientsOf commits using fun sender =>
      generates.exists_coefficients
        ((keygen.secret first).round2.commitmentOf first1 sender)
    refine ⟨{
      coefficients := sumLists (keygen.minSigners first)
        (FiniteMap.values keygen.pubkeys) coefficientsOf
      identifiers :=
        keygen.core.identifierOrder (FiniteMap.values keygen.pubkeys)
      distinct := distinct
      two := by rwa [length_sumLists]
      enough := by
        rw [length_sumLists, count]
        exact Nat.le_trans atMost (Nat.mod_le _ _) }, rfl, ?_⟩
    intro key identifier result keyHonest keyKnown keyReturned
    obtain ⟨key1, key2, keyFinished⟩ :=
      finished_of_outcome documented invariant keyHonest keyKnown keyReturned
    have keyCommits :
        Commits keygen generator key key1 coefficientsOf := by
      intro sender member
      rw [commits sender]
      exact firstFinished.commitmentOf_agree documented invariant keyFinished
        member
    have sameThreshold : keygen.minSigners first = keygen.minSigners key := by
      have own := FiniteMap.mem_values.mpr ⟨first, known⟩
      rw [← firstFinished.length_commitmentOf documented own,
        ← keyFinished.length_commitmentOf documented own,
        firstFinished.commitmentOf_agree documented invariant keyFinished own]
    refine ⟨(length_sumLists _ _ _).trans sameThreshold, ?_⟩
    apply keyFinished.eq_dealt documented generates keyCommits
    · exact congrArg
        (sumLists · (FiniteMap.values keygen.pubkeys) coefficientsOf)
        sameThreshold
    · rfl
  · -- nobody has finished, so any key will do
    refine ⟨{
      coefficients := [0, 0]
      identifiers :=
        keygen.core.identifierOrder (FiniteMap.values keygen.pubkeys)
      distinct := distinct
      two := le_refl 2
      enough := by
        rw [count]
        exact keygen.atLeastTwo }, rfl, ?_⟩
    intro key identifier result honest known returned
    exact absurd ⟨key, identifier, result, honest, known, returned⟩ someone

omit [DecidableEq Proof] [DecidableEq G] [DecidableEq Payload] in
include documented in
/-- The key in the public package is the sum of what was committed to. -/
theorem Finished.verifyingKey_eq
    (finished : Finished keygen generator key identifier world round1Packages
      round2Packages result) :
    result.publicKeyPackage.verifyingKey =
      ∑ sender ∈ FiniteMap.values keygen.pubkeys,
        ((keygen.secret key).round2.commitmentOf round1Packages sender).headD
          0 := by
  have atZero : ∀ commitments : List G,
      commitments.headD 0 = commitmentAt commitments (0 : F) := by
    intro commitments
    cases commitments with
    | nil => rfl
    | cons first rest => simp [commitmentAt]
  have lengths : ∀ sender ∈ FiniteMap.values keygen.pubkeys,
      ((keygen.secret key).round2.commitmentOf round1Packages sender).length =
        (keygen.secret key).round2.commitment.length := by
    intro sender member
    rw [finished.length_commitmentOf documented member]
    exact (length_commitment documented finished.honest finished.known).symm
  rw [finished.publicKeyPackage_eq, Round2SecretPackage.publicKeyPackage,
    Round2SecretPackage.groupCommitment, finished.dealers_eq documented, atZero,
    commitmentAt_sumLists lengths]
  exact Finset.sum_congr rfl fun sender _ => (atZero _).symm

/-- Honest participants finish with the packages of one dealer, whose threshold
is the one each of them was given, and whose key is the sum of what the
Round 1 Packages commit to. -/
theorem keygen_dealt
    (documented : keygen.core.Documented generator)
    (generates : Generates F generator)
    (reachable : (keygen.setup.session fifo).Reachable world) :
    ∃ dealt : DealtKey F, ∀ key identifier result, key ∉ keygen.dishonest →
      keygen.pubkeys.lookup key = some identifier →
        keygen.outcome world key = some (.ok result) →
          dealt.coefficients.length = keygen.minSigners key ∧
            result =
              { keyPackage := dealt.keyPackage generator identifier
                publicKeyPackage := (dealt.output generator).pubkeyPackage
                pubkeyMap := keygen.pubkeys } ∧
            ∃ round1Packages,
              (world key).stage.round1Result = some round1Packages ∧
                dealt.verifyingKey generator =
                  ∑ sender ∈ FiniteMap.values keygen.pubkeys,
                    ((keygen.secret key).round2.commitmentOf round1Packages
                      sender).headD 0 := by
  obtain ⟨dealt, deals⟩ := exists_deals documented generates reachable
  refine ⟨dealt, ?_⟩
  intro key identifier result honest known returned
  obtain ⟨threshold, isResult⟩ :=
    deals.results key identifier result honest known returned
  obtain ⟨round1Packages, round2Packages, finished⟩ := finished_of_outcome
    documented (ConcludedInvariant.of_reachable reachable) honest known returned
  have isKey : result.publicKeyPackage.verifyingKey =
      dealt.verifyingKey generator := by
    rw [isResult]
    rfl
  exact ⟨threshold, isResult, round1Packages, finished.returned,
    isKey.symm.trans (finished.verifyingKey_eq documented)⟩

end Keygen

section FiveElements

/-- A proof that is the secret itself. -/
def fiveProof : ProofOfKnowledge (ZMod 5) (ZMod 5) (ZMod 5) where
  generator := 1
  prove := fun _ coefficients => coefficients.headD 0
  check := fun _ commitment proof => decide (proof • 1 = commitment.headD 0)
  check_prove := by
    rintro identifier (_ | ⟨first, rest⟩)
    · rfl
    · simp

/-- The identifiers by their numbers. -/
def fiveOrder : IdentifierOrder (ZMod 5) where
  list := fun identifiers =>
    (List.ofFn identifierBehind).filter (· ∈ identifiers)
  nodup := by
    intro identifiers
    apply List.Nodup.filter
    decide
  mem_list := by
    intro identifiers identifier
    rw [List.mem_filter, decide_eq_true_eq]
    refine and_iff_right ?_
    revert identifier
    decide

theorem fiveProof_generates :
    Generates (ZMod 5) fiveProof.generator where
  nonzero := by decide
  spans := fun point => ⟨point, mul_one point⟩

/-- The identifiers of the participants `0`, `1` and `2`. -/
def fivePubkeys : FiniteMap (Fin 3) (Frost.Identifier (ZMod 5)) :=
  .ofKeys (fun key => identifierBehind key.castSucc) [0, 1, 2]

/-- An element of the field by its number. -/
def five (number : Nat) : ZMod 5 :=
  Fin.ofNat 5 number

/-- A participant by its number. -/
def participant (number : Nat) : Fin 3 :=
  Fin.ofNat 3 number

/-- The coefficients that a participant draws. -/
def fiveRng : Fin 3 → List (ZMod 5)
  | 0 => [five 1, five 2]
  | 1 => [five 3, five 1]
  | 2 => [five 2, five 4]

/-- The reference functions over the integers modulo five. -/
def fiveCore :
    DkgCore FrostError (ZMod 5) (ZMod 5) (ZMod 5) (List (ZMod 5)) :=
  Reference.dkgCore fiveProof fiveOrder

/-- The packages of the first part. -/
def fivePart1 (key : Fin 3) :
    Round1SecretPackage (ZMod 5) (ZMod 5) ×
      Frost.Round1Package (ZMod 5) (ZMod 5) :=
  ({ identifier := identifierBehind key.castSucc
     coefficients := fiveRng key
     commitment := fiveRng key
     minSigners := 2
     maxSigners := 3 },
    { commitment := fiveRng key
      proofOfKnowledge := (fiveRng key).headD 0 })

theorem lookup_fivePubkeys (key : Fin 3) :
    fivePubkeys.lookup key = some (identifierBehind key.castSucc) := by
  revert key
  decide

theorem injective_fivePubkeys :
    Function.Injective fun key : Fin 3 => identifierBehind key.castSucc := by
  decide

theorem part1_fiveCore (key : Fin 3) :
    fiveCore.part1 (identifierBehind key.castSucc)
      (fivePubkeys.keys.card % 2 ^ 16) 2 (fiveRng key) =
        .ok (fivePart1 key) := by
  obtain rfl | rfl | rfl : key = 0 ∨ key = 1 ∨ key = 2 := by
    revert key
    decide
  · rfl
  · rfl
  · rfl

/-- Three participants, some of whom may be dishonest. -/
def fiveKeygen
    (dishonest : Finset (Fin 3)) :
    Keygen (Fin 3)
      (Frost.Round1Package (ZMod 5) (ZMod 5) ⊕
        (Frost.Identifier (ZMod 5) × Frost.Round1Package (ZMod 5) (ZMod 5)) ⊕
          ZMod 5)
      FrostError (ZMod 5) (ZMod 5) (ZMod 5) (List (ZMod 5)) where
  core := fiveCore
  wire := taggedWire _ _ _
  pubkeys := fivePubkeys
  injective := by
    intro first second value firstLookup secondLookup
    rw [lookup_fivePubkeys] at firstLookup secondLookup
    exact injective_fivePubkeys ((Option.some.inj firstLookup).trans
      (Option.some.inj secondLookup).symm)
  atLeastTwo := by decide
  dishonest := dishonest
  minSigners := fun _ => 2
  rng := fiveRng
  secret := fun key => (fivePart1 key).1
  package := fun key => (fivePart1 key).2
  part1_eq := by
    intro key identifier _ known
    rw [lookup_fivePubkeys] at known
    obtain rfl := Option.some.inj known
    exact part1_fiveCore key

/-- A run in which the dishonest participant `2` sends two Round 1 Packages to
`0`, the first of them with another commitment. -/
def fiveRun :
    List (Action (Fin 3)
      (Frost.Round1Package (ZMod 5) (ZMod 5) ⊕
        (Frost.Identifier (ZMod 5) × Frost.Round1Package (ZMod 5) (ZMod 5)) ⊕
          ZMod 5)) :=
  let package := fun key : Fin 3 => (fivePart1 key).2
  let echo := fun key : Fin 3 =>
    Sum.inr (Sum.inl (identifierBehind key.castSucc, package key))
  let other : Frost.Round1Package (ZMod 5) (ZMod 5) :=
    { commitment := [five 4, five 4], proofOfKnowledge := five 4 }
  [.start 0, .start 1,
    .inject 2 0 (.inl other), .inject 2 0 (.inl (package 2)),
    .inject 2 1 (.inl (package 2)),
    .receive 0
      [⟨2, .inl other⟩, ⟨2, .inl (package 2)⟩, ⟨1, .inl (package 1)⟩],
    .receive 1 [⟨0, .inl (package 0)⟩, ⟨2, .inl (package 2)⟩],
    .inject 2 0 (echo 1), .inject 2 1 (echo 0),
    .receive 0 [⟨1, echo 2⟩, ⟨2, echo 1⟩],
    .receive 1 [⟨2, echo 0⟩, ⟨0, echo 2⟩],
    .sendRound2 0, .sendRound2 1,
    .inject 2 0 (.inr (.inr (five 1))), .inject 2 1 (.inr (.inr (five 0))),
    .receive 0 [⟨1, .inr (.inr (five 4))⟩, ⟨2, .inr (.inr (five 1))⟩],
    .receive 1 [⟨0, .inr (.inr (five 0))⟩, ⟨2, .inr (.inr (five 0))⟩]]

/-- A run of three honest participants. -/
def honestRun :
    List (Action (Fin 3)
      (Frost.Round1Package (ZMod 5) (ZMod 5) ⊕
        (Frost.Identifier (ZMod 5) × Frost.Round1Package (ZMod 5) (ZMod 5)) ⊕
          ZMod 5)) :=
  let round1 := fun sender : Fin 3 =>
    { sender := sender, msg := .inl (fivePart1 sender).2 }
  let echo := fun sender original : Fin 3 =>
    { sender := sender
      msg := .inr (.inl
        (identifierBehind original.castSucc, (fivePart1 original).2)) }
  let share := fun (sender : Fin 3) (number : Nat) =>
    { sender := sender, msg := .inr (.inr (five number)) }
  [.start 0, .start 1, .start 2,
    .receive 0 [round1 1, round1 2], .receive 1 [round1 0, round1 2],
    .receive 2 [round1 0, round1 1],
    .receive 0 [echo 1 2, echo 2 1], .receive 1 [echo 0 2, echo 2 0],
    .receive 2 [echo 0 1, echo 1 0],
    .sendRound2 0, .sendRound2 1, .sendRound2 2,
    .receive 0 [share 1 4, share 2 1], .receive 1 [share 0 0, share 2 0],
    .receive 2 [share 0 2, share 1 1]]

/-- The two honest participants with nonces. -/
def fiveSigners : List (Fin 3 × SigningNonces (ZMod 5)) :=
  [(0, { hidingPart := five 1, bindingPart := five 2 }),
    (1, { hidingPart := five 4, bindingPart := five 1 })]

/-- A successful outcome is some result. -/
theorem exists_of_any_isOk
    {ε α : Type}
    {outcome : Option (Except ε α)}
    (isOk : outcome.any Except.isOk = true) :
    ∃ result, outcome = some (.ok result) := by
  rcases outcome with _ | error | result
  · simp at isOk
  · simp [Except.isOk, Except.toBool] at isOk
  · exact ⟨result, rfl⟩

/-- The two honest participants finish that run. -/
theorem outcome_fiveRun :
    ∃ world,
      ((fiveKeygen {2}).setup.session true).Reachable world ∧
        ∀ key ∈ [(0 : Fin 3), 1], ∃ result,
          (fiveKeygen {2}).outcome world key = some (.ok result) := by
  have outcomes : ((((fiveKeygen {2}).setup.session true).run
      (fiveKeygen {2}).setup.initial fiveRun).map
        fun world => [(0 : Fin 3), 1].all fun key =>
          ((fiveKeygen {2}).outcome world key).any Except.isOk) =
      some true := by
    decide +kernel
  obtain ⟨world, ran, allOk⟩ := Option.map_eq_some_iff.mp outcomes
  rw [List.all_eq_true] at allOk
  exact ⟨world, ⟨fiveRun, ran⟩,
    fun key member => exists_of_any_isOk (allOk key member)⟩

theorem fiveCore_documented :
    fiveCore.Documented (1 : ZMod 5) :=
  Reference.dkgCore_documented

/-- They finish with shares of one key, two of which are enough to sign. -/
theorem keygen_dealt_five :
    ∃ world,
      ((fiveKeygen {2}).setup.session true).Reachable world ∧
        ∃ dealt : DealtKey (ZMod 5), dealt.coefficients.length = 2 ∧
          ∀ key ∈ [(0 : Fin 3), 1], ∃ result,
            (fiveKeygen {2}).outcome world key = some (.ok result) ∧
              result.keyPackage = dealt.keyPackage (1 : ZMod 5)
                (identifierBehind key.castSucc) := by
  obtain ⟨world, reachable, finish⟩ := outcome_fiveRun
  obtain ⟨dealt, deals⟩ := Keygen.keygen_dealt fiveCore_documented
    fiveProof_generates reachable
  have honest : ∀ key ∈ [(0 : Fin 3), 1], key ∉ (fiveKeygen {2}).dishonest := by
    decide
  refine ⟨world, reachable, dealt, ?_, ?_⟩
  · obtain ⟨result, returned⟩ := finish 0 (by decide)
    exact (deals 0 _ result (honest 0 (by decide)) (lookup_fivePubkeys 0)
      returned).1
  · intro key member
    obtain ⟨result, returned⟩ := finish key member
    exact ⟨result, returned, congrArg KeygenResult.keyPackage
      (deals key _ result (honest key member) (lookup_fivePubkeys key)
        returned).2.1⟩

end FiveElements

end Dkg
end MinaMultiSig
