import MinaMultiSig.Frost.MessageBounds
import MinaMultiSig.Frost.ReferenceDealer
import MinaMultiSig.Frost.SigningUtilities

/-!
# Signatures with the shares of a dealer

Signing with the shares of a dealer is a session of the participants 1, 2 and 3.
It returns a valid signature exactly if three signers are enough, these numbers
are identifiers, and the message has a challenge.
-/

namespace MinaMultiSig
namespace Frost

open Tx

variable {ε F G R : Type} [Field F] [AddCommGroup G] [Module F G]

section KeyPackages

variable [DecidableEq F] {keys : FrostKeys ε F G R} {generator : G}

/-- The key packages of the shares of a dealer. -/
theorem keyPackagesOf_output
    (documented : keys.Documented generator)
    (dealt : DealtKey F) :
    ∃ keyPackages,
      keyPackagesOf keys (dealt.output generator).shares = .ok keyPackages ∧
        keyPackages.entries = dealt.identifiers.map fun identifier =>
          (identifier, dealt.keyPackage generator identifier) := by
  obtain ⟨keyPackages, collected, entriesEq⟩ := @EntryMap.collect_eq_ok ε
    (Identifier F) (KeyPackage F G) (Identifier F × SecretShare F G) _
    Prod.fst (fun entry => keys.keyPackage entry.2)
    (fun entry => dealt.keyPackage generator entry.1)
    (dealt.output generator).shares.entries
    (dealt.output generator).shares.distinct (by
      intro entry member
      obtain ⟨identifier, -, rfl⟩ := List.mem_map.mp member
      exact dealt.keyPackage_secretShare documented identifier)
  refine ⟨keyPackages, collected, ?_⟩
  rw [entriesEq, DealtKey.output, List.map_map]
  rfl

variable {dealt : DealtKey F}
  {keyPackages : EntryMap (Identifier F) (KeyPackage F G)}
  (entriesEq : keyPackages.entries = dealt.identifiers.map fun identifier =>
    (identifier, dealt.keyPackage generator identifier))

include entriesEq

theorem lookup_keyPackage
    {identifier : Identifier F}
    (member : identifier ∈ dealt.identifiers) :
    keyPackages.lookup identifier =
      some (dealt.keyPackage generator identifier) := by
  apply EntryMap.lookup_of_mem
  rw [entriesEq]
  exact List.mem_map_of_mem member

theorem lookup_keyPackage_eq_none
    {identifier : Identifier F}
    (absent : identifier ∉ dealt.identifiers) :
    keyPackages.lookup identifier = none := by
  apply EntryMap.lookup_eq_none_iff.mpr
  rw [EntryMap.keys, entriesEq, List.map_map]
  simpa [Function.comp_def] using absent

end KeyPackages

section Numbers

variable {keys : FrostKeys ε F G R} {generator : G}

/-- Numbers that are not zero as scalars are identifiers. -/
theorem exists_numbered
    (documented : keys.Documented generator)
    {indices : List Nat}
    (areIdentifiers : ∀ index ∈ indices, index < 2 ^ 16 ∧ (index : F) ≠ 0) :
    ∃ identifiers : List (Identifier F), Numbered keys indices identifiers ∧
      identifiers.map Subtype.val = indices.map (Nat.cast : Nat → F) := by
  induction indices with
  | nil => exact ⟨[], List.Forall₂.nil, rfl⟩
  | cons index rest ih =>
      obtain ⟨fits, nonzero⟩ := areIdentifiers index List.mem_cons_self
      obtain ⟨identifiers, numbered, scalars⟩ := ih fun other member =>
        areIdentifiers other (List.mem_cons_of_mem index member)
      have sameNumber : (UInt16.ofNat index).toNat = index :=
        UInt16.toNat_ofNat_of_lt' fits
      refine ⟨⟨index, nonzero⟩ :: identifiers,
        List.Forall₂.cons ?_ numbered, ?_⟩
      · rw [documented.identifier_eq _ (by rwa [sameNumber])]
        simp only [sameNumber]
      · rw [List.map_cons, List.map_cons, scalars]

/-- The participants have different identifiers. -/
theorem exists_participants
    (documented : keys.Documented generator)
    (small : ∀ number : Nat, 1 ≤ number → number ≤ 3 → (number : F) ≠ 0)
    {count : Nat}
    (few : count ≤ 3) :
    ∃ identifiers : List (Identifier F),
      Numbered keys (List.range' 1 count) identifiers ∧
        identifiers.Nodup ∧
        identifiers.map Subtype.val =
          (List.range' 1 count).map (Nat.cast : Nat → F) := by
  obtain ⟨identifiers, numbered, scalars⟩ := exists_numbered documented
    (show ∀ index ∈ List.range' 1 count, index < 2 ^ 16 ∧ (index : F) ≠ 0 by
      intro index member
      rw [List.mem_range'_1] at member
      exact ⟨by omega, small index (by omega) (by omega)⟩)
  refine ⟨identifiers, numbered, ?_, scalars⟩
  apply List.Nodup.of_map Subtype.val
  rw [scalars]
  refine List.Nodup.map_on ?_ List.nodup_range'
  -- The difference of two of the numbers would be zero as a scalar.
  have lessDiffers : ∀ low high : Nat, 1 ≤ low → low < high → high ≤ 3 →
      (low : F) ≠ high := by
    intro low high positive less atMost same
    apply small (high - low) (by omega) (by omega)
    rw [Nat.cast_sub less.le, same, sub_self]
  intro left leftMember right rightMember same
  rw [List.mem_range'_1] at leftMember rightMember
  rcases lt_trichotomy left right with less | equal | greater
  · exact absurd same (lessDiffers left right (by omega) less (by omega))
  · exact equal
  · exact absurd same.symm
      (lessDiffers right left (by omega) greater (by omega))

end Numbers

section Session

/-- The signers hold shares of the key, and they are as many as needed. -/
def DealtKey.session
    (dealt : DealtKey F)
    (signers : List (Signer F))
    (message : List UInt8)
    (distinct : (signers.map Signer.identifier).Nodup)
    (hold : ∀ identifier ∈ signers.map Signer.identifier,
      identifier ∈ dealt.identifiers)
    (enough : dealt.coefficients.length ≤ signers.length) : SigningSession F :=
  { coefficients := dealt.coefficients
    holders := dealt.identifiers
    signers := signers
    message := message
    holdersDistinct := dealt.distinct
    signersDistinct := distinct
    signersHold := fun _ member => hold _ (List.mem_map_of_mem member)
    enough := enough }

/-- The state behind the first round: the key packages of a dealer, and signers
that have drawn nonces and hold shares. -/
structure Drawn
    (generator : G)
    (dealt : DealtKey F)
    (keyPackages : EntryMap (Identifier F) (KeyPackage F G))
    (signers : List (Signer F))
    (round : RoundOne F G) : Prop where
  keyPackages_entries : keyPackages.entries =
    dealt.identifiers.map fun identifier =>
      (identifier, dealt.keyPackage generator identifier)
  distinct : (signers.map Signer.identifier).Nodup
  hold : ∀ identifier ∈ signers.map Signer.identifier,
    identifier ∈ dealt.identifiers
  nonces_entries : round.nonces.entries =
    signers.map fun signer => (signer.identifier, signer.nonces)
  commitments_entries : round.commitments.entries =
    signers.map fun signer =>
      (signer.identifier, signer.nonces.commitments generator)

variable {keys : FrostKeys ε F G R} {frost : FrostCore ε F G}
  {suite : Ciphersuite ε F G} {generator : G} {dealt : DealtKey F}
  {keyPackages : EntryMap (Identifier F) (KeyPackage F G)}
  {signers : List (Signer F)} {round : RoundOne F G} {message : List UInt8}
  (drawn : Drawn generator dealt keyPackages signers round)

include drawn

/-- The package of the first round is that of the session. -/
theorem Drawn.signingPackage_eq
    (enough : dealt.coefficients.length ≤ signers.length) :
    round.signingPackage message =
      (dealt.session signers message drawn.distinct drawn.hold enough).package
        generator :=
  SigningPackage.ext drawn.commitments_entries rfl

variable [DecidableEq F]

/-- What a participant does in the second round. -/
theorem Drawn.signerStep_eq
    {signer : Signer F}
    (member : signer ∈ signers) :
    (do
      let keyPackage ← Outcome.ofOption (keyPackages.lookup signer.identifier)
      let signerNonces ←
        Outcome.ofOption (round.nonces.lookup signer.identifier)
      frost.sign suite (round.signingPackage message) signerNonces keyPackage) =
      frost.sign suite (round.signingPackage message) signer.nonces
        (dealt.keyPackage generator signer.identifier) := by
  have holds := drawn.hold _ (List.mem_map_of_mem member)
  have nonces : round.nonces.lookup signer.identifier = some signer.nonces := by
    apply EntryMap.lookup_of_mem
    rw [drawn.nonces_entries]
    exact List.mem_map_of_mem member
  rw [lookup_keyPackage drawn.keyPackages_entries holds, nonces]
  rfl

/-- The second round is the signing of the signers. -/
theorem Drawn.roundTwo_eq :
    (roundTwo frost suite keyPackages round.nonces
        (round.signingPackage message)).map EntryMap.entries =
      signers.mapM fun signer => do
        let share ← frost.sign suite (round.signingPackage message)
          signer.nonces (dealt.keyPackage generator signer.identifier)
        return (signer.identifier, share) := by
  have keysEq : round.nonces.keys = signers.map Signer.identifier := by
    rw [EntryMap.keys, drawn.nonces_entries, List.map_map]
    rfl
  have distinct : ((signers.map Signer.identifier).map id).Nodup := by
    rw [List.map_id]
    exact drawn.distinct
  rw [roundTwo, keysEq, EntryMap.collect_entries _ _ distinct fun _ _ =>
    List.not_mem_nil]
  rw [Outcome.mapM_map_congr fun signer member => by
    rw [drawn.signerStep_eq member]]
  exact congrFun Except.map_id _

section Rounds

variable {rng : R}
  (keyPackagesEq : keyPackagesOf keys (dealt.output generator).shares =
    .ok keyPackages)
  (roundEq : roundOne keys keyPackages
    (participants (dealt.output generator).pubkeyPackage) .empty rng =
      .ok round)

include keyPackagesEq roundEq

/-- Signing is a session of the signers. -/
theorem Drawn.signFromPackages_eq_session
    (enough : dealt.coefficients.length ≤ signers.length) :
    signFromPackages keys frost suite message (dealt.output generator).shares
        (dealt.output generator).pubkeyPackage rng =
      ((dealt.session signers message drawn.distinct drawn.hold enough).sign
        generator frost suite).map fun signature =>
          (signature, dealt.verifyingKey generator) := by
  let session :=
    dealt.session signers message drawn.distinct drawn.hold enough
  have packageEq : round.signingPackage message = session.package generator :=
    drawn.signingPackage_eq enough
  have shares := @Drawn.roundTwo_eq ε F G _ _ _ frost suite generator dealt
    keyPackages signers round message drawn _
  rw [packageEq] at shares
  have signed : session.sign generator frost suite =
      (roundTwo frost suite keyPackages round.nonces
        (session.package generator)).map EntryMap.entries >>= fun shares =>
          frost.aggregate suite (session.package generator) shares
            (dealt.output generator).pubkeyPackage :=
    congrArg (· >>= _) shares.symm
  rw [signed, signFromPackages, keyPackagesEq, Outcome.ok_bind, roundEq,
    Outcome.ok_bind, packageEq]
  dsimp only
  cases roundTwo frost suite keyPackages round.nonces
      (session.package generator) with
  | error failure => rfl
  | ok signatureShares => rfl

/-- Too few signers are refused. -/
theorem Drawn.signFromPackages_of_tooFew
    (refuses : frost.RefusesFewCommitments)
    (someSigner : signers ≠ [])
    (tooFew : signers.length < dealt.coefficients.length) :
    ∃ reason,
      signFromPackages keys frost suite message (dealt.output generator).shares
        (dealt.output generator).pubkeyPackage rng =
          .error (.error reason) := by
  obtain ⟨first, rest, rfl⟩ := List.exists_cons_of_ne_nil someSigner
  have fewCommitments : (round.signingPackage message).commitments.length <
      (dealt.keyPackage generator first.identifier).minSigners := by
    have sameLength := congrArg List.length drawn.commitments_entries
    rw [List.length_map] at sameLength
    exact sameLength.trans_lt tooFew
  obtain ⟨reason, refused⟩ := refuses suite (round.signingPackage message)
    first.nonces (dealt.keyPackage generator first.identifier) fewCommitments
  have shares := @Drawn.roundTwo_eq ε F G _ _ _ frost suite generator dealt
    keyPackages (first :: rest) round message drawn _
  rw [List.mapM_cons, refused] at shares
  have refusedShares : (roundTwo frost suite keyPackages round.nonces
      (round.signingPackage message)).map EntryMap.entries =
        .error (.error reason) := shares
  refine ⟨reason, ?_⟩
  rw [signFromPackages, keyPackagesEq, Outcome.ok_bind, roundEq,
    Outcome.ok_bind]
  dsimp only
  cases signed : roundTwo frost suite keyPackages round.nonces
      (round.signingPackage message) with
  | error failure =>
      rw [signed] at refusedShares
      exact congrArg Except.error (Except.error.inj refusedShares)
  | ok signatureShares =>
      rw [signed] at refusedShares
      exact absurd refusedShares (by simp [Except.map])

end Rounds

end Session

section Validity

/-- The result is a signature of the message that verifies under the key, and
that passes the check of Mina. -/
def ReturnsValid
    (curve : Coordinates G)
    (challengeOf : G → G → List UInt8 → Outcome ε F)
    (generator : G)
    (message : List UInt8)
    (verifyingKey : G)
    (result : Outcome ε (Signature F G × G)) : Prop :=
  ∃ signature c,
    result = .ok (signature, verifyingKey) ∧
      challengeOf signature.R verifyingKey message = .ok c ∧
      signature.z • generator = signature.R + c • verifyingKey ∧
      MinaValid curve generator verifyingKey c (translateSig curve signature)

theorem not_returnsValid_error
    {generator : G}
    {curve : Coordinates G}
    {challengeOf : G → G → List UInt8 → Outcome ε F}
    {message : List UInt8}
    {verifyingKey : G}
    (failure : Failure ε) :
    ¬ReturnsValid curve challengeOf generator message verifyingKey
      (.error failure) := by
  rintro ⟨_, _, returned, -⟩
  exact absurd returned (by simp)

end Validity

section Output

/-- The group commitment of the nonces that the participants draw, if all of
them are there. -/
def IsGroupCommitment
    [DecidableEq F]
    (keys : FrostKeys ε F G R)
    (frost : FrostCore ε F G)
    (message : List UInt8)
    (output : DealerOutput F G)
    (rng : R)
    (commitment : G) : Prop :=
  ∀ keyPackages round,
    keyPackagesOf keys output.shares = .ok keyPackages →
    roundOne keys keyPackages (participants output.pubkeyPackage) .empty rng =
      .ok round →
      ∃ factors,
        frost.computeBindingFactorList (round.signingPackage message)
            output.pubkeyPackage.verifyingKey = .ok factors ∧
          frost.computeGroupCommitment (round.signingPackage message) factors =
            .ok commitment

omit [AddCommGroup G] [Module F G] in
/-- The nonces that are drawn determine the group commitment. -/
theorem isGroupCommitment_of_computed
    [DecidableEq F]
    {keys : FrostKeys ε F G R}
    {frost : FrostCore ε F G}
    {message : List UInt8}
    {output : DealerOutput F G}
    {rng : R}
    {commitment : G}
    {keyPackages : EntryMap (Identifier F) (KeyPackage F G)}
    {round : RoundOne F G}
    {factors : BindingFactorList F}
    (keyPackagesEq : keyPackagesOf keys output.shares = .ok keyPackages)
    (roundEq : roundOne keys keyPackages (participants output.pubkeyPackage)
      .empty rng = .ok round)
    (factorsEq : frost.computeBindingFactorList (round.signingPackage message)
      output.pubkeyPackage.verifyingKey = .ok factors)
    (computed : frost.computeGroupCommitment (round.signingPackage message)
      factors = .ok commitment) :
    IsGroupCommitment keys frost message output rng commitment := by
  intro otherPackages otherRound otherPackagesEq otherRoundEq
  obtain rfl := Except.ok.inj (keyPackagesEq.symm.trans otherPackagesEq)
  obtain rfl := Except.ok.inj (roundEq.symm.trans otherRoundEq)
  exact ⟨factors, factorsEq, computed⟩

theorem participants_output
    (dealt : DealtKey F)
    (generator : G) :
    participants (dealt.output generator).pubkeyPackage =
      List.range' 1 (min dealt.identifiers.length 3) := by
  rw [participants, DealtKey.output, List.length_map]

variable [DecidableEq F] {keys : FrostKeys ε F G R} {frost : FrostCore ε F G}
  {suite : Ciphersuite ε F G} {generator : G} {dealt : DealtKey F}
  {identifiers : List (Identifier F)} {message : List UInt8} {rng : R}
  (keysDocumented : keys.Documented generator)
  (numbered : Numbered keys
    (participants (dealt.output generator).pubkeyPackage) identifiers)

include keysDocumented numbered

/-- Without the share of a participant, signing panics. -/
theorem signFromPackages_of_absent
    (absent : ∃ identifier ∈ identifiers, identifier ∉ dealt.identifiers) :
    signFromPackages keys frost suite message (dealt.output generator).shares
        (dealt.output generator).pubkeyPackage rng = .error .panic := by
  obtain ⟨keyPackages, keyPackagesEq, entriesEq⟩ :=
    keyPackagesOf_output keysDocumented dealt
  obtain ⟨identifier, isParticipant, isAbsent⟩ := absent
  have panics := roundOne_eq_panic numbered
    ⟨identifier, isParticipant, lookup_keyPackage_eq_none entriesEq isAbsent⟩
    .empty rng
  rw [signFromPackages, keyPackagesEq, Outcome.ok_bind, panics]
  rfl

/-- The participants that are there end the first round. -/
theorem exists_drawn
    (rng : R)
    (distinct : identifiers.Nodup)
    (hold : ∀ identifier ∈ identifiers, identifier ∈ dealt.identifiers) :
    ∃ keyPackages signers round,
      keyPackagesOf keys (dealt.output generator).shares = .ok keyPackages ∧
      roundOne keys keyPackages
          (participants (dealt.output generator).pubkeyPackage) .empty rng =
        .ok round ∧
      signers.map Signer.identifier = identifiers ∧
      Drawn generator dealt keyPackages signers round := by
  obtain ⟨keyPackages, keyPackagesEq, entriesEq⟩ :=
    keyPackagesOf_output keysDocumented dealt
  obtain ⟨round, roundEq, noncesEq, commitmentsEq⟩ := @roundOne_eq_ok ε F G R _ _
    keys _ _ generator keysDocumented keyPackages dealt.signingShare _
    identifiers numbered distinct
    (fun _ member => ⟨_, lookup_keyPackage entriesEq (hold _ member), rfl⟩)
    .empty rfl (fun _ _ => List.not_mem_nil) rng
  have signersEq := @map_identifier_drawSigners ε F G R _ keys
    dealt.signingShare identifiers rng
  refine ⟨keyPackages, drawSigners keys dealt.signingShare identifiers rng,
    round, keyPackagesEq, roundEq, signersEq, entriesEq, ?_, ?_, noncesEq,
    commitmentsEq⟩
  · rw [signersEq]
    exact distinct
  · rw [signersEq]
    exact hold

variable {curve : Coordinates G} (lawful : curve.Lawful)
  {challengeOf : G → G → List UInt8 → Outcome ε F}
  (frostDocumented : frost.Documented generator)
  (distinct : identifiers.Nodup)
  {commitment : G}
  (isCommitment : IsGroupCommitment keys frost message (dealt.output generator)
    rng commitment)
  (nonzero : commitment ≠ 0)

include lawful frostDocumented distinct isCommitment nonzero

/-- Enough participants that are there return a valid signature of every message
with a challenge. -/
theorem returnsValid_of_enough
    (hold : ∀ identifier ∈ identifiers, identifier ∈ dealt.identifiers)
    (enough : dealt.coefficients.length ≤ identifiers.length) :
    ReturnsValid curve challengeOf generator message
        (dealt.verifyingKey generator)
        (signFromPackages keys frost (bluePallasOf frost curve challengeOf)
          message (dealt.output generator).shares
          (dealt.output generator).pubkeyPackage rng) ↔
      ∃ c, challengeOf (evenCommitment curve commitment)
        (dealt.verifyingKey generator) message = .ok c := by
  obtain ⟨keyPackages, signers, round, keyPackagesEq, roundEq, rfl, drawn⟩ :=
    exists_drawn keysDocumented numbered rng distinct hold
  rw [List.length_map] at enough
  obtain ⟨factors, factorsEq, computed⟩ :=
    isCommitment keyPackages round keyPackagesEq roundEq
  rw [drawn.signingPackage_eq enough] at factorsEq computed
  rw [drawn.signFromPackages_eq_session keyPackagesEq roundEq enough]
  cases signed : (dealt.session signers message distinct hold enough).sign
      generator frost (bluePallasOf frost curve challengeOf) with
  | error failure =>
      constructor
      · intro valid
        exact absurd valid (not_returnsValid_error failure)
      · rintro ⟨c, challengeEq⟩
        obtain ⟨signature, returned⟩ := SigningSession.exists_sign
          frostDocumented factorsEq computed challengeEq
        exact absurd (signed.symm.trans returned) (by simp)
  | ok signature =>
      have someone :=
        SigningSession.signers_ne_nil frostDocumented computed nonzero
      obtain ⟨c, challengeEq, isEvenCommitment, equation⟩ :=
        SigningSession.of_sign frostDocumented factorsEq computed someone signed
      constructor
      · intro _valid
        exact ⟨c, challengeEq⟩
      · intro _hasChallenge
        refine ⟨signature, c, rfl, ?_, equation,
          SigningSession.minaValid_of_equation lawful nonzero isEvenCommitment
            equation⟩
        rw [isEvenCommitment]
        exact challengeEq

/-- The shares of a key sign exactly if it has at most three coefficients, the
participants are there, and the message has a challenge. -/
theorem output_returnsValid_iff
    (refuses : frost.RefusesFewCommitments)
    (count : identifiers.length = min dealt.identifiers.length 3) :
    ReturnsValid curve challengeOf generator message
        (dealt.verifyingKey generator)
        (signFromPackages keys frost (bluePallasOf frost curve challengeOf)
          message (dealt.output generator).shares
          (dealt.output generator).pubkeyPackage rng) ↔
      dealt.coefficients.length ≤ 3 ∧
        (∀ identifier ∈ identifiers, identifier ∈ dealt.identifiers) ∧
        ∃ c, challengeOf (evenCommitment curve commitment)
          (dealt.verifyingKey generator) message = .ok c := by
  have two := dealt.two
  have enoughHolders := dealt.enough
  by_cases hold : ∀ identifier ∈ identifiers, identifier ∈ dealt.identifiers
  swap
  · have panics := @signFromPackages_of_absent ε F G R _ _ _ _ keys frost
      (bluePallasOf frost curve challengeOf) generator dealt identifiers message
      rng keysDocumented numbered (by simpa using hold)
    rw [panics]
    constructor
    · intro valid
      exact absurd valid (not_returnsValid_error _)
    · rintro ⟨-, present, -⟩
      exact absurd present hold
  by_cases three : dealt.coefficients.length ≤ 3
  · rw [returnsValid_of_enough keysDocumented numbered lawful frostDocumented
      distinct isCommitment nonzero hold (by omega)]
    simp only [three, true_and, and_iff_right hold]
  · obtain ⟨keyPackages, signers, round, keyPackagesEq, roundEq, rfl, drawn⟩ :=
      exists_drawn keysDocumented numbered rng distinct hold
    rw [List.length_map] at count
    obtain ⟨reason, refused⟩ := @Drawn.signFromPackages_of_tooFew ε F G R _ _ _
      keys frost (bluePallasOf frost curve challengeOf) generator dealt
      keyPackages signers round message drawn _ rng keyPackagesEq roundEq
      refuses (List.ne_nil_of_length_pos (by omega)) (by omega)
    rw [refused]
    constructor
    · intro valid
      exact absurd valid (not_returnsValid_error _)
    · rintro ⟨isFew, -, -⟩
      exact absurd isFew three

end Output

section Dealt

/-- The participants have shares if their numbers were asked for. -/
theorem DealtKey.IsFor.hold_iff
    {dealt : DealtKey F}
    {maxSigners minSigners : UInt16}
    {list : IdentifierList F}
    (isFor : dealt.IsFor maxSigners minSigners list)
    {identifiers : List (Identifier F)}
    (scalars : identifiers.map Subtype.val =
      (List.range' 1 (min dealt.identifiers.length 3)).map
        (Nat.cast : Nat → F)) :
    (∀ identifier ∈ identifiers, identifier ∈ dealt.identifiers) ↔
      ∀ number : Nat, 1 ≤ number → number ≤ min maxSigners.toNat 3 →
        list.Lists maxSigners (number : F) := by
  have isAsked : ∀ identifier, identifier ∈ dealt.identifiers ↔
      list.Lists maxSigners identifier.val := by
    intro identifier
    rw [← isFor.scalars]
    constructor
    · intro member
      exact ⟨identifier, member, rfl⟩
    · rintro ⟨other, member, same⟩
      exact Subtype.ext same ▸ member
  calc (∀ identifier ∈ identifiers, identifier ∈ dealt.identifiers)
      ↔ ∀ scalar ∈ identifiers.map Subtype.val,
          list.Lists maxSigners scalar := by
        simp only [isAsked, List.forall_mem_map]
    _ ↔ _ := by
        rw [scalars, List.forall_mem_map, isFor.holders]
        apply forall_congr'
        intro number
        rw [List.mem_range'_1, and_imp, Nat.lt_one_add_iff]

variable [DecidableEq F] {keys : FrostKeys ε F G R} {frost : FrostCore ε F G}
  {curve : Coordinates G} {generator : G}
  (keysDocumented : keys.Documented generator)
  (frostDocumented : frost.Documented generator)
  (refuses : frost.RefusesFewCommitments)
  (lawful : curve.Lawful)
  (small : ∀ number : Nat, 1 ≤ number → number ≤ 3 → (number : F) ≠ 0)

include keysDocumented frostDocumented refuses lawful small

theorem DealtKey.IsFor.returnsValid_iff
    {challengeOf : G → G → List UInt8 → Outcome ε F}
    {dealt : DealtKey F}
    {maxSigners minSigners : UInt16}
    {list : IdentifierList F}
    (isFor : dealt.IsFor maxSigners minSigners list)
    {message : List UInt8}
    {rng : R}
    {commitment : G}
    (isCommitment : IsGroupCommitment keys frost message
      (dealt.output generator) rng commitment)
    (nonzero : commitment ≠ 0) :
    ReturnsValid curve challengeOf generator message
        (dealt.verifyingKey generator)
        (signFromPackages keys frost (bluePallasOf frost curve challengeOf)
          message (dealt.output generator).shares
          (dealt.output generator).pubkeyPackage rng) ↔
      minSigners.toNat ≤ 3 ∧
        (∀ number : Nat, 1 ≤ number → number ≤ min maxSigners.toNat 3 →
          list.Lists maxSigners (number : F)) ∧
        ∃ c, challengeOf (evenCommitment curve commitment)
          (dealt.verifyingKey generator) message = .ok c := by
  obtain ⟨identifiers, numbered, distinct, scalars⟩ :=
    exists_participants keysDocumented small
      (Nat.min_le_right dealt.identifiers.length 3)
  rw [← participants_output dealt generator] at numbered
  have count : identifiers.length = min dealt.identifiers.length 3 := by
    have sameLength := congrArg List.length scalars
    rwa [List.length_map, List.length_map, List.length_range'] at sameLength
  rw [← isFor.hold_iff scalars, ← isFor.threshold]
  exact output_returnsValid_iff keysDocumented numbered lawful frostDocumented
    distinct isCommitment nonzero refuses count

/-- A message of a transaction or of bytes is signed with a key that is shared
three of five. -/
theorem returnsValid_threeOfFive
    {hasher : MinaHasher}
    {codec : ROInputCodec}
    {output : DealerOutput F G}
    (deals : keys.Deals 5 3 .default output)
    {message : List UInt8}
    {rng : R}
    {commitment : G}
    (isCommitment :
      IsGroupCommitment keys frost message output rng commitment)
    (nonzero : commitment ≠ 0)
    (hasFlag : ¬PallasMessage.EndsBehindName message) :
    ReturnsValid curve (challenge curve hasher codec) generator message
      output.pubkeyPackage.verifyingKey
      (signFromPackages keys frost (bluePallas frost curve hasher codec)
        message output.shares output.pubkeyPackage rng) := by
  obtain ⟨dealt, isFor, rfl⟩ :=
    keysDocumented.of_deals 5 3 .default output deals
  apply (isFor.returnsValid_iff keysDocumented frostDocumented refuses lawful
    small isCommitment nonzero).mpr
  refine ⟨by decide, ?_, exists_challenge_iff.mpr hasFlag⟩
  intro number positive isParticipant
  exact ⟨number, positive, by simp at isParticipant ⊢; omega, rfl⟩

theorem generateSignatureRandom_valid
    {hasher : MinaHasher}
    {codec : ROInputCodec}
    {output : DealerOutput F G}
    {rng rest : R}
    (dealt : keys.generateWithDealer 5 3 .default rng = (.ok output, rest))
    {message : List UInt8}
    {commitment : G}
    (isCommitment :
      IsGroupCommitment keys frost message output rest commitment)
    (nonzero : commitment ≠ 0)
    (hasFlag : ¬PallasMessage.EndsBehindName message) :
    ReturnsValid curve (challenge curve hasher codec) generator message
      output.pubkeyPackage.verifyingKey
      (generateSignatureRandom keys frost (bluePallas frost curve hasher codec)
        message rng) := by
  rw [generateSignatureRandom, dealt]
  exact returnsValid_threeOfFive keysDocumented frostDocumented refuses lawful
    small ⟨rng, rest, .inl dealt⟩ isCommitment nonzero hasFlag

theorem generateSignatureFromSk_valid
    {hasher : MinaHasher}
    {codec : ROInputCodec}
    {output : DealerOutput F G}
    {signingKey : F}
    {rng rest : R}
    (dealt : keys.split signingKey 5 3 .default rng = (.ok output, rest))
    {message : List UInt8}
    {commitment : G}
    (isCommitment :
      IsGroupCommitment keys frost message output rest commitment)
    (nonzero : commitment ≠ 0)
    (hasFlag : ¬PallasMessage.EndsBehindName message) :
    ReturnsValid curve (challenge curve hasher codec) generator message
      output.pubkeyPackage.verifyingKey
      (generateSignatureFromSk keys frost (bluePallas frost curve hasher codec)
        message signingKey rng) := by
  rw [generateSignatureFromSk, dealt]
  exact returnsValid_threeOfFive keysDocumented frostDocumented refuses lawful
    small ⟨rng, rest, .inr ⟨signingKey, dealt⟩⟩ isCommitment nonzero hasFlag

omit keysDocumented frostDocumented refuses lawful small in
/-- Signing with the shares of a dealer returns a valid signature exactly if the
threshold is at most three, the numbers of the participants are identifiers, and
the message has a challenge. -/
theorem signFromPackages_valid_iff
    (keys : FrostKeys ε F G R)
    (frost : FrostCore ε F G)
    (curve : Coordinates G)
    (challengeOf : G → G → List UInt8 → Outcome ε F)
    (generator : G)
    (keysDocumented : keys.Documented generator)
    (frostDocumented : frost.Documented generator)
    (refuses : frost.RefusesFewCommitments)
    (lawful : curve.Lawful)
    (small : ∀ number : Nat, 1 ≤ number → number ≤ 3 → (number : F) ≠ 0)
    (maxSigners minSigners : UInt16)
    (list : IdentifierList F)
    (output : DealerOutput F G)
    (deals : keys.Deals maxSigners minSigners list output)
    (message : List UInt8)
    (rng : R)
    (commitment : G)
    (isCommitment :
      IsGroupCommitment keys frost message output rng commitment)
    (nonzero : commitment ≠ 0) :
    ReturnsValid curve challengeOf generator message
        output.pubkeyPackage.verifyingKey
        (signFromPackages keys frost (bluePallasOf frost curve challengeOf)
          message output.shares output.pubkeyPackage rng) ↔
      minSigners.toNat ≤ 3 ∧
        (∀ number : Nat, 1 ≤ number → number ≤ min maxSigners.toNat 3 →
          list.Lists maxSigners (number : F)) ∧
        ∃ c, challengeOf (evenCommitment curve commitment)
          output.pubkeyPackage.verifyingKey message = .ok c := by
  obtain ⟨dealt, isFor, rfl⟩ :=
    keysDocumented.of_deals maxSigners minSigners list output deals
  exact isFor.returnsValid_iff keysDocumented frostDocumented refuses lawful
    small isCommitment nonzero

end Dealt

section FiveElements

-- Literals of the field, without a proof of their own in each definition.
local instance two_atLeastTwoScalar : Nat.AtLeastTwo 2 :=
  ⟨by decide⟩

local instance three_atLeastTwoScalar : Nat.AtLeastTwo 3 :=
  ⟨by decide⟩

local instance four_atLeastTwoScalar : Nat.AtLeastTwo 4 :=
  ⟨by decide⟩

/-- Keys and nonces from lists of elements. -/
def fiveKeys : FrostKeys FrostError (ZMod 5) (ZMod 5) (List (ZMod 5)) :=
  Reference.frostKeys .unknownIdentifier 1

/-- The identifier of the participant behind so many others. -/
def identifierBehind (number : Fin 4) : Identifier (ZMod 5) :=
  ⟨((number.val + 1 : Nat) : ZMod 5), by revert number; decide⟩

/-- A key shared by three, two of which are enough. -/
def threeHolders : DealtKey (ZMod 5) :=
  { coefficients := [3, 2]
    identifiers := [identifierBehind 0, identifierBehind 1, identifierBehind 2]
    distinct := by decide
    two := by decide
    enough := by decide }

/-- A key shared by four, all of which have to sign. -/
def fourHolders : DealtKey (ZMod 5) :=
  { coefficients := [3, 2, 1, 1]
    identifiers := [identifierBehind 0, identifierBehind 1, identifierBehind 2,
      identifierBehind 3]
    distinct := by decide
    two := by decide
    enough := by decide }

/-- A key shared by two, neither of which is the first participant. -/
def twoHolders : DealtKey (ZMod 5) :=
  { coefficients := [3, 2]
    identifiers := [identifierBehind 1, identifierBehind 2]
    distinct := by decide
    two := by decide
    enough := by decide }

/-- Three holders of shares sign a message of bytes. -/
theorem signFromPackages_valid_threeHolders :
    fiveKeys.Deals 3 2 .default (threeHolders.output (1 : ZMod 5)) ∧
      ReturnsValid fiveCurve (challenge fiveCurve polynomialHasher emptyCodec) 1
        [115, 105, 103, 110] (threeHolders.verifyingKey (1 : ZMod 5))
        (signFromPackages fiveKeys fiveFrost
          (bluePallasOf fiveFrost fiveCurve
            (challenge fiveCurve polynomialHasher emptyCodec))
          [115, 105, 103, 110] (threeHolders.output (1 : ZMod 5)).shares
          (threeHolders.output (1 : ZMod 5)).pubkeyPackage
          [1, 2, 4, 3, 2, 2]) := by
  have deals : fiveKeys.Deals 3 2 .default (threeHolders.output (1 : ZMod 5)) :=
    ⟨[3, 2], [], .inl (by rfl)⟩
  have isCommitment : IsGroupCommitment fiveKeys fiveFrost [115, 105, 103, 110]
      (threeHolders.output (1 : ZMod 5)) [1, 2, 4, 3, 2, 2] 2 := by
    apply isGroupCommitment_of_computed rfl rfl rfl
    apply (Reference.computeGroupCommitment_eq_ok_iff _ _ _).mpr
    decide +kernel
  have small : ∀ number : Nat, 1 ≤ number → number ≤ 3 →
      (number : ZMod 5) ≠ 0 := by
    intro number positive atMost
    obtain rfl | rfl | rfl : number = 1 ∨ number = 2 ∨ number = 3 := by omega
    · decide
    · decide
    · decide
  refine ⟨deals, (signFromPackages_valid_iff fiveKeys fiveFrost fiveCurve
    (challenge fiveCurve polynomialHasher emptyCodec) 1
    Reference.frostKeys_documented
    (Reference.frostCore_documented 1 fiveBindingFactor)
    (Reference.frostCore_refusesFewCommitments fiveBindingFactor)
    fiveCurve_lawful small 3 2 .default _ deals [115, 105, 103, 110]
    [1, 2, 4, 3, 2, 2] 2 isCommitment (by decide)).mpr
    ⟨by decide, ?_, _, rfl⟩⟩
  intro number positive isParticipant
  exact ⟨number, positive, isParticipant.trans (by decide), rfl⟩

/-- The group commitment of three of the four holders is not the identity, but
they are too few. Where the first participant has no share, signing panics. -/
theorem signFromPackages_fails :
    (fiveKeys.Deals 4 4 .default (fourHolders.output (1 : ZMod 5)) ∧
      IsGroupCommitment fiveKeys fiveFrost [115, 105, 103, 110]
        (fourHolders.output (1 : ZMod 5)) [1, 2, 4, 3, 2, 2] 2 ∧
      (2 : ZMod 5) ≠ 0 ∧
      signFromPackages fiveKeys fiveFrost
        (bluePallasOf fiveFrost fiveCurve
          (challenge fiveCurve polynomialHasher emptyCodec))
        [115, 105, 103, 110] (fourHolders.output (1 : ZMod 5)).shares
        (fourHolders.output (1 : ZMod 5)).pubkeyPackage [1, 2, 4, 3, 2, 2] =
          .error (.error .incorrectNumberOfCommitments)) ∧
      fiveKeys.Deals 2 2 (.custom [identifierBehind 1, identifierBehind 2])
        (twoHolders.output (1 : ZMod 5)) ∧
      signFromPackages fiveKeys fiveFrost
        (bluePallasOf fiveFrost fiveCurve
          (challenge fiveCurve polynomialHasher emptyCodec))
        [115, 105, 103, 110] (twoHolders.output (1 : ZMod 5)).shares
        (twoHolders.output (1 : ZMod 5)).pubkeyPackage [1, 2, 4, 3] =
          .error .panic := by
  refine ⟨⟨⟨[3, 2, 1, 1], [], .inl (by rfl)⟩, ?_, by decide, by rfl⟩,
    ⟨[3, 2], [], .inl (by rfl)⟩, by rfl⟩
  apply isGroupCommitment_of_computed rfl rfl rfl
  apply (Reference.computeGroupCommitment_eq_ok_iff _ _ _).mpr
  decide +kernel

end FiveElements

end Frost
end MinaMultiSig
