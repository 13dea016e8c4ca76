import MinaMultiSig.Dkg.KeygenDealt

/-!
# What key generation reveals

The Round 2 Packages that an honest participant has sent to fewer participants
than have to sign fit every value of its secret, in every state of a session.
-/

namespace MinaMultiSig
namespace Dkg

open Frost ShamirSharing

namespace Keygen

variable {PublicKey Payload ε F G Proof R : Type}
variable [DecidableEq PublicKey] [Field F] [DecidableEq F]
variable [AddCommGroup G] [Module F G]
variable {keygen : Keygen PublicKey Payload ε F G Proof R} {generator : G}
variable [DecidableEq Proof] [DecidableEq G] [DecidableEq Payload]
variable {fifo : Bool}
variable {world : World PublicKey (Frost.Identifier F)
  (Frost.Round1Package G Proof) F Payload}
variable {key : PublicKey}

/-- Every Round 2 Package that a participant has sent to one of some others is
the value of this polynomial at the identifier of its recipient. -/
def FitsShares
    (keygen : Keygen PublicKey Payload ε F G Proof R)
    (world : World PublicKey (Frost.Identifier F)
      (Frost.Round1Package G Proof) F Payload)
    (key : PublicKey)
    (observers : Finset PublicKey)
    (coefficients : List F) : Prop :=
  ∀ recipient ∈ observers, ∀ identifier payload share,
    keygen.pubkeys.lookup recipient = some identifier →
      payload ∈ (world key).outbox recipient →
        keygen.wire.fromSliceRound2 payload = some share →
          share = evaluate coefficients identifier.val

omit [DecidableEq Proof] [DecidableEq G] [DecidableEq Payload] in
/-- They are the values of its own polynomial. -/
theorem fitsShares_own
    {identifier : Frost.Identifier F}
    {observers : Finset PublicKey}
    (documented : keygen.core.Documented generator)
    (invariant : ConcludedInvariant keygen.setup fifo world)
    (honest : key ∉ keygen.dishonest)
    (known : keygen.pubkeys.lookup key = some identifier)
    (notSelf : key ∉ observers) :
    FitsShares keygen world key observers (keygen.secret key).coefficients := by
  intro recipient member recipientIdentifier payload share recipientKnown sent
    decoded
  exact sentShare_eq documented honest known invariant recipientKnown
    (ne_of_mem_of_not_mem member notSelf) sent decoded

/-- The identifiers of some participants as scalars. -/
def nodesOf
    (keygen : Keygen PublicKey Payload ε F G Proof R)
    (observers : Finset PublicKey) : Finset F :=
  observers.image fun recipient =>
    (keygen.pubkeys.lookup recipient).elim 0 Subtype.val

omit [AddCommGroup G] [Module F G] [DecidableEq Proof] [DecidableEq G]
  [DecidableEq Payload] in
theorem mem_nodesOf
    {observers : Finset PublicKey}
    {recipient : PublicKey}
    {identifier : Frost.Identifier F}
    (member : recipient ∈ observers)
    (known : keygen.pubkeys.lookup recipient = some identifier) :
    identifier.val ∈ nodesOf keygen observers := by
  apply Finset.mem_image.mpr
  exact ⟨recipient, member, by rw [known]; rfl⟩

/-- The Round 2 Packages sent to fewer participants than have to sign fit every
value of the secret. -/
theorem shares_fit_every_secret
    (documented : keygen.core.Documented generator)
    (reachable : (keygen.setup.session fifo).Reachable world)
    (honest : keygen.setup.Honest key)
    {observers : Finset PublicKey}
    (notSelf : key ∉ observers)
    (few : observers.card < keygen.minSigners key)
    (secret : F) :
    ∃ coefficients : List F,
      coefficients.length = keygen.minSigners key ∧
        evaluate coefficients 0 = secret ∧
          FitsShares keygen world key observers coefficients := by
  obtain ⟨identifier, known⟩ := FiniteMap.mem_keys_iff_lookup.mp honest.1
  have own := fitsShares_own documented
    (ConcludedInvariant.of_reachable reachable) honest.2 known notSelf
  have fewNodes : (insert 0 (nodesOf keygen observers)).card ≤
      keygen.minSigners key := by
    have atMost : (nodesOf keygen observers).card ≤ observers.card :=
      Finset.card_image_le
    have insertAtMost := Finset.card_insert_le 0 (nodesOf keygen observers)
    omega
  obtain ⟨coefficients, length, values⟩ := exists_coefficients_of_few fewNodes
    fun node =>
      if node = 0 then secret
      else evaluate (keygen.secret key).coefficients node
  refine ⟨coefficients, length, ?_, ?_⟩
  · rw [values 0 (Finset.mem_insert_self _ _), if_pos rfl]
  · intro recipient member recipientIdentifier payload share recipientKnown sent
      decoded
    have isNode := mem_nodesOf member recipientKnown
    rw [values _ (Finset.mem_insert_of_mem isNode),
      if_neg recipientIdentifier.property]
    exact own recipient member recipientIdentifier payload share recipientKnown
      sent decoded

end Keygen

section FiveElements

/-- The share that `0` has sent to the dishonest participant fits every secret. -/
theorem shares_fit_every_secret_five :
    ∃ world payload share,
      ((fiveKeygen {2}).setup.session true).Reachable world ∧
        payload ∈ (world 0).outbox 2 ∧
        (fiveKeygen {2}).wire.fromSliceRound2 payload = some share ∧
        ∀ secret : ZMod 5, ∃ coefficients : List (ZMod 5),
          coefficients.length = 2 ∧ evaluate coefficients 0 = secret ∧
            Keygen.FitsShares (fiveKeygen {2}) world 0 {2} coefficients ∧
            share = evaluate coefficients
              (identifierBehind (2 : Fin 3).castSucc).val := by
  have evaluated : (((fiveKeygen {2}).setup.session true).run
      (fiveKeygen {2}).setup.initial fiveRun).any (fun world =>
        ((world 0).outbox 2).any fun payload =>
          ((fiveKeygen {2}).wire.fromSliceRound2 payload).isSome) = true := by
    decide +kernel
  obtain ⟨world, ran, isSent⟩ := (Option.any_eq_true _ _).mp evaluated
  obtain ⟨payload, sent, isShare⟩ := List.any_eq_true.mp isSent
  obtain ⟨share, decoded⟩ := Option.isSome_iff_exists.mp isShare
  have honest : (fiveKeygen {2}).setup.Honest 0 := by
    refine ⟨?_, by decide⟩
    exact FiniteMap.mem_keys_iff_lookup.mpr ⟨_, lookup_fivePubkeys 0⟩
  have notSelf : (0 : Fin 3) ∉ ({2} : Finset (Fin 3)) := by
    decide
  have few : ({2} : Finset (Fin 3)).card < (fiveKeygen {2}).minSigners 0 := by
    decide
  refine ⟨world, payload, share, ⟨fiveRun, ran⟩, sent, decoded, ?_⟩
  intro secret
  obtain ⟨coefficients, length, isSecret, fits⟩ :=
    Keygen.shares_fit_every_secret fiveCore_documented ⟨fiveRun, ran⟩ honest
      notSelf few secret
  exact ⟨coefficients, length, isSecret, fits,
    fits 2 (by decide) _ payload share (lookup_fivePubkeys 2) sent decoded⟩

end FiveElements

end Dkg
end MinaMultiSig
