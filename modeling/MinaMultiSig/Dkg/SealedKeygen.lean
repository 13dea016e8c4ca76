import MinaMultiSig.Dkg.KeygenDealt
import MinaMultiSig.Dkg.SealedRefinement

/-!
# Key generation over ciphers

What holds of key generation over ordered links holds of it over ciphers and a
server that knows the keys of the dishonest participants alone, as long as the
honest ones use theirs in this run only. Three participants run it, one of whom is
dishonest.
-/

namespace MinaMultiSig
namespace Dkg

open Frost ShamirSharing

namespace Keygen

variable {PublicKey Payload ε F G Proof R Ephemeral Message : Type}
variable [DecidableEq PublicKey] [Field F] [DecidableEq F]
variable [AddCommGroup G] [Module F G]
variable {keygen : Keygen PublicKey Payload ε F G Proof R} {generator : G}
variable [DecidableEq Proof] [DecidableEq G] [DecidableEq Payload]
variable [DecidableEq Ephemeral] [DecidableEq Message]
variable {snow : Channel.Snow PublicKey Ephemeral Payload Message}
variable
  {sealed :
    SealedSetup (Frost.Identifier F) (Frost.Round1Package G Proof) F snow}

/-- Honest participants that finish over ciphers do so with the packages of one
dealer, whose threshold is the one each of them was given. -/
theorem keygen_dealt_over_ciphers
    (documented : keygen.core.Documented generator)
    (generates : Generates F generator)
    (noise : sealed.noiseK.Documented)
    (isSession : sealed.setup = keygen.setup)
    {world :
      SealedWorld (Frost.Identifier F) (Frost.Round1Package G Proof) F snow}
    (reachable : sealed.session.Reachable world) :
    ∃ dealt : DealtKey F, ∀ key identifier result, key ∉ keygen.dishonest →
      keygen.pubkeys.lookup key = some identifier →
        keygen.outcome world.nodes key = some (.ok result) →
          dealt.coefficients.length = keygen.minSigners key ∧
            result =
              { keyPackage := dealt.keyPackage generator identifier
                publicKeyPackage := (dealt.output generator).pubkeyPackage
                pubkeyMap := keygen.pubkeys } := by
  obtain ⟨plain, plainReachable, nodes⟩ :=
    SealedSetup.session_refines noise reachable
  rw [isSession] at plainReachable nodes
  obtain ⟨dealt, deals⟩ := exists_deals documented generates plainReachable
  refine ⟨dealt, ?_⟩
  intro key identifier result honest known returned
  have isNode : plain key = world.nodes key :=
    nodes key ⟨FiniteMap.mem_keys_iff_lookup.mpr ⟨identifier, known⟩, honest⟩
  have plainReturned : keygen.outcome plain key = some (.ok result) := by
    rw [outcome, isNode]
    exact returned
  exact deals.results key identifier result honest known plainReturned

end Keygen

section FiveElements

/-- The payloads of the three participants. -/
abbrev FivePayload : Type :=
  Frost.Round1Package (ZMod 5) (ZMod 5) ⊕
    (Frost.Identifier (ZMod 5) × Frost.Round1Package (ZMod 5) (ZMod 5)) ⊕
      ZMod 5

instance : DecidableEq FivePayload :=
  inferInstance

/-- Every payload counts as a hundred bytes. -/
abbrev fiveSnow :
    Channel.Snow (Fin 3) Nat FivePayload
      (Channel.Reference.Ciphertext (Fin 3) Nat FivePayload) :=
  Channel.Reference.snow (Fin 3) Nat fun _ => 100

/-- The first participant iterates forwards, the others backwards. -/
def fiveSendingOrder (selfPubkey : Fin 3) : List (Fin 3) :=
  if selfPubkey.val = 0 then List.finRange 3 else (List.finRange 3).reverse

theorem mem_fiveSendingOrder :
    ∀ selfPubkey key, key ∈ fiveSendingOrder selfPubkey := by
  decide

/-- The three participants with ciphers. -/
def fiveSealed
    (dishonest : Finset (Fin 3)) :
    SealedSetup (Frost.Identifier (ZMod 5))
      (Frost.Round1Package (ZMod 5) (ZMod 5)) (ZMod 5) fiveSnow where
  setup := (fiveKeygen dishonest).setup
  noiseK := Channel.Reference.noiseK (Fin 3) Nat fun _ => 100
  privateKey := fun key => key
  publicKey_eq := fun _ => rfl
  order := fiveSendingOrder
  order_nodup := by decide
  mem_order := by
    intro selfPubkey key
    have member : key ∈ (fiveKeygen dishonest).setup.pubkeys.keys :=
      FiniteMap.mem_keys_iff_lookup.mpr ⟨_, lookup_fivePubkeys key⟩
    exact iff_of_true (mem_fiveSendingOrder selfPubkey key) member

/-- A run with the same messages as `fiveRun`, encrypted. -/
def fiveSealedRun :
    List (SealedAction (Fin 3) Nat
      (Channel.Reference.Ciphertext (Fin 3) Nat FivePayload)) :=
  let package := fun key => (fivePart1 (participant key)).2
  let round1 := fun key => (Sum.inl (package key) : FivePayload)
  let echo := fun key => (Sum.inr (Sum.inl
    (identifierBehind (participant key).castSucc, package key)) : FivePayload)
  let share := fun number => (Sum.inr (Sum.inr (five number)) : FivePayload)
  let other : FivePayload :=
    .inl { commitment := [five 4, five 4], proofOfKnowledge := five 4 }
  let post := fun sender recipient ephemeral number (payload : FivePayload) =>
    { sender := participant sender
      msg := some (⟨participant sender, participant recipient, ephemeral⟩,
        number, payload) }
  [.start (participant 0) [1, 2], .start (participant 1) [3, 4],
    .receive (participant 0)
      [post 2 0 5 0 other, post 2 0 5 1 (round1 2), post 1 0 4 0 (round1 1)]
      [11, 12],
    .receive (participant 1)
      [post 0 1 1 0 (round1 0), post 2 1 6 0 (round1 2)] [13, 14],
    .receive (participant 0) [post 1 0 4 1 (echo 2), post 2 0 5 2 (echo 1)] [],
    .receive (participant 1) [post 2 1 6 1 (echo 0), post 0 1 1 1 (echo 2)] [],
    .sendRound2 (participant 0) [15, 16], .sendRound2 (participant 1) [17, 18],
    .receive (participant 0)
      [post 1 0 4 2 (share 4), post 2 0 5 3 (share 1)] [],
    .receive (participant 1)
      [post 0 1 1 2 (share 0), post 2 1 6 2 (share 0)] []]

/-- The two honest participants finish that run. -/
theorem outcome_fiveSealedRun :
    ∃ world, (fiveSealed {2}).session.Reachable world ∧
      ∀ key ∈ [(0 : Fin 3), 1], ∃ result,
        (fiveKeygen {2}).outcome world.nodes key = some (.ok result) := by
  have outcomes : ((fiveSealed {2}).session.run (fiveSealed {2}).initial
      fiveSealedRun).any (fun world => [(0 : Fin 3), 1].all fun key =>
        ((fiveKeygen {2}).outcome world.nodes key).any Except.isOk) =
      true := by
    decide +kernel
  obtain ⟨world, ran, allOk⟩ := (Option.any_eq_true _ _).mp outcomes
  rw [List.all_eq_true] at allOk
  exact ⟨world, ⟨fiveSealedRun, ran⟩,
    fun key member => exists_of_any_isOk (allOk key member)⟩

/-- In that run they are where they can be over ordered links. -/
theorem session_refines_five :
    ∃ world plain, (fiveSealed {2}).session.Reachable world ∧
      ((fiveKeygen {2}).setup.session true).Reachable plain ∧
      ∀ key ∈ [(0 : Fin 3), 1], ∃ result,
        (fiveKeygen {2}).outcome world.nodes key = some (.ok result) ∧
          plain key = world.nodes key := by
  obtain ⟨world, reachable, finish⟩ := outcome_fiveSealedRun
  obtain ⟨plain, plainReachable, same⟩ := SealedSetup.session_refines
    (Channel.Reference.documented (Fin 3) Nat fun _ => 100) reachable
  have honest : ∀ key ∈ [(0 : Fin 3), 1],
      key ∉ (fiveSealed {2}).setup.dishonest := by
    decide
  refine ⟨world, plain, reachable, plainReachable, ?_⟩
  intro key member
  obtain ⟨result, returned⟩ := finish key member
  exact ⟨result, returned, same key
    ⟨FiniteMap.mem_keys_iff_lookup.mpr ⟨_, lookup_fivePubkeys key⟩,
      honest key member⟩⟩

/-- They finish with shares of one key. -/
theorem keygen_dealt_over_ciphers_five :
    ∃ world, (fiveSealed {2}).session.Reachable world ∧
      ∃ dealt : DealtKey (ZMod 5), dealt.coefficients.length = 2 ∧
        ∀ key ∈ [(0 : Fin 3), 1], ∃ result,
          (fiveKeygen {2}).outcome world.nodes key = some (.ok result) ∧
            result.keyPackage = dealt.keyPackage (1 : ZMod 5)
              (identifierBehind key.castSucc) := by
  obtain ⟨world, reachable, finish⟩ := outcome_fiveSealedRun
  obtain ⟨dealt, deals⟩ := Keygen.keygen_dealt_over_ciphers
    fiveCore_documented fiveProof_generates
    (Channel.Reference.documented (Fin 3) Nat fun _ => 100) rfl reachable
  have honest : ∀ key ∈ [(0 : Fin 3), 1], key ∉ (fiveKeygen {2}).dishonest := by
    decide
  refine ⟨world, reachable, dealt, ?_, ?_⟩
  · obtain ⟨result, returned⟩ := finish 0 (by decide)
    exact (deals 0 _ result (honest 0 (by decide)) (lookup_fivePubkeys 0)
      returned).1
  · intro key member
    obtain ⟨result, returned⟩ := finish key member
    exact ⟨result, returned, congrArg KeygenResult.keyPackage
      (deals key _ result (honest key member) (lookup_fivePubkeys key)
        returned).2⟩

end FiveElements

end Dkg
end MinaMultiSig
