import MinaMultiSig.Dkg.Network
import Mathlib.Data.Sum.Basic

/-!
# Sessions of numbered participants

A codec that tags each payload with its kind, and the sessions of the
participants `0, …, count - 1` over it. They make the hypotheses of the results
about DKG sessions concrete.
-/

namespace MinaMultiSig
namespace Dkg

/-- Payloads tagged with their kind. -/
def taggedWire (Identifier Round1Package Round2Package : Type) :
    DkgWire (Round1Package ⊕ (Identifier × Round1Package) ⊕ Round2Package)
      Identifier Round1Package Round2Package where
  toVecRound1 := fun package => .inl package
  toVecBroadcast := fun identifier package => .inr (.inl (identifier, package))
  toVecRound2 := fun package => .inr (.inr package)
  fromSliceRound1 := fun
    | .inl package => some package
    | _ => none
  fromSliceBroadcast := fun
    | .inr (.inl echo) => some echo
    | _ => none
  fromSliceRound2 := fun
    | .inr (.inr package) => some package
    | _ => none
  round1_roundTrip := fun _ => rfl
  broadcast_roundTrip := fun _ _ => rfl
  round2_roundTrip := fun _ => rfl
  broadcast_of_round1 := by
    rintro (package | echo | package) other decoded <;> simp_all
  round2_of_round1 := by
    rintro (package | echo | package) other decoded <;> simp_all
  round2_of_broadcast := by
    rintro (package | echo | package) other decoded <;> simp_all

/-- The participants `0, …, count - 1`, each with its number as identifier. -/
def numberedPubkeys : Nat → FiniteMap Nat Nat
  | 0 => ∅
  | count + 1 => (numberedPubkeys count).insert count count

theorem lookup_numberedPubkeys (count key : Nat) :
    (numberedPubkeys count).lookup key =
      if key < count then some key else none := by
  induction count with
  | zero => simp [numberedPubkeys]
  | succ count ih =>
      rw [numberedPubkeys, FiniteMap.lookup_insert_eq, ih]
      split_ifs <;> first | omega | simp_all

theorem keys_numberedPubkeys (count : Nat) :
    (numberedPubkeys count).keys = Finset.range count := by
  ext key
  rw [FiniteMap.mem_keys_iff_lookup, lookup_numberedPubkeys, Finset.mem_range]
  split_ifs with below <;> simp [below]

theorem injective_numberedPubkeys (count : Nat) :
    FiniteMap.Injective (numberedPubkeys count) := by
  intro first second value firstLookup secondLookup
  rw [lookup_numberedPubkeys] at firstLookup secondLookup
  split_ifs at firstLookup secondLookup
  exact (Option.some.inj firstLookup).trans
    (Option.some.inj secondLookup).symm

theorem two_le_card_numberedPubkeys
    {count : Nat}
    (atLeastTwo : 2 ≤ count) :
    2 ≤ (numberedPubkeys count).keys.card := by
  rw [keys_numberedPubkeys, Finset.card_range]
  exact atLeastTwo

/-- A session of numbered participants: participant `key` sends the Round 1
Package `key`. -/
def numberedSetup
    (count : Nat)
    (atLeastTwo : 2 ≤ count)
    (dishonest : Finset Nat) :
    Setup Nat Nat Nat Nat (Nat ⊕ (Nat × Nat) ⊕ Nat) where
  wire := taggedWire Nat Nat Nat
  pubkeys := numberedPubkeys count
  injective := injective_numberedPubkeys count
  atLeastTwo := two_le_card_numberedPubkeys atLeastTwo
  identifiers := List.range count
  identifiers_nodup := List.nodup_range
  mem_identifiers := by
    intro identifier
    rw [List.mem_range]
    constructor
    · intro below
      exact ⟨identifier, by rw [lookup_numberedPubkeys, if_pos below]⟩
    · rintro ⟨key, lookup⟩
      rw [lookup_numberedPubkeys] at lookup
      split_ifs at lookup with below
      obtain rfl := Option.some.inj lookup
      exact below
  dishonest := dishonest
  round1Package := fun key => key
  part2 := fun key _ => some fun identifier => 10 * key + identifier

/-- The payloads of a numbered session. -/
abbrev NumberedPayload : Type :=
  Nat ⊕ (Nat × Nat) ⊕ Nat

end Dkg
end MinaMultiSig
