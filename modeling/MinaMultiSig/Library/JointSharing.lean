import MinaMultiSig.Library.ShamirSharing

/-!
# Joint sharing

Several dealers share a secret each and publish commitments to the coefficients
of their polynomials. A holder adds up the shares it accepted. Where the
generator spans the group, the sums of all holders with the same commitments are
shares of one polynomial, whatever the dealers did.
-/

namespace ShamirSharing

section Sums

variable {ι M : Type} [AddCommMonoid M]

/-- The lists of several dealers, added up position by position. -/
def sumLists
    (count : Nat)
    (dealers : Finset ι)
    (lists : ι → List M) : List M :=
  (List.range count).map fun index =>
    ∑ dealer ∈ dealers, (lists dealer).getD index 0

@[simp] theorem length_sumLists
    (count : Nat)
    (dealers : Finset ι)
    (lists : ι → List M) :
    (sumLists count dealers lists).length = count := by
  rw [sumLists, List.length_map, List.length_range]

theorem getD_sumLists
    {count index : Nat}
    (below : index < count)
    (dealers : Finset ι)
    (lists : ι → List M) :
    (sumLists count dealers lists).getD index 0 =
      ∑ dealer ∈ dealers, (lists dealer).getD index 0 := by
  rw [sumLists, List.getD_eq_getElem?_getD, List.getElem?_map,
    List.getElem?_range below]
  rfl

/-- Dealers with the same lists have the same sums. -/
theorem sumLists_congr
    {count : Nat}
    {dealers : Finset ι}
    {lists others : ι → List M}
    (same : ∀ dealer ∈ dealers, lists dealer = others dealer) :
    sumLists count dealers lists = sumLists count dealers others := by
  apply List.map_congr_left
  intro index _member
  exact Finset.sum_congr rfl fun dealer member => by rw [same dealer member]

/-- An additive map can be applied to the lists or to their sums. -/
theorem map_sumLists
    {N : Type}
    [AddCommMonoid N]
    (change : M →+ N)
    (count : Nat)
    (dealers : Finset ι)
    (lists : ι → List M) :
    (sumLists count dealers lists).map change =
      sumLists count dealers fun dealer => (lists dealer).map change := by
  rw [sumLists, sumLists, List.map_map]
  apply List.map_congr_left
  intro index _member
  rw [Function.comp_apply, map_sum]
  apply Finset.sum_congr rfl
  intro dealer _dealer
  rw [List.getD_eq_getElem?_getD, List.getD_eq_getElem?_getD,
    List.getElem?_map]
  cases (lists dealer)[index]? with
  | none => exact map_zero change
  | some value => rfl

end Sums

variable {ι F G : Type} [Field F] [AddCommGroup G] [Module F G]

/-- The value of commitments at a node as a sum of powers. -/
theorem commitmentAt_eq_sum
    (commitments : List G)
    (node : F) :
    commitmentAt commitments node =
      ∑ index ∈ Finset.range commitments.length,
        node ^ index • commitments.getD index 0 := by
  induction commitments with
  | nil => rfl
  | cons commitment rest ih =>
      have shifted : node • commitmentAt rest node =
          ∑ index ∈ Finset.range rest.length,
            node ^ (index + 1) • (commitment :: rest).getD (index + 1) 0 := by
        rw [ih, Finset.smul_sum]
        apply Finset.sum_congr rfl
        intro index _member
        rw [List.getD_cons_succ, smul_smul, pow_succ']
      calc commitmentAt (commitment :: rest) node
          = commitment + node • commitmentAt rest node := rfl
        _ = ∑ index ∈ Finset.range (commitment :: rest).length,
              node ^ index • (commitment :: rest).getD index 0 := by
          rw [List.length_cons, Finset.sum_range_succ', ← shifted, pow_zero,
            one_smul, List.getD_cons_zero, add_comm]

/-- The value of the sums is the sum of the values. -/
theorem commitmentAt_sumLists
    {count : Nat}
    {dealers : Finset ι}
    {lists : ι → List G}
    (sameLength : ∀ dealer ∈ dealers, (lists dealer).length = count)
    (node : F) :
    commitmentAt (sumLists count dealers lists) node =
      ∑ dealer ∈ dealers, commitmentAt (lists dealer) node := by
  have values : ∀ dealer ∈ dealers, commitmentAt (lists dealer) node =
      ∑ index ∈ Finset.range count,
        node ^ index • (lists dealer).getD index 0 := by
    intro dealer member
    rw [commitmentAt_eq_sum, sameLength dealer member]
  rw [commitmentAt_eq_sum, length_sumLists, Finset.sum_congr rfl values,
    Finset.sum_comm]
  apply Finset.sum_congr rfl
  intro index member
  rw [getD_sumLists (Finset.mem_range.mp member), Finset.smul_sum]

/-- Shares of several polynomials add up to a share of their sum. -/
theorem evaluate_sumLists
    {count : Nat}
    {dealers : Finset ι}
    {lists : ι → List F}
    (sameLength : ∀ dealer ∈ dealers, (lists dealer).length = count)
    (node : F) :
    evaluate (sumLists count dealers lists) node =
      ∑ dealer ∈ dealers, evaluate (lists dealer) node :=
  commitmentAt_sumLists sameLength node

/-- A share fits the commitments of its dealer. -/
def Verifies
    (generator : G)
    (commitments : List G)
    (node share : F) : Prop :=
  share • generator = commitmentAt commitments node

instance
    [DecidableEq G]
    (generator : G)
    (commitments : List G)
    (node share : F) :
    Decidable (Verifies generator commitments node share) :=
  inferInstanceAs (Decidable (_ = _))

/-- Every element of the group is a multiple of the generator. -/
structure Generates
    (F : Type)
    {G : Type}
    [Field F]
    [AddCommGroup G]
    [Module F G]
    (generator : G) : Prop where
  nonzero : generator ≠ 0
  spans : ∀ point : G, ∃ scalar : F, scalar • generator = point

variable {generator : G}

/-- A dealer commits to some polynomial, even when it does not know it. -/
theorem Generates.exists_coefficients
    (generates : Generates F generator)
    (commitments : List G) :
    ∃ coefficients : List F,
      coefficients.map (· • generator) = commitments := by
  induction commitments with
  | nil => exact ⟨[], rfl⟩
  | cons commitment rest ih =>
      obtain ⟨scalar, rfl⟩ := generates.spans commitment
      obtain ⟨coefficients, rfl⟩ := ih
      exact ⟨scalar :: coefficients, rfl⟩

theorem Generates.smul_injective
    (generates : Generates F generator) :
    Function.Injective fun scalar : F => scalar • generator :=
  smul_left_injective F generates.nonzero

/-- An honest share verifies. -/
theorem verifies_evaluate
    (generator : G)
    (coefficients : List F)
    (node : F) :
    Verifies generator (coefficients.map (· • generator)) node
      (evaluate coefficients node) :=
  (commitmentAt_smul coefficients generator node).symm

/-- A share that verifies is the value of the polynomial committed to. -/
theorem Generates.eq_evaluate
    (generates : Generates F generator)
    {coefficients : List F}
    {node share : F}
    (verifies :
      Verifies generator (coefficients.map (· • generator)) node share) :
    share = evaluate coefficients node := by
  apply generates.smul_injective
  exact verifies.trans (commitmentAt_smul coefficients generator node)

/-- The commitments to the sum of the polynomials. -/
theorem sumLists_smul
    (count : Nat)
    (dealers : Finset ι)
    (lists : ι → List F) :
    (sumLists count dealers lists).map (· • generator) =
      sumLists count dealers fun dealer => (lists dealer).map (· • generator) :=
  map_sumLists ((smulAddHom F G).flip generator) count dealers lists

end ShamirSharing
