import Mathlib.LinearAlgebra.Lagrange

/-!
# Shamir sharing

A secret is the constant coefficient of a polynomial, a share is its value at a
node. The shares at as many nodes as there are coefficients, or at more, give
the secret as a linear combination.
-/

namespace ShamirSharing

open Polynomial

variable {F : Type} [Field F]

/-- The value of a polynomial, by its coefficients from the constant one on. -/
def evaluate (coefficients : List F) (node : F) : F :=
  coefficients.foldr (fun coefficient value => coefficient + node * value) 0

/-- The polynomial of a list of coefficients. -/
noncomputable def toPolynomial : List F → F[X]
  | [] => 0
  | coefficient :: rest => C coefficient + X * toPolynomial rest

theorem eval_toPolynomial (coefficients : List F) (node : F) :
    (toPolynomial coefficients).eval node = evaluate coefficients node := by
  induction coefficients with
  | nil => simp [toPolynomial, evaluate]
  | cons coefficient rest ih =>
      rw [toPolynomial, eval_add, eval_C, eval_mul, eval_X, ih]
      rfl

theorem degree_toPolynomial_lt (coefficients : List F) :
    (toPolynomial coefficients).degree < coefficients.length := by
  induction coefficients with
  | nil => simp [toPolynomial]
  | cons coefficient rest ih =>
      rw [toPolynomial]
      refine (degree_add_le _ _).trans_lt (max_lt ?_ ?_)
      · refine degree_C_le.trans_lt ?_
        exact_mod_cast Nat.succ_pos rest.length
      · rw [degree_mul, degree_X, List.length_cons, Nat.cast_succ, add_comm]
        exact WithBot.add_lt_add_right (by decide) ih

theorem coeff_toPolynomial (coefficients : List F) (index : Nat) :
    (toPolynomial coefficients).coeff index = coefficients.getD index 0 := by
  induction coefficients generalizing index with
  | nil => simp [toPolynomial]
  | cons coefficient rest ih =>
      cases index with
      | zero => simp [toPolynomial]
      | succ index =>
          rw [toPolynomial, coeff_add, coeff_C_succ, zero_add, coeff_X_mul, ih]
          rfl

section Commitments

variable {G : Type} [AddCommGroup G] [Module F G]

/-- The commitment to the value at a node, from those to the coefficients. -/
def commitmentAt (commitments : List G) (node : F) : G :=
  commitments.foldr (fun commitment value => commitment + node • value) 0

/-- Commitments are evaluated to the commitment to the value. -/
theorem commitmentAt_smul
    (coefficients : List F)
    (generator : G)
    (node : F) :
    commitmentAt (coefficients.map (· • generator)) node =
      evaluate coefficients node • generator := by
  induction coefficients with
  | nil => simp [commitmentAt, evaluate]
  | cons coefficient rest ih =>
      calc commitmentAt ((coefficient :: rest).map (· • generator)) node
          = coefficient • generator +
              node • commitmentAt (rest.map (· • generator)) node := rfl
        _ = (coefficient + node * evaluate rest node) • generator := by
          rw [ih, smul_smul, add_smul]

end Commitments

variable [DecidableEq F]

/-- The weight of the share at a node when the shares at the nodes are
combined. -/
def interpolatingValue (nodes : Finset F) (node : F) : F :=
  ∏ other ∈ nodes.erase node, other / (other - node)

/-- The weight is the value at zero of a basis polynomial. -/
theorem interpolatingValue_eq (nodes : Finset F) (node : F) :
    interpolatingValue nodes node =
      (Lagrange.basis nodes id node).eval 0 := by
  rw [interpolatingValue, Lagrange.basis, eval_prod]
  refine Finset.prod_congr rfl fun other _ => ?_
  rw [Lagrange.basisDivisor, eval_mul, eval_C, eval_sub, eval_X, eval_C, id, id,
    zero_sub, ← neg_sub other node, inv_neg, neg_mul_neg, mul_comm,
    div_eq_mul_inv]

/-- The weighted shares at enough nodes add up to the secret. -/
theorem sum_interpolatingValue
    {coefficients : List F}
    {nodes : Finset F}
    (enough : coefficients.length ≤ nodes.card) :
    ∑ node ∈ nodes, interpolatingValue nodes node * evaluate coefficients node =
      evaluate coefficients 0 := by
  have degreeLess : (toPolynomial coefficients).degree < nodes.card :=
    (degree_toPolynomial_lt coefficients).trans_le (by exact_mod_cast enough)
  have interpolated := Lagrange.eq_interpolate
    (Function.injective_id.injOn : Set.InjOn id (nodes : Set F)) degreeLess
  have atZero := congrArg (eval 0) interpolated
  rw [Lagrange.interpolate_apply, eval_finsetSum, eval_toPolynomial] at atZero
  rw [atZero]
  refine Finset.sum_congr rfl fun node _ => ?_
  rw [eval_mul, eval_C, interpolatingValue_eq, id, eval_toPolynomial, mul_comm]

/-- Values at few nodes are those of some polynomial, so that they leave the
value at another node open. -/
theorem exists_coefficients_of_few
    {count : Nat}
    {nodes : Finset F}
    (few : nodes.card ≤ count)
    (value : F → F) :
    ∃ coefficients : List F, coefficients.length = count ∧
      ∀ node ∈ nodes, evaluate coefficients node = value node := by
  have distinct : Set.InjOn id (nodes : Set F) := Function.injective_id.injOn
  let polynomial := Lagrange.interpolate nodes id value
  have degreeLess : polynomial.degree < count :=
    (Lagrange.degree_interpolate_lt value distinct).trans_le
      (by exact_mod_cast few)
  refine ⟨(List.range count).map polynomial.coeff, by simp, ?_⟩
  intro node member
  have same : toPolynomial ((List.range count).map polynomial.coeff) =
      polynomial := by
    ext index
    rw [coeff_toPolynomial, List.getD_eq_getElem?_getD, List.getElem?_map]
    by_cases below : index < count
    · rw [List.getElem?_range below]
      rfl
    · rw [List.getElem?_eq_none (by simpa using below)]
      exact (coeff_eq_zero_of_degree_lt (degreeLess.trans_le
        (by exact_mod_cast not_lt.mp below))).symm
  rw [← eval_toPolynomial, same]
  exact Lagrange.eval_interpolate_at_node value distinct member

end ShamirSharing
