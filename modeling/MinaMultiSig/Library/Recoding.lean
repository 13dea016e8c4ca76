import Mathlib.Data.List.TakeWhile
import Mathlib.Data.Nat.Digits.Lemmas

/-!
# Digits of another base

A string of digits, the most significant first, is the zeros at its front and a
number. Recoding keeps the zeros and writes the number in another base. Recoding
back gives the string again, so strings over two bases stand for each other.
-/

namespace Recoding

/-- The digits of a number, the least significant first, within some fuel. -/
def digitsWithin (base : Nat) : Nat → Nat → List Nat
  | 0, _ => []
  | fuel + 1, number =>
      if number = 0 then []
      else number % base :: digitsWithin base fuel (number / base)

/-- The digits of a number, the least significant first. -/
def digits (base number : Nat) : List Nat :=
  digitsWithin base (number.log2 + 1) number

/-- A digit string in another base. -/
def recode (fromBase toBase : Nat) (string : List Nat) : List Nat :=
  string.takeWhile (· == 0) ++
    (digits toBase (Nat.ofDigits fromBase string.reverse)).reverse

section Digits

variable {base : Nat} (two : 2 ≤ base)

include two

theorem digitsWithin_eq
    {fuel number : Nat}
    (below : number < 2 ^ fuel) :
    digitsWithin base fuel number = Nat.digits base number := by
  induction fuel generalizing number with
  | zero =>
      rw [Nat.lt_one_iff.mp below, Nat.digits_zero]
      rfl
  | succ fuel ih =>
      rw [digitsWithin]
      split
      next zero => rw [zero, Nat.digits_zero]
      next nonzero =>
        have smaller : number / base < 2 ^ fuel := by
          apply Nat.div_lt_of_lt_mul
          calc number < 2 ^ (fuel + 1) := below
            _ = 2 * 2 ^ fuel := Nat.pow_succ'
            _ ≤ base * 2 ^ fuel := Nat.mul_le_mul_right _ two
        rw [ih smaller, ← Nat.digits_def' two (Nat.pos_of_ne_zero nonzero)]

theorem digits_eq (number : Nat) :
    digits base number = Nat.digits base number :=
  digitsWithin_eq two Nat.lt_log2_self

end Digits

section Zeros

variable {string : List Nat}

theorem eq_zero_of_mem_takeWhile
    {digit : Nat}
    (member : digit ∈ string.takeWhile (· == 0)) :
    digit = 0 := by
  simpa using List.mem_takeWhile_imp member

theorem takeWhile_zero_eq_replicate (string : List Nat) :
    string.takeWhile (· == 0) =
      List.replicate (string.takeWhile (· == 0)).length 0 :=
  List.eq_replicate_of_mem fun _ => eq_zero_of_mem_takeWhile

/-- Zeros at the front do not change the number. -/
theorem ofDigits_reverse_append_zeros
    (base count : Nat)
    (string : List Nat) :
    Nat.ofDigits base (List.replicate count 0 ++ string).reverse =
      Nat.ofDigits base string.reverse := by
  rw [List.reverse_append, List.reverse_replicate]
  exact Nat.ofDigits_append_replicate_zero _

/-- A number is written without a zero at the front. -/
theorem takeWhile_zero_digits (base number : Nat) :
    (Nat.digits base number).reverse.takeWhile (· == 0) = [] := by
  by_cases zero : number = 0
  · rw [zero, Nat.digits_zero]
    rfl
  have written : (Nat.digits base number).reverse ≠ [] := by
    rw [Ne, List.reverse_eq_nil_iff]
    exact Nat.digits_ne_nil_iff_ne_zero.mpr zero
  have first := List.head_reverse written
  have nonzero := Nat.getLast_digit_ne_zero base zero
  rw [← first] at nonzero
  rw [← List.cons_head_tail written, List.takeWhile_cons_of_neg]
  simpa using nonzero

theorem digits_ofDigits_dropWhile
    {base : Nat}
    (two : 2 ≤ base)
    (small : ∀ digit ∈ string, digit < base) :
    Nat.digits base
        (Nat.ofDigits base (string.dropWhile (· == 0)).reverse) =
      (string.dropWhile (· == 0)).reverse := by
  apply Nat.digits_ofDigits base two
  · intro digit member
    exact small digit
      ((List.dropWhile_sublist _).subset (List.mem_reverse.mp member))
  · intro nonempty
    rw [List.getLast_reverse]
    simpa using List.head_dropWhile_not (· == 0)
      (List.reverse_ne_nil_iff.mp nonempty)

end Zeros

/-- The number of a string is the number of what is behind its zeros. -/
theorem ofDigits_reverse
    (base : Nat)
    (string : List Nat) :
    Nat.ofDigits base string.reverse =
      Nat.ofDigits base (string.dropWhile (· == 0)).reverse := by
  conv_lhs =>
    rw [← @List.takeWhile_append_dropWhile _ (· == 0) string,
      takeWhile_zero_eq_replicate]
  exact ofDigits_reverse_append_zeros _ _ _

/-- Recoding back gives the string again. -/
theorem recode_recode
    {first second : Nat}
    (firstTwo : 2 ≤ first)
    (secondTwo : 2 ≤ second)
    {string : List Nat}
    (small : ∀ digit ∈ string, digit < first) :
    recode second first (recode first second string) = string := by
  have zeros : ∀ digit ∈ string.takeWhile (· == 0), (digit == 0) = true :=
    fun digit member => beq_iff_eq.mpr (eq_zero_of_mem_takeWhile member)
  have sameZeros : (recode first second string).takeWhile (· == 0) =
      string.takeWhile (· == 0) := by
    rw [recode, digits_eq secondTwo, List.takeWhile_append_of_pos zeros,
      takeWhile_zero_digits, List.append_nil]
  have sameNumber : Nat.ofDigits second (recode first second string).reverse =
      Nat.ofDigits first string.reverse := by
    rw [recode, digits_eq secondTwo, takeWhile_zero_eq_replicate,
      ofDigits_reverse_append_zeros, List.reverse_reverse, Nat.ofDigits_digits]
  calc recode second first (recode first second string)
      = string.takeWhile (· == 0) ++
          (digits first (Nat.ofDigits first string.reverse)).reverse := by
        rw [recode, sameZeros, sameNumber]
    _ = string.takeWhile (· == 0) ++ string.dropWhile (· == 0) := by
        rw [digits_eq firstTwo, ofDigits_reverse,
          digits_ofDigits_dropWhile firstTwo small, List.reverse_reverse]
    _ = string := List.takeWhile_append_dropWhile

/-- The digits of a recoded string are below the base. -/
theorem lt_of_mem_recode
    {fromBase toBase : Nat}
    (two : 2 ≤ toBase)
    {string : List Nat}
    {digit : Nat}
    (member : digit ∈ recode fromBase toBase string) :
    digit < toBase := by
  rw [recode, digits_eq two, List.mem_append, List.mem_reverse] at member
  rcases member with zero | written
  · rw [eq_zero_of_mem_takeWhile zero]
    omega
  · exact Nat.digits_lt_base two written

end Recoding
