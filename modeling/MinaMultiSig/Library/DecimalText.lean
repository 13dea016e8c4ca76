/-!
# Decimal texts of natural numbers

The text of a natural number and the reader of such texts for numbers below a
bound: a text may begin with a plus sign and with zeros.
-/

namespace DecimalText

/-- Why a text is no number below the bound. -/
inductive ParseError
  | empty
  | invalidDigit
  | overflow
  deriving DecidableEq

/-- The text of the error. -/
def ParseError.text : ParseError → String
  | empty => "cannot parse integer from empty string"
  | invalidDigit => "invalid digit found in string"
  | overflow => "number too large to fit in target type"

variable (bound : Nat)

/-- Go on with a digit behind a number. -/
def appendDigit (number : Nat) (char : Char) : Except ParseError Nat :=
  if char.isDigit then
    let next := 10 * number + (char.toNat - '0'.toNat)
    if next < bound then .ok next else .error .overflow
  else .error .invalidDigit

/-- Read a number below the bound, with an optional plus sign. -/
def parse (text : String) : Except ParseError Nat :=
  match text.toList with
  | [] => .error .empty
  | ['+'] => .error .invalidDigit
  | '+' :: digits => digits.foldlM (appendDigit bound) 0
  | digits => digits.foldlM (appendDigit bound) 0

variable {bound}

/-- Digits before the end of a number are a smaller number. -/
theorem le_ofDigitChars (digits : List Char) (number : Nat) :
    number ≤ Nat.ofDigitChars 10 digits number := by
  induction digits generalizing number with
  | nil => exact Nat.le_of_eq Nat.ofDigitChars_nil.symm
  | cons char digits ih =>
      rw [Nat.ofDigitChars_cons]
      calc number ≤ 10 * number + (char.toNat - '0'.toNat) := by omega
        _ ≤ _ := ih _

theorem foldlM_appendDigit
    {digits : List Char}
    (isDigits : ∀ char ∈ digits, char.isDigit = true)
    {number : Nat}
    (below : Nat.ofDigitChars 10 digits number < bound) :
    digits.foldlM (appendDigit bound) number =
      .ok (Nat.ofDigitChars 10 digits number) := by
  induction digits generalizing number with
  | nil => rw [Nat.ofDigitChars_nil, List.foldlM_nil]; rfl
  | cons char digits ih =>
      have isDigit := isDigits char List.mem_cons_self
      have others := fun other member =>
        isDigits other (List.mem_cons_of_mem char member)
      rw [Nat.ofDigitChars_cons] at below ⊢
      have nextBelow := Nat.lt_of_le_of_lt (le_ofDigitChars digits _) below
      rw [List.foldlM_cons, appendDigit, if_pos isDigit, if_pos nextBelow]
      exact ih others below

/-- The text of a number is read as the number. -/
theorem parse_repr
    {number : Nat}
    (below : number < bound) :
    parse bound number.repr = .ok number := by
  have isDigits : ∀ char ∈ Nat.toDigits 10 number, char.isDigit = true :=
    fun _ member => Nat.isDigit_of_mem_toDigits (by decide) (by decide) member
  have read : (Nat.toDigits 10 number).foldlM (appendDigit bound) 0 =
      .ok number := by
    have value : Nat.ofDigitChars 10 (Nat.toDigits 10 number) 0 = number :=
      Nat.ofDigitChars_ten_toDigits
    rw [foldlM_appendDigit isDigits (by rwa [value]), value]
  rw [parse, Nat.toList_repr]
  split
  next noDigits => exact absurd noDigits Nat.toDigits_ne_nil
  next plus => exact absurd (isDigits '+' (by simp [plus])) (by decide)
  next plus => exact absurd (isDigits '+' (by simp [plus])) (by decide)
  next => exact read

end DecimalText
