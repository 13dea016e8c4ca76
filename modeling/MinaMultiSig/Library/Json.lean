import Mathlib.Data.List.Basic

/-!
# JSON values

A JSON document as a reader of it sees it: an object keeps all its entries in
their order, and a number is a natural number of 64 bits or else the characters
it is written with. A reader sees a malformed text up to the place where no
value can be read. A text format is a parser with two printers.
-/

/-- Where no value can be read the value is `invalid`: in an array the last item
then, and in an object the last entry, whose name is empty. -/
inductive Json
  | invalid
  | null
  | bool (value : Bool)
  | natural (value : UInt64)
  | number (token : String)
  | string (text : String)
  | array (items : List Json)
  | object (entries : List (String × Json))

namespace Json

mutual

/-- The whole value can be read. -/
def isValid : Json → Bool
  | invalid => false
  | array items => itemsAreValid items
  | object entries => entriesAreValid entries
  | _ => true

/-- No item holds a value that cannot be written. -/
def itemsAreValid : List Json → Bool
  | [] => true
  | item :: rest => item.isValid && itemsAreValid rest

/-- No entry holds a value that cannot be written. -/
def entriesAreValid : List (String × Json) → Bool
  | [] => true
  | (_, value) :: rest => value.isValid && entriesAreValid rest

end

/-- Arrays and objects are nested at most so deep, and all numbers are natural
numbers of 64 bits. -/
def Fits : Nat → Json → Prop
  | _, invalid => False
  | _, number _ => False
  | 0, array _ => False
  | 0, object _ => False
  | depth + 1, array items => ∀ item ∈ items, Fits depth item
  | depth + 1, object entries => ∀ entry ∈ entries, Fits depth entry.2
  | _, _ => True

instance decidableFits :
    (depth : Nat) → (json : Json) → Decidable (json.Fits depth)
  | depth + 1, array items =>
      have : ∀ json : Json, Decidable (json.Fits depth) := decidableFits depth
      inferInstanceAs (Decidable (∀ item ∈ items, Fits depth item))
  | depth + 1, object entries =>
      have : ∀ json : Json, Decidable (json.Fits depth) := decidableFits depth
      inferInstanceAs (Decidable (∀ entry ∈ entries, Fits depth entry.2))
  | 0, array _ => isFalse id
  | 0, object _ => isFalse id
  | 0, invalid => isFalse id
  | _ + 1, invalid => isFalse id
  | 0, number _ => isFalse id
  | _ + 1, number _ => isFalse id
  | 0, null => isTrue trivial
  | _ + 1, null => isTrue trivial
  | 0, bool _ => isTrue trivial
  | _ + 1, bool _ => isTrue trivial
  | 0, natural _ => isTrue trivial
  | _ + 1, natural _ => isTrue trivial
  | 0, string _ => isTrue trivial
  | _ + 1, string _ => isTrue trivial

theorem Fits.mono
    {small large : Nat}
    (le : small ≤ large)
    {json : Json}
    (fits : json.Fits small) :
    json.Fits large := by
  induction large generalizing small json with
  | zero =>
      obtain rfl := Nat.le_zero.mp le
      exact fits
  | succ large ih =>
      cases small with
      | zero =>
          cases json with
          | array items => exact fits.elim
          | object entries => exact fits.elim
          | number token => exact fits.elim
          | invalid => exact fits.elim
          | null => trivial
          | bool value => trivial
          | natural value => trivial
          | string text => trivial
      | succ small =>
          have smaller : small ≤ large := Nat.le_of_succ_le_succ le
          cases json with
          | array items => exact fun item member => ih smaller (fits item member)
          | object entries =>
              exact fun entry member => ih smaller (fits entry member)
          | number token => exact fits.elim
          | invalid => exact fits.elim
          | null => trivial
          | bool value => trivial
          | natural value => trivial
          | string text => trivial

end Json

/-- What a reader sees of a text: a value, and whether nothing but white space
comes behind it. -/
structure JsonDocument where
  value : Json
  ended : Bool

/-- A parser of bytes, a compact printer and a printer for readers. -/
structure JsonText where
  parse : List UInt8 → JsonDocument
  toVec : Json → List UInt8
  toStringPretty : Json → String

namespace JsonText

/-- Deeper documents are not parsed. -/
def recursionLimit : Nat :=
  127

/-- What is printed is parsed again. -/
structure Lawful (text : JsonText) : Prop where
  parse_toVec : ∀ json, json.Fits recursionLimit →
    text.parse (text.toVec json) = { value := json, ended := true }
  parse_toStringPretty : ∀ json, json.Fits recursionLimit →
    text.parse (text.toStringPretty json).toUTF8.data.toList =
      { value := json, ended := true }

end JsonText
