import MinaMultiSig.Library.Json
import Mathlib.Algebra.Group.Nat.Defs
import Mathlib.Data.List.TakeWhile

/-!
# The syntax of JSON

Printers and a parser of JSON texts. The compact text and the text for readers
differ in white space only, so that they are one printer with two layouts, and
the parser inverts the printer for every layout.
-/

namespace JsonSyntax

/-- The characters of white space. -/
def isBlank (char : Char) : Bool :=
  char = ' ' || char = '\n' || char = '\r' || char = '\t'

/-- The white space of a text: in front of an item and of a closing bracket at a
depth, and behind a colon. -/
structure Layout where
  newline : Nat → List Char
  colon : List Char
  newline_blank : ∀ depth, (newline depth).all isBlank
  colon_blank : colon.all isBlank

namespace Layout

/-- No white space at all. -/
def compact : Layout :=
  { newline := fun _ => []
    colon := []
    newline_blank := fun _ => rfl
    colon_blank := rfl }

/-- A line for each item, with two spaces for each depth. -/
def pretty : Layout :=
  { newline := fun depth => '\n' :: List.replicate (2 * depth) ' '
    colon := [' ']
    newline_blank := by
      intro depth
      simp [isBlank]
    colon_blank := rfl }

end Layout

section Printing

/-- The character of a hexadecimal digit. -/
def hexDigit (digit : Nat) : Char :=
  Nat.digitChar digit

/-- A character inside of a string. -/
def escapeChar (char : Char) : List Char :=
  if char = '"' then ['\\', '"']
  else if char = '\\' then ['\\', '\\']
  else if char = '\x08' then ['\\', 'b']
  else if char = '\t' then ['\\', 't']
  else if char = '\n' then ['\\', 'n']
  else if char = '\x0c' then ['\\', 'f']
  else if char = '\r' then ['\\', 'r']
  else if char.toNat < 32 then
    ['\\', 'u', '0', '0', hexDigit (char.toNat / 16), hexDigit (char.toNat % 16)]
  else [char]

/-- A string in quotation marks. -/
def printString (text : String) : List Char :=
  '"' :: (text.toList.flatMap escapeChar ++ ['"'])

variable (layout : Layout)

mutual

/-- The text of a value at a depth. -/
def print (depth : Nat) : Json → List Char
  | .invalid => []
  | .null => ['n', 'u', 'l', 'l']
  | .bool true => ['t', 'r', 'u', 'e']
  | .bool false => ['f', 'a', 'l', 's', 'e']
  | .natural value => Nat.toDigits 10 value.toNat
  | .number token => token.toList
  | .string text => printString text
  | .array [] => ['[', ']']
  | .array (item :: rest) =>
      '[' :: (layout.newline (depth + 1) ++ print (depth + 1) item ++
        printItems depth rest)
  | .object [] => ['{', '}']
  | .object (entry :: rest) =>
      '{' :: (layout.newline (depth + 1) ++ printEntry (depth + 1) entry ++
        printEntries depth rest)

/-- The items behind the first one, and the bracket. -/
def printItems (depth : Nat) : List Json → List Char
  | [] => layout.newline depth ++ [']']
  | item :: rest =>
      ',' :: (layout.newline (depth + 1) ++ print (depth + 1) item ++
        printItems depth rest)

/-- A name, a colon and the value. -/
def printEntry (depth : Nat) : String × Json → List Char
  | (name, value) =>
      printString name ++ ':' :: (layout.colon ++ print depth value)

/-- The entries behind the first one, and the bracket. -/
def printEntries (depth : Nat) : List (String × Json) → List Char
  | [] => layout.newline depth ++ ['}']
  | entry :: rest =>
      ',' :: (layout.newline (depth + 1) ++ printEntry (depth + 1) entry ++
        printEntries depth rest)

end

theorem exists_printEntries
    (depth : Nat)
    (entries : List (String × Json)) :
    ∃ inner, printEntries layout depth entries = inner ++ ['}'] := by
  induction entries with
  | nil => exact ⟨layout.newline depth, by rw [printEntries]⟩
  | cons entry rest ih =>
      obtain ⟨inner, printed⟩ := ih
      rw [printEntries, printed, ← List.append_assoc, ← List.cons_append]
      exact ⟨_, rfl⟩

theorem exists_print_object
    (depth : Nat)
    (entries : List (String × Json)) :
    ∃ inner, print layout depth (.object entries) =
      '{' :: (inner ++ ['}']) := by
  cases entries with
  | nil => exact ⟨[], by rw [print, List.nil_append]⟩
  | cons entry rest =>
      obtain ⟨inner, printed⟩ := exists_printEntries layout depth rest
      rw [print, printed, ← List.append_assoc]
      exact ⟨_, rfl⟩

end Printing

section Parsing

/-- The text behind white space. -/
def skipBlank (text : List Char) : List Char :=
  text.dropWhile isBlank

/-- The value of a hexadecimal digit, in either case. -/
def hexValue (char : Char) : Option Nat :=
  if '0' ≤ char ∧ char ≤ '9' then some (char.toNat - '0'.toNat)
  else if 'a' ≤ char ∧ char ≤ 'f' then some (char.toNat - 'a'.toNat + 10)
  else if 'A' ≤ char ∧ char ≤ 'F' then some (char.toNat - 'A'.toNat + 10)
  else none

/-- A string up to its quotation mark. An escaped number has to be a character;
pairs of surrogates are not read. -/
def parseString : List Char → Option (List Char × List Char)
  | [] => none
  | '"' :: rest => some ([], rest)
  | '\\' :: 'u' :: a :: b :: c :: d :: rest => do
      let code := (← hexValue a) * 4096 + (← hexValue b) * 256 +
        (← hexValue c) * 16 + (← hexValue d)
      if code.isValidChar then
        (parseString rest).map fun (text, rest) => (Char.ofNat code :: text, rest)
      else none
  | '\\' :: escaped :: rest => do
      let char ←
        match escaped with
        | '"' => some '"'
        | '\\' => some '\\'
        | '/' => some '/'
        | 'b' => some '\x08'
        | 't' => some '\t'
        | 'n' => some '\n'
        | 'f' => some '\x0c'
        | 'r' => some '\r'
        | _ => none
      (parseString rest).map fun (text, rest) => (char :: text, rest)
  | char :: rest =>
      if char.toNat < 32 then none
      else (parseString rest).map fun (text, rest) => (char :: text, rest)

/-- The characters a number is written with. -/
def isNumberChar (char : Char) : Bool :=
  char.isDigit || char = '+' || char = '-' || char = '.' || char = 'e' ||
    char = 'E'

/-- A number that is no natural number of 64 bits stays a token. -/
def parseNumber (text : List Char) : Option (Json × List Char) :=
  let token := text.takeWhile isNumberChar
  let rest := text.dropWhile isNumberChar
  let value := Nat.ofDigitChars 10 token 0
  if token = [] then none
  else if token.all Char.isDigit ∧ (token.head? = some '0' → token = ['0']) ∧
      value < 2 ^ 64 then
    some (.natural (UInt64.ofNat value), rest)
  else some (.number (String.ofList token), rest)

mutual

/-- A value and the text behind it. -/
def parseValue : Nat → List Char → Option (Json × List Char)
  | 0, _ => none
  | fuel + 1, text =>
      match skipBlank text with
      | 'n' :: 'u' :: 'l' :: 'l' :: rest => some (.null, rest)
      | 't' :: 'r' :: 'u' :: 'e' :: rest => some (.bool true, rest)
      | 'f' :: 'a' :: 'l' :: 's' :: 'e' :: rest => some (.bool false, rest)
      | '"' :: rest =>
          (parseString rest).map fun (text, rest) =>
            (.string (String.ofList text), rest)
      | '[' :: rest =>
          match skipBlank rest with
          | ']' :: rest => some (.array [], rest)
          | rest => do
              let (item, rest) ← parseValue fuel rest
              let (items, rest) ← parseItems fuel rest
              return (.array (item :: items), rest)
      | '{' :: rest =>
          match skipBlank rest with
          | '}' :: rest => some (.object [], rest)
          | rest => do
              let (entry, rest) ← parseEntry fuel rest
              let (entries, rest) ← parseEntries fuel rest
              return (.object (entry :: entries), rest)
      | text => parseNumber text

/-- The items behind the first one, up to the bracket. -/
def parseItems : Nat → List Char → Option (List Json × List Char)
  | 0, _ => none
  | fuel + 1, text =>
      match skipBlank text with
      | ']' :: rest => some ([], rest)
      | ',' :: rest => do
          let (item, rest) ← parseValue fuel rest
          let (items, rest) ← parseItems fuel rest
          return (item :: items, rest)
      | _ => none

/-- A name with its value and the text behind them. -/
def parseEntry : Nat → List Char → Option ((String × Json) × List Char)
  | 0, _ => none
  | fuel + 1, text =>
      match skipBlank text with
      | '"' :: rest => do
          let (name, rest) ← parseString rest
          match skipBlank rest with
          | ':' :: rest => do
              let (value, rest) ← parseValue fuel rest
              return ((String.ofList name, value), rest)
          | _ => none
      | _ => none

/-- The entries behind the first one, up to the bracket. -/
def parseEntries : Nat → List Char → Option (List (String × Json) × List Char)
  | 0, _ => none
  | fuel + 1, text =>
      match skipBlank text with
      | '}' :: rest => some ([], rest)
      | ',' :: rest => do
          let (entry, rest) ← parseEntry fuel rest
          let (entries, rest) ← parseEntries fuel rest
          return (entry :: entries, rest)
      | _ => none

end

/-- A value with white space around it. Each step of the parser takes a
character. -/
def parse (text : List Char) : Option Json := do
  let (json, rest) ← parseValue (text.length + 1) text
  if skipBlank rest = [] then some json else none

end Parsing

section Inversion

theorem skipBlank_append
    {blanks : List Char}
    (blank : blanks.all isBlank)
    (text : List Char) :
    skipBlank (blanks ++ text) = skipBlank text := by
  rw [skipBlank, List.dropWhile_append_of_pos (List.all_eq_true.mp blank)]
  rfl

theorem skipBlank_cons
    {char : Char}
    (visible : isBlank char = false)
    (rest : List Char) :
    skipBlank (char :: rest) = char :: rest := by
  rw [skipBlank, List.dropWhile_cons, visible]
  rfl

theorem hexValue_hexDigit : ∀ digit < 16, hexValue (hexDigit digit) = some digit := by
  decide

/-- An escaped character is read as the character. -/
theorem parseString_escapeChar
    (char : Char)
    (rest : List Char) :
    parseString (escapeChar char ++ rest) =
      (parseString rest).map fun (text, rest) => (char :: text, rest) := by
  unfold escapeChar
  split
  next quote => subst quote; simp [parseString]
  split
  next backslash => subst backslash; simp [parseString]
  split
  next backspace => subst backspace; simp [parseString]
  split
  next tab => subst tab; simp [parseString]
  split
  next newline => subst newline; simp [parseString]
  split
  next formFeed => subst formFeed; simp [parseString]
  split
  next carriageReturn => subst carriageReturn; simp [parseString]
  split
  next control =>
    have high := hexValue_hexDigit (char.toNat / 16) (by omega)
    have low := hexValue_hexDigit (char.toNat % 16) (by omega)
    have zero : hexValue '0' = some 0 := by decide
    have code : 0 * 4096 + 0 * 256 + char.toNat / 16 * 16 + char.toNat % 16 =
        char.toNat := by omega
    simp only [List.cons_append, List.nil_append, parseString, zero, high, low,
      Option.bind_some, Option.bind_eq_bind, code]
    have isChar : char.toNat.isValidChar := char.valid
    rw [if_pos isChar, Char.ofNat_toNat]
  next notQuote notBackslash _ _ _ _ _ visible =>
    rw [List.cons_append, List.nil_append, parseString, if_neg visible]
    · exact notQuote
    · exact fun _ _ _ _ _ isBackslash _ => notBackslash isBackslash
    · exact fun _ _ isBackslash _ => notBackslash isBackslash

theorem parseString_flatMap_escapeChar
    (text rest : List Char) :
    parseString (text.flatMap escapeChar ++ '"' :: rest) = some (text, rest) := by
  induction text with
  | nil => rw [List.flatMap_nil, List.nil_append, parseString]
  | cons char text ih =>
      rw [List.flatMap_cons, List.append_assoc, parseString_escapeChar, ih]
      rfl

/-- The text does not go on with a number. -/
def EndsNumber (text : List Char) : Prop :=
  ∀ char ∈ text.head?, isNumberChar char = false

theorem isNumberChar_of_mem_toDigits
    {number : Nat}
    {char : Char}
    (member : char ∈ Nat.toDigits 10 number) :
    isNumberChar char = true := by
  have digit := Nat.isDigit_of_mem_toDigits (by decide) (by decide) member
  simp [isNumberChar, digit]

/-- Only the digits of zero begin with a zero. -/
theorem toDigits_eq_of_head?
    {number : Nat}
    (zero : (Nat.toDigits 10 number).head? = some '0') :
    Nat.toDigits 10 number = ['0'] := by
  suffices isZero : number = 0 by rw [isZero, Nat.toDigits_zero]
  induction number using Nat.strong_induction_on with
  | _ number ih =>
      by_cases small : number < 10
      · rw [Nat.toDigits_of_lt_base small] at zero
        have digitZero : number.digitChar = '0' := Option.some.inj zero
        have value := congrArg (fun char => char.toNat - 48) digitZero
        rw [Nat.toNat_digitChar_sub_48_of_lt_ten small] at value
        exact value
      · rw [Nat.toDigits_of_base_le (by decide) (by omega),
          List.head?_append_of_ne_nil _ Nat.toDigits_ne_nil] at zero
        have quotient := ih (number / 10) (by omega) zero
        omega

theorem parseNumber_toDigits
    (value : UInt64)
    {rest : List Char}
    (ends : EndsNumber rest) :
    parseNumber (Nat.toDigits 10 value.toNat ++ rest) =
      some (.natural value, rest) := by
  have takeRest : rest.takeWhile isNumberChar = [] := by
    cases rest with
    | nil => rfl
    | cons char rest =>
        rw [List.takeWhile_cons, ends char rfl]
        rfl
  have dropRest : rest.dropWhile isNumberChar = rest := by
    cases rest with
    | nil => rfl
    | cons char rest =>
        rw [List.dropWhile_cons, ends char rfl]
        rfl
  have token : (Nat.toDigits 10 value.toNat ++ rest).takeWhile isNumberChar =
      Nat.toDigits 10 value.toNat := by
    rw [List.takeWhile_append_of_pos fun _ => isNumberChar_of_mem_toDigits,
      takeRest, List.append_nil]
  have tail : (Nat.toDigits 10 value.toNat ++ rest).dropWhile isNumberChar =
      rest := by
    rw [List.dropWhile_append_of_pos fun _ => isNumberChar_of_mem_toDigits,
      dropRest]
  have digits : (Nat.toDigits 10 value.toNat).all Char.isDigit :=
    List.all_eq_true.mpr fun _ member =>
      Nat.isDigit_of_mem_toDigits (by decide) (by decide) member
  simp only [parseNumber, token, tail, Nat.ofDigitChars_ten_toDigits]
  rw [if_neg Nat.toDigits_ne_nil,
    if_pos ⟨digits, toDigits_eq_of_head?, value.toNat_lt⟩, UInt64.ofNat_toNat]

theorem exists_cons_toDigits (number : Nat) :
    ∃ first rest, Nat.toDigits 10 number = first :: rest ∧
      first.isDigit = true := by
  obtain ⟨first, rest, digits⟩ :=
    List.exists_cons_of_ne_nil (Nat.toDigits_ne_nil (n := number) (b := 10))
  refine ⟨first, rest, digits, ?_⟩
  apply Nat.isDigit_of_mem_toDigits (b := 10) (n := number) (by decide)
    (by decide)
  rw [digits]
  exact List.mem_cons_self

/-- A number is parsed by its digits. -/
theorem parseValue_toDigits
    (fuel : Nat)
    (value : UInt64)
    {rest : List Char}
    (ends : EndsNumber rest) :
    parseValue (fuel + 1) (Nat.toDigits 10 value.toNat ++ rest) =
      some (.natural value, rest) := by
  obtain ⟨first, digits, digitsEq, isDigit⟩ :=
    exists_cons_toDigits value.toNat
  have other : ∀ char, char.isDigit = false → first ≠ char := by
    rintro char noDigit rfl
    rw [noDigit] at isDigit
    exact absurd isDigit (by decide)
  have visible : isBlank first = false := by
    simp [isBlank, other]
  rw [← parseNumber_toDigits value ends, digitsEq, List.cons_append,
    parseValue.eq_def]
  simp only [skipBlank_cons visible]
  split
  case h_7 => rfl
  all_goals
    rename_i same
    exact absurd (List.cons.inj same).1 (other _ (by decide))

/-- A character that begins a value or an entry. -/
structure Opens (char : Char) : Prop where
  visible : isBlank char = false
  notBracket : char ≠ ']'
  notBrace : char ≠ '}'

theorem Opens.of_isDigit
    {char : Char}
    (digit : char.isDigit = true) :
    Opens char := by
  have other : ∀ other, other.isDigit = false → char ≠ other := by
    rintro other noDigit rfl
    rw [noDigit] at digit
    exact absurd digit (by decide)
  refine ⟨?_, other _ (by decide), other _ (by decide)⟩
  simp [isBlank, other]

theorem exists_cons_print
    (layout : Layout)
    (depth : Nat)
    {limit : Nat}
    {json : Json}
    (fits : json.Fits limit) :
    ∃ first rest, print layout depth json = first :: rest ∧ Opens first := by
  cases json with
  | null => exact ⟨_, _, by rw [print], by constructor <;> decide⟩
  | bool value =>
      cases value with
      | true => exact ⟨_, _, by rw [print], by constructor <;> decide⟩
      | false => exact ⟨_, _, by rw [print], by constructor <;> decide⟩
  | natural value =>
      obtain ⟨first, rest, digits, digit⟩ := exists_cons_toDigits value.toNat
      exact ⟨first, rest, by rw [print, digits], Opens.of_isDigit digit⟩
  | number token => cases limit <;> exact fits.elim
  | invalid => cases limit <;> exact fits.elim
  | string text =>
      exact ⟨_, _, by rw [print, printString], by constructor <;> decide⟩
  | array items =>
      cases items with
      | nil => exact ⟨_, _, by rw [print], by constructor <;> decide⟩
      | cons item items =>
          exact ⟨_, _, by rw [print], by constructor <;> decide⟩
  | object entries =>
      cases entries with
      | nil => exact ⟨_, _, by rw [print], by constructor <;> decide⟩
      | cons entry entries =>
          exact ⟨_, _, by rw [print], by constructor <;> decide⟩

/-- White space in front of a value is passed over. -/
theorem parseValue_append
    {blanks : List Char}
    (blank : blanks.all isBlank)
    (fuel : Nat)
    (text : List Char) :
    parseValue fuel (blanks ++ text) = parseValue fuel text := by
  cases fuel with
  | zero => rw [parseValue, parseValue]
  | succ fuel =>
      rw [parseValue.eq_def, parseValue.eq_def]
      simp only [skipBlank_append blank]

theorem parseItems_append
    {blanks : List Char}
    (blank : blanks.all isBlank)
    (fuel : Nat)
    (text : List Char) :
    parseItems fuel (blanks ++ text) = parseItems fuel text := by
  cases fuel with
  | zero => rw [parseItems, parseItems]
  | succ fuel =>
      rw [parseItems.eq_def, parseItems.eq_def]
      simp only [skipBlank_append blank]

theorem parseEntry_append
    {blanks : List Char}
    (blank : blanks.all isBlank)
    (fuel : Nat)
    (text : List Char) :
    parseEntry fuel (blanks ++ text) = parseEntry fuel text := by
  cases fuel with
  | zero => rw [parseEntry, parseEntry]
  | succ fuel =>
      rw [parseEntry.eq_def, parseEntry.eq_def]
      simp only [skipBlank_append blank]

theorem parseEntries_append
    {blanks : List Char}
    (blank : blanks.all isBlank)
    (fuel : Nat)
    (text : List Char) :
    parseEntries fuel (blanks ++ text) = parseEntries fuel text := by
  cases fuel with
  | zero => rw [parseEntries, parseEntries]
  | succ fuel =>
      rw [parseEntries.eq_def, parseEntries.eq_def]
      simp only [skipBlank_append blank]


theorem EndsNumber.cons
    {char : Char}
    (other : isNumberChar char = false)
    (rest : List Char) :
    EndsNumber (char :: rest) := by
  intro first isFirst
  rw [← Option.some.inj isFirst]
  exact other

theorem EndsNumber.append
    {blanks rest : List Char}
    (blank : blanks.all isBlank)
    (ends : EndsNumber rest) :
    EndsNumber (blanks ++ rest) := by
  cases blanks with
  | nil => exact ends
  | cons char blanks =>
      have isBlankChar : isBlank char = true :=
        List.all_eq_true.mp blank char List.mem_cons_self
      apply EndsNumber.cons
      simp only [isBlank, Bool.or_eq_true, decide_eq_true_eq] at isBlankChar
      obtain ((rfl | rfl) | rfl) | rfl := isBlankChar
      all_goals decide

/-- The parser reads what the printer prints for a value. -/
def Inverts (layout : Layout) (json : Json) : Prop :=
  ∀ depth fuel rest, EndsNumber rest →
    (print layout depth json).length ≤ fuel →
      parseValue fuel (print layout depth json ++ rest) = some (json, rest)

variable {layout : Layout}

theorem endsNumber_printItems
    (depth : Nat)
    (items : List Json)
    (rest : List Char) :
    EndsNumber (printItems layout depth items ++ rest) := by
  cases items with
  | nil =>
      rw [printItems, List.append_assoc]
      exact EndsNumber.append (layout.newline_blank depth)
        (EndsNumber.cons (by decide) _)
  | cons item items =>
      rw [printItems]
      exact EndsNumber.cons (by decide) _

theorem parseItems_printItems
    {items : List Json}
    (inverts : ∀ item ∈ items, Inverts layout item)
    (depth fuel : Nat)
    (rest : List Char)
    (enough : (printItems layout depth items).length ≤ fuel) :
    parseItems fuel (printItems layout depth items ++ rest) =
      some (items, rest) := by
  induction items generalizing fuel with
  | nil =>
      rw [printItems, List.length_append] at enough
      cases fuel with
      | zero => simp at enough
      | succ fuel =>
          rw [printItems, List.append_assoc,
            parseItems_append (layout.newline_blank depth), parseItems,
            List.singleton_append, skipBlank_cons (by decide)]
          rfl
  | cons item items ih =>
      simp only [printItems, List.length_cons, List.length_append] at enough
      cases fuel with
      | zero => simp at enough
      | succ fuel =>
          have itemParsed := inverts item List.mem_cons_self (depth + 1) fuel
            (printItems layout depth items ++ rest)
            (endsNumber_printItems depth items rest) (by omega)
          have itemsParsed := ih
            (fun other member => inverts other (List.mem_cons_of_mem _ member))
            fuel (by omega)
          rw [printItems, List.cons_append, parseItems,
            skipBlank_cons (by decide), List.append_assoc, List.append_assoc]
          simp only
          rw [parseValue_append (layout.newline_blank _), itemParsed]
          simp only [Option.bind_eq_bind, Option.bind_some, itemsParsed,
            Option.pure_def]

theorem parseEntry_printEntry
    {entry : String × Json}
    (inverts : Inverts layout entry.2)
    (depth fuel : Nat)
    (rest : List Char)
    (ends : EndsNumber rest)
    (enough : (printEntry layout depth entry).length ≤ fuel) :
    parseEntry fuel (printEntry layout depth entry ++ rest) =
      some (entry, rest) := by
  obtain ⟨name, value⟩ := entry
  have valueInverts : Inverts layout value := inverts
  simp only [printEntry, printString, List.length_cons, List.length_append]
    at enough
  cases fuel with
  | zero => simp at enough
  | succ fuel =>
      have valueParsed := valueInverts depth fuel rest ends (by omega)
      rw [printEntry, printString, parseEntry, List.cons_append,
        List.cons_append, skipBlank_cons (by decide)]
      simp only [List.append_assoc, List.cons_append, List.nil_append,
        parseString_flatMap_escapeChar, Option.bind_eq_bind, Option.bind_some]
      rw [skipBlank_cons (by decide)]
      simp only
      rw [parseValue_append layout.colon_blank, valueParsed]
      simp only [Option.bind_some, Option.pure_def, String.ofList_toList]

theorem endsNumber_printEntries
    (depth : Nat)
    (entries : List (String × Json))
    (rest : List Char) :
    EndsNumber (printEntries layout depth entries ++ rest) := by
  cases entries with
  | nil =>
      rw [printEntries, List.append_assoc]
      exact EndsNumber.append (layout.newline_blank depth)
        (EndsNumber.cons (by decide) _)
  | cons entry entries =>
      rw [printEntries]
      exact EndsNumber.cons (by decide) _

theorem parseEntries_printEntries
    {entries : List (String × Json)}
    (inverts : ∀ entry ∈ entries, Inverts layout entry.2)
    (depth fuel : Nat)
    (rest : List Char)
    (enough : (printEntries layout depth entries).length ≤ fuel) :
    parseEntries fuel (printEntries layout depth entries ++ rest) =
      some (entries, rest) := by
  induction entries generalizing fuel with
  | nil =>
      rw [printEntries, List.length_append] at enough
      cases fuel with
      | zero => simp at enough
      | succ fuel =>
          rw [printEntries, List.append_assoc,
            parseEntries_append (layout.newline_blank depth), parseEntries,
            List.singleton_append, skipBlank_cons (by decide)]
          rfl
  | cons entry entries ih =>
      simp only [printEntries, List.length_cons, List.length_append] at enough
      cases fuel with
      | zero => simp at enough
      | succ fuel =>
          have entryParsed := parseEntry_printEntry
            (inverts entry List.mem_cons_self) (depth + 1) fuel
            (printEntries layout depth entries ++ rest)
            (endsNumber_printEntries depth entries rest) (by omega)
          have entriesParsed := ih
            (fun other member => inverts other (List.mem_cons_of_mem _ member))
            fuel (by omega)
          rw [printEntries, List.cons_append, parseEntries,
            skipBlank_cons (by decide), List.append_assoc, List.append_assoc]
          simp only
          rw [parseEntry_append (layout.newline_blank _), entryParsed]
          simp only [Option.bind_eq_bind, Option.bind_some, entriesParsed,
            Option.pure_def]

/-- A text that has to be read with fuel for its length is not empty. -/
theorem exists_succ_of_length_le
    {json : Json}
    {limit depth fuel : Nat}
    (fits : json.Fits limit)
    (enough : (print layout depth json).length ≤ fuel) :
    ∃ less, fuel = less + 1 := by
  obtain ⟨first, rest, text, -⟩ := exists_cons_print layout depth fits
  rw [text, List.length_cons] at enough
  exact ⟨fuel - 1, by omega⟩

theorem inverts_array
    {items : List Json}
    {limit : Nat}
    (fits : ∀ item ∈ items, item.Fits limit)
    (inverts : ∀ item ∈ items, Inverts layout item) :
    Inverts layout (.array items) := by
  intro depth fuel rest _ends enough
  have arrayFits : (Json.array items).Fits (limit + 1) := fits
  obtain ⟨fuel, rfl⟩ := exists_succ_of_length_le arrayFits enough
  cases items with
  | nil =>
      rw [print, List.cons_append, parseValue.eq_def]
      rfl
  | cons item items =>
      obtain ⟨first, text, printed, opens⟩ := exists_cons_print layout
        (depth + 1) (fits item List.mem_cons_self)
      simp only [print, List.length_cons, List.length_append] at enough
      have itemParsed := inverts item List.mem_cons_self (depth + 1) fuel
        (printItems layout depth items ++ rest)
        (endsNumber_printItems depth items rest) (by omega)
      have itemsParsed := parseItems_printItems
        (fun other member => inverts other (List.mem_cons_of_mem _ member))
        depth fuel rest (by omega)
      have begins : skipBlank (layout.newline (depth + 1) ++
          print layout (depth + 1) item ++ printItems layout depth items ++
            rest) = first :: (text ++ (printItems layout depth items ++ rest)) := by
        rw [List.append_assoc, List.append_assoc,
          skipBlank_append (layout.newline_blank _), printed, List.cons_append,
          skipBlank_cons opens.visible]
      have opening : ∀ text, skipBlank ('[' :: text) = '[' :: text :=
        skipBlank_cons (by decide)
      rw [printed, List.cons_append] at itemParsed
      rw [print, List.cons_append, parseValue.eq_def]
      simp only [opening, begins]
      split
      next bracket => exact absurd (List.cons.inj bracket).1 opens.notBracket
      next =>
        simp only [itemParsed, itemsParsed, Option.bind_eq_bind, Option.bind_some,
          Option.pure_def]

theorem inverts_object
    {entries : List (String × Json)}
    {limit : Nat}
    (fits : ∀ entry ∈ entries, entry.2.Fits limit)
    (inverts : ∀ entry ∈ entries, Inverts layout entry.2) :
    Inverts layout (.object entries) := by
  intro depth fuel rest _ends enough
  have objectFits : (Json.object entries).Fits (limit + 1) := fits
  obtain ⟨fuel, rfl⟩ := exists_succ_of_length_le objectFits enough
  cases entries with
  | nil =>
      rw [print, List.cons_append, parseValue.eq_def]
      rfl
  | cons entry entries =>
      simp only [print, List.length_cons, List.length_append] at enough
      have entryParsed := parseEntry_printEntry
        (inverts entry List.mem_cons_self) (depth + 1) fuel
        (printEntries layout depth entries ++ rest)
        (endsNumber_printEntries depth entries rest) (by omega)
      have entriesParsed := parseEntries_printEntries
        (fun other member => inverts other (List.mem_cons_of_mem _ member))
        depth fuel rest (by omega)
      obtain ⟨text, printed⟩ : ∃ text,
          printEntry layout (depth + 1) entry = '"' :: text :=
        ⟨_, by rw [printEntry, printString, List.cons_append]⟩
      have begins : skipBlank (layout.newline (depth + 1) ++
          printEntry layout (depth + 1) entry ++
            printEntries layout depth entries ++ rest) =
          '"' :: (text ++ (printEntries layout depth entries ++ rest)) := by
        rw [List.append_assoc, List.append_assoc,
          skipBlank_append (layout.newline_blank _), printed, List.cons_append,
          skipBlank_cons (by decide)]
      have opening : ∀ text, skipBlank ('{' :: text) = '{' :: text :=
        skipBlank_cons (by decide)
      rw [printed, List.cons_append] at entryParsed
      rw [print, List.cons_append, parseValue.eq_def]
      simp only [opening, begins]
      split
      next brace => exact absurd (List.cons.inj brace).1 (by decide)
      next =>
        simp only [entryParsed, entriesParsed, Option.bind_eq_bind,
          Option.bind_some, Option.pure_def]

/-- A value without parts is parsed in one step. -/
theorem inverts_atom
    {json : Json}
    (fits : json.Fits 0) :
    Inverts layout json := by
  intro depth fuel rest ends enough
  obtain ⟨fuel, rfl⟩ := exists_succ_of_length_le fits enough
  cases json with
  | null =>
      rw [print, parseValue.eq_def]
      rfl
  | bool value =>
      cases value with
      | true =>
          rw [print, parseValue.eq_def]
          rfl
      | false =>
          rw [print, parseValue.eq_def]
          rfl
  | natural value =>
      rw [print]
      exact parseValue_toDigits fuel value ends
  | string text =>
      have opening : ∀ text, skipBlank ('"' :: text) = '"' :: text :=
        skipBlank_cons (by decide)
      rw [print, printString, List.cons_append, List.append_assoc,
        List.singleton_append, parseValue.eq_def]
      simp only [opening, parseString_flatMap_escapeChar, Option.map_some,
        String.ofList_toList]
  | number token => exact fits.elim
  | invalid => exact fits.elim
  | array items => exact fits.elim
  | object entries => exact fits.elim

/-- The parser reads every value that the printer prints. -/
theorem inverts_of_fits
    {limit : Nat}
    {json : Json}
    (fits : json.Fits limit) :
    Inverts layout json := by
  induction limit generalizing json with
  | zero => exact inverts_atom fits
  | succ limit ih =>
      cases json with
      | array items =>
          exact inverts_array fits fun item member => ih (fits item member)
      | object entries =>
          exact inverts_object fits fun entry member => ih (fits entry member)
      | number token => exact fits.elim
      | invalid => exact fits.elim
      | null => exact inverts_atom trivial
      | bool value => exact inverts_atom trivial
      | natural value => exact inverts_atom trivial
      | string text => exact inverts_atom trivial

/-- The text of a value is the text of no other value. -/
theorem parse_print
    (layout : Layout)
    {limit : Nat}
    {json : Json}
    (fits : json.Fits limit) :
    parse (print layout 0 json) = some json := by
  have inverts : Inverts layout json := inverts_of_fits fits
  have parsed := inverts 0 ((print layout 0 json).length + 1) []
    (fun _ isHead => absurd isHead (by simp)) (Nat.le_succ _)
  rw [List.append_nil] at parsed
  rw [parse, parsed]
  rfl

end Inversion

end JsonSyntax
