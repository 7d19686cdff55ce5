import PineAssist.Json.Basic

/-!
# Reading JSON

A reader takes the characters of a text and returns what it has read together with the characters
that are left. Objects and arrays nest, so values are read with a bound on the number of steps, for
which the length of the text is always enough.
-/

namespace PineAssist.Json

/-- Something read from the front of a text, with the rest of the text. -/
abbrev Reading (α : Type) := Option (α × List Char)

/-- The text behind leading white space. -/
def skipSpace (text : List Char) : List Char :=
  text.dropWhile fun char => char == ' ' || char == '\t' || char == '\n' || char == '\r'

/-- The text behind a given beginning. -/
def expect (beginning text : List Char) : Option (List Char) :=
  if beginning.isPrefixOf text then some (text.drop beginning.length) else none

/-- The value of a hexadecimal digit. -/
def hexValue? (char : Char) : Option Nat :=
  if char.isDigit then some (char.toNat - '0'.toNat)
  else if 'a' ≤ char && char ≤ 'f' then some (char.toNat - 'a'.toNat + 10)
  else if 'A' ≤ char && char ≤ 'F' then some (char.toNat - 'A'.toNat + 10)
  else none

/-- The number that hexadecimal digits denote. -/
def hexNumber? (digits : List Char) : Option Nat :=
  digits.foldlM (fun value digit => (hexValue? digit).map (16 * value + ·)) 0

/-- The character behind a backslash. -/
def escapedChar? (char : Char) : Option Char :=
  match char with
  | '"' => some '"'
  | '\\' => some '\\'
  | '/' => some '/'
  | 'b' => some '\x08'
  | 'f' => some '\x0c'
  | 'n' => some '\n'
  | 'r' => some '\r'
  | 't' => some '\t'
  | _ => none

/-- Reads the rest of a string, given the characters before it in reverse. -/
def readStringFrom (read : List Char) : List Char → Reading String
  | [] => none
  | '"' :: rest => some (String.ofList read.reverse, rest)
  | '\\' :: 'u' :: a :: b :: c :: d :: rest =>
    match hexNumber? [a, b, c, d] with
    | none => none
    | some unit =>
      if unit < 0xD800 || 0xDFFF < unit then readStringFrom (Char.ofNat unit :: read) rest
      else
        match rest with
        | '\\' :: 'u' :: a' :: b' :: c' :: d' :: rest =>
          match hexNumber? [a', b', c', d'] with
          | none => none
          | some low =>
            if unit < 0xDC00 && 0xDC00 ≤ low && low < 0xE000 then
              let point := 0x10000 + (unit - 0xD800) * 0x400 + (low - 0xDC00)
              readStringFrom (Char.ofNat point :: read) rest
            else none
        | _ => none
  | '\\' :: char :: rest =>
    match escapedChar? char with
    | none => none
    | some escaped => readStringFrom (escaped :: read) rest
  | char :: rest => if char.toNat < 0x20 then none else readStringFrom (char :: read) rest

/-- Reads one digit or more. -/
def readDigits (text : List Char) : Reading (List Char) :=
  match text.takeWhile Char.isDigit with
  | [] => none
  | digits => some (digits, text.dropWhile Char.isDigit)

/-- Reads the digits in front of the point, of which only a single one may be zero. -/
def readWhole (text : List Char) : Reading (List Char) :=
  match readDigits text with
  | some ('0' :: _ :: _, _) => none
  | reading => reading

/-- Reads the point and the digits behind it, if there are any. -/
def readFraction (text : List Char) : Reading (Option (List Char)) :=
  match text with
  | '.' :: rest => (readDigits rest).map fun (digits, rest) => (some digits, rest)
  | _ => some (none, text)

/-- Reads an exponent, if there is one. -/
def readExponent (text : List Char) : Reading (Option (Bool × List Char)) :=
  match text with
  | mark :: rest =>
    if mark == 'e' || mark == 'E' then
      match rest with
      | '-' :: rest => (readDigits rest).map fun (digits, rest) => (some (true, digits), rest)
      | '+' :: rest => (readDigits rest).map fun (digits, rest) => (some (false, digits), rest)
      | _ => (readDigits rest).map fun (digits, rest) => (some (false, digits), rest)
    else some (none, text)
  | [] => some (none, text)

/-- Reads a number. -/
def readNumber (text : List Char) : Option (Json × List Char) := do
  let (negative, text) := match text with
    | '-' :: rest => (true, rest)
    | _ => (false, text)
  let (whole, text) ← readWhole text
  let (fraction, text) ← readFraction text
  let (exponent, text) ← readExponent text
  let value ← Numeral.value? ⟨negative, whole, fraction, exponent⟩
  some (value, text)

/-- Sets a field of an object, keeping the fields in the order of their names. -/
def setField (name : String) (value : Json) : List (String × Json) → List (String × Json)
  | [] => [(name, value)]
  | (other, held) :: rest =>
    if name < other then (name, value) :: (other, held) :: rest
    else if name = other then (name, value) :: rest
    else (other, held) :: setField name value rest

mutual

/-- Reads a value. -/
def readValue : Nat → List Char → Reading Json
  | 0, _ => none
  | steps + 1, text =>
    match skipSpace text with
    | [] => none
    | '"' :: rest => (readStringFrom [] rest).map fun (text, rest) => (.string text, rest)
    | '[' :: rest =>
      match skipSpace rest with
      | ']' :: rest => some (.array [], rest)
      | rest => readItems steps [] rest
    | '\x7b' :: rest =>
      match skipSpace rest with
      | '\x7d' :: rest => some (.object [], rest)
      | rest => readFields steps [] rest
    | char :: rest =>
      if char == 'n' then (expect ['u', 'l', 'l'] rest).map (.null, ·)
      else if char == 't' then (expect ['r', 'u', 'e'] rest).map (.bool true, ·)
      else if char == 'f' then (expect ['a', 'l', 's', 'e'] rest).map (.bool false, ·)
      else readNumber (char :: rest)

/-- Reads the items of an array behind those given in reverse. -/
def readItems : Nat → List Json → List Char → Reading Json
  | 0, _, _ => none
  | steps + 1, items, text =>
    match readValue steps text with
    | none => none
    | some (item, rest) =>
      match skipSpace rest with
      | ',' :: rest => readItems steps (item :: items) rest
      | ']' :: rest => some (.array (item :: items).reverse, rest)
      | _ => none

/-- Reads the fields of an object in addition to those given; a later field replaces an earlier one
of the same name. -/
def readFields : Nat → List (String × Json) → List Char → Reading Json
  | 0, _, _ => none
  | steps + 1, fields, text =>
    match skipSpace text with
    | '"' :: rest =>
      match readStringFrom [] rest with
      | none => none
      | some (name, rest) =>
        match skipSpace rest with
        | ':' :: rest =>
          match readValue steps rest with
          | none => none
          | some (value, rest) =>
            match skipSpace rest with
            | ',' :: rest => readFields steps (setField name value fields) rest
            | '\x7d' :: rest => some (.object (setField name value fields), rest)
            | _ => none
        | _ => none
    | _ => none

end

/-- The value that a text denotes. -/
def read? (text : String) : Option Json :=
  let chars := text.toList
  match readValue (chars.length + 1) chars with
  | some (value, rest) => if (skipSpace rest).isEmpty then some value else none
  | none => none

end PineAssist.Json
