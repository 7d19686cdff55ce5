import PineAssist.Decimal.Shortest
import PineAssist.Json.Basic

/-!
# Writing JSON

Values are written without blanks. Only quotes, backslashes and control characters are escaped.
-/

namespace PineAssist.Json

/-- Appends a character as it stands inside a JSON string. -/
def writeChar (written : String) (char : Char) : String :=
  if char = '"' then written ++ "\\\""
  else if char = '\\' then written ++ "\\\\"
  else if char = '\n' then written ++ "\\n"
  else if char = '\r' then written ++ "\\r"
  else if char = '\t' then written ++ "\\t"
  else if char.toNat < 0x20 then
    let digits := Nat.toDigits 16 char.toNat
    written ++ "\\u" ++ "".pushn '0' (4 - digits.length) ++ String.ofList digits
  else written.push char

/-- Appends a text between quotes. -/
def writeText (written text : String) : String :=
  (text.foldl writeChar (written.push '"')).push '"'

/-- Appends the text of an integer. -/
def writeInteger (written : String) : Int → String
  | .ofNat value => written ++ value.repr
  | .negSucc value => written ++ "-" ++ (value + 1).repr

mutual

/-- Appends the text of a value. -/
def writeValue (written : String) : Json → String
  | null => written ++ "null"
  | bool true => written ++ "true"
  | bool false => written ++ "false"
  | integer value => writeInteger written value
  | float value => written ++ Decimal.ofFloat value
  | string text => writeText written text
  | array [] => written ++ "[]"
  | array (item :: items) => (writeItems (writeValue (written.push '[') item) items).push ']'
  | object [] => written ++ "\x7b\x7d"
  | object (field :: fields) =>
    (writeFields (writeField (written.push '\x7b') field) fields).push '\x7d'

/-- Appends the items of an array that follow another one. -/
def writeItems (written : String) : List Json → String
  | [] => written
  | item :: items => writeItems (writeValue (written.push ',') item) items

/-- Appends the name and the value of a field. -/
def writeField (written : String) : String × Json → String
  | (name, value) => writeValue ((writeText written name).push ':') value

/-- Appends the fields of an object that follow another one. -/
def writeFields (written : String) : List (String × Json) → String
  | [] => written
  | field :: fields => writeFields (writeField (written.push ',') field) fields

end

/-- The text of a value. -/
def write (json : Json) : String :=
  writeValue "" json

end PineAssist.Json
