/-!
# JSON values

Editors and language servers exchange JSON. Numbers without fraction and exponent that fit into 64
bits are kept as integers and all others as double-precision floats, since a value of the wrong type
is reported together with its text.

The leading digits of a number that fit into 64 bits are taken as they are; later ones only count
towards the exponent, or not at all behind the point. The number so obtained is scaled by a power of
ten in double precision, which may round twice.
-/

namespace PineAssist

/-- A JSON value. The fields of an object have different names. -/
inductive Json where
  | null
  | bool (value : Bool)
  | integer (value : Int)
  | float (value : Float)
  | string (text : String)
  | array (items : List Json)
  | object (fields : List (String × Json))

namespace Json

/-- The value of a field of an object; other values have no fields. -/
def field? (json : Json) (name : String) : Option Json :=
  match json with
  | object fields => fields.lookup name
  | _ => none

/-- The written parts of a number. -/
structure Numeral where
  negative : Bool
  whole : List Char
  /-- Digits behind the point. -/
  fraction : Option (List Char)
  /-- Digits of the exponent, and whether it is negative. -/
  exponent : Option (Bool × List Char)

namespace Numeral

/-- The value of a digit. -/
def digitValue (digit : Char) : Nat :=
  digit.toNat - '0'.toNat

/-- Appends digits to a number as long as it fits into 64 bits, and returns the digits left over. -/
def appendFitting (number : Nat) : List Char → Nat × List Char
  | [] => (number, [])
  | digit :: rest =>
    let next := 10 * number + digitValue digit
    if next < UInt64.size then appendFitting next rest else (number, digit :: rest)

/-- Divides by a power of ten, in steps that double precision can represent. -/
def shrink (number : Float) (exponent : Nat) : Float :=
  if exponent ≤ 308 then number / Float.ofScientific 1 false exponent
  else if number == 0 then number
  else shrink (number / Float.ofScientific 1 false 308) (exponent - 308)
termination_by exponent

/-- Multiplies by a power of ten, provided that the result is finite. -/
def scale? (number : Float) (exponent : Int) : Option Float :=
  if exponent < 0 then some (shrink number (-exponent).toNat)
  else if number == 0 then some number
  else if 308 < exponent then none
  else
    let scaled := number * Float.ofScientific 1 false exponent.toNat
    if scaled.isInf then none else some scaled

/-- The exponent that is written, as a number. -/
def writtenExponent (numeral : Numeral) : Int :=
  match numeral.exponent with
  | none => 0
  | some (negative, digits) =>
    let value : Int := digits.foldl (fun value digit => 10 * value + digitValue digit) 0
    if negative then -value else value

/-- The value of a number; there is none if it is too large for double precision. -/
def value? (numeral : Numeral) : Option Json :=
  let (significand, dropped) := appendFitting 0 numeral.whole
  let negate (number : Float) : Float := if numeral.negative then -number else number
  if numeral.fraction.isNone && numeral.exponent.isNone && dropped.isEmpty then
    if !numeral.negative then some (.integer significand)
    else if 0 < significand && significand ≤ UInt64.size / 2 then some (.integer (-significand))
    else some (.float (negate significand.toUInt64.toFloat))
  else
    let fraction := numeral.fraction.getD []
    let (significand, ignored) := appendFitting significand fraction
    let exponent := numeral.writtenExponent + dropped.length - (fraction.length - ignored.length)
    (scale? significand.toUInt64.toFloat exponent).map fun number => .float (negate number)

end Numeral

end Json

end PineAssist
