/-!
# Shortest decimals

A binary floating-point number is written with the fewest decimal digits that still read back as the
same number. All numbers that round to it form an interval around it; the shortest decimal is the
first one met in that interval on finer and finer decimal grids. Of two neighbours on a grid the
nearer one is taken, and of two equally near ones the even one.
-/

namespace PineAssist.Decimal

/-- The number `digits · 10 ^ exponent`. -/
structure Scaled where
  digits : Nat
  exponent : Int
  deriving DecidableEq

/-- The numbers that round to a binary floating-point number, all over one denominator. -/
structure Interval where
  low : Nat
  value : Nat
  high : Nat
  denominator : Nat
  /-- Whether the ends round to the number too. -/
  closed : Bool
  deriving DecidableEq

namespace Interval

/-- Interval of `mantissa · 2 ^ exponent`, where the neighbour below may be half as far away. -/
def around (mantissa : Nat) (exponent : Int) (narrowBelow : Bool) : Interval :=
  let unit := Nat.pow 2 (exponent - 2).toNat
  { low := (4 * mantissa - (if narrowBelow then 1 else 2)) * unit
    value := 4 * mantissa * unit
    high := (4 * mantissa + 2) * unit
    denominator := Nat.pow 2 (2 - exponent).toNat
    closed := mantissa % 2 == 0 }

/-- Number of fractions that the encoding distinguishes. -/
def fractionSize : Nat := 0x10000000000000

/-- Interval of a finite positive number given by the bits of its double-precision encoding. -/
def ofBits (bits : UInt64) : Interval :=
  let fraction := bits.toNat % fractionSize
  let biased := bits.toNat / fractionSize % 0x800
  if biased = 0 then around fraction (-1074) false
  else around (fractionSize + fraction) ((biased : Int) - 1075) (fraction = 0 && 1 < biased)

/-- Whether `point / denominator` rounds to the number. -/
def contains (interval : Interval) (point : Nat) : Bool :=
  if interval.closed then interval.low ≤ point && point ≤ interval.high
  else interval.low < point && point < interval.high

/-- The same numbers multiplied by a power of ten. -/
def scale (interval : Interval) (exponent : Int) : Interval :=
  let up := Nat.pow 10 exponent.toNat
  { low := interval.low * up
    value := interval.value * up
    high := interval.high * up
    denominator := interval.denominator * Nat.pow 10 (-exponent).toNat
    closed := interval.closed }

/-- The nearest integer that rounds to the number; of two at the same distance the even one. -/
def nearestInteger? (interval : Interval) : Option Nat :=
  let below := interval.value / interval.denominator
  let above := below + 1
  let fitsBelow := interval.contains (below * interval.denominator)
  let fitsAbove := interval.contains (above * interval.denominator)
  let doubled := 2 * (interval.value % interval.denominator)
  let nearerAbove :=
    interval.denominator < doubled || (interval.denominator == doubled && above % 2 == 0)
  if fitsAbove && (nearerAbove || !fitsBelow) then some above
  else if fitsBelow then some below
  else none

/-- The first hit on the grids `10 ^ exponent`, `10 ^ (exponent - 1)` and so on. -/
def firstHit (interval : Interval) : (grids : Nat) → (exponent : Int) → Scaled
  | 0, exponent => ⟨0, exponent⟩
  | grids + 1, exponent =>
    match (interval.scale (-exponent)).nearestInteger? with
    | some digits => ⟨digits, exponent⟩
    | none => firstHit interval grids (exponent - 1)

end Interval

/-- The shortest decimal of a finite positive number given by its double-precision encoding. No
decimal grid coarser than `10 ^ 308` or finer than `10 ^ (-324)` is needed. -/
def shortest (bits : UInt64) : Scaled :=
  (Interval.ofBits bits).firstHit 700 309

/-- Exponent of the leading digit. -/
def Scaled.leadingExponent (number : Scaled) : Int :=
  number.exponent + number.digits.repr.length - 1

/-- The text of a decimal without exponent, with at least one digit on either side of the point. -/
def positional (number : Scaled) : String :=
  let digits := number.digits.repr
  if 0 ≤ number.exponent then digits ++ "".pushn '0' number.exponent.toNat ++ ".0"
  else
    let places := (-number.exponent).toNat
    let padded := ("".pushn '0' (places + 1 - digits.length) ++ digits).toList
    String.ofList (padded.take (padded.length - places)) ++ "." ++
      String.ofList (padded.drop (padded.length - places))

/-- The text of a decimal with the signed exponent of its leading digit, and a point only where
digits follow it. -/
def scientific (number : Scaled) : String :=
  let digits := number.digits.repr.toList
  let rest := if 1 < digits.length then '.' :: digits.drop 1 else []
  let exponent := number.leadingExponent
  String.ofList (digits.take 1 ++ rest) ++ (if 0 ≤ exponent then "e+" else "e-") ++
    exponent.natAbs.repr

/-- The text of a decimal: without exponent from `10 ^ (-5)` up to `10 ^ 16`, with one elsewhere. -/
def Scaled.text (number : Scaled) : String :=
  if -5 ≤ number.leadingExponent ∧ number.leadingExponent < 16 then positional number
  else scientific number

/-- The text of a finite double-precision number: its shortest decimal, after its sign. -/
def ofFloat (number : Float) : String :=
  let bits := number.toBits
  let magnitude := bits &&& 0x7FFFFFFFFFFFFFFF
  let sign := if magnitude = bits then "" else "-"
  if magnitude = 0 then sign ++ "0.0" else sign ++ (shortest magnitude).text

end PineAssist.Decimal
