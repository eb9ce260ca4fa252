/-
Writing a double with the fewest digits that read back to it, the nearest of those, a tie going up.
The digits are always positional: no exponent, and no point after a whole number.
-/
import CloudSweep.Binary64.Basic

namespace CloudSweep.Binary64

/-- The number of decimal digits, 1 for zero. -/
def digitCount (n : Nat) : Nat := (Nat.toDigits 10 n).length

/-- The least `p` with `num / den < 10 ^ p`, for a positive quotient. -/
def decimalPlaces (num den : Nat) : Int :=
  if den ≤ num then digitCount (num / den) else 1 - (digitCount ((den - 1) / num) : Int)

/-- The reals that round to a finite number, counted in quarters of its last binary place: the ends
are part of it exactly when the mantissa is even. -/
structure Interval where
  low : Nat
  middle : Nat
  high : Nat
  closed : Bool

/-- The rounding interval of `mantissa · 2 ^ exponent`. Below a power of two the neighbour is half as
far away. -/
def interval (mantissa : Nat) (exponent : Int) : Interval where
  low := if mantissa = Nat.pow 2 52 ∧ leastExponent < exponent then 4 * mantissa - 1 else 4 * mantissa - 2
  middle := 4 * mantissa
  high := 4 * mantissa + 2
  closed := mantissa % 2 = 0

/-- Whether `digits · unit` lies in the interval, whose ends are in units of `place`. -/
def Interval.holds (i : Interval) (digits unit place : Nat) : Bool :=
  if i.closed then i.low * place ≤ digits * unit && digits * unit ≤ i.high * place
  else i.low * place < digits * unit && digits * unit < i.high * place

/-- The better of the two neighbours of the number on the grid of the power of ten, when one of them
reads back to the number. -/
def neighbour? (i : Interval) (exponent power : Int) : Option Nat :=
  let unit := Nat.pow 10 power.toNat * Nat.pow 2 (2 - exponent).toNat
  let place := Nat.pow 10 (-power).toNat * Nat.pow 2 (exponent - 2).toNat
  let below := i.middle * place / unit
  let above := below + 1
  match i.holds below unit place, i.holds above unit place with
  | true, true =>
    if 2 * (i.middle * place) < (below + above) * unit then some below else some above
  | true, false => some below
  | false, true => some above
  | false, false => none

/-- The coarsest grid with a hit, from the given number of digits on. -/
def searchDigits (i : Interval) (exponent places : Int) : (fuel digits : Nat) → Nat × Int
  | 0, digits =>
    let power := places - digits
    ((neighbour? i exponent power).getD 0, power)
  | fuel + 1, digits =>
    let power := places - digits
    match neighbour? i exponent power with
    | some found => (found, power)
    | none => searchDigits i exponent places fuel (digits + 1)

/-- Digits and power of ten of the shortest decimal that reads back to `mantissa · 2 ^ exponent`. -/
def shortest (mantissa : Nat) (exponent : Int) : Nat × Int :=
  let places := decimalPlaces (mantissa * Nat.pow 2 exponent.toNat) (Nat.pow 2 (-exponent).toNat)
  searchDigits (interval mantissa exponent) exponent places 17 1

/-- `digits · 10 ^ power` in positional notation. -/
def positional (digits : Nat) (power : Int) : List Char :=
  let ds := Nat.toDigits 10 digits
  if 0 ≤ power then ds ++ List.replicate power.toNat '0'
  else
    let places := (-power).toNat
    let padded := List.replicate (places + 1 - ds.length) '0' ++ ds
    let whole := padded.take (padded.length - places)
    let fraction := padded.drop (padded.length - places)
    let kept := (fraction.reverse.dropWhile (· == '0')).reverse
    if kept.isEmpty then whole else whole ++ '.' :: kept

/-- The sign that stands before a number. -/
def signText (negative : Bool) : String := if negative then "-" else ""

/-- The number as text: `NaN`, `inf`, `-0`, `1.5`, `10000000`. -/
def toText : Binary64 → String
  | .nan => "NaN"
  | .infinite negative => signText negative ++ "inf"
  | .finite negative mantissa exponent =>
    if mantissa = 0 then signText negative ++ "0"
    else
      let (digits, power) := shortest mantissa exponent
      signText negative ++ String.ofList (positional digits power)

end CloudSweep.Binary64
