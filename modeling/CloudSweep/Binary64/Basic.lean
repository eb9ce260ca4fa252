/-
Binary numbers of double precision, computed exactly. A finite number is `± mantissa · 2 ^ exponent`;
`ofRatio` rounds any quotient of naturals to the nearest such number, a tie going to the even
mantissa, and the operations are defined as the exact result rounded once.
-/
namespace CloudSweep

/-- A double-precision number. The finite ones made by `Binary64.ofRatio` have a mantissa below
`2 ^ 53`, an exponent from -1074 to 971, and the least exponent or a mantissa of full width. -/
inductive Binary64
  | nan
  | infinite (negative : Bool)
  | finite (negative : Bool) (mantissa : Nat) (exponent : Int)
  deriving DecidableEq

namespace Binary64

/-- The least exponent of a finite number. -/
def leastExponent : Int := -1074

/-- The greatest exponent of a finite number. -/
def greatestExponent : Int := 971

/-- The quotient rounded to the nearest natural, a tie going to the even neighbour. -/
def divEven (num den : Nat) : Nat :=
  let q := num / den
  let r := num % den
  if den < 2 * r ∨ (2 * r = den ∧ q % 2 = 1) then q + 1 else q

-- Powers are `Nat.pow` itself, here and elsewhere, whatever other powers are in scope.
/-- Numerator and denominator of `num / (den · 2 ^ exponent)`. -/
def scaled (num den : Nat) (exponent : Int) : Nat × Nat :=
  (num * Nat.pow 2 (-exponent).toNat, den * Nat.pow 2 exponent.toNat)

/-- The exponent at which `num / den` has a mantissa of full width, or the least one. -/
def exponentOf (num den : Nat) : Int :=
  let first := max leastExponent ((num.log2 : Int) - (den.log2 : Int) - 52)
  let (n, d) := scaled num den first
  if n < Nat.pow 2 52 * d ∧ leastExponent < first then first - 1 else first

/-- The number nearest to `num / den`, with the given sign. Quotients past the greatest finite number
give an infinity. -/
def ofRatio (negative : Bool) (num den : Nat) : Binary64 :=
  if num = 0 then .finite negative 0 leastExponent
  else
    let exponent := exponentOf num den
    let (n, d) := scaled num den exponent
    let mantissa := divEven n d
    let (mantissa, exponent) :=
      if mantissa = Nat.pow 2 53 then (Nat.pow 2 52, exponent + 1) else (mantissa, exponent)
    if greatestExponent < exponent then .infinite negative
    else .finite negative mantissa exponent

/-- The natural number as a double. -/
def ofNat (n : Nat) : Binary64 := ofRatio false n 1

/-- Neither an infinity nor `nan`. -/
def isFinite : Binary64 → Bool
  | .finite .. => true
  | _ => false

/-- Zero of either sign. -/
def isZero : Binary64 → Bool
  | .finite _ mantissa _ => mantissa == 0
  | _ => false

/-- Less than zero; zero itself is not, whatever its sign. -/
def isNegative : Binary64 → Bool
  | .finite negative mantissa _ => negative && mantissa != 0
  | .infinite negative => negative
  | .nan => false

/-- The product with a positive natural, rounded once. -/
def scale (x : Binary64) (n : Nat) : Binary64 :=
  match x with
  | .finite negative mantissa exponent =>
    ofRatio negative (mantissa * n * Nat.pow 2 exponent.toNat) (Nat.pow 2 (-exponent).toNat)
  | other => other

/-- The size of the number rounded to the nearest natural, a tie going up; `none` when it has no
finite size. -/
def roundNat? : Binary64 → Option Nat
  | .finite _ mantissa exponent =>
    let den := Nat.pow 2 (-exponent).toNat
    some ((2 * (mantissa * Nat.pow 2 exponent.toNat) + den) / (2 * den))
  | _ => none

end Binary64
end CloudSweep
