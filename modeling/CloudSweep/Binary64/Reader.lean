/-
Reading decimal text as a double: an optional sign, then `inf`, `infinity` or `nan` in any letter
case, or digits with at most one point and an optional exponent. At least one digit stands before or
after the point, and nothing may surround the number.
-/
import CloudSweep.Binary64.Basic
import CloudSweep.Text.Digits

namespace CloudSweep.Binary64

/-- The size of an exponent. Digits that follow a value of 65536 or more are passed over, since the
number is far out of range by then. -/
def exponentValue (ds : List Char) : Nat :=
  ds.foldl (fun n d => if n < 65536 then 10 * n + Text.digitValue d else n) 0

/-- The double nearest to `± digits · 10 ^ power`. Numbers of more than 310 digits before the point
are infinite, and those below `10 ^ -330` are zero, without forming the power. -/
def ofDecimal (negative : Bool) (digits : Nat) (power : Int) : Binary64 :=
  if digits = 0 then .finite negative 0 leastExponent
  else
    let places : Int := (Nat.toDigits 10 digits).length + power
    if 310 < places then .infinite negative
    else if places < -330 then .finite negative 0 leastExponent
    else ofRatio negative (digits * Nat.pow 10 power.toNat) (Nat.pow 10 (-power).toNat)

/-- An optional sign: whether it is a minus, and what follows. -/
def takeSign : List Char → Bool × List Char
  | '-' :: rest => (true, rest)
  | '+' :: rest => (false, rest)
  | rest => (false, rest)

/-- The exponent after the digits, 0 when there is none. -/
def readExponent : List Char → Option Int
  | [] => some 0
  | c :: rest =>
    if c = 'e' ∨ c = 'E' then
      let (negative, ds) := takeSign rest
      if ds.isEmpty ∨ ds.any (fun d => !d.isDigit) then none
      else
        let size : Int := exponentValue ds
        some (if negative then -size else size)
    else none

/-- The digits after the point, and what follows them. -/
def takeFraction : List Char → List Char × List Char
  | '.' :: rest => (rest.takeWhile Char.isDigit, rest.dropWhile Char.isDigit)
  | rest => ([], rest)

/-- Reads the whole text as a number. -/
def ofChars? (cs : List Char) : Option Binary64 :=
  let (negative, body) := takeSign cs
  let word := String.ofList (body.map Char.toLower)
  if word = "inf" ∨ word = "infinity" then some (.infinite negative)
  else if word = "nan" then some .nan
  else
    let whole := body.takeWhile Char.isDigit
    let (fraction, rest) := takeFraction (body.dropWhile Char.isDigit)
    if whole.isEmpty && fraction.isEmpty then none
    else
      (readExponent rest).map fun power =>
        ofDecimal negative (Text.numeral (whole ++ fraction)) (power - fraction.length)

/-- Reads the whole text as a number. -/
def ofString? (s : String) : Option Binary64 := ofChars? s.toList

end CloudSweep.Binary64
