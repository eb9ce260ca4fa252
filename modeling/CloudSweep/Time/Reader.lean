/-
Reading timestamps. Two forms are known: a naive date and time such as `2024-01-01T00:00:00`, taken
as universal time, and the RFC 3339 form with a zone, such as `2024-01-01T00:00:00.5+02:00`. Blanks
around either are passed over.

The naive form is lenient: blanks may stand before each number, months, days, hours, minutes and
seconds have one or two digits, and a signed year has any number of them. The RFC 3339 form fixes
every width. Second 60 is a leap second in both.
-/
import CloudSweep.Text.Blank
import CloudSweep.Text.Digits
import CloudSweep.Time.Instant

namespace CloudSweep

/-- The fields of a date and time of day, before they are checked. -/
structure CivilTime where
  date : Date
  hour : Nat
  minute : Nat
  second : Nat
  /-- Nanoseconds after the second. -/
  nanos : Nat
  deriving DecidableEq

namespace CivilTime

/-- Whether the fields name a time in the range of instants. -/
def isValid (c : CivilTime) : Bool :=
  c.date.isValid && Instant.firstYear ≤ c.date.year && c.date.year ≤ Instant.lastYear &&
    c.hour ≤ 23 && c.minute ≤ 59 && c.second ≤ 60 && c.nanos < 1000000000

/-- The instant at which clocks ahead of universal time by `offset` seconds show these fields. -/
def toInstant (c : CivilTime) (offset : Int) : Instant :=
  let leap := if c.second = 60 then 1 else 0
  { seconds := c.date.dayNumber * 86400 + c.hour * 3600 + c.minute * 60 + (c.second - leap : Nat)
      - offset
    nanos := c.nanos + leap * 1000000000 }

/-- The instant, for valid fields. -/
def toInstant? (c : CivilTime) (offset : Int) : Option Instant :=
  if c.isValid then some (c.toInstant offset) else none

end CivilTime

namespace Timestamp

/-- A reader takes its part off the front of the text and leaves the rest. -/
abbrev Reader (α : Type) := List Char → Option (α × List Char)

/-- One given character. -/
def literal (c : Char) : Reader Unit
  | d :: rest => if d = c then some ((), rest) else none
  | [] => none

/-- At most `most` leading digits, and the rest. -/
def takeDigits (most : Nat) (cs : List Char) : List Char × List Char :=
  let ds := (cs.take most).takeWhile Char.isDigit
  (ds, cs.drop ds.length)

/-- A number of `least` to `most` digits, as many as there are. -/
def number (least most : Nat) : Reader Nat := fun cs =>
  let (ds, rest) := takeDigits most cs
  if least ≤ ds.length then some (Text.numeral ds, rest) else none

/-- A number of one or two digits, after any blanks. -/
def looseField : Reader Nat := fun cs => number 1 2 (Text.trimLeft cs)

/-- A year after any blanks: up to four digits, or a sign and any number of them. -/
def looseYear : Reader Int := fun cs =>
  match Text.trimLeft cs with
  | '-' :: rest => (number 1 rest.length rest).map fun (n, rest) => (-(n : Int), rest)
  | '+' :: rest => (number 1 rest.length rest).map fun (n, rest) => ((n : Int), rest)
  | cs => (number 1 4 cs).map fun (n, rest) => ((n : Int), rest)

/-- Reads the whole text as a naive date and time. -/
def readNaive (cs : List Char) : Option Instant := do
  let (year, cs) ← looseYear cs
  let (_, cs) ← literal '-' cs
  let (month, cs) ← looseField cs
  let (_, cs) ← literal '-' cs
  let (day, cs) ← looseField cs
  let (_, cs) ← literal 'T' cs
  let (hour, cs) ← looseField cs
  let (_, cs) ← literal ':' cs
  let (minute, cs) ← looseField cs
  let (_, cs) ← literal ':' cs
  let (second, cs) ← looseField cs
  if cs.isEmpty then
    CivilTime.toInstant? { date := { year, month, day }, hour, minute, second, nanos := 0 } 0
  else none

/-- What may stand between date and time of day. -/
def dateTimeMark : Reader Unit
  | c :: rest => if c = 'T' ∨ c = 't' ∨ c = ' ' then some ((), rest) else none
  | [] => none

/-- The fraction after a point: the first nine digits count, further ones are passed over. No
fraction is zero. -/
def fraction : Reader Nat
  | '.' :: cs =>
    let (ds, rest) := takeDigits 9 cs
    if ds.isEmpty then none
    else some (Text.numeral ds * Nat.pow 10 (9 - ds.length), rest.dropWhile Char.isDigit)
  | cs => some (0, cs)

/-- The sign of an offset: plus, hyphen, or the minus sign of mathematics. -/
def offsetSign : Reader Int
  | c :: rest =>
    if c = '+' then some (1, rest)
    else if c = '-' ∨ c = Char.ofNat 0x2212 then some (-1, rest)
    else none
  | [] => none

/-- The zone: `Z`, or hours and minutes ahead of universal time. The result is in seconds. -/
def zone : Reader Int := fun cs =>
  match cs with
  | c :: rest =>
    if c = 'Z' ∨ c = 'z' then some (0, rest)
    else do
      let (sign, cs) ← offsetSign cs
      let (hours, cs) ← number 2 2 cs
      let (_, cs) ← literal ':' cs
      let (minutes, cs) ← number 2 2 cs
      if hours ≤ 23 ∧ minutes ≤ 59 then some (sign * (hours * 3600 + minutes * 60), cs) else none
  | [] => none

/-- Reads the whole text in the RFC 3339 form. -/
def readZoned (cs : List Char) : Option Instant := do
  let (year, cs) ← number 4 4 cs
  let (_, cs) ← literal '-' cs
  let (month, cs) ← number 2 2 cs
  let (_, cs) ← literal '-' cs
  let (day, cs) ← number 2 2 cs
  let (_, cs) ← dateTimeMark cs
  let (hour, cs) ← number 2 2 cs
  let (_, cs) ← literal ':' cs
  let (minute, cs) ← number 2 2 cs
  let (_, cs) ← literal ':' cs
  let (second, cs) ← number 2 2 cs
  let (nanos, cs) ← fraction cs
  let (offset, cs) ← zone cs
  if cs.isEmpty then
    CivilTime.toInstant? { date := { year, month, day }, hour, minute, second, nanos } offset
  else none

/-- Reads a timestamp in either form; a text in neither form is no timestamp. -/
def read (raw : String) : Option Instant :=
  let cs := Text.trimChars raw.toList
  (readNaive cs).or (readZoned cs)

end Timestamp
end CloudSweep
