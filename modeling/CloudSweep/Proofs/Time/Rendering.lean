/-
Timestamps and what they denote: a date and a time of day with whole seconds, followed by nothing or
by a fraction and a zone. An instant can be written in every zone, with as many digits as its fraction
needs, and what is written denotes it.
-/
import CloudSweep.Proofs.Text.Blank
import CloudSweep.Proofs.Time.Calendar
import CloudSweep.Proofs.Time.Fields

namespace CloudSweep

open Text (AreDigits numeral isBlank)

/-! ## Texts -/

namespace CivilTime

/-- The year is written with four digits and no sign. -/
def FourDigitYear (c : CivilTime) : Prop := 0 ≤ c.date.year ∧ c.date.year ≤ 9999

instance (c : CivilTime) : Decidable c.FourDigitYear :=
  inferInstanceAs (Decidable (_ ∧ _))

/-- A time that is written with a year of four digits and whole seconds, none of them a leap second. -/
structure Plain (c : CivilTime) : Prop where
  date : c.date.isValid = true
  year : c.FourDigitYear
  hour : c.hour ≤ 23
  minute : c.minute ≤ 59
  second : c.second ≤ 59
  nanos : c.nanos = 0

/-- The seconds of the day that have passed. -/
def secondOfDay (c : CivilTime) : Nat := c.hour * 3600 + c.minute * 60 + c.second

/-- The seconds since the start of 1970 that have passed in universal time. -/
def seconds (c : CivilTime) : Int := c.date.dayNumber * 86400 + c.secondOfDay

/-- Date and time of day, such as `2024-01-01T00:00:00`. -/
def text (c : CivilTime) : String :=
  Instant.yearText c.date.year ++ "-" ++ Instant.padded 2 c.date.month ++ "-" ++
    Instant.padded 2 c.date.day ++ "T" ++ Instant.padded 2 c.hour ++ ":" ++
    Instant.padded 2 c.minute ++ ":" ++ Instant.padded 2 c.second

end CivilTime

namespace Timestamp

/-- A zone: universal time, or so many hours and minutes ahead of it or behind it. -/
inductive Offset
  | utc
  | ahead (hours : Fin 24) (minutes : Fin 60)
  | behind (hours : Fin 24) (minutes : Fin 60)

namespace Offset

/-- The seconds that clocks of the zone are ahead of universal time. -/
def seconds : Offset → Int
  | utc => 0
  | ahead hours minutes => hours.val * 3600 + minutes.val * 60
  | behind hours minutes => -(hours.val * 3600 + minutes.val * 60)

/-- Hours and minutes, such as `02:30`. -/
def clock (hours : Fin 24) (minutes : Fin 60) : String :=
  Instant.padded 2 hours.val ++ ":" ++ Instant.padded 2 minutes.val

def text : Offset → String
  | utc => "Z"
  | ahead hours minutes => "+" ++ clock hours minutes
  | behind hours minutes => "-" ++ clock hours minutes

end Offset

/-- The fraction of a second, in at most nine digits. -/
structure Fraction where
  digits : List Char
  areDigits : ∀ c ∈ digits, c.isDigit = true
  fits : digits.length ≤ 9

namespace Fraction

def nanos (f : Fraction) : Nat := numeral f.digits * 10 ^ (9 - f.digits.length)

/-- The digits after a point; nothing without digits. -/
def text (f : Fraction) : String :=
  if f.digits.isEmpty then "" else "." ++ String.ofList f.digits

end Fraction

/-- What follows the seconds: nothing, in universal time, or a fraction and a zone. -/
inductive Ending
  | bare
  | zoned (fraction : Fraction) (offset : Offset)

namespace Ending

def offset : Ending → Int
  | bare => 0
  | zoned _ offset => offset.seconds

def nanos : Ending → Nat
  | bare => 0
  | zoned fraction _ => fraction.nanos

def text : Ending → String
  | bare => ""
  | zoned fraction offset => fraction.text ++ offset.text

/-- Universal time is written without an offset. -/
def IsUniversal : Ending → Prop
  | bare => True
  | zoned _ offset => offset = .utc

end Ending

/-- A timestamp in one of the forms that denote an instant. -/
structure Rendering where
  time : CivilTime
  plain : time.Plain
  ending : Ending

namespace Rendering

def text (r : Rendering) : String := r.time.text ++ r.ending.text

/-- The instant of a timestamp: the days up to its date, counted one by one, its time of day without
what the zone is ahead, and its fraction. -/
def Denotes (r : Rendering) (t : Instant) : Prop :=
  ∃ day, r.time.date.Falls day ∧
    t.seconds = day * 86400 + r.time.secondOfDay - r.ending.offset ∧ t.nanos = r.ending.nanos

end Rendering
end Timestamp

/-! ## Fields of a text -/

namespace CivilTime

/-- The fields of a time, digit by digit. -/
def stamp (c : CivilTime) : Timestamp.Stamp where
  year := (Instant.yearText c.date.year).toList
  month := (Instant.padded 2 c.date.month).toList
  day := (Instant.padded 2 c.date.day).toList
  hour := (Instant.padded 2 c.hour).toList
  minute := (Instant.padded 2 c.minute).toList
  second := (Instant.padded 2 c.second).toList

theorem toList_text (c : CivilTime) (rest : String) :
    (c.text ++ rest).toList = c.stamp.chars 'T' rest.toList := by
  simp [text, stamp, Timestamp.Stamp.chars]

variable {c : CivilTime}

theorem Plain.yearText (plain : c.Plain) :
    Instant.yearText c.date.year = Instant.padded 4 c.date.year.toNat :=
  if_pos plain.year

theorem Plain.wide (plain : c.Plain) : c.stamp.Wide := by
  obtain ⟨m1, m12, d1, dmax⟩ := Date.isValid_iff.1 plain.date
  have hour := plain.hour
  have minute := plain.minute
  have second := plain.second
  have year : 0 ≤ c.date.year ∧ c.date.year ≤ 9999 := plain.year
  have days := daysInMonth_le c.date.year c.date.month
  unfold stamp
  rw [plain.yearText]
  constructor <;> dsimp only <;> exact Text.areDigits_padded (by decide) (by omega)

/-- The fields of its text name the time. -/
theorem Plain.civil (plain : c.Plain) (nanos : Nat) :
    c.stamp.civil nanos = { c with nanos := nanos } := by
  have year : ((c.date.year.toNat : Nat) : Int) = c.date.year := Int.toNat_of_nonneg plain.year.1
  unfold Timestamp.Stamp.civil stamp
  dsimp only
  rw [plain.yearText]
  simp only [Text.numeral_padded, year]

end CivilTime

/-! ## What a text denotes -/

namespace Timestamp

namespace Rendering

theorem denotes_iff {r : Rendering} {t : Instant} :
    r.Denotes t ↔ t = ⟨r.time.seconds - r.ending.offset, r.ending.nanos⟩ := by
  unfold Denotes
  simp only [Date.falls_iff]
  obtain ⟨seconds, nanos⟩ := t
  constructor
  · rintro ⟨day, ⟨-, rfl⟩, rfl, rfl⟩
    rfl
  · intro same
    cases same
    exact ⟨_, ⟨r.plain.date, rfl⟩, rfl, rfl⟩

theorem toList_text (r : Rendering) :
    r.text.toList = r.time.stamp.chars 'T' r.ending.text.toList :=
  r.time.toList_text r.ending.text

end Rendering

theorem Fraction.nanos_lt (f : Fraction) : f.nanos < 1000000000 := by
  have less := Text.numeral_lt f.areDigits
  have whole : 10 ^ f.digits.length * 10 ^ (9 - f.digits.length) = 1000000000 := by
    rw [← Nat.pow_add, Nat.add_sub_of_le f.fits]
  unfold nanos
  rw [← whole]
  exact Nat.mul_lt_mul_of_pos_right less (Nat.pow_pos (by decide))

theorem Ending.nanos_lt (e : Ending) : e.nanos < 1000000000 := by
  cases e with
  | bare => exact (by decide : 0 < 1000000000)
  | zoned fraction _ => exact fraction.nanos_lt

/-! ## No blanks -/

variable {cs : List Char}

theorem noBlank_of_areDigits {n : Nat} {ds : List Char} (h : AreDigits n ds) :
    ∀ c ∈ ds, isBlank c = false :=
  fun c hc => Text.isBlank_of_isDigit (h.2 c hc)

theorem Stamp.noBlank {f : Stamp} (wide : f.Wide) (rest : ∀ c ∈ cs, isBlank c = false) :
    ∀ c ∈ f.chars 'T' cs, isBlank c = false := by
  simp only [Stamp.chars, List.forall_mem_append, List.forall_mem_cons]
  exact ⟨noBlank_of_areDigits wide.year, rfl, noBlank_of_areDigits wide.month, rfl,
    noBlank_of_areDigits wide.day, rfl, noBlank_of_areDigits wide.hour, rfl,
    noBlank_of_areDigits wide.minute, rfl, noBlank_of_areDigits wide.second, rest⟩

theorem Offset.noBlank (offset : Offset) : ∀ c ∈ offset.text.toList, isBlank c = false := by
  have padded (n : Nat) (small : n < 100) : ∀ c ∈ (Instant.padded 2 n).toList, isBlank c = false :=
    noBlank_of_areDigits (Text.areDigits_padded (by decide) small)
  have clock (hours : Fin 24) (minutes : Fin 60) :
      ∀ c ∈ (clock hours minutes).toList, isBlank c = false := by
    simp only [Offset.clock, String.toList_append, List.forall_mem_append]
    exact ⟨⟨padded _ (by omega), List.forall_mem_singleton.2 rfl⟩, padded _ (by omega)⟩
  cases offset with
  | utc => exact List.forall_mem_singleton.2 rfl
  | ahead hours minutes =>
    simp only [Offset.text, String.toList_append, List.forall_mem_append]
    exact ⟨List.forall_mem_singleton.2 rfl, clock hours minutes⟩
  | behind hours minutes =>
    simp only [Offset.text, String.toList_append, List.forall_mem_append]
    exact ⟨List.forall_mem_singleton.2 rfl, clock hours minutes⟩

theorem Fraction.noBlank (f : Fraction) : ∀ c ∈ f.text.toList, isBlank c = false := by
  unfold Fraction.text
  split
  · exact List.forall_mem_nil _
  · simp only [String.toList_append, String.toList_ofList, List.forall_mem_append]
    exact ⟨List.forall_mem_singleton.2 rfl,
      fun c hc => Text.isBlank_of_isDigit (f.areDigits c hc)⟩

theorem Ending.noBlank (e : Ending) : ∀ c ∈ e.text.toList, isBlank c = false := by
  cases e with
  | bare => exact List.forall_mem_nil _
  | zoned fraction offset =>
    simp only [Ending.text, String.toList_append, List.forall_mem_append]
    exact ⟨fraction.noBlank, offset.noBlank⟩

end Timestamp

/-! ## Writing an instant -/

/-- Date and time of day, in whole seconds, on clocks so many seconds ahead of universal time. -/
def Instant.civilAt (t : Instant) (offset : Int) : CivilTime :=
  let ofDay := ((t.seconds + offset) % 86400).toNat
  { date := Date.ofDayNumber ((t.seconds + offset) / 86400)
    hour := ofDay / 3600
    minute := ofDay / 60 % 60
    second := ofDay % 60
    nanos := 0 }

theorem Instant.secondOfDay_civilAt (t : Instant) (offset : Int) :
    ((t.civilAt offset).secondOfDay : Int) = (t.seconds + offset) % 86400 := by
  unfold civilAt CivilTime.secondOfDay
  dsimp only
  omega

theorem Instant.plain_civilAt (t : Instant) (offset : Int)
    (year : (t.civilAt offset).FourDigitYear) : (t.civilAt offset).Plain := by
  have hour : (t.civilAt offset).hour ≤ 23 := by
    unfold civilAt
    dsimp only
    omega
  have minute : (t.civilAt offset).minute < 60 := Nat.mod_lt _ (by decide)
  have second : (t.civilAt offset).second < 60 := Nat.mod_lt _ (by decide)
  exact {
    date := (Date.ofDayNumber_spec _).1
    year := year
    hour := hour
    minute := Nat.le_of_lt_succ minute
    second := Nat.le_of_lt_succ second
    nanos := rfl }

namespace Timestamp

/-- An instant with whole seconds in the zone of the ending. -/
def Rendering.of (t : Instant) (e : Ending) (year : (t.civilAt e.offset).FourDigitYear) :
    Rendering where
  time := t.civilAt e.offset
  plain := t.plain_civilAt e.offset year
  ending := e

/-- What is written of an instant denotes it, if the fraction is written in full. -/
theorem Rendering.denotes_of {t : Instant} {e : Ending}
    (year : (t.civilAt e.offset).FourDigitYear) (fraction : e.nanos = t.nanos) :
    (Rendering.of t e year).Denotes t := by
  have day : (t.civilAt e.offset).date.dayNumber = (t.seconds + e.offset) / 86400 :=
    (Date.ofDayNumber_spec _).2
  have second := t.secondOfDay_civilAt e.offset
  refine ⟨_, Date.falls_iff.2 ⟨(Date.ofDayNumber_spec _).1, day⟩, ?_, fraction.symm⟩
  unfold Rendering.of
  dsimp only
  omega

end Timestamp
end CloudSweep
