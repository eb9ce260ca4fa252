/-
The calendar. Days are numbered as one counts them: 1 January 1970 is day 0, and each day is followed by
the next of its month, by the first of the next month, or by New Year's Day. Every number belongs to
one day, `Date.ofDayNumber` finds it, and days are in the order of their numbers.
-/
import CloudSweep.Time.Civil
import Mathlib.Data.Int.Init

namespace CloudSweep

variable {month month' : Nat}

/-! ## Years and months -/

/-- The number of days of a year. -/
def daysInYear (year : Int) : Nat := if isLeapYear year then 366 else 365

theorem daysBeforeYear_succ (year : Int) :
    daysBeforeYear (year + 1) = daysBeforeYear year + daysInYear year := by
  unfold daysBeforeYear daysInYear isLeapYear
  by_cases four : year % 4 = 0
  · by_cases hundred : year % 100 = 0
    · by_cases fourHundred : year % 400 = 0
      · simp [four, hundred, fourHundred]
        omega
      · simp [four, hundred, fourHundred]
        omega
    · simp [four, hundred]
      omega
  · simp [four]
    omega

theorem daysBeforeYear_le {year year' : Int} (le : year ≤ year') :
    daysBeforeYear year ≤ daysBeforeYear year' := by
  unfold daysBeforeYear
  omega

theorem daysBeforeMonth_succ (year : Int) (positive : 1 ≤ month) :
    daysBeforeMonth year (month + 1) = daysBeforeMonth year month + daysInMonth year month := by
  obtain ⟨m, rfl⟩ : ∃ m, month = m + 1 := ⟨month - 1, by omega⟩
  rfl

theorem daysBeforeMonth_le (year : Int) (le : month ≤ month') :
    daysBeforeMonth year month ≤ daysBeforeMonth year month' := by
  induction le with
  | refl => exact Nat.le_refl _
  | step le ih =>
    rename_i m
    rcases Nat.eq_zero_or_pos m with rfl | positive
    · exact ih
    · rw [daysBeforeMonth_succ year positive]
      omega

theorem daysInMonth_pos (year : Int) (month : Nat) : 1 ≤ daysInMonth year month := by
  unfold daysInMonth
  split
  · split <;> omega
  all_goals omega

theorem daysInMonth_le (year : Int) (month : Nat) : daysInMonth year month ≤ 31 := by
  unfold daysInMonth
  split
  · split <;> omega
  all_goals omega

/-- After December the year is over. -/
theorem daysBeforeMonth_thirteen (year : Int) : daysBeforeMonth year 13 = daysInYear year := by
  unfold daysInYear
  rcases leap : isLeapYear year with _ | _ <;>
    simp [daysBeforeMonth, daysInMonth, leap]

/-! ## Days -/

namespace Date

variable {d d' : Date}

theorem isValid_iff : d.isValid = true ↔
    1 ≤ d.month ∧ d.month ≤ 12 ∧ 1 ≤ d.day ∧ d.day ≤ daysInMonth d.year d.month := by
  simp [isValid, and_assoc]

/-- The day that follows. -/
def next (d : Date) : Date :=
  if d.day < daysInMonth d.year d.month then { d with day := d.day + 1 }
  else if d.month < 12 then { year := d.year, month := d.month + 1, day := 1 }
  else { year := d.year + 1, month := 1, day := 1 }

theorem isValid_next (valid : d.isValid = true) : d.next.isValid = true := by
  rw [isValid_iff] at valid
  unfold next
  split
  · exact isValid_iff.2 ⟨valid.1, valid.2.1, by dsimp only; omega, by dsimp only; omega⟩
  split
  · exact isValid_iff.2 ⟨by dsimp only; omega, by dsimp only; omega, Nat.le_refl _, daysInMonth_pos _ _⟩
  · exact isValid_iff.2 ⟨Nat.le_refl _, by dsimp only; omega, Nat.le_refl _, daysInMonth_pos _ _⟩

theorem dayNumber_next (valid : d.isValid = true) : d.next.dayNumber = d.dayNumber + 1 := by
  obtain ⟨m1, m12, d1, dmax⟩ := isValid_iff.1 valid
  unfold next
  split
  · unfold dayNumber
    dsimp only
    omega
  rename_i lastDay
  have month := daysBeforeMonth_succ d.year m1
  split
  · unfold dayNumber
    dsimp only
    omega
  · have december : d.month = 12 := by omega
    have yearOver : daysBeforeMonth d.year (d.month + 1) = daysInYear d.year := by
      rw [december]
      exact daysBeforeMonth_thirteen d.year
    have newYear := daysBeforeYear_succ d.year
    have january : daysBeforeMonth (d.year + 1) 1 = 0 := rfl
    unfold dayNumber
    dsimp only
    omega

theorem dayNumber_epoch : (⟨1970, 1, 1⟩ : Date).dayNumber = 0 := by decide

/-- The days of a year are those from its first to the one before the next year. -/
theorem dayNumber_bounds (valid : d.isValid = true) :
    daysBeforeYear d.year - epochDay ≤ d.dayNumber ∧
      d.dayNumber < daysBeforeYear (d.year + 1) - epochDay := by
  obtain ⟨m1, m12, d1, dmax⟩ := isValid_iff.1 valid
  have month := daysBeforeMonth_succ d.year m1
  have year : daysBeforeMonth d.year (d.month + 1) ≤ daysBeforeMonth d.year 13 :=
    daysBeforeMonth_le d.year (Nat.succ_le_succ m12)
  rw [daysBeforeMonth_thirteen] at year
  rw [daysBeforeYear_succ]
  unfold dayNumber
  omega

/-- Earlier in the calendar. -/
def Before (d d' : Date) : Prop :=
  d.year < d'.year ∨ (d.year = d'.year ∧
    (d.month < d'.month ∨ (d.month = d'.month ∧ d.day < d'.day)))

theorem dayNumber_lt_of_before (valid : d.isValid = true) (valid' : d'.isValid = true)
    (before : d.Before d') : d.dayNumber < d'.dayNumber := by
  rcases before with less | ⟨same, before⟩
  · have last := (dayNumber_bounds valid).2
    have first := (dayNumber_bounds valid').1
    have years : daysBeforeYear (d.year + 1) ≤ daysBeforeYear d'.year := daysBeforeYear_le less
    omega
  obtain ⟨m1, m12, d1, dmax⟩ := isValid_iff.1 valid
  obtain ⟨m1', m12', d1', dmax'⟩ := isValid_iff.1 valid'
  unfold dayNumber
  rw [← same] at dmax' ⊢
  rcases before with less | ⟨same, less⟩
  · have month := daysBeforeMonth_succ d.year m1
    have months : daysBeforeMonth d.year (d.month + 1) ≤ daysBeforeMonth d.year d'.month :=
      daysBeforeMonth_le d.year less
    omega
  · rw [← same]
    omega

theorem eq_of_not_before (notBefore : ¬ d.Before d') (notAfter : ¬ d'.Before d) : d = d' := by
  unfold Before at notBefore notAfter
  obtain ⟨y, m, n⟩ := d
  obtain ⟨y', m', n'⟩ := d'
  dsimp only at notBefore notAfter
  rw [mk.injEq]
  omega

theorem dayNumber_lt_iff (valid : d.isValid = true) (valid' : d'.isValid = true) :
    d.dayNumber < d'.dayNumber ↔ d.Before d' := by
  refine ⟨fun less => Classical.byContradiction fun notBefore => ?_,
    dayNumber_lt_of_before valid valid'⟩
  by_cases after : d'.Before d
  · have greater := dayNumber_lt_of_before valid' valid after
    omega
  · rw [eq_of_not_before notBefore after] at less
    omega

theorem eq_of_dayNumber_eq (valid : d.isValid = true) (valid' : d'.isValid = true)
    (same : d.dayNumber = d'.dayNumber) : d = d' :=
  eq_of_not_before (mt (dayNumber_lt_iff valid valid').2 (by omega))
    (mt (dayNumber_lt_iff valid' valid).2 (by omega))

/-! ## Finding the day of a number -/

/-- The year found for a day holds it. -/
theorem yearOfDay_spec (days : Int) :
    daysBeforeYear (yearOfDay days) ≤ days ∧ days < daysBeforeYear (yearOfDay days + 1) := by
  unfold yearOfDay
  generalize hg : days * 400 / 146097 = guess
  dsimp only
  have lower : 146097 * guess ≤ days * 400 := by omega
  have upper : days * 400 < 146097 * (guess + 1) := by omega
  split
  · rename_i early
    have lower' : daysBeforeYear (guess - 1) ≤ days := by
      unfold daysBeforeYear
      omega
    rw [Int.sub_add_cancel]
    exact ⟨lower', early⟩
  rename_i notEarly
  split
  · rename_i late
    have upper' : days < daysBeforeYear (guess + 1 + 1) := by
      unfold daysBeforeYear
      omega
    exact ⟨late, upper'⟩
  · rename_i notLate
    exact ⟨Int.not_lt.1 notEarly, Int.not_le.1 notLate⟩

/-- Of thresholds in order, a number has passed the first ones, and counting them tells how many. -/
theorem le_iff_lt_countP {f : Nat → Nat} (ordered : ∀ m m', m ≤ m' → f m ≤ f m') (x n : Nat) :
    ∀ m < n, f m ≤ x ↔ m < (List.range n).countP (fun m => f m ≤ x) := by
  induction n with
  | zero => exact nofun
  | succ n ih =>
    intro m hm
    rw [List.range_succ, List.countP_append, List.countP_singleton]
    by_cases passed : f n ≤ x
    · -- All before the last one are passed too.
      have all : (List.range n).countP (fun m => f m ≤ x) = n := by
        refine Eq.trans (List.countP_eq_length.2 fun i hi => decide_eq_true ?_) List.length_range
        exact Nat.le_trans (ordered i n (Nat.le_of_lt (List.mem_range.1 hi))) passed
      have here := Nat.le_trans (ordered m n (by omega)) passed
      simp [all, passed, here]
      omega
    · have few : (List.range n).countP (fun m => f m ≤ x) ≤ n := by
        simpa using List.countP_le_length (l := List.range n) (p := fun m => decide (f m ≤ x))
      rcases Nat.lt_succ_iff_lt_or_eq.1 hm with less | rfl
      · simpa [passed] using ih m less
      · simp [passed]
        omega

/-- Month and day found for a day of a year are those on which it falls. -/
theorem monthDay_spec {year : Int} {dayOfYear : Nat} (inYear : dayOfYear < daysInYear year) :
    1 ≤ (monthDay year dayOfYear).1 ∧ (monthDay year dayOfYear).1 ≤ 12 ∧
      1 ≤ (monthDay year dayOfYear).2 ∧
      (monthDay year dayOfYear).2 ≤ daysInMonth year (monthDay year dayOfYear).1 ∧
      daysBeforeMonth year (monthDay year dayOfYear).1 + (monthDay year dayOfYear).2 =
        dayOfYear + 1 := by
  have passed := le_iff_lt_countP (f := fun m => daysBeforeMonth year (m + 1))
    (fun m m' le => daysBeforeMonth_le year (Nat.succ_le_succ le)) dayOfYear 12
  unfold monthDay
  dsimp only
  generalize counted : (List.range 12).countP _ = month at passed
  have some : 0 < month := (passed 0 (by omega)).1 (Nat.zero_le _)
  have few : month ≤ 12 := by
    rw [← counted]
    exact List.countP_le_length
  have begun : daysBeforeMonth year month ≤ dayOfYear := by
    have := (passed (month - 1) (by omega)).2 (by omega)
    rwa [Nat.sub_add_cancel some] at this
  have running : dayOfYear < daysBeforeMonth year (month + 1) := by
    rcases Nat.lt_or_ge month 12 with less | last
    · exact Nat.not_le.1 (mt (passed month less).1 (Nat.lt_irrefl _))
    · rw [Nat.le_antisymm few last, daysBeforeMonth_thirteen]
      exact inYear
  rw [daysBeforeMonth_succ year some] at running
  exact ⟨some, few, by omega, by omega, by omega⟩

theorem ofDayNumber_spec (n : Int) :
    (ofDayNumber n).isValid = true ∧ (ofDayNumber n).dayNumber = n := by
  have year := yearOfDay_spec (n + epochDay)
  unfold ofDayNumber
  dsimp only
  generalize yearOfDay (n + epochDay) = y at year
  rw [daysBeforeYear_succ] at year
  have inYear : (n + epochDay - daysBeforeYear y).toNat < daysInYear y := by omega
  have day := monthDay_spec inYear
  generalize monthDay y _ = found at day
  obtain ⟨m, d⟩ := found
  obtain ⟨m1, m12, d1, dmax, sum⟩ := day
  refine ⟨isValid_iff.2 ⟨m1, m12, d1, dmax⟩, ?_⟩
  unfold dayNumber
  dsimp only at sum ⊢
  omega

/-! ## Counting days -/

/-- The day comes so many days after 1 January 1970, counted day by day, forwards or backwards. -/
inductive Falls : Date → Int → Prop
  | epoch : Falls ⟨1970, 1, 1⟩ 0
  | forwards {d : Date} {n : Int} (h : Falls d n) : Falls d.next (n + 1)
  | backwards {d : Date} {n : Int} (valid : d.isValid = true) (h : Falls d.next n) : Falls d (n - 1)

theorem ofDayNumber_next (n : Int) : (ofDayNumber n).next = ofDayNumber (n + 1) := by
  obtain ⟨valid, number⟩ := ofDayNumber_spec n
  obtain ⟨valid', number'⟩ := ofDayNumber_spec (n + 1)
  refine eq_of_dayNumber_eq (isValid_next valid) valid' ?_
  rw [dayNumber_next valid, number, number']

theorem falls_ofDayNumber (n : Int) : Falls (ofDayNumber n) n := by
  have epoch : ofDayNumber 0 = ⟨1970, 1, 1⟩ := by decide
  induction n using Int.induction_on with
  | zero => exact epoch ▸ Falls.epoch
  | succ n ih => exact ofDayNumber_next n ▸ ih.forwards
  | pred n ih =>
    refine .backwards (ofDayNumber_spec _).1 ?_
    rw [ofDayNumber_next, Int.sub_add_cancel]
    exact ih

/-- The number of a day tells how many days after 1 January 1970 it comes. -/
theorem falls_iff {n : Int} : d.Falls n ↔ d.isValid = true ∧ d.dayNumber = n := by
  constructor
  · intro h
    induction h with
    | epoch => exact ⟨rfl, dayNumber_epoch⟩
    | forwards _ ih => exact ⟨isValid_next ih.1, by rw [dayNumber_next ih.1, ih.2]⟩
    | backwards valid _ ih =>
      have following := dayNumber_next valid
      exact ⟨valid, by omega⟩
  · rintro ⟨valid, rfl⟩
    have found := ofDayNumber_spec d.dayNumber
    have here := falls_ofDayNumber d.dayNumber
    rwa [eq_of_dayNumber_eq found.1 valid found.2] at here

end Date
end CloudSweep
