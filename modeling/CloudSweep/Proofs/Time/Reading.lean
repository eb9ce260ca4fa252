/-
Reading timestamps. What a timestamp denotes is read, and so an instant is read back from its text in
any zone. Texts of universal time that are equally long stand in the order of their instants.
-/
import CloudSweep.Proofs.Time.Rendering

namespace CloudSweep

open Text (AreDigits numeral isBlank)

variable {c c' : CivilTime}

theorem CivilTime.Plain.toInstant? (plain : c.Plain) {nanos : Nat} (less : nanos < 1000000000)
    (offset : Int) : CivilTime.toInstant? { c with nanos := nanos } offset =
      some ⟨c.seconds - offset, nanos⟩ := by
  have year : 0 ≤ c.date.year ∧ c.date.year ≤ 9999 := plain.year
  have hour := plain.hour
  have minute := plain.minute
  have second := plain.second
  have range : Instant.firstYear ≤ c.date.year ∧ c.date.year ≤ Instant.lastYear := by
    unfold Instant.firstYear Instant.lastYear
    omega
  have valid : ({ c with nanos := nanos } : CivilTime).isValid = true := by
    simp only [isValid, Bool.and_eq_true, decide_eq_true_eq]
    exact ⟨⟨⟨⟨⟨⟨plain.date, range.1⟩, range.2⟩, hour⟩, minute⟩, Nat.le_succ_of_le second⟩, less⟩
  have noLeap : c.second ≠ 60 := by omega
  unfold CivilTime.toInstant?
  rw [if_pos valid]
  unfold toInstant seconds secondOfDay
  simp only [if_neg noLeap, Option.some.injEq, Instant.mk.injEq]
  omega

/-! ## What follows the seconds -/

namespace Timestamp

theorem number_padded {n : Nat} (small : n < 100) (rest : List Char) :
    number 2 2 ((Instant.padded 2 n).toList ++ rest) = some (n, rest) := by
  rw [field_append (Text.areDigits_padded (by decide) small), Text.numeral_padded]

variable {c : Char} {cs : List Char}

theorem zone_signed {sign : Int} (noMark : ¬ (c = 'Z' ∨ c = 'z'))
    (signed : ∀ cs, offsetSign (c :: cs) = some (sign, cs)) (hours : Fin 24) (minutes : Fin 60) :
    zone (c :: (Offset.clock hours minutes).toList) =
      some (sign * (hours.val * 3600 + minutes.val * 60), []) := by
  have chars : (Offset.clock hours minutes).toList =
      (Instant.padded 2 hours.val).toList ++ ':' :: ((Instant.padded 2 minutes.val).toList ++ []) := by
    simp [Offset.clock]
  rw [chars]
  unfold zone
  dsimp only
  rw [if_neg noMark]
  refine (bind_of_read (signed _)).trans ?_
  refine (bind_of_read (number_padded (by omega) _)).trans ?_
  refine (bind_of_read (literal_cons _ _)).trans ?_
  refine (bind_of_read (number_padded (by omega) _)).trans ?_
  exact if_pos ⟨Nat.le_of_lt_succ hours.isLt, Nat.le_of_lt_succ minutes.isLt⟩

theorem zone_text (offset : Offset) : zone offset.text.toList = some (offset.seconds, []) := by
  cases offset with
  | utc => rfl
  | ahead hours minutes =>
    have read := zone_signed (c := '+') (by decide) (fun _ => rfl) hours minutes
    simpa [Offset.text, Offset.seconds] using read
  | behind hours minutes =>
    have read := zone_signed (c := '-') (by decide) (fun _ => rfl) hours minutes
    simpa [Offset.text, Offset.seconds] using read

/-- A zone does not go on with a fraction. -/
theorem Offset.exists_toList_text (offset : Offset) :
    ∃ c cs, offset.text.toList = c :: cs ∧ c ≠ '.' ∧ c.isDigit = false := by
  cases offset with
  | utc => exact ⟨'Z', [], rfl, by decide, rfl⟩
  | ahead hours minutes =>
    exact ⟨'+', (clock hours minutes).toList, by simp [Offset.text], by decide, rfl⟩
  | behind hours minutes =>
    exact ⟨'-', (clock hours minutes).toList, by simp [Offset.text], by decide, rfl⟩

theorem fraction_text (f : Fraction) (point : c ≠ '.') (digit : c.isDigit = false) :
    fraction (f.text.toList ++ c :: cs) = some (f.nanos, c :: cs) := by
  obtain ⟨digits, areDigits, fits⟩ := f
  cases digits with
  | nil =>
    have zero : (Fraction.mk [] areDigits fits).nanos = 0 := Nat.zero_mul _
    rw [zero]
    exact fraction_of_ne point
  | cons d ds =>
    have stop : Stops (c :: cs) := fun _ same => Option.some.inj same ▸ digit
    have chars : (Fraction.mk (d :: ds) areDigits fits).text.toList ++ c :: cs =
        '.' :: (d :: ds ++ c :: cs) := by
      simp [Fraction.text]
    rw [chars]
    exact fraction_append areDigits (List.cons_ne_nil _ _) fits stop

/-! ## Reading -/

namespace Rendering

theorem read_text (r : Rendering) :
    read r.text = some ⟨r.time.seconds - r.ending.offset, r.ending.nanos⟩ := by
  have wide := r.plain.wide
  have noBlank : ∀ c ∈ r.text.toList, isBlank c = false := by
    rw [toList_text]
    exact Stamp.noBlank wide r.ending.noBlank
  have time := r.plain.toInstant? r.ending.nanos_lt r.ending.offset
  rw [← r.plain.civil] at time
  unfold read
  rw [Text.trimChars_of_noBlank noBlank, toList_text]
  dsimp only
  rw [readNaive_chars wide, readZoned_chars wide]
  cases ending : r.ending with
  | bare =>
    rw [ending] at time
    dsimp only [Ending.offset, Ending.nanos] at time ⊢
    rw [if_pos (by decide), time, Option.some_or]
  | zoned fraction offset =>
    rw [ending] at time
    dsimp only [Ending.offset, Ending.nanos] at time ⊢
    obtain ⟨c, cs, zoneChars, point, digit⟩ := offset.exists_toList_text
    have chars : (Ending.zoned fraction offset).text.toList =
        fraction.text.toList ++ offset.text.toList := by
      simp [Ending.text]
    have more : (fraction.text.toList ++ offset.text.toList).isEmpty = false := by
      simp [zoneChars]
    rw [chars, more, zoneChars, fraction_text fraction point digit, ← zoneChars]
    dsimp only [Option.bind_some]
    rw [zone_text, if_neg Bool.false_ne_true, Option.none_or, Option.bind_some]
    exact (if_pos List.isEmpty_nil).trans time

/-- A timestamp is read as the instant that it denotes, and it denotes one. -/
theorem read_text_iff (r : Rendering) (t : Instant) : read r.text = some t ↔ r.Denotes t := by
  rw [read_text, denotes_iff, Option.some.injEq, eq_comm]

end Rendering

/-! ## Printed instants -/

theorem exists_fraction_padded {width n : Nat} (positive : 0 < width) (most : width ≤ 9)
    (small : n < 10 ^ width) : ∃ f : Fraction, f.nanos = n * 10 ^ (9 - width) ∧
      f.text = "." ++ Instant.padded width n := by
  have digits := Text.areDigits_padded positive small
  have filled : (Instant.padded width n).toList ≠ [] := fun h => by
    rw [h] at digits
    exact absurd digits.1.symm (Nat.ne_of_gt positive)
  refine ⟨⟨_, digits.2, digits.1.symm ▸ most⟩, ?_, ?_⟩
  · unfold Fraction.nanos
    dsimp only
    rw [Text.numeral_padded, digits.1]
  · unfold Fraction.text
    dsimp only
    rw [if_neg (by simpa using filled), String.ofList_toList]

/-- Each number of nanoseconds is the fraction that is printed for it. -/
theorem exists_fraction {nanos : Nat} (less : nanos < 1000000000) :
    ∃ f : Fraction, f.nanos = nanos ∧ f.text = Instant.fractionText nanos := by
  unfold Instant.fractionText
  split
  · rename_i zero
    have whole : Fraction.nanos ⟨[], nofun, Nat.zero_le _⟩ = 0 := Nat.zero_mul _
    exact ⟨_, whole.trans zero.symm, rfl⟩
  split
  · have small : nanos / 1000000 < 10 ^ 3 := by omega
    obtain ⟨f, value, text⟩ := exists_fraction_padded (by decide) (by decide) small
    exact ⟨f, by omega, text⟩
  split
  · have small : nanos / 1000 < 10 ^ 6 := by omega
    obtain ⟨f, value, text⟩ := exists_fraction_padded (by decide) (by decide) small
    exact ⟨f, by omega, text⟩
  · have small : nanos < 10 ^ 9 := less
    obtain ⟨f, value, text⟩ := exists_fraction_padded (by decide) (by decide) small
    exact ⟨f, by omega, text⟩

theorem toText_eq {t : Instant} (less : t.nanos < 1000000000) :
    t.toText = (t.civilAt 0).text ++ (Instant.fractionText t.nanos ++ "Z") := by
  have noLeap : t.nanos / 1000000000 = 0 := Nat.div_eq_of_lt less
  unfold Instant.toText Instant.civilAt CivilTime.text
  dsimp only
  rw [noLeap, Int.add_zero, Nat.add_zero, Nat.zero_mul, Nat.sub_zero, String.append_assoc]

/-- What is printed of an instant is read back. -/
theorem read_toText {t : Instant} (less : t.nanos < 1000000000)
    (year : (t.civilAt 0).FourDigitYear) : read t.toText = some t := by
  obtain ⟨f, nanos, text⟩ := exists_fraction less
  have reads := (Rendering.read_text_iff _ t).2 (Rendering.denotes_of (e := .zoned f .utc) year nanos)
  unfold Rendering.text Rendering.of Ending.text Offset.text at reads
  rwa [toText_eq less, ← text]

/-! ## Order -/

theorem Stamp.chars_lt_iff {f f' : Stamp} {mark : Char} {us vs : List Char} (wide : f.Wide)
    (wide' : f'.Wide) : f.chars mark us < f'.chars mark vs ↔
      numeral f.year < numeral f'.year ∨ (numeral f.year = numeral f'.year ∧
        (numeral f.month < numeral f'.month ∨ (numeral f.month = numeral f'.month ∧
          (numeral f.day < numeral f'.day ∨ (numeral f.day = numeral f'.day ∧
            (numeral f.hour < numeral f'.hour ∨ (numeral f.hour = numeral f'.hour ∧
              (numeral f.minute < numeral f'.minute ∨ (numeral f.minute = numeral f'.minute ∧
                (numeral f.second < numeral f'.second ∨
                  (numeral f.second = numeral f'.second ∧ us < vs))))))))))) := by
  unfold chars
  rw [Text.field_lt_field_iff wide.year wide'.year, List.cons_lt_cons_self,
    Text.field_lt_field_iff wide.month wide'.month, List.cons_lt_cons_self,
    Text.field_lt_field_iff wide.day wide'.day, List.cons_lt_cons_self,
    Text.field_lt_field_iff wide.hour wide'.hour, List.cons_lt_cons_self,
    Text.field_lt_field_iff wide.minute wide'.minute, List.cons_lt_cons_self,
    Text.field_lt_field_iff wide.second wide'.second]

end Timestamp

theorem CivilTime.text_lt_iff {us vs : List Char} (plain : c.Plain) (plain' : c'.Plain) :
    c.stamp.chars 'T' us < c'.stamp.chars 'T' vs ↔
      c.seconds < c'.seconds ∨ (c.seconds = c'.seconds ∧ us < vs) := by
  rw [Timestamp.Stamp.chars_lt_iff plain.wide plain'.wide]
  simp only [stamp, plain.yearText, plain'.yearText, Text.numeral_padded]
  have year : 0 ≤ c.date.year ∧ c.date.year ≤ 9999 := plain.year
  have year' : 0 ≤ c'.date.year ∧ c'.date.year ≤ 9999 := plain'.year
  have minute := plain.minute
  have minute' := plain'.minute
  have second := plain.second
  have second' := plain'.second
  have hour := plain.hour
  have hour' := plain'.hour
  have before := Date.dayNumber_lt_iff plain.date plain'.date
  have after := Date.dayNumber_lt_iff plain'.date plain.date
  unfold Date.Before at before after
  unfold seconds secondOfDay
  -- Dates are ordered by their days, and the seconds of a day do not reach the next one.
  generalize (us < vs) = P
  by_cases h : P
  · simp only [h, and_true]
    omega
  · simp only [h, and_false, or_false]
    omega

namespace Timestamp

theorem Stamp.length_chars {f : Stamp} {mark : Char} {rest : List Char} (wide : f.Wide) :
    (f.chars mark rest).length = 19 + rest.length := by
  simp only [chars, List.length_append, List.length_cons, wide.year.1, wide.month.1, wide.day.1,
    wide.hour.1, wide.minute.1, wide.second.1]
  omega

/-- Fractions with equally many digits stand in the order of their nanoseconds. -/
theorem Fraction.text_lt_iff {f f' : Fraction} {rest : List Char}
    (same : f.digits.length = f'.digits.length) :
    f.text.toList ++ rest < f'.text.toList ++ rest ↔ f.nanos < f'.nanos := by
  obtain ⟨ds, areDigits, fits⟩ := f
  obtain ⟨ds', areDigits', fits'⟩ := f'
  dsimp only at same
  have place : 0 < 10 ^ (9 - ds.length) := Nat.pow_pos (by decide)
  unfold nanos text
  dsimp only
  rw [← same, Nat.mul_lt_mul_right place]
  by_cases whole : ds = []
  · obtain rfl := whole
    obtain rfl := List.length_eq_zero_iff.1 same.symm
    exact iff_of_false (List.lt_irrefl _) (Nat.lt_irrefl _)
  · have whole' : ds' ≠ [] := fun h => whole (List.length_eq_zero_iff.1 (same.trans (h ▸ rfl)))
    have digits : ds ++ rest < ds' ++ rest ↔ numeral ds < numeral ds' := by
      rw [Text.field_lt_field_iff ⟨rfl, areDigits⟩ ⟨same.symm, areDigits'⟩,
        or_iff_left fun h => List.lt_irrefl _ h.2]
    rw [← digits, if_neg (by simpa using whole), if_neg (by simpa using whole')]
    simp [List.cons_lt_cons_self]

theorem Fraction.length_text (f : Fraction) :
    f.text.length = if f.digits.length = 0 then 0 else f.digits.length + 1 := by
  unfold text
  by_cases whole : f.digits = []
  · simp [whole]
  · have point : ".".length = 1 := by decide
    simp [whole, point, Nat.add_comm]

theorem Ending.text_lt_iff {e e' : Ending} (universal : e.IsUniversal) (universal' : e'.IsUniversal)
    (length : e.text.length = e'.text.length) :
    e.text.toList < e'.text.toList ↔ e.nanos < e'.nanos := by
  have mark : "Z".length = 1 := by decide
  cases e with
  | bare =>
    cases e' with
    | bare => exact iff_of_false (List.lt_irrefl _) (Nat.lt_irrefl _)
    | zoned fraction' offset' =>
      obtain rfl : offset' = .utc := universal'
      simp [text, Offset.text, mark] at length
  | zoned fraction offset =>
    obtain rfl : offset = .utc := universal
    cases e' with
    | bare => simp [text, Offset.text, mark] at length
    | zoned fraction' offset' =>
      obtain rfl : offset' = .utc := universal'
      have same : fraction.digits.length = fraction'.digits.length := by
        simp only [text, String.length_append, Fraction.length_text] at length
        split at length <;> split at length <;> omega
      simp only [text, String.toList_append]
      exact Fraction.text_lt_iff same

/-- Texts of universal time that are equally long stand in the order of their instants. -/
theorem Rendering.text_lt_iff {r r' : Rendering} {t t' : Instant} (denotes : r.Denotes t)
    (denotes' : r'.Denotes t') (universal : r.ending.IsUniversal)
    (universal' : r'.ending.IsUniversal) (length : r.text.length = r'.text.length) :
    r.text < r'.text ↔ t.Before t' := by
  have ends : r.ending.text.length = r'.ending.text.length := by
    rw [← String.length_toList, ← String.length_toList, toList_text, toList_text,
      Stamp.length_chars r.plain.wide, Stamp.length_chars r'.plain.wide, String.length_toList,
      String.length_toList] at length
    omega
  have offset {e : Ending} (universal : e.IsUniversal) : e.offset = 0 := by
    cases e with
    | bare => rfl
    | zoned _ offset =>
      obtain rfl : offset = .utc := universal
      rfl
  obtain rfl := denotes_iff.1 denotes
  obtain rfl := denotes_iff.1 denotes'
  rw [String.lt_iff, toList_text, toList_text, CivilTime.text_lt_iff r.plain r'.plain,
    Ending.text_lt_iff universal universal' ends, offset universal, offset universal']
  unfold Instant.Before
  dsimp only
  rw [Int.sub_zero, Int.sub_zero]

/-- What a timestamp denotes is read, and what is written of an instant is read back, whatever blanks
stand around it; texts of universal time that are equally long stand in the order of their instants; and
no text has both forms, so that it does not matter which is tried first. -/
theorem read_renderings :
    (∀ r : Rendering, (∃ t, r.Denotes t) ∧ ∀ t, read r.text = some t ↔ r.Denotes t) ∧
    (∀ (t : Instant) (e : Ending) (year : (t.civilAt e.offset).FourDigitYear),
      e.nanos = t.nanos → read (Rendering.of t e year).text = some t) ∧
    (∀ (raw : String) (front back : List Char),
      (∀ c ∈ front, isBlank c = true) → (∀ c ∈ back, isBlank c = true) →
      read (String.ofList front ++ raw ++ String.ofList back) = read raw) ∧
    (∀ (r r' : Rendering) (t t' : Instant), read r.text = some t → read r'.text = some t' →
      r.ending.IsUniversal → r'.ending.IsUniversal → r.text.length = r'.text.length →
      (r.text < r'.text ↔ t.Before t')) ∧
    (∀ cs, readNaive cs = none ∨ readZoned cs = none) ∧
    ∀ raw : String, (readZoned (Text.trimChars raw.toList)).or
      (readNaive (Text.trimChars raw.toList)) = read raw := by
  have oneForm (cs : List Char) : readNaive cs = none ∨ readZoned cs = none := by
    cases zoned : readZoned cs with
    | none => exact .inr rfl
    | some t => exact .inl (readNaive_eq_none zoned)
  refine ⟨fun r => ⟨⟨_, Rendering.denotes_iff.2 rfl⟩, r.read_text_iff⟩, ?_, ?_, ?_, oneForm, ?_⟩
  · intro t e year fraction
    exact (Rendering.read_text_iff _ t).2 (Rendering.denotes_of year fraction)
  · intro raw front back before after
    unfold read
    simp only [String.toList_append, String.toList_ofList]
    rw [Text.trimChars_blanks before after]
  · intro r r' t t' reads reads' universal universal' length
    exact Rendering.text_lt_iff ((r.read_text_iff t).1 reads) ((r'.read_text_iff t').1 reads') universal
      universal' length
  · intro raw
    unfold read
    dsimp only
    rcases oneForm (Text.trimChars raw.toList) with failed | failed
    · rw [failed, Option.or_none, Option.none_or]
    · rw [failed, Option.or_none, Option.none_or]

/-- Half a second. -/
def Fraction.half : Fraction := ⟨['5'], List.forall_mem_singleton.2 rfl, by decide⟩

/-- The last second of a leap day, and a half, in a zone that is half an hour behind. -/
def Rendering.leapDay : Rendering where
  time := ⟨⟨2024, 2, 29⟩, 23, 59, 59, 0⟩
  plain := ⟨by decide, by decide, by decide, by decide, by decide, rfl⟩
  ending := .zoned .half (.behind 0 30)

/-- In universal time that second is one of the next month. -/
theorem read_renderings_leapDay :
    read "2024-02-29T23:59:59.5-00:30" = some ⟨1709252999, 500000000⟩ ∧
    read "2024-03-01T00:29:59.5Z" = some ⟨1709252999, 500000000⟩ ∧
    read " 2024-03-01T00:29:59.5Z\n" = some ⟨1709252999, 500000000⟩ ∧
    "2024-02-29T23:59:59.5Z" < "2024-03-01T00:29:59.5Z" := by
  obtain ⟨reads, writes, blanks, order, -, -⟩ := read_renderings
  have behind := ((reads .leapDay).2 ⟨1709252999, 500000000⟩).2
    ⟨19782, Date.falls_iff.2 ⟨by decide, by decide⟩, by decide, by decide⟩
  have later := writes ⟨1709252999, 500000000⟩ (.zoned .half .utc) (by decide) (by decide)
  have earlier := writes ⟨1709251199, 500000000⟩ (.zoned .half .utc) (by decide) (by decide)
  have ordered := order _ _ _ _ earlier later rfl rfl (by decide)
  have behindText : Rendering.leapDay.text = "2024-02-29T23:59:59.5-00:30" := by decide
  have laterText : (Rendering.of ⟨1709252999, 500000000⟩ (.zoned .half .utc) (by decide)).text =
      "2024-03-01T00:29:59.5Z" := by decide
  have earlierText : (Rendering.of ⟨1709251199, 500000000⟩ (.zoned .half .utc) (by decide)).text =
      "2024-02-29T23:59:59.5Z" := by decide
  rw [behindText] at behind
  rw [laterText] at later
  rw [earlierText, laterText] at ordered
  have around := blanks "2024-03-01T00:29:59.5Z" [' '] ['\n'] (List.forall_mem_singleton.2 rfl)
    (List.forall_mem_singleton.2 rfl)
  rw [later] at around
  exact ⟨behind, later, around, ordered.2 (by decide)⟩

end Timestamp
end CloudSweep
