/-
Reading the fields of a timestamp. Fields of full width are read alike in both forms, one after the
other; then the naive form is at its end, and the form with a zone is not. So no text has both forms.
-/
import CloudSweep.Proofs.Text.Digits
import CloudSweep.Time.Reader
import Mathlib.Data.List.TakeWhile

namespace CloudSweep.Timestamp

open Text (AreDigits numeral)

variable {ds cs rest : List Char} {least most n : Nat} {c mark : Char} {t : Instant}

/-! ## Numbers -/

/-- What follows does not go on with a digit. -/
def Stops (rest : List Char) : Prop := ∀ c ∈ rest.head?, c.isDigit = false

theorem takeDigits_append (digits : ∀ c ∈ ds, c.isDigit = true) (fits : ds.length ≤ most)
    (stop : ds.length = most ∨ Stops rest) : takeDigits most (ds ++ rest) = (ds, rest) := by
  have ended : (rest.take (most - ds.length)).takeWhile Char.isDigit = [] := by
    rcases stop with full | stop
    · rw [full, Nat.sub_self]
      rfl
    · cases rest with
      | nil => simp
      | cons c rest =>
        have noDigit : c.isDigit = false := stop c rfl
        cases most - ds.length with
        | zero => rfl
        | succ m => simp [noDigit]
  unfold takeDigits
  rw [List.take_append, List.take_of_length_le fits, List.takeWhile_append_of_pos digits, ended,
    List.append_nil]
  dsimp only
  rw [List.drop_left]

theorem number_append (h : AreDigits n ds) (least_le : least ≤ n) (le_most : n ≤ most)
    (stop : n = most ∨ Stops rest) : number least most (ds ++ rest) = some (numeral ds, rest) := by
  obtain ⟨rfl, digits⟩ := h
  unfold number
  rw [takeDigits_append digits le_most stop]
  dsimp only
  rw [if_pos least_le]

/-- A number that is read is spelled by the digits in front of the rest. -/
theorem exists_of_number {value : Nat} (h : number least most cs = some (value, rest)) :
    ∃ ds, cs = ds ++ rest ∧ least ≤ ds.length ∧ ds.length ≤ most ∧
      (∀ c ∈ ds, c.isDigit = true) ∧ numeral ds = value := by
  unfold number takeDigits at h
  dsimp only at h
  have front : (cs.take most).takeWhile Char.isDigit <+: cs :=
    (List.takeWhile_prefix _).trans (List.take_prefix _ _)
  split at h
  · rename_i enough
    obtain ⟨rfl, rfl⟩ := Prod.mk.inj (Option.some.inj h)
    refine ⟨_, (List.prefix_iff_eq_append.1 front).symm, enough, ?_,
      fun c hc => List.mem_takeWhile_imp hc, rfl⟩
    exact Nat.le_trans (List.takeWhile_prefix _).length_le (List.length_take_le _ _)
  · cases h

theorem areDigits_of_number {width value : Nat} (h : number width width cs = some (value, rest)) :
    ∃ ds, AreDigits width ds ∧ cs = ds ++ rest := by
  obtain ⟨ds, split, least, most, digits, -⟩ := exists_of_number h
  exact ⟨ds, ⟨Nat.le_antisymm most least, digits⟩, split⟩

theorem literal_cons (c : Char) (rest : List Char) : literal c (c :: rest) = some ((), rest) :=
  if_pos rfl

theorem eq_cons_of_literal {u : Unit} (h : literal c cs = some (u, rest)) : cs = c :: rest := by
  unfold literal at h
  split at h
  · split at h
    · rename_i same
      cases h
      rw [same]
    · cases h
  · cases h

theorem dateTimeMark_cons (rest : List Char) : dateTimeMark ('T' :: rest) = some ((), rest) := rfl

/-- A field of digits starts with one of them, and no blanks stand before it. -/
theorem trimLeft_append (h : AreDigits (n + 1) ds) : Text.trimLeft (ds ++ rest) = ds ++ rest := by
  obtain ⟨c, others, rfl⟩ := List.exists_of_length_succ ds h.1
  have blank := Text.isBlank_of_isDigit (h.2 c List.mem_cons_self)
  rw [List.cons_append, Text.trimLeft, List.dropWhile_cons_of_neg (by simp [blank])]

theorem looseField_append (h : AreDigits 2 ds) : looseField (ds ++ rest) = some (numeral ds, rest) := by
  unfold looseField
  rw [trimLeft_append h, number_append h (by decide) (by decide) (.inl rfl)]

theorem looseYear_append (h : AreDigits 4 ds) :
    looseYear (ds ++ rest) = some ((numeral ds : Int), rest) := by
  have read : number 1 4 (ds ++ rest) = some (numeral ds, rest) :=
    number_append h (by decide) (by decide) (.inl rfl)
  unfold looseYear
  rw [trimLeft_append h]
  obtain ⟨c, others, rfl⟩ := List.exists_of_length_succ ds h.1
  have digit := h.2 c List.mem_cons_self
  split
  · rename_i minus
    cases (List.cons.inj minus).1
    cases digit
  · rename_i plus
    cases (List.cons.inj plus).1
    cases digit
  · rw [read]
    rfl

/-! ## Fields of full width -/

/-- Date and time of day as they are written, field by field. -/
structure Stamp where
  year : List Char
  month : List Char
  day : List Char
  hour : List Char
  minute : List Char
  second : List Char

namespace Stamp

/-- The fields with what stands between them and what follows. -/
def chars (f : Stamp) (mark : Char) (rest : List Char) : List Char :=
  f.year ++ '-' :: (f.month ++ '-' :: (f.day ++ mark ::
    (f.hour ++ ':' :: (f.minute ++ ':' :: (f.second ++ rest)))))

/-- All fields have their full width. -/
structure Wide (f : Stamp) : Prop where
  year : AreDigits 4 f.year
  month : AreDigits 2 f.month
  day : AreDigits 2 f.day
  hour : AreDigits 2 f.hour
  minute : AreDigits 2 f.minute
  second : AreDigits 2 f.second

/-- The time that the fields name. -/
def civil (f : Stamp) (nanos : Nat) : CivilTime where
  date := { year := numeral f.year, month := numeral f.month, day := numeral f.day }
  hour := numeral f.hour
  minute := numeral f.minute
  second := numeral f.second
  nanos := nanos

end Stamp

variable {f : Stamp}

/-- A reader that takes its part off the text hands what it found, and the rest, to what comes next. -/
theorem bind_of_read {α β : Type} {reader : Reader α} {found : α} {next : α × List Char → Option β}
    (read : reader cs = some (found, rest)) : (reader cs >>= next) = next (found, rest) := by
  rw [read]
  rfl

theorem readNaive_chars (wide : f.Wide) :
    readNaive (f.chars 'T' rest) = if rest.isEmpty then (f.civil 0).toInstant? 0 else none := by
  unfold readNaive Stamp.chars
  refine (bind_of_read (looseYear_append wide.year)).trans ?_
  refine (bind_of_read (literal_cons _ _)).trans ?_
  refine (bind_of_read (looseField_append wide.month)).trans ?_
  refine (bind_of_read (literal_cons _ _)).trans ?_
  refine (bind_of_read (looseField_append wide.day)).trans ?_
  refine (bind_of_read (literal_cons _ _)).trans ?_
  refine (bind_of_read (looseField_append wide.hour)).trans ?_
  refine (bind_of_read (literal_cons _ _)).trans ?_
  refine (bind_of_read (looseField_append wide.minute)).trans ?_
  refine (bind_of_read (literal_cons _ _)).trans ?_
  exact bind_of_read (looseField_append wide.second)

/-- The naive form has one mark only between date and time of day. -/
theorem readNaive_chars_of_ne (wide : f.Wide) (other : mark ≠ 'T') :
    readNaive (f.chars mark rest) = none := by
  unfold readNaive Stamp.chars
  refine (bind_of_read (looseYear_append wide.year)).trans ?_
  refine (bind_of_read (literal_cons _ _)).trans ?_
  refine (bind_of_read (looseField_append wide.month)).trans ?_
  refine (bind_of_read (literal_cons _ _)).trans ?_
  refine (bind_of_read (looseField_append wide.day)).trans ?_
  exact Option.bind_eq_none_iff.2 fun _ read =>
    absurd (List.cons.inj (eq_cons_of_literal read)).1 other

/-- A field of the form with a zone has its full width. -/
theorem field_append (h : AreDigits n ds) : number n n (ds ++ rest) = some (numeral ds, rest) :=
  number_append h (Nat.le_refl n) (Nat.le_refl n) (.inl rfl)

theorem readZoned_chars (wide : f.Wide) :
    readZoned (f.chars 'T' rest) = (fraction rest).bind fun (nanos, cs) =>
      (zone cs).bind fun (offset, cs) =>
        if cs.isEmpty then (f.civil nanos).toInstant? offset else none := by
  unfold readZoned Stamp.chars
  refine (bind_of_read (field_append wide.year)).trans ?_
  refine (bind_of_read (literal_cons _ _)).trans ?_
  refine (bind_of_read (field_append wide.month)).trans ?_
  refine (bind_of_read (literal_cons _ _)).trans ?_
  refine (bind_of_read (field_append wide.day)).trans ?_
  refine (bind_of_read (dateTimeMark_cons _)).trans ?_
  refine (bind_of_read (field_append wide.hour)).trans ?_
  refine (bind_of_read (literal_cons _ _)).trans ?_
  refine (bind_of_read (field_append wide.minute)).trans ?_
  refine (bind_of_read (literal_cons _ _)).trans ?_
  exact bind_of_read (field_append wide.second)

/-- Without a point there is no fraction. -/
theorem fraction_of_ne (other : c ≠ '.') : fraction (c :: cs) = some (0, c :: cs) := by
  unfold fraction
  split
  · rename_i same
    exact absurd (List.cons.inj same).1 other
  · rfl

theorem fraction_cons (cs : List Char) : fraction ('.' :: cs) =
    if (takeDigits 9 cs).1.isEmpty then none
    else some (numeral (takeDigits 9 cs).1 * 10 ^ (9 - (takeDigits 9 cs).1.length),
      (takeDigits 9 cs).2.dropWhile Char.isDigit) :=
  rfl

theorem fraction_append (digits : ∀ c ∈ ds, c.isDigit = true) (more : ds ≠ [])
    (fits : ds.length ≤ 9) (stop : Stops rest) :
    fraction ('.' :: (ds ++ rest)) = some (numeral ds * 10 ^ (9 - ds.length), rest) := by
  have kept : rest.dropWhile Char.isDigit = rest := by
    cases rest with
    | nil => rfl
    | cons c rest => exact List.dropWhile_cons_of_neg (by simp [stop c rfl])
  rw [fraction_cons, takeDigits_append digits fits (.inr stop), if_neg (by simpa using more), kept]

/-- A text with a zone has fields of full width, and does not end with them. -/
theorem exists_of_readZoned (h : readZoned cs = some t) :
    ∃ (f : Stamp) (mark : Char) (rest : List Char), f.Wide ∧ cs = f.chars mark rest ∧ rest ≠ [] := by
  unfold readZoned at h
  obtain ⟨⟨_, cs₁⟩, year, h⟩ := Option.bind_eq_some_iff.1 h
  obtain ⟨⟨_, cs₂⟩, dash, h⟩ := Option.bind_eq_some_iff.1 h
  obtain ⟨⟨_, cs₃⟩, month, h⟩ := Option.bind_eq_some_iff.1 h
  obtain ⟨⟨_, cs₄⟩, dash', h⟩ := Option.bind_eq_some_iff.1 h
  obtain ⟨⟨_, cs₅⟩, day, h⟩ := Option.bind_eq_some_iff.1 h
  obtain ⟨⟨_, cs₆⟩, mark, h⟩ := Option.bind_eq_some_iff.1 h
  obtain ⟨⟨_, cs₇⟩, hour, h⟩ := Option.bind_eq_some_iff.1 h
  obtain ⟨⟨_, cs₈⟩, colon, h⟩ := Option.bind_eq_some_iff.1 h
  obtain ⟨⟨_, cs₉⟩, minute, h⟩ := Option.bind_eq_some_iff.1 h
  obtain ⟨⟨_, cs₁₀⟩, colon', h⟩ := Option.bind_eq_some_iff.1 h
  obtain ⟨⟨_, cs₁₁⟩, second, h⟩ := Option.bind_eq_some_iff.1 h
  obtain ⟨⟨_, cs₁₂⟩, point, h⟩ := Option.bind_eq_some_iff.1 h
  obtain ⟨⟨_, cs₁₃⟩, zoned, -⟩ := Option.bind_eq_some_iff.1 h
  clear h
  obtain ⟨m₁, mark⟩ : ∃ c, cs₅ = c :: cs₆ := by
    unfold dateTimeMark at mark
    split at mark
    · split at mark
      · cases mark
        exact ⟨_, rfl⟩
      · cases mark
    · cases mark
  cases eq_cons_of_literal dash
  cases eq_cons_of_literal dash'
  cases eq_cons_of_literal colon
  cases eq_cons_of_literal colon'
  cases mark
  obtain ⟨y, wideYear, rfl⟩ := areDigits_of_number year
  obtain ⟨mo, wideMonth, rfl⟩ := areDigits_of_number month
  obtain ⟨d, wideDay, rfl⟩ := areDigits_of_number day
  obtain ⟨ho, wideHour, rfl⟩ := areDigits_of_number hour
  obtain ⟨mi, wideMinute, rfl⟩ := areDigits_of_number minute
  obtain ⟨se, wideSecond, rfl⟩ := areDigits_of_number second
  refine ⟨⟨y, mo, d, ho, mi, se⟩, m₁, cs₁₁,
    ⟨wideYear, wideMonth, wideDay, wideHour, wideMinute, wideSecond⟩, rfl, ?_⟩
  -- A zone takes at least a character, and without a fraction it stands right here.
  rintro rfl
  cases point
  cases zoned

/-- No text has both forms. -/
theorem readNaive_eq_none (h : readZoned cs = some t) : readNaive cs = none := by
  obtain ⟨f, mark, rest, wide, rfl, more⟩ := exists_of_readZoned h
  by_cases same : mark = 'T'
  · rw [same, readNaive_chars wide, if_neg (by simpa using more)]
  · exact readNaive_chars_of_ne wide same

end CloudSweep.Timestamp
