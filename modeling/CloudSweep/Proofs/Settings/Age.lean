/-
The cutoff of an age. It is exact: the instant that lies the age of days and rounded hours before now,
to the millisecond, or a refusal if the age is no span or no instant lies there. Only an age of zero
takes everything. The cut at the longest span never shows, since no instant lies that far back. With
the same hours, fewer days take at least as much.
-/
import CloudSweep.Proofs.Selection.Cutoff

namespace CloudSweep

/-! ## Earlier instants -/

namespace Instant

variable {t u now : Instant} {millis millis' : Nat}

/-- The instant lies so many milliseconds before the other, and is no leap second. -/
structure LiesBefore (t now : Instant) (millis : Nat) : Prop where
  ordinary : t.nanos < 1000000000
  toNanos_eq : t.toNanos = now.toNanos - millis * 1000000
  inRange : t.isRepresentable = true

theorem toNanos_ofNanos (total : Int) : (ofNanos total).toNanos = total := by
  unfold toNanos ofNanos
  dsimp only
  omega

theorem nanos_ofNanos_lt (total : Int) : (ofNanos total).nanos < 1000000000 := by
  unfold ofNanos
  dsimp only
  omega

theorem ofNanos_toNanos (ordinary : t.nanos < 1000000000) : ofNanos t.toNanos = t := by
  obtain ⟨seconds, nanos⟩ := t
  unfold toNanos ofNanos
  dsimp only at ordinary ⊢
  rw [mk.injEq]
  omega

theorem isRepresentable_iff :
    t.isRepresentable = true ↔ firstSecond ≤ t.seconds ∧ t.seconds < endSecond := by
  simp [isRepresentable]

theorem minusMillis?_eq_some_iff (ordinary : now.nanos < 1000000000) :
    now.minusMillis? millis = some t ↔ t.LiesBefore now millis := by
  have noLeap : ¬ (1000000000 ≤ now.nanos ∧ millis < 1000) := by omega
  simp only [minusMillis?, if_neg noLeap]
  constructor
  · intro h
    split at h
    · rename_i inRange
      cases h
      exact ⟨nanos_ofNanos_lt _, toNanos_ofNanos _, inRange⟩
    · cases h
  · intro h
    rw [← h.toNanos_eq, ofNanos_toNanos h.ordinary, if_pos h.inRange]

theorem liesBefore_zero (ordinary : now.nanos < 1000000000) (inRange : now.isRepresentable = true) :
    now.LiesBefore now 0 := ⟨ordinary, by simp, inRange⟩

/-- Instants that lie further back are not later. -/
theorem LiesBefore.le (h : t.LiesBefore now millis) (h' : u.LiesBefore now millis')
    (le : millis ≤ millis') : u ≤ t := by
  have nanos := h.toNanos_eq
  have nanos' := h'.toNanos_eq
  have ordinary := h.ordinary
  unfold toNanos at nanos nanos'
  show ¬ (t.seconds < u.seconds ∨ (t.seconds = u.seconds ∧ t.nanos < u.nanos))
  omega

/-- Between an instant and an earlier one there are instants as far back as one likes. -/
theorem exists_liesBefore_of_le (ordinary : now.nanos < 1000000000)
    (inRange : now.isRepresentable = true) (h : u.LiesBefore now millis') (le : millis ≤ millis') :
    ∃ t : Instant, t.LiesBefore now millis := by
  generalize reach : ofNanos (now.toNanos - millis * 1000000) = t
  have exact : t.toNanos = now.toNanos - millis * 1000000 := reach ▸ toNanos_ofNanos _
  have small : t.nanos < 1000000000 := reach ▸ nanos_ofNanos_lt _
  refine ⟨t, small, exact, isRepresentable_iff.2 ?_⟩
  have first := (isRepresentable_iff.1 h.inRange).1
  have last := (isRepresentable_iff.1 inRange).2
  have nanos' := h.toNanos_eq
  have ordinary' := h.ordinary
  unfold toNanos at exact nanos'
  omega

/-- All instants lie within ten trillion seconds of the start of 1970. -/
theorem range_bounds : -10000000000000 < firstSecond ∧ endSecond < 10000000000000 := by decide

/-- No instant lies before another by the longest span. -/
theorem not_liesBefore_of_longest_le (ordinary : now.nanos < 1000000000)
    (inRange : now.isRepresentable = true) (long : Span.longest ≤ millis) :
    ¬ t.LiesBefore now millis := by
  intro h
  have far : 9223372036854775807 ≤ millis := long
  have first := (isRepresentable_iff.1 h.inRange).1
  have last := (isRepresentable_iff.1 inRange).2
  have bounds := range_bounds
  have nanos := h.toNanos_eq
  unfold toNanos at nanos
  omega

end Instant

/-! ## Ages -/

namespace Cutoff

variable {now instant : Instant} {days : Nat} {hours : Binary64} {span : Span} {error : SettingsError}

/-- The hours in milliseconds, rounded to a whole number; none if they are infinitely many. -/
def hourMillis? (hours : Binary64) : Option Nat := (hours.scale 3600000).roundNat?

theorem wholeMillis?_eq_some_iff {whole : Nat} :
    wholeMillis? hours = some whole ↔ ∃ millis, hourMillis? hours = some millis ∧
      millis ≤ nearLongest ∧ whole = min millis Span.longest := by
  unfold wholeMillis? hourMillis?
  rcases (hours.scale 3600000).roundNat? with _ | millis
  · simp
  · by_cases long : nearLongest < millis
    · simp [long]
    · simp [Nat.not_lt.1 long, eq_comm]

/-- A span is the age to the millisecond, but for the cut where doubles do not tell the hours from the
longest span. -/
theorem age?_eq_some_iff :
    age? days hours = some span ↔ ∃ millis, hourMillis? hours = some millis ∧
      millis ≤ nearLongest ∧ span.millis = days * 86400000 + min millis Span.longest := by
  unfold age?
  constructor
  · intro h
    obtain ⟨whole, found, h⟩ := Option.bind_eq_some_iff.1 h
    obtain ⟨d, ofDays, h⟩ := Option.bind_eq_some_iff.1 h
    obtain ⟨p, ofMillis, sum⟩ := Option.bind_eq_some_iff.1 h
    obtain ⟨millis, rounded, le, rfl⟩ := wholeMillis?_eq_some_iff.1 found
    refine ⟨millis, rounded, le, ?_⟩
    rw [Span.ofMillis?_eq_some_iff.1 sum, Span.ofMillis?_eq_some_iff.1 ofDays,
      Span.ofMillis?_eq_some_iff.1 ofMillis]
  · rintro ⟨millis, rounded, le, total⟩
    -- Both parts fit into a span, because their sum does.
    have fits := span.fits
    have ofDays : Span.ofDays? days = some ⟨days * 86400000, by omega⟩ :=
      Span.ofMillis?_eq_some_iff.2 rfl
    have ofMillis : Span.ofMillis? (min millis Span.longest) =
        some ⟨min millis Span.longest, by omega⟩ := Span.ofMillis?_eq_some_iff.2 rfl
    refine Option.bind_eq_some_iff.2 ⟨_, wholeMillis?_eq_some_iff.2 ⟨millis, rounded, le, rfl⟩, ?_⟩
    refine Option.bind_eq_some_iff.2 ⟨_, ofDays, Option.bind_eq_some_iff.2 ⟨_, ofMillis, ?_⟩⟩
    exact Span.ofMillis?_eq_some_iff.2 total

/-- The instant lies the age before now, and the age is a span: so many days, and the hours in whole
milliseconds. -/
def Reaches (now : Instant) (days : Nat) (hours : Binary64) (instant : Instant) : Prop :=
  ∃ millis, hourMillis? hours = some millis ∧ days * 86400000 + millis ≤ Span.longest ∧
    instant.LiesBefore now (days * 86400000 + millis)

/-- The cut at the longest span does not show: no instant lies that far back. -/
theorem reaches_iff (ordinary : now.nanos < 1000000000) (inRange : now.isRepresentable = true) :
    ((age? days hours).bind fun age => now.minusMillis? age.millis) = some instant ↔
      Reaches now days hours instant := by
  simp only [Reaches, Option.bind_eq_some_iff, Instant.minusMillis?_eq_some_iff ordinary, age?_eq_some_iff]
  constructor
  · rintro ⟨span, ⟨millis, rounded, le, total⟩, back⟩
    refine ⟨millis, rounded, ?_⟩
    have fits := span.fits
    rcases Nat.lt_or_ge Span.longest millis with long | short
    · rw [Nat.min_eq_right (Nat.le_of_lt long)] at total
      exact absurd back (Instant.not_liesBefore_of_longest_le ordinary inRange (by omega))
    · rw [Nat.min_eq_left short] at total
      exact ⟨total ▸ fits, total ▸ back⟩
  · rintro ⟨millis, rounded, fits, back⟩
    have short : millis ≤ Span.longest := by omega
    have near : Span.longest ≤ nearLongest := by decide
    refine ⟨⟨_, fits⟩, ⟨millis, rounded, Nat.le_trans short near, ?_⟩, back⟩
    rw [Nat.min_eq_left short]

variable {days' : Nat} {c c' : Cutoff}

/-- An age in order is zero, or it reaches an instant, or it is refused. -/
theorem ofMaxAge_cases (ordinary : now.nanos < 1000000000) (inRange : now.isRepresentable = true)
    (finite : hours.isFinite = true) (nonneg : hours.isNegative = false) (days : Nat) :
    (days = 0 ∧ hours.isZero = true ∧ ofMaxAge now days hours = .ok .clearAll) ∨
      ¬ (days = 0 ∧ hours.isZero = true) ∧
        ((∃ instant, Reaches now days hours instant ∧
            ofMaxAge now days hours = .ok (.before instant)) ∨
          (∀ instant, ¬ Reaches now days hours instant) ∧
            ofMaxAge now days hours = .error (.ageOutOfRange days hours)) := by
  have inOrder : ¬ ((!hours.isFinite) = true ∨ hours.isNegative = true) := by simp [finite, nonneg]
  unfold ofMaxAge
  rw [if_neg inOrder]
  by_cases zero : days = 0 ∧ hours.isZero = true
  · exact .inl ⟨zero.1, zero.2, if_pos zero⟩
  rw [if_neg zero]
  refine .inr ⟨zero, ?_⟩
  simp only [← reaches_iff ordinary inRange]
  rcases (age? days hours).bind fun age => now.minusMillis? age.millis with _ | instant
  · exact .inr ⟨nofun, rfl⟩
  · exact .inl ⟨instant, rfl, rfl⟩

/-- An age reaches one instant at most. -/
theorem Reaches.unique {instant' : Instant} (h : Reaches now days hours instant)
    (h' : Reaches now days hours instant') : instant = instant' := by
  obtain ⟨millis, rounded, -, back⟩ := h
  obtain ⟨millis', rounded', -, back'⟩ := h'
  cases rounded.symm.trans rounded'
  rw [← Instant.ofNanos_toNanos back.ordinary, ← Instant.ofNanos_toNanos back'.ordinary,
    back.toNanos_eq, back'.toNanos_eq]

/-- With fewer days an age that reaches an instant reaches one that is not earlier. -/
theorem Reaches.of_le (ordinary : now.nanos < 1000000000) (inRange : now.isRepresentable = true)
    (h : Reaches now days' hours instant) (le : days ≤ days') :
    ∃ later, Reaches now days hours later ∧ instant ≤ later := by
  obtain ⟨millis, rounded, fits, back⟩ := h
  have shorter : days * 86400000 + millis ≤ days' * 86400000 + millis :=
    Nat.add_le_add_right (Nat.mul_le_mul_right _ le) _
  have fits' := Nat.le_trans shorter fits
  obtain ⟨later, near⟩ := Instant.exists_liesBefore_of_le ordinary inRange back shorter
  have notLater := near.le back shorter
  exact ⟨later, ⟨millis, rounded, fits', near⟩, notLater⟩

/-- An age measured back from now takes everything exactly if it is zero, and otherwise what was created
before the instant that lies exactly as far back, if the age is a span and there is such an instant.
Hours that are positive and round to nothing lead to now itself. Fewer days take at least as much. -/
theorem ofMaxAge_exact (now : Instant) (hours : Binary64) (ordinary : now.nanos < 1000000000)
    (inRange : now.isRepresentable = true) (finite : hours.isFinite = true)
    (nonneg : hours.isNegative = false) :
    (∀ days, ofMaxAge now days hours = .ok .clearAll ↔ days = 0 ∧ hours.isZero = true) ∧
      (∀ days instant, ofMaxAge now days hours = .ok (.before instant) ↔
        ¬ (days = 0 ∧ hours.isZero = true) ∧ Reaches now days hours instant) ∧
      (∀ days error, ofMaxAge now days hours = .error error ↔
        error = .ageOutOfRange days hours ∧ ¬ (days = 0 ∧ hours.isZero = true) ∧
          ∀ instant, ¬ Reaches now days hours instant) ∧
      (hours.isZero = false → hourMillis? hours = some 0 →
        ofMaxAge now 0 hours = .ok (.before now)) ∧
      ∀ days days' c', days ≤ days' → ofMaxAge now days' hours = .ok c' →
        ∃ c, ofMaxAge now days hours = .ok c ∧
          ∀ created, c'.includes created = true → c.includes created = true := by
  have cases := ofMaxAge_cases ordinary inRange finite nonneg
  refine ⟨fun days => ?_, fun days instant => ?_, fun days error => ?_, fun positive rounded => ?_,
    fun days days' c' le h => ?_⟩
  · rcases cases days with ⟨noDays, noHours, taken⟩ | ⟨zero, ⟨t, -, taken⟩ | ⟨-, refused⟩⟩
    · exact iff_of_true taken ⟨noDays, noHours⟩
    · exact iff_of_false (by rw [taken]; exact nofun) zero
    · exact iff_of_false (by rw [refused]; exact nofun) zero
  · rcases cases days with ⟨noDays, noHours, taken⟩ | ⟨zero, ⟨t, reaches, taken⟩ | ⟨nowhere, refused⟩⟩
    · exact iff_of_false (by rw [taken]; exact nofun) fun ⟨zero, _⟩ => zero ⟨noDays, noHours⟩
    · rw [taken]
      constructor
      · rintro ⟨⟩
        exact ⟨zero, reaches⟩
      · rintro ⟨-, reaches'⟩
        rw [reaches.unique reaches']
    · exact iff_of_false (by rw [refused]; exact nofun) fun ⟨_, reaches⟩ => nowhere instant reaches
  · rcases cases days with ⟨noDays, noHours, taken⟩ | ⟨zero, ⟨t, reaches, taken⟩ | ⟨nowhere, refused⟩⟩
    · exact iff_of_false (by rw [taken]; exact nofun) fun ⟨_, zero, _⟩ => zero ⟨noDays, noHours⟩
    · exact iff_of_false (by rw [taken]; exact nofun) fun ⟨_, _, nowhere⟩ => nowhere t reaches
    · rw [refused]
      constructor
      · rintro ⟨⟩
        exact ⟨rfl, zero, nowhere⟩
      · rintro ⟨rfl, -⟩
        rfl
  · have here : Reaches now 0 hours now :=
      ⟨0, rounded, Nat.zero_le _, Instant.liesBefore_zero ordinary inRange⟩
    rcases cases 0 with ⟨-, noHours, -⟩ | ⟨-, ⟨t, reaches, taken⟩ | ⟨nowhere, -⟩⟩
    · cases positive.symm.trans noHours
    · rw [taken, reaches.unique here]
    · exact absurd here (nowhere now)
  · rcases cases days' with ⟨rfl, noHours, taken⟩ | ⟨-, ⟨t, reaches, taken⟩ | ⟨-, refused⟩⟩
    · cases Nat.le_zero.1 le
      exact ⟨c', h, fun _ taken => taken⟩
    · cases h.symm.trans taken
      rcases cases days with ⟨-, -, taken'⟩ | ⟨-, ⟨t', reaches', taken'⟩ | ⟨nowhere, -⟩⟩
      · exact ⟨.clearAll, taken', fun _ _ => rfl⟩
      · obtain ⟨later, reaches'', notEarlier⟩ := reaches.of_le ordinary inRange le
        cases reaches'.unique reaches''
        exact ⟨.before t', taken', fun _ => includes_of_le notEarlier⟩
      · obtain ⟨later, reaches', -⟩ := reaches.of_le ordinary inRange le
        exact absurd reaches' (nowhere later)
    · cases h.symm.trans refused

/-- Noon of 1 June 2024. -/
def noon : Instant := ⟨1717243200, 0⟩

/-- The least positive number of hours. -/
def instantly : Binary64 := .finite false 1 (-1074)

theorem ofMaxAge_exact_noon :
    (noon.nanos < 1000000000 ∧ noon.isRepresentable = true) ∧
      ((Binary64.ofRatio false 3 2).isFinite = true ∧ (Binary64.ofRatio false 3 2).isNegative = false ∧
        ofMaxAge noon 1 (.ofRatio false 3 2) = .ok (.before ⟨1717151400, 0⟩) ∧
        ∃ c, ofMaxAge noon 0 (.ofRatio false 3 2) = .ok c ∧ ∀ created,
          (Cutoff.before ⟨1717151400, 0⟩).includes created = true → c.includes created = true) ∧
      instantly.isFinite = true ∧ instantly.isNegative = false ∧ instantly.isZero = false ∧
        hourMillis? instantly = some 0 ∧ ofMaxAge noon 0 instantly = .ok (.before noon) := by
  have ordinary : noon.nanos < 1000000000 := by decide
  have inRange : noon.isRepresentable = true := by decide
  have finite : (Binary64.ofRatio false 3 2).isFinite = true := by decide +kernel
  have nonneg : (Binary64.ofRatio false 3 2).isNegative = false := by decide +kernel
  have rounded : hourMillis? (.ofRatio false 3 2) = some 5400000 := by decide +kernel
  have finite' : instantly.isFinite = true := rfl
  have nonneg' : instantly.isNegative = false := rfl
  have rounded' : hourMillis? instantly = some 0 := by decide +kernel
  have reaches : Reaches noon 1 (.ofRatio false 3 2) ⟨1717151400, 0⟩ :=
    ⟨5400000, rounded, by decide, by decide, by decide, by decide⟩
  obtain ⟨-, before, -, -, monotone⟩ := ofMaxAge_exact noon _ ordinary inRange finite nonneg
  obtain ⟨-, -, -, vanishing, -⟩ := ofMaxAge_exact noon _ ordinary inRange finite' nonneg'
  have dayAndMore := (before 1 _).2 ⟨by simp, reaches⟩
  exact ⟨⟨ordinary, inRange⟩, ⟨finite, nonneg, dayAndMore, monotone 0 1 _ (by decide) dayAndMore⟩,
    finite', nonneg', rfl, rounded', vanishing rfl rounded'⟩

end Cutoff

end CloudSweep
