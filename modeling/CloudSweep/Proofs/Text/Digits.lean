/-
Decimal digits. A run of digits spells one number, the zeros that fill a field up to its width do not
change it, and runs of one length stand in the order of their numbers, whatever follows them.
-/
import CloudSweep.Text.Blank
import CloudSweep.Text.Digits
import CloudSweep.Time.Instant
import Mathlib.Data.List.Basic
import Mathlib.Data.Nat.Digits.Lemmas

namespace CloudSweep.Text

variable {c : Char} {ds ds' us vs : List Char} {n width : Nat}

/-- So many digits, and nothing else. -/
def AreDigits (n : Nat) (ds : List Char) : Prop := ds.length = n ∧ ∀ c ∈ ds, c.isDigit = true

/-! ## Single digits -/

theorem digitValue_eq (h : c.isDigit = true) : digitValue c + 48 = c.toNat ∧ digitValue c < 10 := by
  have range : 48 ≤ c.toNat ∧ c.toNat ≤ 57 := Char.isDigit_iff_toNat.1 h
  unfold digitValue
  omega

theorem digitValue_lt_iff {c d : Char} (hc : c.isDigit = true) (hd : d.isDigit = true) :
    digitValue c < digitValue d ↔ c < d := by
  have less : c < d ↔ c.toNat < d.toNat := UInt32.lt_iff_toNat_lt
  rw [less, ← (digitValue_eq hc).1, ← (digitValue_eq hd).1]
  omega

theorem digitValue_inj {c d : Char} (hc : c.isDigit = true) (hd : d.isDigit = true)
    (same : digitValue c = digitValue d) : c = d :=
  Char.toNat_inj.1 (by rw [← (digitValue_eq hc).1, ← (digitValue_eq hd).1, same])

/-- A digit is no blank. -/
theorem isBlank_of_isDigit (h : c.isDigit = true) : isBlank c = false := by
  have range : 48 ≤ c.toNat ∧ c.toNat ≤ 57 := Char.isDigit_iff_toNat.1 h
  simp only [isBlank, Bool.or_eq_false_iff, beq_eq_false_iff_ne, Bool.and_eq_false_iff,
    decide_eq_false_iff_not]
  omega

/-! ## Numbers -/

theorem numeral_eq (ds : List Char) : numeral ds = Nat.ofDigitChars 10 ds 0 := by
  rw [Nat.ofDigitChars_eq_foldl]
  rfl

theorem numeral_cons (c : Char) (ds : List Char) :
    numeral (c :: ds) = digitValue c * 10 ^ ds.length + numeral ds := by
  rw [numeral_eq, numeral_eq, Nat.ofDigitChars_cons, Nat.ofDigitChars_eq_ofDigitChars_zero,
    Nat.mul_zero, Nat.zero_add, Nat.mul_comm]
  rfl

theorem numeral_lt (digits : ∀ c ∈ ds, c.isDigit = true) : numeral ds < 10 ^ ds.length := by
  induction ds with
  | nil => exact Nat.one_pos
  | cons c ds ih =>
    obtain ⟨first, rest⟩ := List.forall_mem_cons.1 digits
    have less := ih rest
    have small := Nat.mul_le_mul_right (10 ^ ds.length) (Nat.le_of_lt_succ (digitValue_eq first).2)
    rw [numeral_cons, List.length_cons, Nat.pow_succ]
    omega

/-- Runs of one length stand in the order of their numbers. -/
theorem lt_iff_numeral_lt (hds : AreDigits n ds) (hds' : AreDigits n ds') :
    ds < ds' ↔ numeral ds < numeral ds' := by
  induction n generalizing ds ds' with
  | zero =>
    rw [List.length_eq_zero_iff.1 hds.1, List.length_eq_zero_iff.1 hds'.1]
    exact iff_of_false (List.lt_irrefl _) (Nat.lt_irrefl _)
  | succ n ih =>
    obtain ⟨c, cs, rfl⟩ := List.exists_of_length_succ ds hds.1
    obtain ⟨d, es, rfl⟩ := List.exists_of_length_succ ds' hds'.1
    obtain ⟨length, digits⟩ := hds
    obtain ⟨length', digits'⟩ := hds'
    obtain ⟨hc, hcs⟩ := List.forall_mem_cons.1 digits
    obtain ⟨hd, hes⟩ := List.forall_mem_cons.1 digits'
    have length := Nat.succ.inj length
    have length' := Nat.succ.inj length'
    have small := numeral_lt hcs
    have small' := numeral_lt hes
    rw [List.cons_lt_cons_iff, ih ⟨length, hcs⟩ ⟨length', hes⟩, numeral_cons, numeral_cons,
      ← digitValue_lt_iff hc hd]
    rw [length] at small ⊢
    rw [length'] at small' ⊢
    generalize 10 ^ n = place at small small' ⊢
    constructor
    · rintro (less | ⟨rfl, less⟩)
      · have := Nat.mul_le_mul_right place less
        rw [Nat.succ_mul] at this
        omega
      · omega
    · intro less
      rcases Nat.lt_trichotomy (digitValue c) (digitValue d) with before | same | after
      · exact .inl before
      · refine .inr ⟨digitValue_inj hc hd same, ?_⟩
        rw [same] at less
        omega
      · have := Nat.mul_le_mul_right place after
        rw [Nat.succ_mul] at this
        omega

theorem numeral_inj (hds : AreDigits n ds) (hds' : AreDigits n ds')
    (same : numeral ds = numeral ds') : ds = ds' := by
  rcases Std.lt_trichotomy ds ds' with less | equal | greater
  · have := (lt_iff_numeral_lt hds hds').1 less
    omega
  · exact equal
  · have := (lt_iff_numeral_lt hds' hds).1 greater
    omega

/-! ## Fields -/

theorem numeral_padded (width n : Nat) : numeral (Instant.padded width n).toList = n := by
  rw [Instant.padded, String.toList_ofList, numeral_eq, Nat.ofDigitChars_append,
    Nat.ofDigitChars_replicate_zero, Nat.mul_zero, Nat.ofDigitChars_ten_toDigits]

theorem areDigits_padded (positive : 0 < width) (small : n < 10 ^ width) :
    AreDigits width (Instant.padded width n).toList := by
  have fits := (Nat.length_toDigits_le_iff (by decide) positive).2 small
  rw [Instant.padded, String.toList_ofList]
  constructor
  · rw [List.length_append, List.length_replicate]
    omega
  · intro c hc
    rcases List.mem_append.1 hc with zero | digit
    · rw [List.eq_of_mem_replicate zero]
      rfl
    · exact Nat.isDigit_of_mem_toDigits (by decide) (by decide) digit

/-! ## What follows -/

/-- Texts that start with equally many characters are compared by these first. -/
theorem append_lt_append_iff (same : ds.length = ds'.length) :
    ds ++ us < ds' ++ vs ↔ ds < ds' ∨ (ds = ds' ∧ us < vs) := by
  induction ds generalizing ds' with
  | nil =>
    rw [List.length_eq_zero_iff.1 same.symm]
    simp
  | cons c cs ih =>
    obtain ⟨d, es, rfl⟩ := List.exists_of_length_succ ds' same.symm
    rw [List.cons_append, List.cons_append, List.cons_lt_cons_iff, List.cons_lt_cons_iff,
      ih (Nat.succ.inj same), List.cons.injEq]
    tauto

/-- Fields are compared by their numbers, then what follows them. -/
theorem field_lt_field_iff (hds : AreDigits n ds) (hds' : AreDigits n ds') :
    ds ++ us < ds' ++ vs ↔ numeral ds < numeral ds' ∨ (numeral ds = numeral ds' ∧ us < vs) := by
  rw [append_lt_append_iff (hds.1.trans hds'.1.symm), lt_iff_numeral_lt hds hds']
  have same : ds = ds' ↔ numeral ds = numeral ds' := ⟨fun h => h ▸ rfl, numeral_inj hds hds'⟩
  rw [same]

end CloudSweep.Text
