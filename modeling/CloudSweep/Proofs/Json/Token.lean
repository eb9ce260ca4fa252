/-
What the scanner makes of spellings. A number has no end of its own: after it the scanner waits for a
character that cannot continue the number, and whatever may stand after a value is such a character. A
scan is followed piece by piece; each piece hands on the tokens before it and adds its own.
-/
import CloudSweep.Json.Token
import CloudSweep.Proofs.Json.Grammar

namespace CloudSweep.Json

variable {cs ds : List Char} {c : Char} {t : Token} {ts us done : List Token} {s : Scan}

/-! ## What the scanner holds -/

/-- The scanner has read these tokens and no more, latest first. The last of them may be a number that
could go on. -/
inductive Scan.Holds : Scan → List Token → Prop
  | between (done : List Token) : Holds ⟨.between, done⟩ done
  | number {part : NumberPart} (complete : part.isComplete = true) (spelling : List Char)
      (done : List Token) :
      Holds ⟨.inNumber part spelling, done⟩ (.number (String.ofList spelling.reverse) :: done)

theorem Scan.finish_of_holds (holds : s.Holds done) : s.finish = some done.reverse := by
  cases holds with
  | between => rfl
  | number complete => simp only [finish, complete, if_true]

/-- A character that continues no number. -/
def EndsNumber (c : Char) : Prop := ∀ part : NumberPart, part.next? c = none

theorem Scan.step_of_holds (holds : s.Holds done) (ends : EndsNumber c) :
    s.step c = Scan.begin done c := by
  cases holds with
  | between => rfl
  | number complete => simp only [step, ends _, complete, if_true]

/-- The text leads from between two tokens to where these tokens are held as well. -/
def Scans (cs : List Char) (ts : List Token) : Prop :=
  ∀ done, ∃ s, cs.foldlM Scan.step ⟨.between, done⟩ = some s ∧ s.Holds (ts.reverse ++ done)

/-- The text leads through these tokens to between the last of them and the next. -/
def Closes (cs : List Char) (ts : List Token) : Prop :=
  ∀ done, cs.foldlM Scan.step ⟨.between, done⟩ = some ⟨.between, ts.reverse ++ done⟩

theorem Closes.scans (closes : Closes cs ts) : Scans cs ts :=
  fun done => ⟨_, closes done, .between _⟩

theorem Closes.append (first : Closes cs ts) (rest : Closes ds us) : Closes (cs ++ ds) (ts ++ us) := by
  intro done
  rw [List.foldlM_append, first done, List.reverse_append, List.append_assoc]
  exact rest _

theorem Closes.append_scans (first : Closes cs ts) (rest : Scans ds us) :
    Scans (cs ++ ds) (ts ++ us) := by
  intro done
  obtain ⟨s, scanned, holds⟩ := rest (ts.reverse ++ done)
  refine ⟨s, ?_, ?_⟩
  · rw [List.foldlM_append, first done]
    exact scanned
  · rwa [List.reverse_append, List.append_assoc]

/-- A text whose scan holds some tokens is the text of those. -/
theorem tokens?_of_scans (scans : Scans cs ts) : tokens? cs = some ts := by
  obtain ⟨s, scanned, holds⟩ := scans []
  rw [tokens?, scanned, Option.bind_some, Scan.finish_of_holds holds, List.append_nil,
    List.reverse_reverse]

/-! ## Spaces and marks -/

/-- The tokens of one character. -/
inductive IsMark : Char → Token → Prop
  | openArray : IsMark '[' .openArray
  | closeArray : IsMark ']' .closeArray
  | openObject : IsMark '\x7b' .openObject
  | closeObject : IsMark '\x7d' .closeObject
  | comma : IsMark ',' .comma
  | colon : IsMark ':' .colon

theorem Scan.begin_of_mark (mark : IsMark c t) : Scan.begin done c = some ⟨.between, t :: done⟩ := by
  cases mark <;> rfl

theorem endsNumber_of_mark (mark : IsMark c t) : EndsNumber c := by
  intro part
  cases mark <;> cases part <;> rfl

theorem Closes.mark (mark : IsMark c t) : Closes [c] [t] :=
  fun _ => congrArg (Option.bind · pure) (Scan.begin_of_mark mark)

/-- A mark after a value ends the value. -/
theorem Scans.append_mark (first : Scans cs ts) (mark : IsMark c t) :
    Closes (cs ++ [c]) (ts ++ [t]) := by
  intro done
  obtain ⟨s, scanned, holds⟩ := first done
  have marked : s.step c = some ⟨.between, t :: (ts.reverse ++ done)⟩ := by
    rw [Scan.step_of_holds holds (endsNumber_of_mark mark), Scan.begin_of_mark mark]
  rw [List.foldlM_append, scanned, List.reverse_append]
  exact congrArg (Option.bind · pure) marked

theorem Scan.begin_of_space (space : c = ' ' ∨ c = '\t' ∨ c = '\n' ∨ c = '\r') :
    Scan.begin done c = some ⟨.between, done⟩ := by
  rcases space with rfl | rfl | rfl | rfl <;> rfl

theorem endsNumber_of_space (space : c = ' ' ∨ c = '\t' ∨ c = '\n' ∨ c = '\r') : EndsNumber c := by
  intro part
  rcases space with rfl | rfl | rfl | rfl <;> cases part <;> rfl

theorem Closes.spaces (areSpaces : AreSpaces cs) : Closes cs [] := by
  intro done
  induction cs with
  | nil => rfl
  | cons c cs ih =>
    obtain ⟨first, rest⟩ := List.forall_mem_cons.1 areSpaces
    rw [List.foldlM_cons, show Scan.step ⟨.between, done⟩ c = _ from Scan.begin_of_space first]
    exact ih rest

/-- Spaces after a value change nothing. -/
theorem Scans.append_spaces (first : Scans cs ts) (areSpaces : AreSpaces ds) :
    Scans (cs ++ ds) ts := by
  cases ds with
  | nil => rwa [List.append_nil]
  | cons c ds =>
    obtain ⟨space, rest⟩ := List.forall_mem_cons.1 areSpaces
    intro done
    obtain ⟨s, scanned, holds⟩ := first done
    refine ⟨⟨.between, ts.reverse ++ done⟩, ?_, .between _⟩
    rw [List.foldlM_append, scanned, Option.bind_eq_bind, Option.bind_some, List.foldlM_cons,
      Scan.step_of_holds holds (endsNumber_of_space space), Scan.begin_of_space space]
    exact Closes.spaces rest _

/-! ## Numbers -/

theorem ne_of_isDigit {d : Char} (digit : c.isDigit = true) (noDigit : d.isDigit = false) : c ≠ d := by
  rintro rfl
  exact Bool.false_ne_true (noDigit.symm.trans digit)

theorem NumberPart.foldlM_digits {part : NumberPart}
    (stays : ∀ c : Char, c.isDigit = true → part.next? c = some part)
    (digits : ∀ c ∈ ds, c.isDigit = true) : ds.foldlM NumberPart.next? part = some part := by
  induction ds with
  | nil => rfl
  | cons d ds ih =>
    obtain ⟨first, rest⟩ := List.forall_mem_cons.1 digits
    rw [List.foldlM_cons, stays d first]
    exact ih rest

/-- One digit leads into a run of digits, and the others stay in it. -/
theorem NumberPart.foldlM_digitRun {before part : NumberPart}
    (enters : ∀ c : Char, c.isDigit = true → before.next? c = some part)
    (stays : ∀ c : Char, c.isDigit = true → part.next? c = some part) (run : IsDigitRun ds) :
    ds.foldlM NumberPart.next? before = some part := by
  obtain ⟨filled, digits⟩ := run
  cases ds with
  | nil => exact absurd rfl filled
  | cons d ds =>
    obtain ⟨first, rest⟩ := List.forall_mem_cons.1 digits
    rw [List.foldlM_cons, enters d first]
    exact foldlM_digits stays rest

theorem NumberPart.foldlM_whole (whole : IsWhole cs) :
    ∃ part, cs.foldlM NumberPart.next? .minus = some part ∧ (part = .zero ∨ part = .whole) := by
  obtain rfl | ⟨⟨filled, digits⟩, noZero⟩ := whole
  · exact ⟨.zero, rfl, .inl rfl⟩
  · refine ⟨.whole, ?_, .inr rfl⟩
    cases cs with
    | nil => exact absurd rfl filled
    | cons d ds =>
      obtain ⟨first, rest⟩ := List.forall_mem_cons.1 digits
      have hd : d ≠ '0' := fun zero => noZero (congrArg some zero)
      have enters : NumberPart.minus.next? d = some .whole := by
        simp only [next?, hd, first, if_true, if_false]
      rw [List.foldlM_cons, enters]
      exact foldlM_digits (fun c digit => by simp only [next?, digit, if_true]) rest

theorem NumberPart.foldlM_fraction {part : NumberPart} (before : part = .zero ∨ part = .whole)
    (fraction : IsFraction cs) : ∃ part', cs.foldlM NumberPart.next? part = some part' ∧
      (part' = .zero ∨ part' = .whole ∨ part' = .fraction) := by
  obtain rfl | ⟨ds, run, rfl⟩ := fraction
  · exact ⟨part, rfl, before.imp_right .inl⟩
  · refine ⟨.fraction, ?_, .inr (.inr rfl)⟩
    have point : part.next? '.' = some .point := by rcases before with rfl | rfl <;> rfl
    rw [List.foldlM_cons, point]
    exact foldlM_digitRun (fun c digit => by simp only [next?, digit, if_true])
      (fun c digit => by simp only [next?, digit, if_true]) run

theorem NumberPart.foldlM_exponent {part : NumberPart}
    (before : part = .zero ∨ part = .whole ∨ part = .fraction) (exponent : IsExponent cs) :
    ∃ part', cs.foldlM NumberPart.next? part = some part' ∧ part'.isComplete = true := by
  obtain rfl | ⟨mark, sign, ds, hmark, hsign, run, rfl⟩ := exponent
  · exact ⟨part, rfl, by rcases before with rfl | rfl | rfl <;> rfl⟩
  · refine ⟨.exponent, ?_, rfl⟩
    have marked : part.next? mark = some .exponentMark := by
      rcases before with rfl | rfl | rfl <;> rcases hmark with rfl | rfl <;> rfl
    have stays : ∀ c : Char, c.isDigit = true → NumberPart.exponent.next? c = some .exponent :=
      fun c digit => by simp only [next?, digit, if_true]
    have signed : ds.foldlM NumberPart.next? .exponentSign = some .exponent :=
      foldlM_digitRun (fun c digit => by simp only [next?, digit, if_true]) stays run
    rw [List.foldlM_cons, marked]
    rcases hsign with rfl | rfl | rfl
    case inl =>
      -- A digit is no sign, so it starts the exponent at once.
      refine foldlM_digitRun (fun c digit => ?_) stays run
      have noSign : ¬ (c = '+' ∨ c = '-') :=
        not_or.2 ⟨ne_of_isDigit digit rfl, ne_of_isDigit digit rfl⟩
      simp only [next?, noSign, digit, if_true, if_false]
    case inr.inl => exact signed
    case inr.inr => exact signed

theorem Scan.foldlM_inNumber {part part' : NumberPart} {spelling : List Char}
    (led : cs.foldlM NumberPart.next? part = some part') :
    cs.foldlM Scan.step ⟨.inNumber part spelling, done⟩ =
      some ⟨.inNumber part' (cs.reverse ++ spelling), done⟩ := by
  induction cs generalizing part spelling with
  | nil =>
    cases led
    rfl
  | cons c cs ih =>
    rw [List.foldlM_cons, Option.bind_eq_bind] at led
    obtain ⟨next, here, rest⟩ := Option.bind_eq_some_iff.1 led
    have stepped : Scan.step ⟨.inNumber part spelling, done⟩ c =
        some ⟨.inNumber next (c :: spelling), done⟩ := by simp only [Scan.step, here]
    rw [List.foldlM_cons, stepped, List.reverse_cons, List.append_assoc]
    exact ih rest

theorem NumberPart.isDigit_of_next? {part : NumberPart}
    (led : NumberPart.minus.next? c = some part) : c.isDigit = true := by
  simp only [next?] at led
  split at led
  case isTrue zero => rw [zero]; rfl
  case isFalse =>
    split at led
    case isTrue digit => exact digit
    case isFalse => contradiction

/-- A number without a sign starts as it goes on after one. -/
theorem Scan.begin_of_next? {part : NumberPart} (led : NumberPart.minus.next? c = some part) :
    Scan.begin done c = some ⟨.inNumber part [c], done⟩ := by
  have digit := NumberPart.isDigit_of_next? led
  have noSpace : isSpace c = false := by
    simp only [isSpace, Bool.or_eq_false_iff, beq_eq_false_iff_ne]
    exact ⟨⟨⟨ne_of_isDigit digit rfl, ne_of_isDigit digit rfl⟩, ne_of_isDigit digit rfl⟩,
      ne_of_isDigit digit rfl⟩
  -- A digit passes by every other test for the start of a token.
  have noDigits : ['[', ']', Char.ofNat 0x7b, Char.ofNat 0x7d, ',', ':', '"', 'n', 't', 'f', '-'].all
      (·.isDigit == false) = true := rfl
  have apart := fun d hd => ne_of_isDigit digit (eq_of_beq (List.all_eq_true.1 noDigits d hd))
  simp only [List.forall_mem_cons] at apart
  simp only [begin, noSpace, apart, digit, if_true, if_false, Bool.false_eq_true]
  simp only [NumberPart.next?, digit, if_true] at led
  split at led <;> rename_i zero <;> cases led
  · rw [if_pos zero]
  · rw [if_neg zero]

theorem Scan.foldlM_unsigned {part : NumberPart} (led : cs.foldlM NumberPart.next? .minus = some part)
    (complete : part.isComplete = true) :
    cs.foldlM Scan.step ⟨.between, done⟩ = some ⟨.inNumber part cs.reverse, done⟩ := by
  cases cs with
  | nil =>
    cases led
    contradiction
  | cons c cs =>
    rw [List.foldlM_cons, Option.bind_eq_bind] at led
    obtain ⟨next, here, rest⟩ := Option.bind_eq_some_iff.1 led
    rw [List.foldlM_cons, show Scan.step ⟨.between, done⟩ c = _ from Scan.begin_of_next? here,
      List.reverse_cons]
    exact Scan.foldlM_inNumber rest

/-- A number is held as it is spelled. -/
theorem Scans.number (number : IsNumber cs) : Scans cs [.number (String.ofList cs)] := by
  obtain ⟨hsign, hwhole, hfraction, hexponent⟩ := number
  rename_i sign whole fraction exponent
  obtain ⟨part₁, led₁, end₁⟩ := NumberPart.foldlM_whole hwhole
  obtain ⟨part₂, led₂, end₂⟩ := NumberPart.foldlM_fraction end₁ hfraction
  obtain ⟨part, led₃, complete⟩ := NumberPart.foldlM_exponent end₂ hexponent
  have unsigned : (whole ++ fraction ++ exponent).foldlM NumberPart.next? .minus = some part := by
    rw [List.foldlM_append, List.foldlM_append, led₁]
    exact (congrArg (Option.bind · _) led₂).trans led₃
  rw [List.append_assoc, List.append_assoc, ← List.append_assoc whole]
  generalize whole ++ fraction ++ exponent = ds at unsigned ⊢
  intro done
  refine ⟨⟨.inNumber part (sign ++ ds).reverse, done⟩, ?scanned, ?holds⟩
  case scanned =>
    rcases hsign with rfl | rfl
    case inl => exact Scan.foldlM_unsigned unsigned complete
    case inr =>
      rw [List.reverse_append]
      exact Scan.foldlM_inNumber unsigned
  case holds =>
    have holds := Scan.Holds.number complete (sign ++ ds).reverse done
    rwa [List.reverse_reverse] at holds

/-! ## Strings -/

theorem hexValue?_of_isHexDigit {n : Nat} (digit : IsHexDigit n c) : Scan.hexValue? c = some n := by
  have table : ∀ n < 16, Scan.hexValue? (Nat.digitChar n) = some n ∧
      Scan.hexValue? (Nat.digitChar n).toUpper = some n := by decide
  obtain ⟨small, rfl | rfl⟩ := digit
  · exact (table n small).1
  · exact (table n small).2

theorem escaped?_of_mem {l c : Char} (known : (l, c) ∈ escapes) : Scan.escaped? l = some c.toNat := by
  have table : ∀ e ∈ escapes, Scan.escaped? e.1 = some e.2.toNat := by decide
  exact table _ known

theorem Scan.step_inCode {n left value : Nat} {content : Content} (digit : IsHexDigit n c) :
    Scan.step ⟨.inCode content left value, done⟩ c =
      some (if left ≤ 1 then ⟨.inString ((value * 16 + n) :: content), done⟩
        else ⟨.inCode content (left - 1) (value * 16 + n), done⟩) := by
  simp only [step, hexValue?_of_isHexDigit digit]
  rfl

/-- Each code point of a string is read as what it is spelled for. -/
theorem Scan.foldlM_unit {n : Nat} {content : Content} (unit : SpellsUnit n cs) :
    cs.foldlM Scan.step ⟨.inString content, done⟩ = some ⟨.inString (n :: content), done⟩ := by
  cases unit with
  | plain isPlain =>
    rename_i c
    obtain ⟨printed, noQuote, noBackslash⟩ := isPlain
    simp only [List.foldlM_cons, List.foldlM_nil, step, noQuote, noBackslash, Nat.not_lt.2 printed,
      if_false]
    rfl
  | letter known =>
    rename_i l c
    have noCode : l ≠ 'u' := by
      rintro rfl
      cases escaped?_of_mem known
    simp only [List.foldlM_cons, List.foldlM_nil, step, noCode, escaped?_of_mem known, if_false]
    rfl
  | code h₁ h₂ h₃ h₄ =>
    rename_i n₁ n₂ n₃ n₄ c₁ c₂ c₃ c₄
    calc ['\\', 'u', c₁, c₂, c₃, c₄].foldlM Scan.step ⟨.inString content, done⟩
      _ = [c₁, c₂, c₃, c₄].foldlM Scan.step ⟨.inCode content 4 0, done⟩ := rfl
      _ = [c₂, c₃, c₄].foldlM Scan.step ⟨.inCode content 3 (0 * 16 + n₁), done⟩ := by
        rw [List.foldlM_cons, step_inCode h₁]; rfl
      _ = [c₃, c₄].foldlM Scan.step ⟨.inCode content 2 ((0 * 16 + n₁) * 16 + n₂), done⟩ := by
        rw [List.foldlM_cons, step_inCode h₂]; rfl
      _ = [c₄].foldlM Scan.step ⟨.inCode content 1 (((0 * 16 + n₁) * 16 + n₂) * 16 + n₃), done⟩ := by
        rw [List.foldlM_cons, step_inCode h₃]; rfl
      _ = some ⟨.inString ((((n₁ * 16 + n₂) * 16 + n₃) * 16 + n₄) :: content), done⟩ := by
        rw [List.foldlM_cons, step_inCode h₄, Nat.zero_mul, Nat.zero_add]; rfl

theorem Scan.foldlM_content {content read : Content} (spelled : SpellsContent content cs) :
    cs.foldlM Scan.step ⟨.inString read, done⟩ = some ⟨.inString (content.reverse ++ read), done⟩ := by
  induction spelled generalizing read with
  | nil => rfl
  | cons first _ ih =>
    rw [List.foldlM_append, Scan.foldlM_unit first, List.reverse_cons, List.append_assoc]
    exact ih

theorem Closes.string {content : Content} (spelled : SpellsContent content cs) :
    Closes ('"' :: (cs ++ ['"'])) [.string content] := by
  intro done
  rw [List.foldlM_cons, show Scan.step ⟨.between, done⟩ '"' = some ⟨.inString [], done⟩ from rfl,
    Option.bind_eq_bind, Option.bind_some, List.foldlM_append, Scan.foldlM_content spelled,
    List.append_nil]
  show some (Scan.mk .between (.string content.reverse.reverse :: done)) = _
  rw [List.reverse_reverse]
  rfl

end CloudSweep.Json
