/-
The grammar of JSON, told apart from any way to read it: which texts spell a value. A value has many
spellings, since spaces may stand between its parts, and a character of a string may be written as
itself or by an escape.
-/
import CloudSweep.Json.Basic

namespace CloudSweep.Json

/-- Characters that may stand between the parts of a value. -/
def AreSpaces (cs : List Char) : Prop := ∀ c ∈ cs, c = ' ' ∨ c = '\t' ∨ c = '\n' ∨ c = '\r'

/-! ## Numbers -/

/-- One decimal digit or more. -/
def IsDigitRun (cs : List Char) : Prop := cs ≠ [] ∧ ∀ c ∈ cs, c.isDigit = true

/-- The digits of a number before its point, without a zero in front. -/
def IsWhole (cs : List Char) : Prop := cs = ['0'] ∨ (IsDigitRun cs ∧ cs.head? ≠ some '0')

/-- A point with the digits after it, if there is one. -/
def IsFraction (cs : List Char) : Prop := cs = [] ∨ ∃ ds, IsDigitRun ds ∧ cs = '.' :: ds

/-- An exponent with its mark, if there is one. -/
def IsExponent (cs : List Char) : Prop :=
  cs = [] ∨ ∃ mark sign ds, (mark = 'e' ∨ mark = 'E') ∧ (sign = [] ∨ sign = ['+'] ∨ sign = ['-']) ∧
    IsDigitRun ds ∧ cs = mark :: (sign ++ ds)

/-- The spellings of numbers. -/
inductive IsNumber : List Char → Prop
  | parts {sign whole fraction exponent : List Char} (hsign : sign = [] ∨ sign = ['-'])
      (hwhole : IsWhole whole) (hfraction : IsFraction fraction) (hexponent : IsExponent exponent) :
      IsNumber (sign ++ whole ++ fraction ++ exponent)

/-! ## Strings -/

/-- A hexadecimal digit for a number, with a letter of either case. -/
def IsHexDigit (n : Nat) (c : Char) : Prop :=
  n < 16 ∧ (c = Nat.digitChar n ∨ c = (Nat.digitChar n).toUpper)

/-- The escapes of one letter, with the characters that they stand for. -/
def escapes : List (Char × Char) :=
  [('"', '"'), ('\\', '\\'), ('/', '/'), ('b', '\x08'), ('f', '\x0c'), ('n', '\n'), ('r', '\r'),
    ('t', '\t')]

/-- A character that needs no escape. -/
def IsPlain (c : Char) : Prop := 0x20 ≤ c.toNat ∧ c ≠ '"' ∧ c ≠ '\\'

instance (c : Char) : Decidable (IsPlain c) := inferInstanceAs (Decidable (_ ∧ _ ∧ _))

/-- The spellings of a code point in a string. -/
inductive SpellsUnit : Nat → List Char → Prop
  | plain {c : Char} (isPlain : IsPlain c) : SpellsUnit c.toNat [c]
  | letter {l c : Char} (known : (l, c) ∈ escapes) : SpellsUnit c.toNat ['\\', l]
  | code {n₁ n₂ n₃ n₄ : Nat} {c₁ c₂ c₃ c₄ : Char} (h₁ : IsHexDigit n₁ c₁) (h₂ : IsHexDigit n₂ c₂)
      (h₃ : IsHexDigit n₃ c₃) (h₄ : IsHexDigit n₄ c₄) :
      SpellsUnit (((n₁ * 16 + n₂) * 16 + n₃) * 16 + n₄) ['\\', 'u', c₁, c₂, c₃, c₄]

/-- The spellings of what stands between the quotes of a string. -/
inductive SpellsContent : Content → List Char → Prop
  | nil : SpellsContent [] []
  | cons {n : Nat} {content : Content} {cs ds : List Char} (first : SpellsUnit n cs)
      (rest : SpellsContent content ds) : SpellsContent (n :: content) (cs ++ ds)

/-- The texts that the code points of a string make up. A character beyond the first 65536 may be
there as the two halves of a surrogate pair. -/
inductive Content.Means : Content → List Char → Prop
  | nil : Means [] []
  | char {content : Content} {cs : List Char} (c : Char) (rest : Means content cs) :
      Means (c.toNat :: content) (c :: cs)
  | pair {content : Content} {cs : List Char} {high low : Nat} {c : Char} (hhigh : high < 0x400)
      (hlow : low < 0x400) (hc : c.toNat = 0x10000 + high * 0x400 + low) (rest : Means content cs) :
      Means ((0xd800 + high) :: (0xdc00 + low) :: content) (c :: cs)

/-! ## Values -/

/-- What a piece of a JSON text may stand for. -/
inductive Phrase
  | value (v : Value)
  /-- A value with spaces around it. -/
  | spaced (v : Value)
  /-- What stands between the brackets of an array that is not empty. -/
  | elements (vs : List Value)
  | member (m : Content × Value)
  /-- What stands between the braces of an object that is not empty. -/
  | members (ms : List (Content × Value))

/-- The spellings of values and of their parts. -/
inductive Spells : Phrase → List Char → Prop
  | null : Spells (.value .null) ['n', 'u', 'l', 'l']
  | true : Spells (.value (.bool .true)) ['t', 'r', 'u', 'e']
  | false : Spells (.value (.bool .false)) ['f', 'a', 'l', 's', 'e']
  | number {cs : List Char} (number : IsNumber cs) : Spells (.value (.number (String.ofList cs))) cs
  | string {content : Content} {cs : List Char} (hcontent : SpellsContent content cs) :
      Spells (.value (.string content)) ('"' :: (cs ++ ['"']))
  | noElements {spaces : List Char} (hspaces : AreSpaces spaces) :
      Spells (.value (.array [])) ('[' :: (spaces ++ [']']))
  | array {vs : List Value} {cs : List Char} (helements : Spells (.elements vs) cs) :
      Spells (.value (.array vs)) ('[' :: (cs ++ [']']))
  | noMembers {spaces : List Char} (hspaces : AreSpaces spaces) :
      Spells (.value (.object [])) ('\x7b' :: (spaces ++ ['\x7d']))
  | object {ms : List (Content × Value)} {cs : List Char} (hmembers : Spells (.members ms) cs) :
      Spells (.value (.object ms)) ('\x7b' :: (cs ++ ['\x7d']))
  | spaced {v : Value} {front cs back : List Char} (hfront : AreSpaces front)
      (hvalue : Spells (.value v) cs) (hback : AreSpaces back) :
      Spells (.spaced v) (front ++ cs ++ back)
  | element {v : Value} {cs : List Char} (hvalue : Spells (.spaced v) cs) : Spells (.elements [v]) cs
  | elements {v : Value} {vs : List Value} {cs ds : List Char} (hvalue : Spells (.spaced v) cs)
      (rest : Spells (.elements vs) ds) : Spells (.elements (v :: vs)) (cs ++ ',' :: ds)
  | pair {key : Content} {v : Value} {front ks back cs : List Char} (hfront : AreSpaces front)
      (hkey : SpellsContent key ks) (hback : AreSpaces back) (hvalue : Spells (.spaced v) cs) :
      Spells (.member (key, v)) (front ++ '"' :: (ks ++ ['"']) ++ back ++ ':' :: cs)
  | member {m : Content × Value} {cs : List Char} (hmember : Spells (.member m) cs) :
      Spells (.members [m]) cs
  | members {m : Content × Value} {ms : List (Content × Value)} {cs ds : List Char}
      (hmember : Spells (.member m) cs) (rest : Spells (.members ms) ds) :
      Spells (.members (m :: ms)) (cs ++ ',' :: ds)

/-! ## The text of a string -/

/-- A text in which nothing needs an escape is spelled by itself. -/
theorem spellsContent_plain {cs : List Char} (plain : cs.all (decide <| IsPlain ·) = true) :
    SpellsContent (cs.map Char.toNat) cs := by
  induction cs with
  | nil => exact .nil
  | cons c cs ih =>
    rw [List.all_cons, Bool.and_eq_true, decide_eq_true_eq] at plain
    exact .cons (.plain plain.1) (ih plain.2)

/-- A text is made up by its own code points. -/
theorem Content.means_map (cs : List Char) : Means (cs.map Char.toNat) cs := by
  induction cs with
  | nil => exact .nil
  | cons c _ ih => exact .char c ih

theorem not_surrogate (c : Char) : (isHighSurrogate c.toNat || isLowSurrogate c.toNat) = false := by
  have valid : c.toNat < 0xd800 ∨ (0xdfff < c.toNat ∧ c.toNat < 0x110000) := c.valid
  simp only [isHighSurrogate, isLowSurrogate, Bool.or_eq_false_iff, Bool.and_eq_false_iff,
    decide_eq_false_iff_not]
  omega

theorem Content.chars?_cons (c : Char) (content : Content) :
    chars? (c.toNat :: content) = (chars? content).map (c :: ·) := by
  have single := not_surrogate c
  cases content with
  | nil => simp [chars?, single]
  | cons n content =>
    obtain ⟨high, -⟩ := Bool.or_eq_false_iff.1 single
    rw [chars?, single, high, Char.ofNat_toNat]
    rfl

/-- The code points of a string are read as the text that they make up. -/
theorem Content.chars?_of_means {content : Content} {cs : List Char} (means : content.Means cs) :
    content.chars? = some cs := by
  induction means with
  | nil => rfl
  | char c _ ih => rw [chars?_cons, ih]; rfl
  | pair hhigh hlow hc _ ih =>
    rename_i high low c _
    have isHigh : isHighSurrogate (0xd800 + high) = true := by
      simp only [isHighSurrogate, Bool.and_eq_true, decide_eq_true_eq]
      omega
    have isLow : isLowSurrogate (0xdc00 + low) = true := by
      simp only [isLowSurrogate, Bool.and_eq_true, decide_eq_true_eq]
      omega
    have joined : joinSurrogates (0xd800 + high) (0xdc00 + low) = c := by
      rw [joinSurrogates, Nat.add_sub_cancel_left, Nat.add_sub_cancel_left, ← hc, Char.ofNat_toNat]
    rw [chars?, isHigh, isLow, joined, ih]
    rfl

theorem Content.text?_of_means {content : Content} {s : String} (means : content.Means s.toList) :
    content.text? = some s := by
  rw [text?, chars?_of_means means, Option.map_some, String.ofList_toList]

end CloudSweep.Json
