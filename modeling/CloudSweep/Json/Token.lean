/-
The tokens of a JSON text. The scanner takes one character at a time; a number ends at the first
character that cannot continue it, which then starts the next token.
-/
import CloudSweep.Json.Basic

namespace CloudSweep.Json

/-- The pieces a JSON text is made of. -/
inductive Token
  | openArray
  | closeArray
  | openObject
  | closeObject
  | comma
  | colon
  | null
  | bool (value : Bool)
  | number (spelling : String)
  | string (content : Content)
  deriving DecidableEq

/-- How much of a number has been read. -/
inductive NumberPart
  | minus
  | zero
  | whole
  | point
  | fraction
  | exponentMark
  | exponentSign
  | exponent
  deriving DecidableEq

/-- Whether a number may end here. -/
def NumberPart.isComplete : NumberPart → Bool
  | .zero | .whole | .fraction | .exponent => true
  | .minus | .point | .exponentMark | .exponentSign => false

/-- The part that a further character leads to, `none` when it does not belong to the number. -/
def NumberPart.next? (part : NumberPart) (c : Char) : Option NumberPart :=
  match part with
  | .minus => if c = '0' then some .zero else if c.isDigit then some .whole else none
  | .zero => afterWhole c
  | .whole => if c.isDigit then some .whole else afterWhole c
  | .point => if c.isDigit then some .fraction else none
  | .fraction =>
    if c.isDigit then some .fraction
    else if c = 'e' ∨ c = 'E' then some .exponentMark
    else none
  | .exponentMark =>
    if c = '+' ∨ c = '-' then some .exponentSign
    else if c.isDigit then some .exponent
    else none
  | .exponentSign => if c.isDigit then some .exponent else none
  | .exponent => if c.isDigit then some .exponent else none
where
  /-- After the digits before the point. -/
  afterWhole (c : Char) : Option NumberPart :=
    if c = '.' then some .point
    else if c = 'e' ∨ c = 'E' then some .exponentMark
    else none

/-- Where the scanner stands. Characters of the token at hand are kept latest first. -/
inductive ScanState
  | between
  | word (rest : List Char) (token : Token)
  | inNumber (part : NumberPart) (spelling : List Char)
  | inString (content : Content)
  | inEscape (content : Content)
  | inCode (content : Content) (digitsLeft value : Nat)

/-- The scanner: its state, and the tokens read so far, latest first. -/
structure Scan where
  state : ScanState
  tokens : List Token

namespace Scan

/-- Blanks between tokens. -/
def isSpace (c : Char) : Bool := c == ' ' || c == '\t' || c == '\n' || c == '\r'

/-- The value of a hexadecimal digit. -/
def hexValue? (c : Char) : Option Nat :=
  if c.isDigit then some (c.toNat - 48)
  else if 'a' ≤ c ∧ c ≤ 'f' then some (c.toNat - 87)
  else if 'A' ≤ c ∧ c ≤ 'F' then some (c.toNat - 55)
  else none

/-- The code point that a one-letter escape stands for. -/
def escaped? : Char → Option Nat
  | '"' => some 0x22
  | '\\' => some 0x5c
  | '/' => some 0x2f
  | 'b' => some 0x8
  | 'f' => some 0xc
  | 'n' => some 0xa
  | 'r' => some 0xd
  | 't' => some 0x9
  | _ => none

/-- A character between tokens: a blank, a token of one character, or the start of a longer one. -/
def begin (tokens : List Token) (c : Char) : Option Scan :=
  if isSpace c then some ⟨.between, tokens⟩
  else if c = '[' then some ⟨.between, .openArray :: tokens⟩
  else if c = ']' then some ⟨.between, .closeArray :: tokens⟩
  else if c = Char.ofNat 0x7b then some ⟨.between, .openObject :: tokens⟩
  else if c = Char.ofNat 0x7d then some ⟨.between, .closeObject :: tokens⟩
  else if c = ',' then some ⟨.between, .comma :: tokens⟩
  else if c = ':' then some ⟨.between, .colon :: tokens⟩
  else if c = '"' then some ⟨.inString [], tokens⟩
  else if c = 'n' then some ⟨.word ['u', 'l', 'l'] .null, tokens⟩
  else if c = 't' then some ⟨.word ['r', 'u', 'e'] (.bool true), tokens⟩
  else if c = 'f' then some ⟨.word ['a', 'l', 's', 'e'] (.bool false), tokens⟩
  else if c = '-' then some ⟨.inNumber .minus [c], tokens⟩
  else if c = '0' then some ⟨.inNumber .zero [c], tokens⟩
  else if c.isDigit then some ⟨.inNumber .whole [c], tokens⟩
  else none

/-- Takes one more character. -/
def step (s : Scan) (c : Char) : Option Scan :=
  match s.state with
  | .between => begin s.tokens c
  | .word [] token => begin (token :: s.tokens) c
  | .word (d :: rest) token =>
    if c = d then
      some (if rest.isEmpty then ⟨.between, token :: s.tokens⟩ else ⟨.word rest token, s.tokens⟩)
    else none
  | .inNumber part spelling =>
    match part.next? c with
    | some part => some ⟨.inNumber part (c :: spelling), s.tokens⟩
    | none =>
      if part.isComplete then begin (.number (String.ofList spelling.reverse) :: s.tokens) c
      else none
  | .inString content =>
    if c = '"' then some ⟨.between, .string content.reverse :: s.tokens⟩
    else if c = '\\' then some ⟨.inEscape content, s.tokens⟩
    else if c.toNat < 0x20 then none
    else some ⟨.inString (c.toNat :: content), s.tokens⟩
  | .inEscape content =>
    if c = 'u' then some ⟨.inCode content 4 0, s.tokens⟩
    else (escaped? c).map fun n => ⟨.inString (n :: content), s.tokens⟩
  | .inCode content digitsLeft value =>
    (hexValue? c).map fun digit =>
      let value := value * 16 + digit
      if digitsLeft ≤ 1 then ⟨.inString (value :: content), s.tokens⟩
      else ⟨.inCode content (digitsLeft - 1) value, s.tokens⟩

/-- The tokens at the end of the text, which may end between tokens or at the end of a number. -/
def finish (s : Scan) : Option (List Token) :=
  match s.state with
  | .between => some s.tokens.reverse
  | .inNumber part spelling =>
    if part.isComplete then some (.number (String.ofList spelling.reverse) :: s.tokens).reverse
    else none
  | _ => none

end Scan

/-- The tokens of a text, `none` when some part of it is no token. -/
def tokens? (cs : List Char) : Option (List Token) :=
  (cs.foldlM Scan.step ⟨.between, []⟩).bind Scan.finish

end CloudSweep.Json
