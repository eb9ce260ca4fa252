/-
JSON values as they stand in a text: members keep their order and may repeat a key, numbers keep
their spelling, and strings keep their code points, among which an escape may have put half of a
surrogate pair.
-/
namespace CloudSweep.Json

/-- The code points of a string, as written. -/
abbrev Content := List Nat

/-- The first half of a surrogate pair. -/
def isHighSurrogate (n : Nat) : Bool := 0xd800 ≤ n && n ≤ 0xdbff

/-- The second half of a surrogate pair. -/
def isLowSurrogate (n : Nat) : Bool := 0xdc00 ≤ n && n ≤ 0xdfff

/-- The character that a surrogate pair stands for. -/
def joinSurrogates (high low : Nat) : Char :=
  Char.ofNat (0x10000 + (high - 0xd800) * 0x400 + (low - 0xdc00))

/-- The characters of a string. Pairs of surrogates are joined; a half without its partner is no
text. -/
def Content.chars? : Content → Option (List Char)
  | [] => some []
  | [n] => if isHighSurrogate n || isLowSurrogate n then none else some [Char.ofNat n]
  | n :: next :: rest =>
    if isHighSurrogate n && isLowSurrogate next then
      (Content.chars? rest).map (joinSurrogates n next :: ·)
    else if isHighSurrogate n || isLowSurrogate n then none
    else (Content.chars? (next :: rest)).map (Char.ofNat n :: ·)

/-- The text of a string, when it has one. -/
def Content.text? (content : Content) : Option String := content.chars?.map String.ofList

/-- A JSON value. -/
inductive Value
  | null
  | bool (value : Bool)
  | number (spelling : String)
  | string (content : Content)
  | array (elements : List Value)
  | object (members : List (Content × Value))

end CloudSweep.Json
