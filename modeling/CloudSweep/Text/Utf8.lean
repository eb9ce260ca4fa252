/-
Reading bytes as UTF-8 text without ever failing. Each longest run of bytes that begins a
well-formed sequence but cannot be completed, and each byte that begins none, is read as one
replacement character.
-/
namespace CloudSweep.Text

/-- A byte that continues a sequence. -/
def isContinuation (b : UInt8) : Bool := 0x80 ≤ b && b ≤ 0xbf

/-- The bytes that may follow `lead` in a sequence of three: the first of them rules out overlong
forms and surrogates. -/
def secondOfThree (lead second : UInt8) : Bool :=
  if lead == 0xe0 then 0xa0 ≤ second && second ≤ 0xbf
  else if lead == 0xed then 0x80 ≤ second && second ≤ 0x9f
  else isContinuation second

/-- The bytes that may follow `lead` in a sequence of four: overlong forms and values past the last
code point are ruled out. -/
def secondOfFour (lead second : UInt8) : Bool :=
  if lead == 0xf0 then 0x90 ≤ second && second ≤ 0xbf
  else if lead == 0xf4 then 0x80 ≤ second && second ≤ 0x8f
  else isContinuation second

/-- The character that a sequence stands for: the payload of the lead byte, then six bits of each
continuation. -/
def assemble (payload : Nat) (continuations : List UInt8) : Char :=
  Char.ofNat (continuations.foldl (fun n b => n * 64 + b.toNat % 64) payload)

/-- The character written for bytes that are no text. -/
def replacement : Char := Char.ofNat 0xfffd

/-- The text that the bytes spell, with a replacement character for each malformed piece. -/
def decodeLossy : List UInt8 → List Char
  | [] => []
  | a :: rest =>
    if a < 0x80 then Char.ofNat a.toNat :: decodeLossy rest
    else if 0xc2 ≤ a && a ≤ 0xdf then
      match rest with
      | b :: rest' =>
        if isContinuation b then assemble (a.toNat % 32) [b] :: decodeLossy rest'
        else replacement :: decodeLossy (b :: rest')
      | [] => [replacement]
    else if 0xe0 ≤ a && a ≤ 0xef then
      match rest with
      | b :: c :: rest' =>
        if secondOfThree a b then
          if isContinuation c then assemble (a.toNat % 16) [b, c] :: decodeLossy rest'
          else replacement :: decodeLossy (c :: rest')
        else replacement :: decodeLossy (b :: c :: rest')
      | [b] => if secondOfThree a b then [replacement] else replacement :: decodeLossy [b]
      | [] => [replacement]
    else if 0xf0 ≤ a && a ≤ 0xf4 then
      match rest with
      | b :: c :: d :: rest' =>
        if secondOfFour a b then
          if isContinuation c then
            if isContinuation d then assemble (a.toNat % 8) [b, c, d] :: decodeLossy rest'
            else replacement :: decodeLossy (d :: rest')
          else replacement :: decodeLossy (c :: d :: rest')
        else replacement :: decodeLossy (b :: c :: d :: rest')
      | [b, c] =>
        if secondOfFour a b then
          if isContinuation c then [replacement] else replacement :: decodeLossy [c]
        else replacement :: decodeLossy [b, c]
      | [b] => if secondOfFour a b then [replacement] else replacement :: decodeLossy [b]
      | [] => [replacement]
    else replacement :: decodeLossy rest

/-- The text that the bytes spell. -/
def ofBytes (bytes : List UInt8) : String := String.ofList (decodeLossy bytes)

end CloudSweep.Text
