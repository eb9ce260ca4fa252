/-
Separated texts, such as slash-separated paths. `pieces` cuts a text at every separator, so a text
with `n` separators has `n + 1` pieces, some of them possibly empty, and none of them holds a
separator.
-/
namespace CloudSweep.Text

/-- The pieces between the separators, in order. -/
def pieces (separator : Char) : List Char → List (List Char)
  | [] => [[]]
  | c :: rest =>
    if c = separator then [] :: pieces separator rest
    else
      match pieces separator rest with
      | [] => [[c]]
      | first :: others => (c :: first) :: others

/-- The text after the last slash, all of it when there is none. -/
def lastSegment (s : String) : String :=
  String.ofList ((pieces '/' s.toList).getLast?.getD [])

/-- The text between two slashes with the given index, counted from 0. -/
def segment? (s : String) (index : Nat) : Option String :=
  (pieces '/' s.toList)[index]?.map String.ofList

/-- The texts between commas. -/
def commaSeparated (s : String) : List String := (pieces ',' s.toList).map String.ofList

end CloudSweep.Text
