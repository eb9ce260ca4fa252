/-
Reading a JSON text. The reader takes one token at a time and keeps the arrays and objects that are
still open on a stack, so that any depth of nesting is read.
-/
import CloudSweep.Json.Token

namespace CloudSweep.Json

/-- An array or object that is still open, with what it holds so far, latest first. -/
inductive Frame
  | elements (done : List Value)
  | members (done : List (Content × Value))
  | member (done : List (Content × Value)) (key : Content)

/-- What may come next. -/
inductive Expected
  | value
  | valueOrClose
  | keyOrClose
  | key
  | colon (key : Content)
  | commaOrClose
  | nothing (result : Value)

/-- The reader: the open frames, innermost first, and what may come next. -/
structure Reading where
  frames : List Frame
  expected : Expected

namespace Reading

/-- Hands a finished value to the innermost frame. -/
def deliver (v : Value) : List Frame → Option Reading
  | [] => some ⟨[], .nothing v⟩
  | .elements done :: frames => some ⟨.elements (v :: done) :: frames, .commaOrClose⟩
  | .member done key :: frames => some ⟨.members ((key, v) :: done) :: frames, .commaOrClose⟩
  | .members _ :: _ => none

/-- A token where a value starts. -/
def beginValue (frames : List Frame) : Token → Option Reading
  | .openArray => some ⟨.elements [] :: frames, .valueOrClose⟩
  | .openObject => some ⟨.members [] :: frames, .keyOrClose⟩
  | .null => deliver .null frames
  | .bool b => deliver (.bool b) frames
  | .number spelling => deliver (.number spelling) frames
  | .string content => deliver (.string content) frames
  | _ => none

/-- A closing bracket, which ends the innermost frame if it is of its kind. -/
def close : List Frame → Token → Option Reading
  | .elements done :: frames, .closeArray => deliver (.array done.reverse) frames
  | .members done :: frames, .closeObject => deliver (.object done.reverse) frames
  | _, _ => none

/-- Takes one more token. -/
def step (r : Reading) (t : Token) : Option Reading :=
  match r.expected, t with
  | .value, t => beginValue r.frames t
  | .valueOrClose, .closeArray => close r.frames .closeArray
  | .valueOrClose, t => beginValue r.frames t
  | .keyOrClose, .closeObject => close r.frames .closeObject
  | .keyOrClose, .string key => some ⟨r.frames, .colon key⟩
  | .key, .string key => some ⟨r.frames, .colon key⟩
  | .colon key, .colon =>
    match r.frames with
    | .members done :: frames => some ⟨.member done key :: frames, .value⟩
    | _ => none
  | .commaOrClose, .comma =>
    match r.frames with
    | .elements _ :: _ => some ⟨r.frames, .value⟩
    | .members _ :: _ => some ⟨r.frames, .key⟩
    | _ => none
  | .commaOrClose, t => close r.frames t
  | _, _ => none

/-- The value, once it is complete. -/
def result? (r : Reading) : Option Value :=
  match r.expected with
  | .nothing v => some v
  | _ => none

end Reading

/-- The value that the tokens spell. -/
def ofTokens? (ts : List Token) : Option Value :=
  (ts.foldlM Reading.step ⟨[], .value⟩).bind Reading.result?

/-- Reads the whole text as one JSON value, with blanks around it. -/
def read? (text : String) : Option Value := (tokens? text.toList).bind ofTokens?

end CloudSweep.Json
