/-
Reading a command line. A word is a long option, possibly with a value after an equals sign, a cluster
of one-letter options, or anything else, which belongs to the option before it if that still takes
values. An option's values are read when the next option or the end comes, so that a word that belongs
nowhere is found first.
-/
import CloudSweep.CommandLine.Options

namespace CloudSweep.CommandLine

/-- The shape of a word. -/
inductive Word
  /-- Two hyphens: no option follows. -/
  | endOfOptions
  | long (name : String) (value : Option String)
  | letters (cs : List Char)
  | plain (text : String)
  deriving DecidableEq

/-- The shape of a word. -/
def Word.of (word : String) : Word :=
  match word.toList with
  | ['-', '-'] => .endOfOptions
  | '-' :: '-' :: rest =>
    match rest.dropWhile (· ≠ '=') with
    | '=' :: value =>
      .long (String.ofList (rest.takeWhile (· ≠ '='))) (some (String.ofList value))
    | _ => .long (String.ofList rest) none
  | ['-'] => .plain word
  | '-' :: cs => .letters cs
  | _ => .plain word

/-- What was read so far. -/
structure Reading where
  given : Given := {}
  /-- The option whose values are being gathered, with those it has. -/
  pending : Option (ValueOption × List String) := none
  /-- Whether the pending option takes the next word that is no option. -/
  takesMore : Bool := false

namespace Reading

/-- Reads the values of the pending option. -/
def settle (r : Reading) : Except ArgumentError Reading :=
  match r.pending with
  | none => .ok { r with takesMore := false }
  | some (o, values) => return { given := ← r.given.withValues o values }

/-- Reads a switch. -/
def switch (r : Reading) (s : Switch) : Except ArgumentError Reading := do
  let r ← r.settle
  return { r with given := ← r.given.withSwitch s }

/-- Reads one-letter options. -/
def letters : List Char → Reading → Except ArgumentError Reading
  | [], r => .ok r
  | c :: rest, r =>
    match AnyOption.ofLetter? c with
    | some (.switch s) => do letters rest (← r.switch s)
    | _ => .error .unknownArgument

/-- Reads a long option. -/
def long (r : Reading) (name : String) (value : Option String) : Except ArgumentError Reading :=
  match AnyOption.ofName? name, value with
  | none, _ => .error .unknownArgument
  | some (.switch _), some _ => .error .unwantedValue
  | some (.switch s), none => r.switch s
  | some (.value o), some v => do
    let r ← r.settle
    return { given := ← r.given.withValues o [v] }
  | some (.value o), none => do
    let r ← r.settle
    return { r with pending := some (o, []), takesMore := true }

/-- Reads a word that is no option. -/
def plain (r : Reading) (text : String) : Except ArgumentError Reading :=
  match r.pending, r.takesMore with
  | some (o, values), true =>
    .ok { r with pending := some (o, values ++ [text]), takesMore := o.takesMany }
  | _, _ => .error .unknownArgument

/-- Reads the words of a command line. -/
def words (r : Reading) : List String → Except ArgumentError Reading
  | [] => .ok r
  | w :: rest =>
    match Word.of w with
    | .endOfOptions => if rest.isEmpty then .ok r else .error .unknownArgument
    | .long name value => do words (← r.long name value) rest
    | .letters cs => do words (← letters cs r) rest
    | .plain text => do words (← r.plain text) rest

end Reading

/-- Reads a command line. The key file may also come from the environment, from where it is taken if
the option is left out. -/
def read (arguments : List String) (keyFile : Option String) : Except ArgumentError Options := do
  let r ← (← ({} : Reading).words arguments).settle
  let given ←
    match r.given.serviceAccount, keyFile with
    | none, some path => r.given.withValues .serviceAccount [path]
    | _, _ => .ok r.given
  given.options

end CloudSweep.CommandLine
