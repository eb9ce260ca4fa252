/-
A scripted tool. It stands in for the real one on a machine where only its own program exists: each
run is answered by the first rule all of whose words are among the arguments, and by silent success
when there is none. A run that names another program does not start: a path to a directory is found
and refused, any other is not found. `received_eq` says that a variable arrives as it was set, unless
its name holds the sign that ends names.
-/
import CloudSweep.Gcloud.Answer
import CloudSweep.Text.Segment

namespace CloudSweep.Gcloud

/-- What a run of the scripted tool does. -/
structure Reply where
  output : List UInt8 := []
  complaint : List UInt8 := []
  status : ExitStatus := .code 0
  /-- It does not end before its time is up. -/
  hangs : Bool := false

/-- A reply to every run whose arguments hold all of the words. -/
structure Rule where
  words : List String
  reply : Reply

/-- Whether the rule answers a run. -/
def Rule.answers (r : Rule) (i : Invocation) : Bool := r.words.all i.arguments.contains

/-- The reply of the first rule that answers a run. -/
def replyTo (rules : List Rule) (i : Invocation) : Reply :=
  match rules.find? (·.answers i) with
  | some rule => rule.reply
  | none => {}

/-! ## Paths -/

/-- Where a path leads. -/
inductive Place where
  /-- Along these names, from the root. -/
  | fromRoot (names : List String)
  /-- The directory of the run, or one around it. -/
  | nearby

/-- What comes of running a program on the machine of the scripted tool. -/
structure Machine where
  /-- The programs that stand for the tool. -/
  programs : List String := ["gcloud"]
  /-- The directories besides the root, each by the names on the way to it. -/
  directories : List (List String) := [["bin"], ["boot"], ["dev"], ["dev", "shm"], ["etc"],
    ["home"], ["lib"], ["media"], ["mnt"], ["opt"], ["proc"], ["proc", "self"], ["root"], ["run"],
    ["sbin"], ["srv"], ["sys"], ["tmp"], ["usr"], ["usr", "bin"], ["usr", "lib"],
    ["usr", "local"], ["usr", "local", "bin"], ["usr", "local", "lib"], ["usr", "sbin"],
    ["usr", "share"], ["var"], ["var", "lib"], ["var", "log"], ["var", "tmp"]]

namespace Machine

/-- One step along a path. A blank name and `.` stay, `..` goes out, and the root lies in itself. -/
def step? (m : Machine) (place : Place) (name : String) : Option Place :=
  if name = "" ∨ name = "." then some place
  else
    match place with
    | .nearby => if name = ".." then some .nearby else none
    | .fromRoot names =>
      if name = ".." then some (.fromRoot names.dropLast)
      else if m.directories.contains (names ++ [name]) then some (.fromRoot (names ++ [name]))
      else none

/-- Whether the path leads to a directory. The empty path leads nowhere. -/
def isDirectory (m : Machine) (path : String) : Bool :=
  let start : Place := if path.toList.head? = some '/' then .fromRoot [] else .nearby
  path ≠ "" && (((Text.pieces '/' path.toList).map String.ofList).foldlM m.step? start).isSome

/-! ## What is handed over -/

/-- Whether a text can be handed to a program: it must not hold a NUL. -/
def isPassable (s : String) : Bool := !s.toList.contains '\x00'

/-- Whether everything about a run can be handed over. -/
def accepts (program : String) (i : Invocation) : Bool :=
  (program :: i.arguments).all isPassable &&
    i.environment.all fun (name, value) => isPassable name && isPassable value

/-- A variable as the program finds it. It is handed over as `name=value`, so its name ends at the
first `=`. -/
def received (name value : String) : String × String :=
  let text := name.toList ++ '=' :: value.toList
  (String.ofList (text.takeWhile (· ≠ '=')), String.ofList ((text.dropWhile (· ≠ '=')).drop 1))

/-- A name without `=` arrives whole. -/
theorem received_eq {name value : String} (h : '=' ∉ name.toList) :
    received name value = (name, value) := by
  have all : ∀ c ∈ name.toList, decide (c ≠ '=') = true := fun c hc =>
    decide_eq_true fun e => h (e ▸ hc)
  simp only [received, List.takeWhile_append_of_pos all, List.dropWhile_append_of_pos all]
  simp

/-! ## Runs -/

/-- Why a run does not start, if it does not. -/
def refusal? (m : Machine) (program : String) (i : Invocation) : Option String :=
  if !accepts program i then some "nul byte found in provided data"
  else if m.programs.contains program then none
  else if m.isDirectory program then some "Permission denied (os error 13)"
  else some "No such file or directory (os error 2)"

/-- The ending as a machine reports it, with a status of one byte. -/
def reported : ExitStatus → ExitStatus
  | .code value => .code (value % 256)
  | .signalled => .signalled

/-- What comes of a run that would do as the reply says. -/
def result (m : Machine) (c : Config) (i : Invocation) (reply : Reply) : ToolResult :=
  match m.refusal? c.program i with
  | some reason => .notStarted reason
  | none =>
    if reply.hangs || c.timeoutMillis = 0 then .timedOut
    else .exited (reported reply.status) reply.output reply.complaint

/-- The tool that follows the rules. -/
def tool (m : Machine) (c : Config) (rules : List Rule) (_ : Site) (i : Invocation) : ToolResult :=
  m.result c i (replyTo rules i)

/-- The run as the program saw it, if it got as far as to be seen: it starts, and it ends. -/
def seen? (i : Invocation) : ToolResult → Option Invocation
  | .exited .. =>
    some { i with environment := i.environment.map fun (name, value) => received name value }
  | .notStarted _ | .timedOut => none

end Machine
end CloudSweep.Gcloud
