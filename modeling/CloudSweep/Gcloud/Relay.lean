/-
Relayed commands. Where the tool cannot be started directly, its commands are written out one a
line, ready for a shell, and each is answered by a line that says what came of it: `exit` with a
status and the output, or the complaint of a command that failed, `signal` with the complaint,
`timeout`, or `missing` with the reason.
-/
import CloudSweep.Gcloud.Answer

namespace CloudSweep.Gcloud

/-- A word in single quotes, for a shell. -/
def shellWord (s : String) : String :=
  "'" ++ String.ofList (s.toList.flatMap fun c => if c = '\'' then "'\\''".toList else [c]) ++ "'"

/-- A run of the tool as a line for a shell. -/
def Invocation.shellLine (program : String) (i : Invocation) : String :=
  " ".intercalate
    (i.environment.map (fun (name, value) => name ++ "=" ++ shellWord value) ++
      (program :: i.arguments).map shellWord)

/-- The first word of a line and what follows it. -/
def splitWord (cs : List Char) : List Char × List Char :=
  (cs.takeWhile (· ≠ ' '), (cs.dropWhile (· ≠ ' ')).drop 1)

/-- The bytes of a text. -/
def bytesOf (cs : List Char) : List UInt8 := (String.ofList cs).toUTF8.toList

/-- What came of a run, as the line that answers it says. -/
def ToolResult.ofLine (line : String) : ToolResult :=
  let (word, rest) := splitWord (Text.trim line).toList
  if word = "exit".toList then
    let (status, text) := splitWord rest
    match (String.ofList status).toNat? with
    | some 0 => .exited (.code 0) (bytesOf text) []
    | some code => .exited (.code code) [] (bytesOf text)
    | none => .notStarted ("unreadable answer: " ++ line)
  else if word = "signal".toList then .exited .signalled [] (bytesOf rest)
  else if word = "timeout".toList then .timedOut
  else if word = "missing".toList then .notStarted (String.ofList rest)
  else .notStarted ("unreadable answer: " ++ line)

end CloudSweep.Gcloud
