/-
Failed calls. A call fails because its command could not be started, ran and reported failure, ran
out of time, or answered with something that is no answer. Nothing that is swept depends on which of
these happened; the wording and the command are for messages.
-/
import CloudSweep.Text.Blank

namespace CloudSweep

/-- How a command that reported failure ended. -/
inductive ExitStatus
  | code (value : Int)
  | signalled
  deriving DecidableEq

/-- The ending in words. -/
def ExitStatus.describe : ExitStatus → String
  | .code value => "exit code " ++ toString value
  | .signalled => "terminated by signal"

/-- Why a call failed. -/
inductive CallError
  /-- The program could not be started, for the given reason. -/
  | notStarted (program reason : String)
  /-- The command ran and reported failure. -/
  | failed (command : String) (status : ExitStatus) (complaint : String)
  /-- The command was stopped when its time was up. -/
  | timedOut (command : String) (limitMillis : Nat)
  /-- The command succeeded, and its output is no answer, for the given reason. -/
  | unreadable (command : String) {reason : String}
  deriving DecidableEq

namespace CallError

/-- A command that ran and reported failure; its complaint counts without the blanks around it. -/
def ofFailure (command : String) (status : ExitStatus) (complaint : String) : CallError :=
  .failed command status (Text.trim complaint)

/-- The command that failed; of one that was not started, its program. -/
def command : CallError → String
  | .notStarted program _ => program
  | .failed command _ _ | .timedOut command _ | .unreadable command => command

/-- Whether the call ran out of time. -/
def isTimeout : CallError → Bool
  | .timedOut _ _ => true
  | _ => false

/-- A command in a message. -/
def quoted (command : String) : String := "`" ++ command ++ "`"

/-- The error in words. -/
def message : CallError → String
  | .notStarted program reason => "Failed to spawn " ++ quoted program ++ ": " ++ reason
  | .failed command status complaint =>
    quoted command ++ " failed (" ++ status.describe ++ "): " ++ complaint
  | .timedOut command limitMillis =>
    quoted command ++ " timed out after " ++ toString (limitMillis / 1000) ++ "s"
  | @unreadable command reason => "Failed to parse output of " ++ quoted command ++ ": " ++ reason

/-- The reason behind the error, where it has one of its own. -/
def cause? : CallError → Option String
  | .notStarted _ reason | @unreadable _ reason => some reason
  | .failed .. | .timedOut .. => none

/-- The message names the command. -/
theorem message_names_command (e : CallError) :
    ∃ front back, e.message = front ++ quoted e.command ++ back := by
  cases e with
  | notStarted program reason => exact ⟨_, _, String.append_assoc ..⟩
  | failed command status complaint =>
    refine ⟨"", " failed (" ++ (status.describe ++ ("): " ++ complaint)), ?_⟩
    show quoted command ++ " failed (" ++ status.describe ++ "): " ++ complaint = _
    rw [String.append_assoc, String.append_assoc, String.append_assoc, String.empty_append]
    rfl
  | timedOut command limitMillis =>
    refine ⟨"", " timed out after " ++ (toString (limitMillis / 1000) ++ "s"), ?_⟩
    show quoted command ++ " timed out after " ++ toString (limitMillis / 1000) ++ "s" = _
    rw [String.append_assoc, String.append_assoc, String.empty_append]
    rfl
  | @unreadable command reason => exact ⟨_, _, String.append_assoc ..⟩

/-- A reason of its own stands at the end of the message. -/
theorem message_of_cause? {e : CallError} {reason : String} (h : e.cause? = some reason) :
    ∃ front, e.message = front ++ ": " ++ reason := by
  cases e with
  | notStarted program _ =>
    cases h
    exact ⟨_, rfl⟩
  | @unreadable command _ =>
    cases h
    exact ⟨_, rfl⟩
  | failed | timedOut => cases h

end CallError
end CloudSweep
