import RecordQuery.Error

/-! Why a command fails, and the line that says so. -/

namespace RecordQuery.CommandLine

/-- Why a command that was understood fails. -/
inductive Failure where
  /-- A query, a formula or a type dictionary is at fault. -/
  | rejected (error : Error)
  /-- The records are no JSON. -/
  | notJson
  /-- A file cannot be read. -/
  | unreadable (reason : String)
  /-- Neither an argument nor standard input gives what is wanted. -/
  | missing (what : String)
  | unknownPolicy (name : String)
  | unknownTopic (name : String)
deriving DecidableEq, Repr

/-- The wording of a failure. -/
def Failure.message : Failure → String
  | .rejected error => error.message
  | .notJson => "Invalid JSON"
  | .unreadable reason => s!"IO error: {reason}"
  | .missing what => s!"No {what} provided. Pass it as an argument or pipe it to stdin."
  | .unknownPolicy name =>
    s!"Unknown policy: '{name}'. Expected generic, storage or runtime."
  | .unknownTopic name =>
    s!"Unknown category: '{name}'\nRun 'tql docs' to see available categories."

/-- The reason why a file that is not there cannot be read. -/
def noSuchFile : String := "No such file or directory (os error 2)"

end RecordQuery.CommandLine
