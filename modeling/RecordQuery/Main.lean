import RecordQuery.CommandLine.Run

/-! The program: reads the file and the standard input that a command needs, runs it and prints. -/

open RecordQuery.CommandLine

/-- Reads a file, or says why that fails. -/
def readFileOrFail (path : String) : IO (Except Failure String) := do
  try
    return .ok (← IO.FS.readFile path)
  catch
    | .noFileOrDirectory _ _ _ => return .error (.unreadable noSuchFile)
    | error => return .error (.unreadable (toString error))

/-- Standard input, unless it is a terminal. -/
def readInput : IO (Option String) := do
  let stdin ← IO.getStdin
  if ← stdin.isTty then return none
  return some (← stdin.readToEnd)

/-- Whether a command takes something from standard input. -/
def wantsInput : Command → Bool
  | .check query _ | .lower query _ _ | .raise query _ | .criteria query _ => query.isNone
  | .filter _ records => records.isNone
  | .topics | .topic _ => false

/-- The entry of the program. -/
def main (arguments : List String) : IO UInt32 := do
  let command? := Command.ofArguments? arguments
  let content ← match command?.bind Command.typesFile? with
    | some path => readFileOrFail path
    | none => pure (.error (.unreadable noSuchFile))
  let input ← if command?.any wantsInput then readInput else pure none
  let outcome := run ⟨input, fun _ => content⟩ arguments
  IO.print outcome.output
  IO.eprint outcome.complaint
  return outcome.status.toUInt32
