import RecordQuery.CommandLine.Command
import RecordQuery.CommandLine.Operation

/-! Running a command: what it prints and the status it ends with. -/

namespace RecordQuery.CommandLine

/-- What a command finds when it runs: standard input, unless that is a terminal, and the files. -/
structure Surroundings where
  input : Option String
  fileText : String → Except Failure String

/-- How a run ends: with a text on standard output, with a failure, or with arguments that name no
command. -/
inductive Outcome where
  | printed (text : String)
  | failed (failure : Failure)
  | misused

namespace Outcome

/-- The status of the program at the end. -/
def status : Outcome → UInt8
  | .printed _ => 0
  | .failed _ => 1
  | .misused => 2

/-- What is written to standard output. -/
def output : Outcome → String
  | .printed text => text
  | _ => ""

/-- What is written to standard error. -/
def complaint : Outcome → String
  | .printed _ => ""
  | .failed failure => failure.message ++ "\n"
  | .misused => "Usage: tql [-v] <check|lower|raise|criteria|filter|docs|doc> [arguments]\n"

end Outcome

namespace Command

/-- An argument, or else standard input. -/
def argumentOr (surroundings : Surroundings) (what : String) (argument : Option String) :
    Except Failure String :=
  match argument, surroundings.input with
  | some text, _ => .ok text
  | none, some text => .ok text
  | none, none => .error (.missing what)

/-- A text with a line break. -/
def line (text : String) : String := text ++ "\n"

/-- The content of a file, if one is named. -/
def fileContent (surroundings : Surroundings) : Option String → Except Failure (Option String)
  | none => .ok none
  | some path => (surroundings.fileText path).map some

/-- What a command prints. -/
def output (surroundings : Surroundings) : Command → Except Failure String
  | .check query asJson => do
    let query ← argumentOr surroundings "query" query
    if asJson then return line (← treeOf query).pretty
    else return line (← canonicalText query)
  | .lower query policy typesFile => do
    let types ← fileContent surroundings typesFile
    let query ← argumentOr surroundings "query" query
    return line (← loweredText policy types query)
  | .raise formula policy => do
    let formula ← argumentOr surroundings "expression" formula
    return line (← raisedText policy formula)
  | .criteria query pretty => do
    let query ← argumentOr surroundings "query" query
    return line (← criteriaText pretty query)
  | .filter query records => do
    let records ← argumentOr surroundings "input" records
    return String.join ((← filterRecords query records).map fun record => line record.compact)
  | .topics => return overview
  | .topic name => topicText name

end Command

/-- Runs the program with these arguments. -/
def run (surroundings : Surroundings) (arguments : List String) : Outcome :=
  match Command.ofArguments? arguments with
  | none => .misused
  | some command =>
    match command.output surroundings with
    | .ok text => .printed text
    | .error failure => .failed failure

end RecordQuery.CommandLine
