import RecordQuery.CommandLine.Arguments

/-! The commands and how they are read from the arguments. -/

namespace RecordQuery.CommandLine

/-- A command and what it was given. What is missing is read from standard input. -/
inductive Command where
  | check (query : Option String) (asJson : Bool)
  | lower (query : Option String) (policy : String) (typesFile : Option String)
  | raise (formula : Option String) (policy : String)
  | criteria (query : Option String) (pretty : Bool)
  | filter (query : String) (records : Option String)
  | topics
  | topic (name : String)
deriving DecidableEq, Repr

namespace Command

/-- The option that asks for more messages. -/
def verbose : Choice := ⟨"verbose", some 'v', .counted⟩

/-- The options of the command of this name. -/
def choices (command : String) : List Choice :=
  verbose ::
    if command = "check" then [⟨"json", none, .flag⟩]
    else if command = "lower" then
      [⟨"policy", some 'p', .value⟩, ⟨"types", some 't', .value⟩]
    else if command = "raise" then [⟨"policy", some 'p', .value⟩]
    else if command = "criteria" then [⟨"pretty", some 'p', .flag⟩]
    else if command = "filter" then [⟨"input", some 'i', .value⟩]
    else []

/-- The policy that was given, or else the generic one. -/
def policyOf (given : Given) : String := (given.value? "policy").getD "generic"

/-- The command of this name with what it was given, if it takes that. -/
def ofGiven? (name : String) (given : Given) : Option Command :=
  match given.words with
  | [] =>
    if name = "check" then some (.check none (given.hasFlag "json"))
    else if name = "lower" then some (.lower none (policyOf given) (given.value? "types"))
    else if name = "raise" then some (.raise none (policyOf given))
    else if name = "criteria" then some (.criteria none (given.hasFlag "pretty"))
    else if name = "docs" then some .topics
    else none
  | [word] =>
    if name = "check" then some (.check (some word) (given.hasFlag "json"))
    else if name = "lower" then some (.lower (some word) (policyOf given) (given.value? "types"))
    else if name = "raise" then some (.raise (some word) (policyOf given))
    else if name = "criteria" then some (.criteria (some word) (given.hasFlag "pretty"))
    else if name = "filter" then some (.filter word (given.value? "input"))
    else if name = "doc" then some (.topic word)
    else none
  | _ => none

/-- The command that the arguments name, if they are well formed. Options that belong to no command
may stand before its name. -/
def ofArguments? : List String → Option Command
  | [] => none
  | argument :: rest =>
    match Form.of argument with
    | .word => (readArguments? (choices argument) .nothing none rest).bind (ofGiven? argument)
    | form =>
      match readOption? [verbose] .nothing form with
      | some (_, none) => ofArguments? rest
      | _ => none

/-- The file that a command reads its type dictionary from. -/
def typesFile? : Command → Option String
  | .lower _ _ typesFile => typesFile
  | _ => none

end Command

end RecordQuery.CommandLine
