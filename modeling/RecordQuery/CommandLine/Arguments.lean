/-! Reading the arguments of a command. Options may stand anywhere: `--name`, `--name value`,
`--name=value`, `-n`, `-nvalue`, `-n=value`, and several options of one letter after one hyphen.
After `--` every argument is a word. No option may be given twice unless it is counted. -/

namespace RecordQuery.CommandLine

/-- What an option takes. -/
inductive Arity where
  /-- Nothing, and it may be given once. -/
  | flag
  /-- Nothing, and it may be given any number of times. -/
  | counted
  /-- A value, and it may be given once. -/
  | value
deriving DecidableEq, Repr

/-- An option: its name, its letter and what it takes. -/
structure Choice where
  name : String
  letter : Option Char
  arity : Arity
deriving DecidableEq, Repr

/-- What was given: words, flags and values, by the names of the options. -/
structure Given where
  words : List String
  flags : List String
  values : List (String × String)
deriving DecidableEq, Repr

namespace Given

/-- Nothing was given. -/
def nothing : Given := ⟨[], [], []⟩

/-- Appends a word. -/
def putWord (given : Given) (word : String) : Given :=
  { given with words := given.words ++ [word] }

/-- Notes an option without a value, if it may be given. -/
def putFlag? (given : Given) (choice : Choice) : Option Given :=
  match choice.arity with
  | .value => none
  | .counted => some given
  | .flag =>
    if given.flags.contains choice.name then none
    else some { given with flags := choice.name :: given.flags }

/-- Notes an option with a value, if it may be given. -/
def putValue? (given : Given) (choice : Choice) (value : String) : Option Given :=
  if choice.arity = .value && (given.values.lookup choice.name).isNone then
    some { given with values := (choice.name, value) :: given.values }
  else none

/-- Whether a flag was given. -/
def hasFlag (given : Given) (name : String) : Bool := given.flags.contains name

/-- The value of an option, if it was given. -/
def value? (given : Given) (name : String) : Option String := given.values.lookup name

end Given

/-- An argument by its form. -/
inductive Form where
  | word
  /-- All that follows are words. -/
  | separator
  /-- An option by its name, with a value if an equals sign follows. -/
  | named (name : String) (value : Option String)
  /-- Options by their letters. -/
  | letters (chars : List Char)

/-- What follows the first equals sign, if there is one. -/
def valueBehind? (chars : List Char) : Option String :=
  match chars.dropWhile (· != '=') with
  | _ :: rest => some (String.ofList rest)
  | [] => none

/-- The form of an argument. A lone hyphen is a word. -/
def Form.of (argument : String) : Form :=
  match argument.toList with
  | ['-', '-'] => .separator
  | '-' :: '-' :: rest => .named (String.ofList (rest.takeWhile (· != '='))) (valueBehind? rest)
  | '-' :: c :: rest => .letters (c :: rest)
  | _ => .word

/-- Reads options by their letters. The first that takes a value takes what follows it, an equals
sign between them aside; if nothing follows, its value is still wanted. -/
def readLetters? (choices : List Choice) (given : Given) : List Char →
    Option (Given × Option Choice)
  | [] => some (given, none)
  | c :: rest =>
    match choices.find? (·.letter == some c), rest with
    | none, _ => none
    | some choice, rest =>
      if choice.arity = .value then
        match rest with
        | [] => some (given, some choice)
        | '=' :: value => (given.putValue? choice (String.ofList value)).map (·, none)
        | value => (given.putValue? choice (String.ofList value)).map (·, none)
      else
        match given.putFlag? choice with
        | some given => readLetters? choices given rest
        | none => none

/-- Reads one option: what is given then, and the option whose value is still wanted. -/
def readOption? (choices : List Choice) (given : Given) : Form → Option (Given × Option Choice)
  | .letters chars => readLetters? choices given chars
  | .named name value =>
    match choices.find? (·.name == name), value with
    | none, _ => none
    | some choice, some value => (given.putValue? choice value).map (·, none)
    | some choice, none =>
      if choice.arity = .value then some (given, some choice)
      else (given.putFlag? choice).map (·, none)
  | _ => none

/-- Reads arguments, with the option whose value is wanted first, or gives nothing if they are not
as the options say. -/
def readArguments? (choices : List Choice) (given : Given) (wanted : Option Choice) :
    List String → Option Given
  | [] => if wanted.isNone then some given else none
  | argument :: rest =>
    match wanted, Form.of argument with
    | some choice, .word =>
      match given.putValue? choice argument with
      | some given => readArguments? choices given none rest
      | none => none
    | some _, _ => none
    | none, .word => readArguments? choices (given.putWord argument) none rest
    | none, .separator => some { given with words := given.words ++ rest }
    | none, form =>
      match readOption? choices given form with
      | some (given, wanted) => readArguments? choices given wanted rest
      | none => none

end RecordQuery.CommandLine
