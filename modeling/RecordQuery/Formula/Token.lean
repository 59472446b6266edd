import RecordQuery.Cursor
import RecordQuery.Formula.Basic
import RecordQuery.Text.Character
import RecordQuery.Text.Quote
import RecordQuery.Text.Visible

/-! The tokens of formulas and how they are read. A number without a suffix takes the narrowest type
that holds it; the suffix `L` makes it long, and `d` or `f` a double. Signs are no part of numbers,
so the magnitude of the least long number has a token of its own. -/

namespace RecordQuery.Formula

/-- The reserved words, `true` and `false` apart. -/
inductive Keyword where
  | if
  | else
  | elseIf
  | switch
  | case
  | default
deriving DecidableEq, Repr

/-- The signs of formulas. -/
inductive Sign where
  | equal | notEqual | less | greater | lessEqual | greaterEqual
  | assign | bang | andAnd | orOr
  | plus | minus | star | slash | percent
  | leftParen | rightParen | leftBracket | rightBracket | leftBrace | rightBrace
  | comma | colon | semicolon
deriving DecidableEq, Repr

/-- A token of a formula. -/
inductive Token where
  | literal (value : Value)
  /-- The magnitude of the least long number, which only a minus sign may precede. -/
  | leastLong
  | name (text : String)
  | keyword (word : Keyword)
  | sign (sign : Sign)
  | done

/-- The name of a reserved word in messages. -/
def Keyword.describe : Keyword → String
  | .if => "If"
  | .else => "Else"
  | .elseIf => "ElseIf"
  | .switch => "Switch"
  | .case => "Case"
  | .default => "Default"

/-- The name of a sign in messages. -/
def Sign.describe : Sign → String
  | .equal => "EqEq"
  | .notEqual => "NotEq"
  | .less => "Lt"
  | .greater => "Gt"
  | .lessEqual => "LtEq"
  | .greaterEqual => "GtEq"
  | .assign => "Assign"
  | .bang => "Bang"
  | .andAnd => "AndAnd"
  | .orOr => "OrOr"
  | .plus => "Plus"
  | .minus => "Minus"
  | .star => "Star"
  | .slash => "Slash"
  | .percent => "Percent"
  | .leftParen => "LParen"
  | .rightParen => "RParen"
  | .leftBracket => "LBracket"
  | .rightBracket => "RBracket"
  | .leftBrace => "LBrace"
  | .rightBrace => "RBrace"
  | .comma => "Comma"
  | .colon => "Colon"
  | .semicolon => "Semicolon"

namespace Token

/-- The name of a literal in messages. -/
def describeValue : Value → String
  | .int n => "Int(" ++ Integer.text n ++ ")"
  | .long n => "Long(" ++ Integer.text n ++ ")"
  | .decimal d => "Decimal(" ++ d.text ++ ")"
  | .double x => "Double(" ++ Double.explicit.text x ++ ")"
  | .boolean b => "Boolean(" ++ (if b then "true" else "false") ++ ")"
  | .string s => "Str(" ++ Text.visible s ++ ")"

/-- The name of a token in messages. -/
def describe : Token → String
  | .literal value => describeValue value
  | .leastLong => "LongMinMagnitude"
  | .name text => "Identifier(" ++ Text.visible text ++ ")"
  | .keyword word => word.describe
  | .sign s => s.describe
  | .done => "Eof"

instance : TokenKind Token := ⟨.done, describe⟩

/-- Whether the token is this sign. -/
def isSign (sign : Sign) : Token → Bool
  | .sign other => other = sign
  | _ => false

/-- Whether the token is the end of the text. -/
def isDone : Token → Bool
  | .done => true
  | _ => false

/-- Characters that a name begins with. -/
def startsName (c : Char) : Bool :=
  Text.isAlphabetic c || c = '_'

/-- Characters that a name goes on with. -/
def continuesName (c : Char) : Bool :=
  Text.isAlphanumeric c || c = '_' || c = '.'

/-- The token of a word: a truth value, a reserved word or a name. -/
def ofWord (word : String) : Token :=
  if word = "true" then .literal (.boolean true)
  else if word = "false" then .literal (.boolean false)
  else if word = "if" then .keyword .if
  else if word = "else" then .keyword .else
  else if word = "elseif" then .keyword .elseIf
  else if word = "switch" then .keyword .switch
  else if word = "case" then .keyword .case
  else if word = "default" then .keyword .default
  else .name word

/-- The digits at the front of a text, and after them a point and digits if there are any. -/
def spanNumber (chars : List Char) : List Char × List Char :=
  let whole := chars.takeWhile Char.isDigit
  match chars.dropWhile Char.isDigit with
  | '.' :: rest => (whole, rest.takeWhile Char.isDigit)
  | _ => (whole, [])

/-- What the suffix of a number says. -/
inductive Suffix where
  | long
  | double
deriving DecidableEq

/-- The suffix that a text begins with: a letter that no other part of a word follows. -/
def suffix? : List Char → Option Suffix
  | [] => none
  | c :: rest =>
    if rest.head?.any fun next => Text.isAlphanumeric next || next = '_' then none
    else if c = 'L' || c = 'l' then some .long
    else if c = 'd' || c = 'D' || c = 'f' || c = 'F' then some .double
    else none

/-- The magnitude of the least long number. -/
def leastLongMagnitude : Nat := 9223372036854775808

/-- The token of an integer without a suffix: the narrowest type that holds it. -/
def ofInteger (digits : List Char) : Except Flaw Token :=
  let n : Int := digitsValue digits
  if Integer.fits32 n then .ok (.literal (.int n))
  else if Integer.fits64 n then .ok (.literal (.long n))
  else match Decimal.read? digits with
    | some d => .ok (.literal (.decimal d))
    | none => .error (.overflow (String.ofList digits))

/-- The token of an integer with the suffix of long numbers. -/
def ofLong (digits : List Char) : Except Flaw Token :=
  let n : Int := digitsValue digits
  if Integer.fits64 n then .ok (.literal (.long n))
  else if n = leastLongMagnitude then .ok .leastLong
  else .error (.fault (.malformedNumber (String.ofList digits)))

/-- The token of digits with a point or none and a suffix or none. -/
def ofNumber (whole fraction : List Char) (suffix : Option Suffix) : Except Flaw Token :=
  let written := whole ++ (if fraction.isEmpty then [] else '.' :: fraction)
  let malformed : Except Flaw Token := .error (.fault (.malformedNumber (String.ofList written)))
  match suffix with
  | some .long => if fraction.isEmpty then ofLong whole else malformed
  | some .double =>
    match Double.read? written with
    | some x => .ok (.literal (.double x))
    | none => malformed
  | none =>
    if fraction.isEmpty then ofInteger whole
    else match Decimal.read? written with
      | some d => .ok (.literal (.decimal d))
      | none => malformed

/-- Reads a number with its suffix. -/
def readNumber (chars : List Char) : Reading Token :=
  let (whole, fraction) := spanNumber chars
  let length := whole.length + (if fraction.isEmpty then 0 else fraction.length + 1)
  let rest := chars.drop length
  let suffix := suffix? rest
  match ofNumber whole fraction suffix with
  | .error flaw => ⟨.error flaw, length⟩
  | .ok token =>
    if suffix.isSome then ⟨.ok token, length + 1⟩
    else if rest.head?.any startsName then
      ⟨.error (.fault (.malformedNumber (String.ofList (chars.take length)))), length⟩
    else ⟨.ok token, length⟩

/-- Reads a string after its opening quote. -/
def readString (quote : Char) (chars : List Char) : Reading Token :=
  match Text.readQuoted quote chars with
  | .error _ => ⟨.error (.fault .unclosedString), chars.length + 1⟩
  | .ok (text, rest) =>
    ⟨.ok (.literal (.string (String.ofList text))), chars.length + 1 - rest.length⟩

/-- Reads the token at the front of a text that does not begin with white space. -/
def read : List Char → Reading Token
  | [] => ⟨.ok .done, 0⟩
  | '=' :: '=' :: _ => ⟨.ok (.sign .equal), 2⟩
  | '=' :: _ => ⟨.ok (.sign .assign), 1⟩
  | '!' :: '=' :: _ => ⟨.ok (.sign .notEqual), 2⟩
  | '!' :: _ => ⟨.ok (.sign .bang), 1⟩
  | '<' :: '=' :: _ => ⟨.ok (.sign .lessEqual), 2⟩
  | '<' :: _ => ⟨.ok (.sign .less), 1⟩
  | '>' :: '=' :: _ => ⟨.ok (.sign .greaterEqual), 2⟩
  | '>' :: _ => ⟨.ok (.sign .greater), 1⟩
  | '&' :: '&' :: _ => ⟨.ok (.sign .andAnd), 2⟩
  | '&' :: _ => ⟨.error (.fault (.undoubled '&')), 0⟩
  | '|' :: '|' :: _ => ⟨.ok (.sign .orOr), 2⟩
  | '|' :: _ => ⟨.error (.fault (.undoubled '|')), 0⟩
  | '+' :: _ => ⟨.ok (.sign .plus), 1⟩
  | '-' :: _ => ⟨.ok (.sign .minus), 1⟩
  | '*' :: _ => ⟨.ok (.sign .star), 1⟩
  | '/' :: _ => ⟨.ok (.sign .slash), 1⟩
  | '%' :: _ => ⟨.ok (.sign .percent), 1⟩
  | '(' :: _ => ⟨.ok (.sign .leftParen), 1⟩
  | ')' :: _ => ⟨.ok (.sign .rightParen), 1⟩
  | '[' :: _ => ⟨.ok (.sign .leftBracket), 1⟩
  | ']' :: _ => ⟨.ok (.sign .rightBracket), 1⟩
  | '\x7b' :: _ => ⟨.ok (.sign .leftBrace), 1⟩
  | '\x7d' :: _ => ⟨.ok (.sign .rightBrace), 1⟩
  | ',' :: _ => ⟨.ok (.sign .comma), 1⟩
  | ':' :: _ => ⟨.ok (.sign .colon), 1⟩
  | ';' :: _ => ⟨.ok (.sign .semicolon), 1⟩
  | '\'' :: rest => readString '\'' rest
  | '"' :: rest => readString '"' rest
  | c :: rest =>
    if c.isDigit then readNumber (c :: rest)
    else if startsName c then
      let word := (c :: rest).takeWhile continuesName
      ⟨.ok (ofWord (String.ofList word)), word.length⟩
    else ⟨.error (.fault (.unexpectedCharacter c)), 0⟩

/-- The next lexeme of a formula, and what is left of its text. -/
def next (source : Source) : Lexeme Token × Source :=
  Lexeme.next read Text.isBlank source

/-- The lexemes of a formula. -/
def stream (text : String) : Stream Token :=
  Stream.ofSource read Text.isBlank (Source.ofString text)

end Token

end RecordQuery.Formula
