import RecordQuery.Cursor
import RecordQuery.Number.Decimal
import RecordQuery.Text.Character
import RecordQuery.Text.Quote

/-! The tokens of queries and how they are read. A number keeps the digits it is written in; one
that no decimal can hold is refused. Characters that stick to the closing quote of a quoted text are
dropped. -/

namespace RecordQuery.Query

/-- The reserved words, `true` and `false` apart. Their case matters. -/
inductive Keyword where
  | and
  | or
  | not
  | between
  | oneOf
  | contains (caseSensitive : Bool)
  | complies (kind : PatternKind)
  | is
  | state (check : Check)
deriving DecidableEq, Repr

namespace Keyword

/-- The spelling of a reserved word. -/
def text : Keyword → String
  | .and => "and"
  | .or => "or"
  | .not => "not"
  | .between => "between"
  | .oneOf => "in"
  | .contains true => "contains"
  | .contains false => "containsIgnoreCase"
  | .complies .character => "complies"
  | .complies .word => "wordComplies"
  | .is => "is"
  | .state .null => "null"
  | .state .empty => "empty"
  | .state .valid => "valid"
  | .state .invalid => "invalid"

/-- The reserved words. -/
def every : List Keyword :=
  [.and, .or, .not, .between, .oneOf, .contains true, .contains false, .complies .character,
    .complies .word, .is, .state .null, .state .empty, .state .valid, .state .invalid]

/-- The reserved word of this spelling. -/
def ofText? (name : String) : Option Keyword :=
  every.find? (·.text == name)

theorem mem_every (keyword : Keyword) : keyword ∈ every := by
  cases keyword with
  | contains c => cases c <;> simp [every]
  | complies k => cases k <;> simp [every]
  | state c => cases c <;> simp [every]
  | _ => simp [every]

end Keyword

/-- A token of a query. -/
inductive Token where
  | literal (value : Literal)
  | name (path : String)
  | star
  | compare (operator : Comparison)
  | tilde
  | leftParen
  | rightParen
  | leftBracket
  | rightBracket
  | comma
  | keyword (word : Keyword)
  | done
deriving DecidableEq, Repr

namespace Token

/-- The token of a word: a truth value, a reserved word or a name. -/
def ofWord (word : String) : Token :=
  if word = "true" then .literal (.ofBool true)
  else if word = "false" then .literal (.ofBool false)
  else match Keyword.ofText? word with
    | some reserved => .keyword reserved
    | none => .name word

/-- The token as error messages name it. -/
def describe : Token → String
  | .literal ⟨.integer, text⟩ => s!"number {text}"
  | .literal ⟨.decimal, text⟩ => s!"number {text}"
  | .literal ⟨.quoted, text⟩ => s!"string '{text}'"
  | .literal ⟨.boolean, text⟩ => s!"'{text}'"
  | .name path => s!"field '{path}'"
  | .star => "'*'"
  | .compare operator => s!"'{operator.querySymbol}'"
  | .tilde => "'~'"
  | .leftParen => "'('"
  | .rightParen => "')'"
  | .leftBracket => "'['"
  | .rightBracket => "']'"
  | .comma => "','"
  | .keyword word => s!"'{word.text}'"
  | .done => "end of input"

instance : TokenKind Token := ⟨.done, describe⟩

/-- Characters that a name begins with. -/
def startsName (c : Char) : Bool :=
  Text.isAlphabetic c || c = '_'

/-- Characters that a name goes on with. -/
def continuesName (c : Char) : Bool :=
  Text.isAlphanumeric c || c = '_' || c = '.'

/-- The digits at the front of a text, and after them a point and digits if there are any. -/
def spanNumber (chars : List Char) : List Char × List Char :=
  let whole := chars.takeWhile Char.isDigit
  match chars.dropWhile Char.isDigit with
  | '.' :: rest =>
    let fraction := rest.takeWhile Char.isDigit
    if fraction.isEmpty then (whole, []) else (whole, fraction)
  | _ => (whole, [])

/-- Reads a number after a minus sign or none. -/
def readNumber (sign : List Char) (chars : List Char) : Reading Token :=
  let (whole, fraction) := spanNumber chars
  let written := sign ++ whole ++ (if fraction.isEmpty then [] else '.' :: fraction)
  let text := String.ofList written
  let rest := (sign ++ chars).drop written.length
  if rest.head?.any startsName then ⟨.error (.fault (.malformedNumber text)), written.length⟩
  else if (Decimal.read? written).isNone then ⟨.error (.overflow text), written.length⟩
  else
    let kind : LiteralKind := if fraction.isEmpty then .integer else .decimal
    ⟨.ok (.literal ⟨kind, text⟩), written.length⟩

/-- Characters that end what sticks to a closing quote. -/
def endsGlued (c : Char) : Bool :=
  Text.isBlank c || c = ',' || c = '[' || c = ']' || c = ')'

/-- Reads a quoted text after its opening quote, with the characters that stick to the closing
one. -/
def readQuote (chars : List Char) : Reading Token :=
  match Text.readQuoted '\'' chars with
  | .error .atEnd => ⟨.error (.fault .unclosedQuote), chars.length + 1⟩
  | .error .afterBackslash => ⟨.error (.fault .unclosedEscape), chars.length + 1⟩
  | .ok (text, rest) =>
    let left := rest.dropWhile (!endsGlued ·)
    ⟨.ok (.literal (.ofText (String.ofList text))), chars.length + 1 - left.length⟩

/-- Reads the token at the front of a text that does not begin with white space. -/
def read : List Char → Reading Token
  | [] => ⟨.ok .done, 0⟩
  | '*' :: _ => ⟨.ok .star, 1⟩
  | '=' :: _ => ⟨.ok (.compare .eq), 1⟩
  | '~' :: _ => ⟨.ok .tilde, 1⟩
  | ',' :: _ => ⟨.ok .comma, 1⟩
  | '(' :: _ => ⟨.ok .leftParen, 1⟩
  | ')' :: _ => ⟨.ok .rightParen, 1⟩
  | '[' :: _ => ⟨.ok .leftBracket, 1⟩
  | ']' :: _ => ⟨.ok .rightBracket, 1⟩
  | '<' :: '=' :: _ => ⟨.ok (.compare .le), 2⟩
  | '<' :: _ => ⟨.ok (.compare .lt), 1⟩
  | '>' :: '=' :: _ => ⟨.ok (.compare .ge), 2⟩
  | '>' :: _ => ⟨.ok (.compare .gt), 1⟩
  | '!' :: '=' :: _ => ⟨.ok (.compare .ne), 2⟩
  | '!' :: _ => ⟨.error (.fault .loneBang), 0⟩
  | '\'' :: rest => readQuote rest
  | c :: rest =>
    if c = '-' && rest.head?.any Char.isDigit then readNumber ['-'] rest
    else if c.isDigit then readNumber [] (c :: rest)
    else if startsName c then
      let word := (c :: rest).takeWhile continuesName
      ⟨.ok (ofWord (String.ofList word)), word.length⟩
    else ⟨.error (.fault (.unexpectedCharacter c)), 0⟩

/-- The next lexeme of a query, and what is left of its text. -/
def next (source : Source) : Lexeme Token × Source :=
  Lexeme.next read Text.isBlank source

/-- The lexemes of a query. -/
def stream (text : String) : Stream Token :=
  Stream.ofSource read Text.isBlank (Source.ofString text)

end Token

end RecordQuery.Query
