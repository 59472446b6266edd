import RecordQuery.Query.Normal
import RecordQuery.Query.Token

/-! Parsing of queries. "Not" binds tighter than "and", and "and" tighter than "or"; parentheses
group. What is parsed is put into normal form on the way. -/

namespace RecordQuery

/-- Refuses a range whose bounds are not both numbers or both quoted texts. -/
def checkBounds (left right : Literal) : Except Error Unit :=
  if left.kind = .boolean then .error (.misuse (.booleanBound left.text))
  else if right.kind = .boolean then .error (.misuse (.booleanBound right.text))
  else if left.kind = right.kind ∨ (left.kind.isNumeric ∧ right.kind.isNumeric) then .ok ()
  else .error (.misuse (.mixedBounds left.kind right.kind))

namespace Query

namespace Grammar

open RecordQuery.Parser

/-- Parses a field. -/
def field : Parser Token Field := do
  match ← current with
  | .name path => consume; return .named path
  | .star => consume; return .all
  | _ => expected "a field name or '*'"

/-- Parses a quoted text. -/
def quotedText : Parser Token String := do
  match ← current with
  | .literal ⟨.quoted, text⟩ => consume; return text
  | _ => expected "a quoted string"

/-- Parses a literal or the name of a field. -/
def operand : Parser Token Operand := do
  match ← current with
  | .literal value => consume; return .literal value
  | .name path => consume; return .field path
  | _ => expected "a literal or a field name"

/-- Parses a bound of a range, which must be a literal. -/
def bound : Parser Token Literal := do
  match ← operand with
  | .literal value => return value
  | .field path => throw (.misuse (.boundField path))

/-- Parses a bracket that begins a range; one turned outwards leaves the end open. -/
def lowerBracket : Parser Token Bool := do
  match ← current with
  | .leftBracket => advance; return false
  | .rightBracket => advance; return true
  | _ => expected "'[' or ']'"

/-- Parses a bracket that ends a range; one turned outwards leaves the end open. -/
def upperBracket : Parser Token Bool := do
  match ← current with
  | .rightBracket => advance; return false
  | .leftBracket => advance; return true
  | _ => expected "']' or '['"

/-- Parses a range. -/
def range : Parser Token Range := do
  let lowerOpen ← lowerBracket
  let left ← bound
  expect .comma
  let right ← bound
  let upperOpen ← upperBracket
  match checkBounds left right with
  | .ok () => return { left, right, lowerOpen, upperOpen }
  | .error e => throw e

/-- The literals among operands. -/
def literals (operands : List Operand) : List Literal :=
  operands.filterMap fun | .literal value => some value | .field _ => none

/-- The names of fields among operands. -/
def fieldNames (operands : List Operand) : List String :=
  operands.filterMap fun | .literal _ => none | .field path => some path

/-- Parses a list of literals in brackets. Names of fields are only refused behind it. -/
def literalList : Parser Token (List Literal) := do
  expect .leftBracket
  let operands ← separated (· == .comma) operand
  expect .rightBracket
  match fieldNames operands with
  | [] => return literals operands
  | names => throw (.misuse (.listFields names))

/-- Parses the state that a check asks for. -/
def check : Parser Token Check := do
  match ← current with
  | .keyword (.state check) => advance; return check
  | _ => expected "'null', 'empty', 'valid' or 'invalid'"

/-- Parses a test. -/
def test : Parser Token Test := do
  match ← current with
  | .compare operator => advance; return .compare operator (← operand)
  | .tilde => advance; return .matching (← quotedText)
  | .keyword .between => advance; return .between (← range)
  | .keyword .oneOf => advance; return .oneOf (← literalList)
  | .keyword (.contains caseSensitive) => advance; return .contains (← quotedText) caseSensitive
  | .keyword (.complies kind) => advance; return .complies kind (← quotedText)
  | .keyword .is => advance; return .is (← check)
  | _ => expected "an operator"

/-- Parses a predicate. -/
def predicate : Parser Token Query := do
  let field ← field
  let test ← test
  return .leaf ⟨field, test⟩

/-- Parses a query after at most `count` words "not". -/
def negations (item : Parser Token Query) : (count : Nat) → Parser Token Query
  | 0 => item
  | count + 1 => do
    if (← current) = .keyword .not then
      advance
      return negation (← negations item count)
    else item

/-- Parses items joined by "and". -/
def conjunctionOf (item : Parser Token Query) : Parser Token Query := do
  return conjunction (← separated (· == .keyword .and) do negations item (← budget))

/-- Parses items joined by "and" and "or". -/
def disjunctionOf (item : Parser Token Query) : Parser Token Query := do
  return disjunction (← separated (· == .keyword .or) (conjunctionOf item))

/-- Parses a predicate or a group in parentheses, groups nested up to `depth` levels. -/
def group : (depth : Nat) → Parser Token Query
  | 0 => predicate
  | depth + 1 => do
    if (← current) = .leftParen then
      advance
      let inner ← disjunctionOf (group depth)
      expect .rightParen
      return inner
    else predicate

/-- Parses a query. -/
def query : Parser Token Query := do
  disjunctionOf (group (← budget))

/-- Parses a query that takes up all of a text. -/
def whole : Parser Token Query := do
  let result ← query
  if (← current) = .done then return result
  else expected "'and', 'or' or end of input"

end Grammar

/-- The query of a text. -/
def parse (text : String) : Except Error Query :=
  Parser.run Grammar.whole (Token.stream text)

/-- Parses a text so many times, each time from where the last parse stopped. -/
def parseRepeatedly (times : Nat) (text : String) : Except Error (List (Except Error Query)) :=
  (Cursor.start (Token.stream text)).map (Parser.repeatFrom Grammar.whole times)

end Query

end RecordQuery
