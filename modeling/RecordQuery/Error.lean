import RecordQuery.Position
import RecordQuery.Query.Basic
import RecordQuery.Text.Part

/-! What can go wrong when a query or a formula is read or carried over, and the wording of it. -/

namespace RecordQuery

/-- What is wrong with a text at some place. -/
inductive Fault where
  | unexpectedCharacter (c : Char)
  /-- An exclamation mark that begins no operator. -/
  | loneBang
  /-- An operator sign that only stands doubled. -/
  | undoubled (sign : Char)
  /-- A quoted text of a query that no quote closes. -/
  | unclosedQuote
  /-- A quoted text of a query that ends after a backslash. -/
  | unclosedEscape
  /-- A string of a formula that no quote closes. -/
  | unclosedString
  | malformedNumber (text : String)
  | expected (wanted found : String)
  | unexpectedToken (found : String)
deriving DecidableEq, Repr

namespace Fault

/-- The wording of a fault. -/
def message : Fault → String
  | .unexpectedCharacter c => s!"unexpected character '{c}'"
  | .loneBang => "unexpected '!' (did you mean '!=' or 'not'?)"
  | .undoubled sign => s!"unexpected '{sign}' (did you mean '{sign}{sign}'?)"
  | .unclosedQuote => "unterminated quoted string: missing closing quote"
  | .unclosedEscape => "unterminated quoted string: unexpected end of input after backslash"
  | .unclosedString => "unterminated string literal"
  | .malformedNumber text => s!"malformed number '{text}'"
  | .expected wanted found => s!"expected {wanted}, found {found}"
  | .unexpectedToken found => s!"unexpected token {found}"

end Fault

/-- A well-formed text or tree that makes no valid query. -/
inductive Misuse where
  | boundField (name : String)
  | listFields (names : List String)
  | booleanBound (text : String)
  | mixedBounds (left right : LiteralKind)
  | emptyList
  | notBoolean (text : String)
  | typesNotJson
  | typesNotObject
  | typeNotText (field : String)
  | notField (found : String)
  | notLiteral (function found : String)
  | notText (function found : String)
  | notFlag (function found : String)
  | arity (function : String) (least most found : Nat)
  | onlyWildcard (function : String)
  | noValues (function : String)
deriving DecidableEq, Repr

namespace Misuse

/-- The wording of a misuse. -/
def message : Misuse → String
  | .boundField name => s!"'between' bounds must be literals, found field '{name}'"
  | .listFields names =>
    "'in' values must be literals, found field(s) " ++ Text.joined ", " names
  | .booleanBound text => s!"'between' bounds can't be boolean, found {text}"
  | .mixedBounds left right =>
    "'between' bounds must be of the same kind, found " ++ left.describe ++ " and " ++
      right.describe
  | .emptyList => "'in' needs at least one value"
  | .notBoolean text => s!"'{text}' is not a boolean literal"
  | .typesNotJson => "invalid field types JSON"
  | .typesNotObject => "field types must be a JSON object"
  | .typeNotText field => s!"type of field '{field}' must be a string"
  | .notField found => s!"expected a field, found {found}"
  | .notLiteral function found => s!"'{function}' expects literal values, found {found}"
  | .notText function found => s!"'{function}' expects a string, found {found}"
  | .notFlag function found => s!"'{function}' expects a boolean flag, found {found}"
  | .arity function least most found =>
    let count := if least = most then Nat.repr least else s!"{least} to {most}"
    s!"'{function}' expects {count} argument(s), found {found}"
  | .onlyWildcard function => s!"'{function}' only applies to '*'"
  | .noValues function => s!"'{function}' expects a field and at least one value"

end Misuse

/-- Why every field cannot be meant where a star stands. -/
inductive WildcardLimit where
  /-- The predicate takes a named field only. -/
  | predicate
  /-- The policy knows no way to ask every field. -/
  | policy
  /-- The check needs the fields one by one. -/
  | noExpansion
  /-- No field is known. -/
  | noFields
  /-- Criteria documents take named fields only. -/
  | criteria
deriving DecidableEq, Repr

/-- The wording of a limit of the predicate named `keyword`. -/
def WildcardLimit.message (keyword : String) : WildcardLimit → String
  | .predicate => s!"in '{keyword}' predicates"
  | .policy => s!"in '{keyword}' by this policy"
  | .noExpansion => s!"in '{keyword}' without field expansion"
  | .noFields => s!"in '{keyword}' without any known field to expand it to"
  | .criteria => s!"in '{keyword}' criteria"

/-- What has no counterpart in the language that a query or a formula is carried over to. -/
inductive Unsupported where
  | construct (description : String)
  | negated (description : String)
  | literalComparison (text : String)
  | function (name : String)
  /-- A check of validity in a criteria document. -/
  | criteriaValidity
  /-- A check of validity of a record. -/
  | recordValidity
deriving DecidableEq, Repr

/-- The wording of what is not supported. -/
def Unsupported.message : Unsupported → String
  | .construct description => description
  | .negated description => s!"'!' applied to {description}"
  | .literalComparison text => s!"comparison between two literals ({text})"
  | .function name => s!"function '{name}'"
  | .criteriaValidity => "validity checks have no criteria equivalent"
  | .recordValidity => "validity checks need a type system and can't be evaluated on records"

/-- How the parts of a composite query are joined. -/
inductive Connective where
  | any
  | all
deriving DecidableEq, Repr

/-- The name of a connective in messages. -/
def Connective.describe : Connective → String
  | .any => "OR"
  | .all => "AND"

/-- What can go wrong. -/
inductive Error where
  | malformed (fault : Fault) (position : Position)
  | misuse (cause : Misuse)
  | unknownType (field : String)
  | wildcard (keyword : String) (limit : WildcardLimit)
  | overflow (literal : String)
  | emptyComposite (connective : Connective)
  /-- A bracket of a word pattern that is not closed, after `index` characters. -/
  | unclosedBracket (index : Nat) (pattern : String)
  | invalidRegex
  | unsupported (what : Unsupported)
deriving DecidableEq, Repr

namespace Error

/-- The wording of an error. -/
def message : Error → String
  | .malformed fault position => s!"syntax error at {position.describe}: {fault.message}"
  | .misuse cause => s!"semantic error: {cause.message}"
  | .unknownType field => s!"type not found for field '{field}'"
  | .wildcard keyword limit => s!"the wildcard '*' is not supported {limit.message keyword}"
  | .overflow literal => s!"numeric literal '{literal}' overflows the target representation"
  | .emptyComposite connective =>
    s!"{connective.describe} expression can't have zero sub-expressions"
  | .unclosedBracket index pattern =>
    s!"pattern error: unterminated '[' at character {index} of '{pattern}'"
  | .invalidRegex => "pattern error: invalid regex"
  | .unsupported what => s!"unsupported construct: {what.message}"

end Error

/-- What is wrong with a token, before its place is known. -/
inductive Flaw where
  | fault (fault : Fault)
  | overflow (literal : String)
deriving DecidableEq, Repr

/-- The error of a flawed token that starts at this place. -/
def Flaw.at (position : Position) : Flaw → Error
  | .fault f => .malformed f position
  | .overflow literal => .overflow literal

end RecordQuery
