import RecordQuery.Query.Basic
import RecordQuery.Text.Part
import RecordQuery.Text.Quote

/-! The canonical text of a query: every predicate stands in parentheses, and so does every group of
two or more parts inside another group. -/

namespace RecordQuery

/-- The text of a literal: quotes around a quoted one, and any other as it was written. -/
def Literal.render : Literal → String
  | ⟨.quoted, text⟩ => Text.quoted text
  | ⟨_, text⟩ => text

/-- The text of a field. -/
def Field.render : Field → String
  | .named path => path
  | .all => "*"

/-- The text of the right side of a comparison. -/
def Operand.render : Operand → String
  | .literal value => value.render
  | .field path => path

/-- The text of a range; a bracket turned outwards marks an open end. -/
def Range.render (range : Range) : String :=
  (if range.lowerOpen then "]" else "[") ++ range.left.render ++ ", " ++ range.right.render ++
    (if range.upperOpen then "[" else "]")

/-- The words of a check. -/
def Check.render : Check → String
  | .null => "is null"
  | .empty => "is empty"
  | .valid => "is valid"
  | .invalid => "is invalid"

/-- The word for a pattern of a kind. -/
def PatternKind.render : PatternKind → String
  | .character => "complies"
  | .word => "wordComplies"

/-- The word for a substring test. -/
def containsWord (caseSensitive : Bool) : String :=
  if caseSensitive then "contains" else "containsIgnoreCase"

/-- The text of a test, which follows its field. -/
def Test.render : Test → String
  | .compare operator operand => operator.querySymbol ++ " " ++ operand.render
  | .between range => "between " ++ range.render
  | .oneOf values => "in [" ++ Text.joined ", " (values.map Literal.render) ++ "]"
  | .contains text caseSensitive => containsWord caseSensitive ++ " " ++ Text.quoted text
  | .matching regex => "~ " ++ Text.quoted regex
  | .complies kind pattern => kind.render ++ " " ++ Text.quoted pattern
  | .is check => check.render

/-- The text of a predicate. -/
def Predicate.render (predicate : Predicate) : String :=
  predicate.field.render ++ " " ++ predicate.test.render

namespace Query

/-- A text in parentheses, if they are called for. -/
def parenthesized (wanted : Bool) (text : String) : String :=
  if wanted then "(" ++ text ++ ")" else text

/-- Whether the query is an "all" of two or more. -/
def isWideAll : Query → Bool
  | .all (_ :: _ :: _) => true
  | _ => false

/-- Whether the query is an "any" of two or more. -/
def isWideAny : Query → Bool
  | .any (_ :: _ :: _) => true
  | _ => false

mutual

/-- The canonical text of a query. -/
def render : Query → String
  | .any branches => Text.joined " or " (renderBranches branches)
  | .all children => Text.joined " and " (renderChildren children)
  | .not inner => "(not (" ++ inner.render ++ "))"
  | .leaf predicate => "(" ++ predicate.render ++ ")"
termination_by structural query => query

/-- The texts of the branches of an "any". -/
def renderBranches : List Query → List String
  | [] => []
  | query :: queries => parenthesized query.isWideAll query.render :: renderBranches queries
termination_by structural queries => queries

/-- The texts of the children of an "all". -/
def renderChildren : List Query → List String
  | [] => []
  | query :: queries => parenthesized query.isWideAny query.render :: renderChildren queries
termination_by structural queries => queries

end

end Query

end RecordQuery
