import RecordQuery.Json.Basic
import RecordQuery.Query.Basic

/-! Queries as JSON documents: each part is an object with one member, named for the kind of
part. -/

namespace RecordQuery

open Json (single)

/-- The name of a kind of literal in a document. -/
def LiteralKind.documentName : LiteralKind → String
  | .integer => "INT"
  | .decimal => "DECIMAL"
  | .boolean => "BOOLEAN"
  | .quoted => "QUOTED_VALUE"

/-- The document of a literal. -/
def Literal.document (literal : Literal) : Json :=
  .object [("kind", .string literal.kind.documentName), ("value", .string literal.text)]

/-- The document of a field. -/
def Field.document : Field → Json
  | .named path => single "Reference" (.string path)
  | .all => .string "All"

/-- The document of the right side of a comparison. -/
def Operand.document : Operand → Json
  | .literal value => single "Literal" value.document
  | .field path => single "Field" (.string path)

/-- The name of a comparison in a document. -/
def Comparison.documentName : Comparison → String
  | .eq => "Eq"
  | .ne => "Neq"
  | .lt => "Lt"
  | .gt => "Gt"
  | .le => "Let"
  | .ge => "Get"

/-- The name of a check in a document. -/
def Check.documentName : Check → String
  | .null => "IsNull"
  | .empty => "IsEmpty"
  | .valid => "IsValid"
  | .invalid => "IsInvalid"

/-- The document of a predicate. -/
def Predicate.document (predicate : Predicate) : Json :=
  let field := ("field", predicate.field.document)
  match predicate.test with
  | .compare operator operand =>
    single "Comparison" (.object
      [field, ("operator", .string operator.documentName), ("value", operand.document)])
  | .between range =>
    single "Between" (.object
      [field, ("left", range.left.document), ("right", range.right.document),
        ("lower_open", .bool range.lowerOpen), ("upper_open", .bool range.upperOpen)])
  | .oneOf values =>
    single "In" (.object [field, ("values", .array (values.map Literal.document))])
  | .contains text caseSensitive =>
    single "Contains" (.object
      [field, ("value", .string text), ("case_sensitive", .bool caseSensitive)])
  | .matching regex => single "Matches" (.object [field, ("regex", .string regex)])
  | .complies .character pattern =>
    single "Complies" (.object [field, ("pattern", .string pattern)])
  | .complies .word pattern =>
    single "WordComplies" (.object [field, ("pattern", .string pattern)])
  | .is check => single check.documentName predicate.field.document

namespace Query

mutual

/-- The document of a query. -/
def document : Query → Json
  | .any branches => single "Or" (.array (documents branches))
  | .all children => single "And" (.array (documents children))
  | .not inner => single "Not" inner.document
  | .leaf predicate => predicate.document
termination_by structural query => query

/-- The documents of several queries. -/
def documents : List Query → List Json
  | [] => []
  | query :: queries => query.document :: documents queries
termination_by structural queries => queries

end

end Query

end RecordQuery
