import RecordQuery.Json.Basic
import RecordQuery.Pattern
import RecordQuery.Query.Printer

/-! Queries as criteria documents of a document store: a field with a value or with a condition, and
`$and`, `$or` and `$nor` over documents. -/

namespace RecordQuery

open Json (single)

namespace Criteria

/-- The operator of a comparison in a document. -/
def operatorKey : Comparison → String
  | .eq => "$eq"
  | .ne => "$ne"
  | .lt => "$lt"
  | .gt => "$gt"
  | .le => "$lte"
  | .ge => "$gte"

/-- The path of a field; a star is refused in predicates named `keyword`. -/
def pathOf (field : Field) (keyword : String) : Except Error String :=
  match field with
  | .named path => .ok path
  | .all => .error (.wildcard keyword .criteria)

/-- The value of a literal: an integer of sixty-four bits, a double, a truth value or a string. -/
def literal (literal : Literal) : Except Error Json :=
  match literal.kind with
  | .integer =>
    match Integer.read64? literal.text.toList with
    | some n => .ok (.number (.integer n))
    | none => .error (.overflow literal.text)
  | .decimal =>
    match Decimal.read? literal.text.toList with
    | some d => .ok (.number (.double d.toDouble))
    | none => .error (.overflow literal.text)
  | .boolean => .ok (.bool (literal.text == "true"))
  | .quoted => .ok (.string literal.text)

/-- The values of several literals, or the error of the first that has none. -/
def literals : List Literal → Except Error (List Json)
  | [] => .ok []
  | value :: values => do
    let first ← literal value
    let rest ← literals values
    return first :: rest

/-- The condition of a regular expression; an empty one asks for the empty text. -/
def regexCondition (regex : String) : Json :=
  if regex.isEmpty then .string "" else single "$regex" (.string regex)

/-- The condition of a pattern; an empty one asks for the empty text. -/
def patternCondition (kind : PatternKind) (pattern : String) : Except Error Json :=
  if pattern.isEmpty then .ok (.string "")
  else (Pattern.regex kind pattern).map regexCondition

/-- The condition of a substring test. -/
def containsCondition (text : String) (caseSensitive : Bool) : Json :=
  let regex := ("$regex", Json.string (String.ofList (Pattern.escape text.toList)))
  .object (regex :: if caseSensitive then [] else [("$options", .string "i")])

/-- The condition of a comparison with a value. -/
def compareCondition (operator : Comparison) (value : Json) : Json :=
  match operator with
  | .eq => value
  | operator => single (operatorKey operator) value

/-- The document that compares two fields. -/
def compareFields (operator : Comparison) (left right : String) : Json :=
  single "$expr" (single (operatorKey operator)
    (.array [.string ("$" ++ left), .string ("$" ++ right)]))

/-- The document of a predicate. -/
def predicate (predicate : Predicate) : Except Error Json :=
  let field := predicate.field
  match predicate.test with
  | .compare operator operand => do
    let path ← pathOf field operator.querySymbol
    match operand with
    | .literal value => return single path (compareCondition operator (← literal value))
    | .field other => return compareFields operator path other
  | .between range => do
    let path ← pathOf field "between"
    let left ← literal range.left
    let right ← literal range.right
    return single path (.object
      [(if range.lowerOpen then "$gt" else "$gte", left),
        (if range.upperOpen then "$lt" else "$lte", right)])
  | .oneOf values => do
    let path ← pathOf field "in"
    return single path (single "$in" (.array (← literals values)))
  | .contains text caseSensitive => do
    return single (← pathOf field "contains") (containsCondition text caseSensitive)
  | .matching regex => do
    return single (← pathOf field "~") (regexCondition regex)
  | .complies kind pattern => do
    return single (← pathOf field kind.render) (← patternCondition kind pattern)
  | .is .null => do
    return single (← pathOf field "is null") .null
  | .is .empty => do
    return single (← pathOf field "is empty") (.string "")
  | .is .valid | .is .invalid => .error (.unsupported .criteriaValidity)

/-- The document of a negation. A regular expression on one field is negated in place, anything
else from outside. -/
def negate : Json → Json
  | .object [(field, .object condition)] =>
    if field.toList.head? != some '$' && (condition.lookup "$regex").isSome then
      single field (single "$not" (.object condition))
    else single "$nor" (.array [single field (.object condition)])
  | document => single "$nor" (.array [document])

/-- The document of a group: nothing for no parts, the part itself for one, else an operator over
the parts. -/
def composite (connective : Connective) (key : String) : List Json → Except Error Json
  | [] => .error (.emptyComposite connective)
  | [part] => .ok part
  | parts => .ok (single key (.array parts))

end Criteria

namespace Query

open Criteria

mutual

/-- The criteria document of a query. -/
def criteria : Query → Except Error Json
  | .any branches => do composite .any "$or" (← criteriaOfEach branches)
  | .all children => do composite .all "$and" (← criteriaOfEach children)
  | .not inner => do return negate (← criteria inner)
  | .leaf p => predicate p
termination_by structural query => query

/-- The criteria documents of several queries, or the error of the first that has none. -/
def criteriaOfEach : List Query → Except Error (List Json)
  | [] => .ok []
  | query :: queries => do
    let first ← criteria query
    let rest ← criteriaOfEach queries
    return first :: rest
termination_by structural queries => queries

end

end Query

end RecordQuery
