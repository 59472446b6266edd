import RecordQuery.FieldTypes
import RecordQuery.Lowering.Literal
import RecordQuery.Lowering.Policy
import RecordQuery.Pattern
import RecordQuery.Query.Printer

/-! Queries as formulas. A group of one is its only part; everything else keeps its shape. A policy
settles what becomes of checks of every field, of substring tests and of comparisons by order. -/

namespace RecordQuery

/-- The function that makes a check. -/
def Check.function : Check → String
  | .null => "isNull"
  | .empty => "isEmpty"
  | .valid => "isValid"
  | .invalid => "isInvalid"

/-- Whether the function of a check is told the type of the field. -/
def Check.needsType : Check → Bool
  | .null | .empty => false
  | .valid | .invalid => true

namespace Lowering

/-- The regular expression of texts that look like numbers. -/
def numericRegex : String := "^-?\\d+(\\.\\d+)?$"

/-- The call that asks whether a field looks like a number. -/
def numericGuard (path : String) : Formula :=
  .call "matches" [.path path, .string numericRegex]

/-- The path of a field; a star is refused in predicates named `keyword`. -/
def pathOf (field : Field) (keyword : String) : Except Error String :=
  match field with
  | .named path => .ok path
  | .all => .error (.wildcard keyword .predicate)

/-- The formula of the right side of a comparison. -/
def operand : Operand → Except Error Formula
  | .literal value => (value.lower).map .literal
  | .field path => .ok (.path path)

/-- The guards of a comparison by order: one for each side that is a field or written as a number,
and none for other literals. -/
def guards (path : String) : Operand → List Formula
  | .literal value => if value.kind.isNumeric then [numericGuard path] else []
  | .field other => [numericGuard path, numericGuard other]

/-- A formula with guards before it. -/
def guarded (guards : List Formula) (formula : Formula) : Formula :=
  match guards with
  | [] => formula
  | _ => .all (guards ++ [formula])

/-- The literals of a list, in order. -/
def literals : List Literal → Except Error (List Formula)
  | [] => .ok []
  | value :: values => do
    let first ← value.lower
    let rest ← literals values
    return .literal first :: rest

/-- The flags of a range: none for a closed range, else whether each end is open. -/
def openFlags (range : Range) : List Formula :=
  if range.lowerOpen || range.upperOpen then
    [.boolean range.lowerOpen, .boolean range.upperOpen]
  else []

/-- The flag of a substring test. -/
def caseFlag (flag : CaseFlag) (caseSensitive : Bool) : List Formula :=
  match flag, caseSensitive with
  | .always, caseSensitive => [.boolean caseSensitive]
  | .whenInsensitive, false => [.boolean false]
  | .whenInsensitive, true => []

/-- The call that checks a field of a known type. -/
def checkCall (check : Check) (path type : String) : Formula :=
  .call check.function (.path path :: if check.needsType then [.string type] else [])

/-- The check of a named field. -/
def checkField (types : Option FieldTypes) (path : String) (check : Check) : Except Error Formula :=
  if check.needsType then
    match types with
    | none => .error (.unknownType path)
    | some types => (types.require path).map (checkCall check path)
  else .ok (checkCall check path "")

/-- The check of every field: all must be valid, any may be null, empty or invalid. -/
def expand (types : FieldTypes) (check : Check) : Formula :=
  let calls := types.entries.map fun entry => checkCall check entry.1 entry.2
  match check with
  | .valid => .all calls
  | .null | .empty | .invalid => .any calls

/-- The check of every field under a strategy. -/
def checkAll (strategy : WildcardStrategy) (types : Option FieldTypes) (check : Check) :
    Except Error Formula :=
  match strategy, check with
  | .reject, _ => .error (.wildcard check.render .policy)
  | .sentinel, .empty => .ok (.call "hasEmpty" [.allFields])
  | .sentinel, .invalid => .ok (.call "hasInvalid" [.allFields])
  | .sentinel, _ => .error (.wildcard check.render .noExpansion)
  | .expand, _ =>
    match types with
    | none => .error (.wildcard check.render .noFields)
    | some types =>
      if types.isEmpty then .error (.wildcard check.render .noFields)
      else .ok (expand types check)

/-- The formula of a predicate. -/
def predicate (policy : Policy) (types : Option FieldTypes) (predicate : Predicate) :
    Except Error Formula :=
  let field := predicate.field
  match predicate.test with
  | .compare operator right => do
    let path ← pathOf field operator.querySymbol
    let formula := Formula.compare operator (.path path) (← operand right)
    return guarded (if policy.numericGuard && operator.isOrdering then guards path right else [])
      formula
  | .between range => do
    let path ← pathOf field "between"
    let left ← range.left.lower
    let right ← range.right.lower
    return .call "between" (.path path :: .literal left :: .literal right :: openFlags range)
  | .oneOf values => do
    if values.isEmpty then throw (.misuse .emptyList)
    let path ← pathOf field "in"
    return .call "in" (.path path :: (← literals values))
  | .contains text caseSensitive => do
    let path ← pathOf field "contains"
    return .call "contains"
      (.path path :: .string text :: caseFlag policy.caseFlag caseSensitive)
  | .matching regex => do
    let path ← pathOf field "~"
    return .call "matches" [.path path, .string regex]
  | .complies kind pattern => do
    let path ← pathOf field kind.render
    let regex ← Pattern.regex kind pattern
    return .call "matches" [.path path, .string regex]
  | .is check =>
    match field with
    | .named path => checkField types path check
    | .all => checkAll policy.wildcard types check

/-- The formula of a group: nothing for no parts, the part itself for one, else `build`. -/
def composite (connective : Connective) (build : List Formula → Formula) :
    List Formula → Except Error Formula
  | [] => .error (.emptyComposite connective)
  | [part] => .ok part
  | parts => .ok (build parts)

end Lowering

namespace Query

open Lowering

mutual

/-- The formula of a query under a policy. -/
def lower (policy : Policy) (types : Option FieldTypes) : Query → Except Error Formula
  | .any branches => do composite .any .any (← lowerEach policy types branches)
  | .all children => do composite .all .all (← lowerEach policy types children)
  | .not inner => do return .not (← lower policy types inner)
  | .leaf p => predicate policy types p
termination_by structural query => query

/-- The formulas of several queries, or the error of the first that has none. -/
def lowerEach (policy : Policy) (types : Option FieldTypes) :
    List Query → Except Error (List Formula)
  | [] => .ok []
  | query :: queries => do
    let first ← lower policy types query
    let rest ← lowerEach policy types queries
    return first :: rest
termination_by structural queries => queries

end

end Query

end RecordQuery
