import RecordQuery.Pattern
import RecordQuery.Record.Path
import RecordQuery.Record.Value
import RecordQuery.Regex.Matcher
import RecordQuery.Regex.Reader

/-! Queries made ready for records: bounds are read as numbers, texts that ignore case are in lower
case, and regular expressions and patterns are compiled. A predicate holds of a record as soon as
one of the values of its field passes the test. -/

namespace RecordQuery

/-- A test of values, ready to be used. -/
inductive ValueTest where
  | compare (operator : Comparison) (operand : Operand)
  /-- A number between two bounds, each of which may be open; a bound that is no number lets nothing
  pass. -/
  | between (lower upper : Option Decimal) (lowerOpen upperOpen : Bool)
  | oneOf (texts : List String)
  | contains (part : String) (caseSensitive : Bool)
  /-- Some part of the text matches. -/
  | matching (regex : Regex)
  | null
  | empty

/-- A query ready to be used on records. -/
inductive Selector where
  | any (branches : List Selector)
  | all (children : List Selector)
  | not (inner : Selector)
  | leaf (field : Field) (test : ValueTest)

namespace ValueTest

open Record (text number? numberOfText? equals compares)

/-- Whether a number lies between two bounds. -/
def within (lower upper : Option Decimal) (lowerOpen upperOpen : Bool) (n : Decimal) : Bool :=
  match lower, upper with
  | some lower, some upper =>
    (if lowerOpen then Comparison.gt else .ge).holds (n.order lower) &&
      (if upperOpen then Comparison.lt else .le).holds (n.order upper)
  | _, _ => false

/-- Whether a value of a record passes a test. -/
def passes (test : ValueTest) (record value : Json) : Bool :=
  match test with
  | .compare operator (.literal literal) => compares operator value literal.text
  | .compare operator (.field path) =>
    (Record.valuesAt path record).any fun other => compares operator value (text other)
  | .between lower upper lowerOpen upperOpen =>
    (number? value).any (within lower upper lowerOpen upperOpen)
  | .oneOf texts => texts.any (equals value)
  | .contains part true => Text.holdsPart part.toList (text value).toList
  | .contains part false => Text.holdsPart part.toList (Text.lowerCase (text value)).toList
  | .matching regex => !value.isNull && regex.matchesPart (text value).toList
  | .null => value.isNull
  | .empty => (text value).isEmpty

/-- The test of a regular expression that is to match whole texts. -/
def ofRegex (limits : Regex.Limits) (text : String) : Except Error ValueTest :=
  match Regex.compileWhole? limits text with
  | some regex => .ok (.matching regex)
  | none => .error .invalidRegex

end ValueTest

/-- A test made ready to be used. -/
def Test.prepare (limits : Regex.Limits) : Test → Except Error ValueTest
  | .compare operator operand => .ok (.compare operator operand)
  | .between range =>
    .ok (.between (Record.numberOfText? range.left.text) (Record.numberOfText? range.right.text)
      range.lowerOpen range.upperOpen)
  | .oneOf values => .ok (.oneOf (values.map Literal.text))
  | .contains text caseSensitive =>
    .ok (.contains (if caseSensitive then text else Text.lowerCase text) caseSensitive)
  | .matching regex => ValueTest.ofRegex limits regex
  | .complies kind pattern => do ValueTest.ofRegex limits (← Pattern.regex kind pattern)
  | .is .null => .ok .null
  | .is .empty => .ok .empty
  | .is .valid | .is .invalid => .error (.unsupported .recordValidity)

namespace Query

mutual

/-- The query made ready for records, its regular expressions within limits. A group of nothing is
refused before its parts are looked at, and of several errors the first in the query counts. -/
def selectorWithin (limits : Regex.Limits) : Query → Except Error Selector
  | .any [] => .error (.emptyComposite .any)
  | .all [] => .error (.emptyComposite .all)
  | .any branches => do return .any (← selectorsWithin limits branches)
  | .all children => do return .all (← selectorsWithin limits children)
  | .not inner => do return .not (← selectorWithin limits inner)
  | .leaf predicate => do return .leaf predicate.field (← predicate.test.prepare limits)
termination_by structural query => query

/-- Several queries made ready for records. -/
def selectorsWithin (limits : Regex.Limits) : List Query → Except Error (List Selector)
  | [] => .ok []
  | query :: queries => do
    let first ← selectorWithin limits query
    let rest ← selectorsWithin limits queries
    return first :: rest
termination_by structural queries => queries

end

/-- The query made ready for records, within the limits that hold where no others are asked for. -/
def selector (query : Query) : Except Error Selector :=
  query.selectorWithin .standard

end Query

namespace Selector

mutual

/-- Whether a record is selected. -/
def holds (record : Json) : Selector → Bool
  | .any branches => anyHolds record branches
  | .all children => allHold record children
  | .not inner => !holds record inner
  | .leaf field test => (Record.valuesOf field record).any (test.passes record)
termination_by structural selector => selector

/-- Whether one of several selectors selects a record. -/
def anyHolds (record : Json) : List Selector → Bool
  | [] => false
  | selector :: selectors => holds record selector || anyHolds record selectors
termination_by structural selectors => selectors

/-- Whether each of several selectors selects a record. -/
def allHold (record : Json) : List Selector → Bool
  | [] => true
  | selector :: selectors => holds record selector && allHold record selectors
termination_by structural selectors => selectors

end

/-- The records that are selected, in order. -/
def select (selector : Selector) (records : List Json) : List Json :=
  records.filter (selector.holds ·)

end Selector

end RecordQuery
