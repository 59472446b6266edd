import RecordQuery.CommandLine.Failure
import RecordQuery.CommandLine.Pages
import RecordQuery.Criteria
import RecordQuery.Query.Document
import RecordQuery.Raising
import RecordQuery.Record.Selector

/-! What the commands do, on texts. White space around a query or a formula is dropped before it is
read. -/

namespace RecordQuery.CommandLine

/-- A result that fails as a query does. -/
def rejecting {α : Type} (result : Except Error α) : Except Failure α :=
  result.mapError .rejected

/-- Reads a query. -/
def readQuery (text : String) : Except Failure Query :=
  rejecting (Query.parse (Text.trim text))

/-- The policy of a name. -/
def policyNamed (name : String) : Except Failure Policy :=
  match Policy.ofName? name with
  | some policy => .ok policy
  | none => .error (.unknownPolicy name)

/-- The type dictionary of a text, if there is one. -/
def readTypes : Option String → Except Failure (Option FieldTypes)
  | none => .ok none
  | some text => rejecting ((FieldTypes.ofText text).map some)

/-- The canonical text of a query. -/
def canonicalText (query : String) : Except Failure String :=
  (readQuery query).map Query.render

/-- The syntax tree of a query as a JSON document. -/
def treeOf (query : String) : Except Failure Json :=
  (readQuery query).map Query.document

/-- The formula that a query is lowered to. The policy is looked at first, then the types, then the
query. -/
def loweredText (policy : String) (types : Option String) (query : String) :
    Except Failure String := do
  let policy ← policyNamed policy
  let types ← readTypes types
  let query ← readQuery query
  return (← rejecting (query.lower policy types)).render

/-- The canonical text of the query that a formula is raised to. -/
def raisedText (policy formula : String) : Except Failure String := do
  let policy ← policyNamed policy
  return (← rejecting (Formula.raiseText policy (Text.trim formula))).render

/-- The criteria document of a query, on one line or spread over lines. -/
def criteriaText (pretty : Bool) (query : String) : Except Failure String := do
  let document ← rejecting (← readQuery query).criteria
  return if pretty then document.pretty else document.compact

/-- The records of a text: the items of an array, or values one after another. -/
def readRecords (text : String) : Except Failure (List Json) :=
  let trimmed := Text.trim text
  let records? : Option (List Json) :=
    if trimmed.toList.head? = some '[' then
      match Json.parse? trimmed with
      | some (.array items) => some items
      | _ => none
    else Json.parseSequence? trimmed
  match records? with
  | some records => .ok records
  | none => .error .notJson

/-- The records of a text that a query selects. The query is made ready before the records are
read. -/
def filterRecords (query records : String) : Except Failure (List Json) := do
  let selector ← rejecting (← readQuery query).selector
  return selector.select (← readRecords records)

/-- The page of a topic. -/
def topicText (name : String) : Except Failure String :=
  match Topic.ofName? name with
  | some topic => .ok topic.text
  | none => .error (.unknownTopic name)

end RecordQuery.CommandLine
