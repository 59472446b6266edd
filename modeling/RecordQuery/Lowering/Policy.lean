/-! The choices that are left open when queries become formulas, and the three sets of choices in
use. -/

namespace RecordQuery

/-- What becomes of a check of every field: it is refused, it becomes a call that asks for any
field, or it becomes one call for each known field. -/
inductive WildcardStrategy where
  | reject
  | sentinel
  | expand
deriving DecidableEq, Repr

/-- When a substring test says whether case matters: only when it does not, or always. -/
inductive CaseFlag where
  | whenInsensitive
  | always
deriving DecidableEq, Repr

/-- A set of choices. With `numericGuard`, a comparison by order also asks whether its
operands look like numbers. -/
structure Policy where
  wildcard : WildcardStrategy
  caseFlag : CaseFlag
  numericGuard : Bool
deriving DecidableEq, Repr

namespace Policy

/-- The plainest choices, for any evaluator. -/
def generic : Policy := ⟨.reject, .whenInsensitive, false⟩

/-- For a data store, which knows the fields of a record. -/
def storage : Policy := ⟨.sentinel, .whenInsensitive, false⟩

/-- For an interpreter of untyped values. -/
def runtime : Policy := ⟨.expand, .always, true⟩

/-- The policy of a name. -/
def ofName? (name : String) : Option Policy :=
  if name = "generic" then some generic
  else if name = "storage" then some storage
  else if name = "runtime" then some runtime
  else none

end Policy

end RecordQuery
