/-! The six comparisons of values. -/

namespace RecordQuery

/-- Equal, not equal, less, greater, at most and at least. -/
inductive Comparison where
  | eq | ne | lt | gt | le | ge
deriving DecidableEq, Repr

namespace Comparison

/-- The sign of a comparison in queries. -/
def querySymbol : Comparison → String
  | .eq => "="
  | .ne => "!="
  | .lt => "<"
  | .gt => ">"
  | .le => "<="
  | .ge => ">="

/-- The sign of a comparison in formulas. -/
def formulaSymbol : Comparison → String
  | .eq => "=="
  | .ne => "!="
  | .lt => "<"
  | .gt => ">"
  | .le => "<="
  | .ge => ">="

/-- The comparison of the same operands in the other order. -/
def flipped : Comparison → Comparison
  | .eq => .eq
  | .ne => .ne
  | .lt => .gt
  | .gt => .lt
  | .le => .ge
  | .ge => .le

/-- Whether a comparison asks for an order, not only for equality. -/
def isOrdering : Comparison → Bool
  | .eq | .ne => false
  | .lt | .gt | .le | .ge => true

/-- Whether a comparison holds of two values in this order. -/
def holds : Comparison → Ordering → Bool
  | .eq, order => order == .eq
  | .ne, order => order != .eq
  | .lt, order => order == .lt
  | .gt, order => order == .gt
  | .le, order => order != .gt
  | .ge, order => order != .lt

theorem isOrdering_flipped (c : Comparison) : c.flipped.isOrdering = c.isOrdering := by
  cases c <;> rfl

theorem holds_flipped (c : Comparison) (order : Ordering) :
    c.flipped.holds order.swap = c.holds order := by
  cases c <;> cases order <;> rfl

end Comparison

end RecordQuery
