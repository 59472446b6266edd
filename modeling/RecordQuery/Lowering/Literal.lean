import RecordQuery.Error
import RecordQuery.Formula.Basic

/-! Literals of queries as literals of formulas. -/

namespace RecordQuery

/-- Reads an integer into the narrowest type that holds it: thirty-two bits, sixty-four bits, or a
decimal. -/
def Value.ofIntegerText (text : String) : Except Error Value :=
  match Integer.read32? text.toList with
  | some n => .ok (.int n)
  | none =>
    match Integer.read64? text.toList with
    | some n => .ok (.long n)
    | none =>
      match Decimal.read? text.toList with
      | some d => .ok (.decimal d)
      | none => .error (.overflow text)

/-- The literal of a formula for a literal of a query. A decimal may be written with an exponent. -/
def Literal.lower (literal : Literal) : Except Error Value :=
  match literal.kind with
  | .integer => Value.ofIntegerText literal.text
  | .decimal =>
    match Decimal.read? literal.text.toList with
    | some d => .ok (.decimal d)
    | none => .error (.overflow literal.text)
  | .boolean =>
    if literal.text = "true" then .ok (.boolean true)
    else if literal.text = "false" then .ok (.boolean false)
    else .error (.misuse (.notBoolean literal.text))
  | .quoted => .ok (.string literal.text)

end RecordQuery
