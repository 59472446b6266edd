import RecordQuery.Formula.Basic
import RecordQuery.Text.Part
import RecordQuery.Text.Quote

/-! The text of a formula. An operand that binds less tightly than its place asks for stands in
parentheses. -/

namespace RecordQuery

/-- The text of a literal. -/
def Value.render : Value → String
  | .int n => Integer.text n
  | .long n => Integer.text n ++ "L"
  | .decimal d => d.text
  | .double x => Double.plain.text x ++ "d"
  | .boolean b => if b then "true" else "false"
  | .string s => Text.quoted s

namespace Arithmetic

/-- The sign of an operator. -/
def symbol : Arithmetic → String
  | .add => "+"
  | .sub => "-"
  | .mul => "*"
  | .div => "/"
  | .mod => "%"

/-- How tightly an operator binds. -/
def precedence : Arithmetic → Nat
  | .add | .sub => 4
  | .mul | .div | .mod => 5

end Arithmetic

namespace Formula

/-- How tightly a formula holds together, from an assignment up to what never needs
parentheses. -/
def precedence : Formula → Nat
  | .assignment _ _ => 0
  | .any _ => 1
  | .all _ => 2
  | .compare _ _ _ => 3
  | .arithmetic operator _ _ => operator.precedence
  | _ => 7

/-- The text of an operand, in parentheses if it binds less tightly than `least`. -/
def operandText (least : Nat) (operand : Formula) (text : String) : String :=
  if operand.precedence < least then "(" ++ text ++ ")" else text

/-- A text between braces. -/
def braced (text : String) : String := "\x7b " ++ text ++ " \x7d"

mutual

/-- The text of a formula. -/
def render : Formula → String
  | .path name => name
  | .allFields => "*"
  | .literal value => value.render
  | .call function arguments => function ++ "(" ++ Text.joined ", " (renderAll arguments) ++ ")"
  | .compare operator left right =>
    operandText 4 left left.render ++ " " ++ operator.formulaSymbol ++ " " ++
      operandText 4 right right.render
  | .all operands => Text.joined " && " (renderOperands 3 operands)
  | .any operands => Text.joined " || " (renderOperands 2 operands)
  | .not operand => "!(" ++ operand.render ++ ")"
  | .arithmetic operator left right =>
    operandText operator.precedence left left.render ++ " " ++ operator.symbol ++ " " ++
      operandText (operator.precedence + 1) right right.render
  | .conditional branches otherwise =>
    Text.joined " else " (renderBranches branches) ++ renderOtherwise otherwise
  | .switch subject cases fallback =>
    "switch (" ++ subject.render ++ ") \x7b" ++ renderCases cases ++ renderFallback fallback ++
      " \x7d"
  | .array items => "[" ++ Text.joined ", " (renderAll items) ++ "]"
  | .assignment target value => target.render ++ " = " ++ value.render
  | .block items => braced (Text.joined "; " (renderAll items))
termination_by structural f => f

/-- The texts of several formulas. -/
def renderAll : List Formula → List String
  | [] => []
  | f :: fs => f.render :: renderAll fs
termination_by structural fs => fs

/-- The texts of the operands of an operator. -/
def renderOperands (least : Nat) : List Formula → List String
  | [] => []
  | f :: fs => operandText least f f.render :: renderOperands least fs
termination_by structural fs => fs

/-- The texts of conditions with their bodies. -/
def renderBranches : List (Formula × Formula) → List String
  | [] => []
  | (condition, body) :: branches =>
    ("if (" ++ condition.render ++ ") " ++ braced body.render) :: renderBranches branches
termination_by structural branches => branches

/-- The text of the body for when no condition holds. -/
def renderOtherwise : Option Formula → String
  | none => ""
  | some body => " else " ++ braced body.render
termination_by structural body => body

/-- The text of labels with their bodies. -/
def renderCases : List (Formula × List Formula) → String
  | [] => ""
  | (label, body) :: cases =>
    " case " ++ label.render ++ ": " ++ Text.joined ", " (renderAll body) ++ renderCases cases
termination_by structural cases => cases

/-- The text of the body for when no label fits. -/
def renderFallback : Option (List Formula) → String
  | none => ""
  | some body => " default: " ++ Text.joined ", " (renderAll body)
termination_by structural body => body

end

/-- The kind of a formula as error messages name it. -/
def describe : Formula → String
  | .path name => "path '" ++ name ++ "'"
  | .allFields => "'*'"
  | .literal value => "literal " ++ value.render
  | .call function _ => "function '" ++ function ++ "'"
  | .compare operator _ _ => "operator '" ++ operator.formulaSymbol ++ "'"
  | .all _ => "operator '&&'"
  | .any _ => "operator '||'"
  | .not _ => "operator '!'"
  | .arithmetic operator _ _ => "arithmetic operator '" ++ operator.symbol ++ "'"
  | .conditional _ _ => "conditional 'if'"
  | .switch _ _ _ => "'switch'"
  | .array _ => "array literal"
  | .assignment _ _ => "assignment"
  | .block _ => "block"

end Formula

end RecordQuery
