import RecordQuery.Formula.Parser
import RecordQuery.Formula.Printer
import RecordQuery.Lowering
import RecordQuery.Query.Parser

/-! Formulas as queries: the calls and operators that queries are lowered to are read back,
and everything else is refused. Under a policy that guards comparisons by order, a comparison with
exactly its guards before it reads back as the comparison alone. -/

namespace RecordQuery

/-- The literal of a query for a literal of a formula: doubles always show a point, and decimals
without fraction digits are integers. -/
def Value.raise : Value → Literal
  | .int n => .ofInt n
  | .long n => .ofInt n
  | .decimal d => ⟨if d.scale = 0 then .integer else .decimal, d.text⟩
  | .double x =>
    match Double.whole? x with
    | some (negative, n) => ⟨.decimal, (if negative then "-" else "") ++ Nat.repr n ++ ".0"⟩
    | none => ⟨.decimal, Double.plain.text x⟩
  | .boolean b => .ofBool b
  | .string s => .ofText s

namespace Raising

/-- The error for a formula that has no counterpart. -/
def unsupported (formula : Formula) : Error := .unsupported (.construct formula.describe)

/-- The field that a formula names. -/
def fieldOf : Formula → Except Error Field
  | .path path => .ok (.named path)
  | .allFields => .ok .all
  | other => .error (.misuse (.notField other.describe))

/-- The literal that an argument of a function is. -/
def literalOf (function : String) : Formula → Except Error Literal
  | .literal value => .ok value.raise
  | other => .error (.misuse (.notLiteral function other.describe))

/-- The literals that arguments of a function are, or the error of the first that is none. -/
def literalsOf (function : String) : List Formula → Except Error (List Literal)
  | [] => .ok []
  | argument :: arguments => do
    let first ← literalOf function argument
    let rest ← literalsOf function arguments
    return first :: rest

/-- The text that an argument of a function is. -/
def textOf (function : String) : Formula → Except Error String
  | .literal (.string s) => .ok s
  | other => .error (.misuse (.notText function other.describe))

/-- The truth value that an argument of a function is, or `default` if it is missing. -/
def flagOf (function : String) (default : Bool) : Option Formula → Except Error Bool
  | none => .ok default
  | some (.literal (.boolean b)) => .ok b
  | some other => .error (.misuse (.notFlag function other.describe))

/-- The error for a wrong number of arguments. -/
def arity (function : String) (least most : Nat) (arguments : List Formula) : Error :=
  .misuse (.arity function least most arguments.length)

/-- The right side of a comparison. -/
def operandOf : Formula → Except Error Operand
  | .literal value => .ok (.literal value.raise)
  | .path path => .ok (.field path)
  | other => .error (unsupported other)

/-- The predicate that compares a field with an operand. -/
def compareField (operator : Comparison) (field : Field) (right : Formula) : Except Error Query :=
  (operandOf right).map fun operand => .leaf ⟨field, .compare operator operand⟩

/-- The predicate of a comparison. With a literal on the left and a path on the right the sides
change places. -/
def comparison (operator : Comparison) (left right : Formula) : Except Error Query :=
  match left, right with
  | .path path, _ => compareField operator (.named path) right
  | .allFields, _ => compareField operator .all right
  | .literal _, .path path => compareField operator.flipped (.named path) left
  | .literal a, .literal b =>
    .error (.unsupported
      (.literalComparison (a.render ++ " " ++ operator.formulaSymbol ++ " " ++ b.render)))
  | .literal _, other => .error (unsupported other)
  | other, _ => .error (unsupported other)

/-- The predicate of a check of the field that the first argument names. -/
def checkOf (check : Check) (field : Formula) : Except Error Query :=
  (fieldOf field).map fun field => .leaf ⟨field, .is check⟩

/-- The predicate of a check of every field. -/
def checkOfAll (function : String) (check : Check) : List Formula → Except Error Query
  | [] | [.allFields] => .ok (.leaf ⟨.all, .is check⟩)
  | _ => .error (.misuse (.onlyWildcard function))

/-- The predicate of a function of a field and a text. -/
def textPredicate (function : String) (build : String → Test) :
    List Formula → Except Error Query
  | [field, text] => do
    let field ← fieldOf field
    let text ← textOf function text
    return .leaf ⟨field, build text⟩
  | arguments => .error (arity function 2 2 arguments)

/-- The predicate of a substring test. The flag is looked at first. -/
def containsCall (function : String) (field text : Formula) (flag : Option Formula) :
    Except Error Query := do
  let caseSensitive ← flagOf function true flag
  let field ← fieldOf field
  let text ← textOf function text
  return .leaf ⟨field, .contains text caseSensitive⟩

/-- The predicate of a range. Its bounds are looked at first, then the flags, then the field. -/
def betweenCall (function : String) (field left right : Formula) (flags : List Formula) :
    Except Error Query := do
  let left ← literalOf function left
  let right ← literalOf function right
  checkBounds left right
  let lowerOpen ← flagOf function false flags[0]?
  let upperOpen ← flagOf function false flags[1]?
  let field ← fieldOf field
  return .leaf ⟨field, .between { left, right, lowerOpen, upperOpen }⟩

/-- The predicate of a list of values. The values are looked at before the field. -/
def oneOfCall (function : String) : List Formula → Except Error Query
  | field :: value :: more => do
    let values ← literalsOf function (value :: more)
    let field ← fieldOf field
    return .leaf ⟨field, .oneOf values⟩
  | _ => .error (.misuse (.noValues function))

/-- The functions that stand for predicates. -/
inductive Function where
  | check (check : Check)
  | checkAll (check : Check)
  | matching
  | complies (kind : PatternKind)
  | contains
  | between
  | oneOf
deriving DecidableEq, Repr

/-- The function of a name. -/
def Function.ofName? (name : String) : Option Function :=
  if name = "isNull" then some (.check .null)
  else if name = "isEmpty" then some (.check .empty)
  else if name = "isValid" then some (.check .valid)
  else if name = "isInvalid" then some (.check .invalid)
  else if name = "hasEmpty" then some (.checkAll .empty)
  else if name = "hasInvalid" then some (.checkAll .invalid)
  else if name = "matches" then some .matching
  else if name = "complies" then some (.complies .character)
  else if name = "wordComplies" then some (.complies .word)
  else if name = "contains" then some .contains
  else if name = "between" then some .between
  else if name = "in" || name = "isPresentIn" then some .oneOf
  else none

/-- The predicate of a call. A type told to a check of validity is dropped: it is looked up again
when the query is lowered. -/
def call (name : String) (arguments : List Formula) : Except Error Query :=
  match Function.ofName? name with
  | none => .error (.unsupported (.function name))
  | some (.check check) =>
    match arguments with
    | [field] => checkOf check field
    | [field, _] =>
      if check.needsType then checkOf check field else .error (arity name 1 1 arguments)
    | _ => .error (arity name 1 (if check.needsType then 2 else 1) arguments)
  | some (.checkAll check) => checkOfAll name check arguments
  | some .matching => textPredicate name .matching arguments
  | some (.complies kind) => textPredicate name (.complies kind) arguments
  | some .contains =>
    match arguments with
    | [field, text] => containsCall name field text none
    | [field, text, flag] => containsCall name field text (some flag)
    | _ => .error (arity name 2 3 arguments)
  | some .between =>
    match arguments with
    | field :: left :: right :: flags =>
      if flags.length ≤ 2 then betweenCall name field left right flags
      else .error (arity name 3 5 arguments)
    | _ => .error (arity name 3 5 arguments)
  | some .oneOf => oneOfCall name arguments

/-- The path that a numeric guard looks at. -/
def guardPath? : Formula → Option String
  | .call function [.path path, .literal (.string regex)] =>
    if function = "matches" ∧ regex = Lowering.numericRegex then some path else none
  | _ => none

/-- The comparison in a group of guards and a comparison by order: a guard of the left path before a
comparison with a number, or guards of both paths before a comparison of two fields. -/
def guardedComparison? : List Formula → Option (Comparison × Formula × Formula)
  | [guard, .compare operator (.path path) (.literal value)] =>
    if operator.isOrdering ∧ value.isNumber ∧ guardPath? guard = some path then
      some (operator, .path path, .literal value)
    else none
  | [first, second, .compare operator (.path left) (.path right)] =>
    if operator.isOrdering ∧ guardPath? first = some left ∧ guardPath? second = some right then
      some (operator, .path left, .path right)
    else none
  | _ => none

/-- Whether a formula is a path, a star or a literal, which have no negation. -/
def isBare : Formula → Bool
  | .path _ | .allFields | .literal _ => true
  | _ => false

/-- The negation of what an operand was read as. -/
def negationOf (operand : Formula) (raised : Except Error Query) : Except Error Query :=
  if isBare operand then .error (.unsupported (.negated operand.describe))
  else raised.map Query.negation

mutual

/-- The query of a formula, not yet in normal form; `strip` says whether guards are dropped. -/
def raise (strip : Bool) : Formula → Except Error Query
  | .any operands => do return Query.disjunction (← raiseEach strip operands)
  | .all operands =>
    match if strip then guardedComparison? operands else none with
    | some (operator, left, right) => comparison operator left right
    | none => do return Query.conjunction (← raiseEach strip operands)
  | .not operand => negationOf operand (raise strip operand)
  | .compare operator left right => comparison operator left right
  | .assignment target value => comparison .eq target value
  | .call name arguments =>
    if name = "not" then
      match arguments with
      | [operand] => negationOf operand (raise strip operand)
      | arguments => .error (arity name 1 1 arguments)
    else call name arguments
  | other => .error (unsupported other)
termination_by structural formula => formula

/-- The queries of several formulas, or the error of the first that has none. -/
def raiseEach (strip : Bool) : List Formula → Except Error (List Query)
  | [] => .ok []
  | formula :: formulas => do
    let first ← raise strip formula
    let rest ← raiseEach strip formulas
    return first :: rest
termination_by structural formulas => formulas

end

end Raising

/-- The query of a formula that was made under a policy. -/
def Formula.raise (policy : Policy) (formula : Formula) : Except Error Query := do
  return Query.disjunction [← Raising.raise policy.numericGuard formula]

/-- The query of the text of a formula that was made under a policy. -/
def Formula.raiseText (policy : Policy) (text : String) : Except Error Query := do
  (← Formula.parse text).raise policy

end RecordQuery
