import RecordQuery.Formula.Token

/-! Parsing of formulas. From loose to tight: assignment, "or", "and", one comparison, sums,
products, negation and minus, and what stands by itself. -/

namespace RecordQuery

/-- The number of the other sign, in the narrowest type for integers. -/
def Value.negate : Value → Value
  | .int n => if Integer.fits32 (-n) then .int (-n) else .long (-n)
  | .long n =>
    if Integer.fits32 (-n) then .int (-n)
    else if Integer.fits64 (-n) then .long (-n)
    else match Decimal.ofInt? (-n) with
      | some d => .decimal d
      | none => .long n
  | .decimal d => .decimal d.negate
  | .double x => .double (-x)
  | value => value

namespace Formula

/-- Minus a formula: a number changes its sign, anything else is taken from zero. -/
def negate : Formula → Formula
  | .literal value =>
    if value.isNumber then .literal value.negate
    else .arithmetic .sub (.literal (.int 0)) (.literal value)
  | operand => .arithmetic .sub (.literal (.int 0)) operand

/-- A formula for several operands: the operand itself if there is but one. -/
def collapse (build : List Formula → Formula) : List Formula → Formula
  | [operand] => operand
  | operands => build operands

namespace Grammar

open RecordQuery.Parser

/-- Whether the current token is this sign. -/
def atSign (sign : Sign) : Parser Token Bool := return (← current).isSign sign

/-- Moves past a sign, which must be the current token. -/
def expectSign (sign : Sign) : Parser Token Unit := do
  if ← atSign sign then advance else expected sign.describe

/-- Fails because of the current token. -/
def unexpected {α : Type} : Parser Token α := do
  fault (.unexpectedToken (← current).describe)

/-- The comparison that a token stands for. -/
def comparison? : Token → Option Comparison
  | .sign .equal => some .eq
  | .sign .notEqual => some .ne
  | .sign .less => some .lt
  | .sign .greater => some .gt
  | .sign .lessEqual => some .le
  | .sign .greaterEqual => some .ge
  | _ => none

/-- The operator of sums that a token stands for. -/
def additive? : Token → Option Arithmetic
  | .sign .plus => some .add
  | .sign .minus => some .sub
  | _ => none

/-- The operator of products that a token stands for. -/
def multiplicative? : Token → Option Arithmetic
  | .sign .star => some .mul
  | .sign .slash => some .div
  | .sign .percent => some .mod
  | _ => none

/-- Parses an operand after at most `count` signs of negation or minus. -/
def unaryOf (primary : Parser Token Formula) : (count : Nat) → Parser Token Formula
  | 0 => primary
  | count + 1 => do
    match ← current with
    | .sign .bang =>
      advance
      return .not (← unaryOf primary count)
    | .sign .minus =>
      advance
      match ← current with
      | .leastLong =>
        advance
        return .literal (.long (-Token.leastLongMagnitude))
      | _ => return (← unaryOf primary count).negate
    | _ => primary

/-- Parses a signed operand. -/
def unary (primary : Parser Token Formula) : Parser Token Formula := do
  unaryOf primary (← budget)

/-- At most `count` operators with their right operands, which `left` takes up one after another. -/
def chain (operator? : Token → Option Arithmetic) (item : Parser Token Formula) :
    (count : Nat) → (left : Formula) → Parser Token Formula
  | 0, left => return left
  | count + 1, left => do
    match operator? (← current) with
    | some operator =>
      advance
      chain operator? item count (.arithmetic operator left (← item))
    | none => return left

/-- Parses operands joined by operators, which group to the left. -/
def chained (operator? : Token → Option Arithmetic) (item : Parser Token Formula) :
    Parser Token Formula := do
  let left ← item
  chain operator? item (← budget) left

/-- Parses a sum of products. -/
def sum (primary : Parser Token Formula) : Parser Token Formula :=
  chained additive? (chained multiplicative? (unary primary))

/-- Parses at most one comparison. -/
def compared (primary : Parser Token Formula) : Parser Token Formula := do
  let left ← sum primary
  match comparison? (← current) with
  | some operator =>
    advance
    return .compare operator left (← sum primary)
  | none => return left

/-- Parses operands joined by "and" and "or". -/
def disjunction (primary : Parser Token Formula) : Parser Token Formula := do
  let conjunction := do
    return collapse .all (← separated (·.isSign .andAnd) (compared primary))
  return collapse .any (← separated (·.isSign .orOr) conjunction)

/-- Parses a formula, of which an assignment is the loosest kind. -/
def expression (primary : Parser Token Formula) : Parser Token Formula := do
  let target ← disjunction primary
  if ← atSign .assign then
    advance
    return .assignment target (← disjunction primary)
  else return target

/-- At most `count` items up to a closing sign, each with a comma unless the closing sign
follows. -/
def itemsBefore (item : Parser Token Formula) (close : Sign) :
    (count : Nat) → Parser Token (List Formula)
  | 0 => return []
  | count + 1 => do
    if ← atSign close then return []
    else
      let first ← item
      if !(← atSign close) then expectSign .comma
      return first :: (← itemsBefore item close count)

/-- Parses items up to a closing sign, and the sign. -/
def listBefore (item : Parser Token Formula) (close : Sign) : Parser Token (List Formula) := do
  let items ← itemsBefore item close (← budget)
  expectSign close
  return items

/-- At most `count` items of a block, each but the last with a semicolon or a comma. -/
def blockItems (item : Parser Token Formula) : (count : Nat) → Parser Token (List Formula)
  | 0 => return []
  | count + 1 => do
    if ← atSign .rightBrace then return []
    else
      let first ← item
      if (← atSign .semicolon) || (← atSign .comma) then
        advance
        return first :: (← blockItems item count)
      else return [first]

/-- Parses a block after its opening brace. -/
def block (item : Parser Token Formula) : Parser Token Formula := do
  let items ← blockItems item (← budget)
  expectSign .rightBrace
  return .block items

/-- Parses a formula in parentheses. -/
def parenthesized (item : Parser Token Formula) : Parser Token Formula := do
  expectSign .leftParen
  let inner ← item
  expectSign .rightParen
  return inner

/-- Parses the body of a condition: a block or a formula. -/
def body (item : Parser Token Formula) : Parser Token Formula := do
  if ← atSign .leftBrace then
    advance
    block item
  else item

/-- Parses a condition and its body. -/
def branch (item : Parser Token Formula) : Parser Token (Formula × Formula) := do
  let condition ← parenthesized item
  return (condition, ← body item)

/-- At most `count` further conditions with their bodies, and the body for when none holds. -/
def alternatives (item : Parser Token Formula) :
    (count : Nat) → Parser Token (List (Formula × Formula) × Option Formula)
  | 0 => return ([], none)
  | count + 1 => do
    let next : Parser Token (List (Formula × Formula) × Option Formula) := do
      let first ← branch item
      let (branches, otherwise) ← alternatives item count
      return (first :: branches, otherwise)
    match ← current with
    | .keyword .elseIf =>
      advance
      next
    | .keyword .else =>
      advance
      match ← current with
      | .keyword .if =>
        advance
        next
      | _ => return ([], some (← body item))
    | _ => return ([], none)

/-- Parses a conditional after its first word. -/
def conditional (item : Parser Token Formula) : Parser Token Formula := do
  let first ← branch item
  let (branches, otherwise) ← alternatives item (← budget)
  return .conditional (first :: branches) otherwise

/-- Parses the body of a label: formulas with commas between. -/
def caseBody (item : Parser Token Formula) : Parser Token (List Formula) :=
  separated (·.isSign .comma) item

/-- At most `count` labels with their bodies, and the last body for when no label fits. -/
def cases (label item : Parser Token Formula) (count : Nat) (fallback : Option (List Formula)) :
    Parser Token (List (Formula × List Formula) × Option (List Formula)) :=
  match count with
  | 0 => return ([], fallback)
  | count + 1 => do
    match ← current with
    | .keyword .case =>
      advance
      let name ← label
      expectSign .colon
      let first ← caseBody item
      let (rest, fallback) ← cases label item count fallback
      return ((name, first) :: rest, fallback)
    | .keyword .default =>
      advance
      expectSign .colon
      let found ← caseBody item
      cases label item count (some found)
    | _ => return ([], fallback)

/-- Parses a switch after its first word. -/
def switched (label item : Parser Token Formula) : Parser Token Formula := do
  let subject ← parenthesized item
  expectSign .leftBrace
  let (labelled, fallback) ← cases label item (← budget) none
  expectSign .rightBrace
  return .switch subject labelled fallback

/-- Parses what stands by itself, formulas nested in it up to `depth` levels. -/
def primary : (depth : Nat) → Parser Token Formula
  | 0 => unexpected
  | depth + 1 => do
    let item := expression (primary depth)
    match ← current with
    | .literal value => consume; return .literal value
    | .sign .star => consume; return .allFields
    | .name name =>
      consume
      if ← atSign .leftParen then
        advance
        return .call name (← listBefore item .rightParen)
      else return .path name
    | .sign .leftParen =>
      consume
      let inner ← item
      expectSign .rightParen
      return inner
    | .sign .leftBracket => consume; return .array (← listBefore item .rightBracket)
    | .sign .leftBrace => consume; block item
    | .keyword .if => consume; conditional item
    | .keyword .switch => consume; switched (unary (primary depth)) item
    | _ => unexpected

/-- Parses a formula that takes up all of a text. -/
def whole : Parser Token Formula := do
  let result ← expression (primary (← budget))
  if (← current).isDone then return result else unexpected

end Grammar

/-- The formula of a text. -/
def parse (text : String) : Except Error Formula :=
  Parser.run Grammar.whole (Token.stream text)

/-- Parses a text so many times, each time from where the last parse stopped. -/
def parseRepeatedly (times : Nat) (text : String) : Except Error (List (Except Error Formula)) :=
  (Cursor.start (Token.stream text)).map (Parser.repeatFrom Grammar.whole times)

end Formula

end RecordQuery
