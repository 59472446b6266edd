import RecordQuery.Comparison
import RecordQuery.Number.Double

/-! Formulas of the embedded expression language (EL): an expression syntax with operators,
function calls, conditionals, switches, arrays and blocks. -/

namespace RecordQuery

/-- A typed literal of a formula: integers of thirty-two and of sixty-four bits, decimals, doubles,
truth values and strings. -/
inductive Value where
  | int (n : Int)
  | long (n : Int)
  | decimal (d : Decimal)
  | double (x : Float)
  | boolean (b : Bool)
  | string (s : String)

/-- Whether a literal is a number. -/
def Value.isNumber : Value → Bool
  | .int _ | .long _ | .decimal _ | .double _ => true
  | .boolean _ | .string _ => false

/-- The arithmetic operators. -/
inductive Arithmetic where
  | add | sub | mul | div | mod
deriving DecidableEq, Repr

/-- A formula. -/
inductive Formula where
  /-- A field by its path. -/
  | path (path : String)
  /-- The star that stands for every field. -/
  | allFields
  | literal (value : Value)
  | call (function : String) (arguments : List Formula)
  | compare (operator : Comparison) (left right : Formula)
  | all (operands : List Formula)
  | any (operands : List Formula)
  | not (operand : Formula)
  | arithmetic (operator : Arithmetic) (left right : Formula)
  /-- Conditions with their bodies, tried in order, and the body for when none holds. -/
  | conditional (branches : List (Formula × Formula)) (otherwise : Option Formula)
  /-- A subject, labels with their bodies, and the body for when no label fits. -/
  | switch (subject : Formula) (cases : List (Formula × List Formula))
      (fallback : Option (List Formula))
  | array (items : List Formula)
  | assignment (target value : Formula)
  | block (items : List Formula)

namespace Formula

instance : Inhabited Formula := ⟨.allFields⟩

/-- The formula of a text. -/
def string (text : String) : Formula := .literal (.string text)

/-- The formula of a truth value. -/
def boolean (b : Bool) : Formula := .literal (.boolean b)

end Formula

namespace Value

/-- Whether two literals are equal, decimals by value and doubles as numbers. -/
def agrees : Value → Value → Bool
  | .int m, .int n => m == n
  | .long m, .long n => m == n
  | .decimal a, .decimal b => a.sameValue b
  | .double x, .double y => x == y
  | .boolean a, .boolean b => a == b
  | .string s, .string t => s == t
  | _, _ => false

end Value

namespace Formula

mutual

/-- Whether two formulas are equal but for the scales of their decimals. -/
def agrees : Formula → Formula → Bool
  | .path p, .path q => p == q
  | .allFields, .allFields => true
  | .literal a, .literal b => a.agrees b
  | .call f as, .call g bs => f == g && agreeAll as bs
  | .compare o a b, .compare p c d => o == p && a.agrees c && b.agrees d
  | .all as, .all bs => agreeAll as bs
  | .any as, .any bs => agreeAll as bs
  | .not a, .not b => a.agrees b
  | .arithmetic o a b, .arithmetic p c d => o == p && a.agrees c && b.agrees d
  | .conditional as a, .conditional bs b => agreeBranches as bs && agreeOption a b
  | .switch a as c, .switch b bs d => a.agrees b && agreeCases as bs && agreeFallback c d
  | .array as, .array bs => agreeAll as bs
  | .assignment a b, .assignment c d => a.agrees c && b.agrees d
  | .block as, .block bs => agreeAll as bs
  | _, _ => false
termination_by structural f => f

/-- Whether two lists of formulas agree one by one. -/
def agreeAll : List Formula → List Formula → Bool
  | [], [] => true
  | a :: as, b :: bs => a.agrees b && agreeAll as bs
  | _, _ => false
termination_by structural fs => fs

/-- Whether two lists of conditions and bodies agree. -/
def agreeBranches : List (Formula × Formula) → List (Formula × Formula) → Bool
  | [], [] => true
  | (a, c) :: as, (b, d) :: bs => a.agrees b && c.agrees d && agreeBranches as bs
  | _, _ => false
termination_by structural fs => fs

/-- Whether two bodies agree that may be missing. -/
def agreeOption : Option Formula → Option Formula → Bool
  | none, none => true
  | some a, some b => a.agrees b
  | _, _ => false
termination_by structural f => f

/-- Whether two lists of labels and bodies agree. -/
def agreeCases : List (Formula × List Formula) → List (Formula × List Formula) → Bool
  | [], [] => true
  | (a, c) :: as, (b, d) :: bs => a.agrees b && agreeAll c d && agreeCases as bs
  | _, _ => false
termination_by structural fs => fs

/-- Whether two lists of formulas agree that may be missing. -/
def agreeFallback : Option (List Formula) → Option (List Formula) → Bool
  | none, none => true
  | some as, some bs => agreeAll as bs
  | _, _ => false
termination_by structural fs => fs

end

end Formula

end RecordQuery
