import RecordQuery.Comparison
import RecordQuery.Number.Integer

/-! Queries: predicates on the fields of a record, joined by "any of", "all of" and "not". A
predicate is a field together with a test of its values. -/

namespace RecordQuery

/-- What a literal was written as: digits, digits with a point, `true` or `false`, or text between
quotes. -/
inductive LiteralKind where
  | integer
  | decimal
  | boolean
  | quoted
deriving DecidableEq, Repr

namespace LiteralKind

/-- Whether literals of this kind are numbers. -/
def isNumeric : LiteralKind → Bool
  | .integer | .decimal => true
  | .boolean | .quoted => false

/-- The name of a kind in messages. -/
def describe : LiteralKind → String
  | .integer => "Int"
  | .decimal => "Decimal"
  | .boolean => "Boolean"
  | .quoted => "QuotedValue"

end LiteralKind

/-- A literal with the text it was written as; that of a quoted literal is its content. -/
structure Literal where
  kind : LiteralKind
  text : String
deriving DecidableEq, Repr

namespace Literal

/-- The literal of an integer. -/
def ofInt (n : Int) : Literal := ⟨.integer, Integer.text n⟩

/-- The literal of a truth value. -/
def ofBool (b : Bool) : Literal := ⟨.boolean, if b then "true" else "false"⟩

/-- The literal of a text. -/
def ofText (text : String) : Literal := ⟨.quoted, text⟩

end Literal

/-- What a predicate looks at: a field by its dotted path, or every field of the record. -/
inductive Field where
  | named (path : String)
  | all
deriving DecidableEq, Repr

namespace Field

/-- The field of a path, where a star stands for every field. -/
def ofText (text : String) : Field :=
  if text = "*" then .all else .named text

/-- The path of a named field. -/
def path? : Field → Option String
  | .named path => some path
  | .all => none

end Field

/-- The right side of a comparison: a literal, or another field of the record. -/
inductive Operand where
  | literal (value : Literal)
  | field (path : String)
deriving DecidableEq, Repr

/-- A range between two literals, each end of which may be open. -/
structure Range where
  left : Literal
  right : Literal
  lowerOpen : Bool
  upperOpen : Bool
deriving DecidableEq, Repr

/-- The states a field can be asked for. -/
inductive Check where
  | null
  | empty
  | valid
  | invalid
deriving DecidableEq, Repr

/-- Patterns of characters (`complies`) and of words (`wordComplies`). -/
inductive PatternKind where
  | character
  | word
deriving DecidableEq, Repr

/-- A test of one value. -/
inductive Test where
  | compare (operator : Comparison) (operand : Operand)
  | between (range : Range)
  | oneOf (values : List Literal)
  | contains (text : String) (caseSensitive : Bool)
  | matching (regex : String)
  | complies (kind : PatternKind) (pattern : String)
  | is (check : Check)
deriving DecidableEq, Repr

/-- A field and the test that its values are put to. -/
structure Predicate where
  field : Field
  test : Test
deriving DecidableEq, Repr

/-- A query: any of its branches, all of its children, the negation of a query, or a predicate. -/
inductive Query where
  | any (branches : List Query)
  | all (children : List Query)
  | not (inner : Query)
  | leaf (predicate : Predicate)

namespace Query

instance : Inhabited Query := ⟨.any []⟩

/-- Whether the query is a single predicate. -/
def isLeaf : Query → Bool
  | .leaf _ => true
  | _ => false

/-- The field that a single predicate looks at. -/
def field? : Query → Option Field
  | .leaf predicate => some predicate.field
  | _ => none

mutual

/-- Equality of queries is decided part by part. -/
def decEq : (a b : Query) → Decidable (a = b)
  | .any as, .any bs =>
    match decEqList as bs with
    | isTrue h => isTrue (h ▸ rfl)
    | isFalse h => isFalse fun e => h (Query.any.inj e)
  | .all as, .all bs =>
    match decEqList as bs with
    | isTrue h => isTrue (h ▸ rfl)
    | isFalse h => isFalse fun e => h (Query.all.inj e)
  | .not a, .not b =>
    match decEq a b with
    | isTrue h => isTrue (h ▸ rfl)
    | isFalse h => isFalse fun e => h (Query.not.inj e)
  | .leaf a, .leaf b =>
    if h : a = b then isTrue (h ▸ rfl) else isFalse fun e => h (Query.leaf.inj e)
  | .any _, .all _ | .any _, .not _ | .any _, .leaf _ => isFalse nofun
  | .all _, .any _ | .all _, .not _ | .all _, .leaf _ => isFalse nofun
  | .not _, .any _ | .not _, .all _ | .not _, .leaf _ => isFalse nofun
  | .leaf _, .any _ | .leaf _, .all _ | .leaf _, .not _ => isFalse nofun
termination_by structural a => a

/-- Equality of lists of queries is decided one by one. -/
def decEqList : (as bs : List Query) → Decidable (as = bs)
  | [], [] => isTrue rfl
  | [], _ :: _ => isFalse nofun
  | _ :: _, [] => isFalse nofun
  | a :: as, b :: bs =>
    match decEq a b, decEqList as bs with
    | isTrue h, isTrue hs => isTrue (by rw [h, hs])
    | isFalse h, _ => isFalse fun e => h (List.cons.inj e).1
    | _, isFalse hs => isFalse fun e => hs (List.cons.inj e).2
termination_by structural as => as

end

instance : DecidableEq Query := decEq

end Query

end RecordQuery
