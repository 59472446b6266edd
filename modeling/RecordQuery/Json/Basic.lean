import RecordQuery.Number.Double

/-! JSON values. An object keeps its members in the order in which their names first came, one
member a name. -/

namespace RecordQuery

/-- A JSON number: an integer of at most sixty-four bits, or a double. -/
inductive Json.Number where
  | integer (n : Int)
  | double (x : Float)

/-- A JSON value. -/
inductive Json where
  | null
  | bool (value : Bool)
  | number (value : Json.Number)
  | string (value : String)
  | array (items : List Json)
  | object (members : List (String × Json))

namespace Json

instance : Inhabited Json := ⟨.null⟩

/-- Puts a member into an object: in place of the one of that name, else at the end. -/
def putMember (name : String) (value : Json) : List (String × Json) → List (String × Json)
  | [] => [(name, value)]
  | member :: members =>
    if member.1 = name then (name, value) :: members else member :: putMember name value members

/-- The value of the first member of this name. -/
def member? (name : String) : Json → Option Json
  | .object members => members.lookup name
  | _ => none

/-- An object of one member. -/
def single (name : String) (value : Json) : Json := .object [(name, value)]

/-- The number of an integer. -/
def ofInt (n : Int) : Json := .number (.integer n)

/-- Whether the value is null. -/
def isNull : Json → Bool
  | .null => true
  | _ => false

/-- The text of a number. -/
def Number.text : Number → String
  | .integer n => Integer.text n
  | .double x => Double.json.text x

end Json

end RecordQuery
