import RecordQuery.Json.Basic
import RecordQuery.Query.Basic

/-! The values that a field reaches in a record. Arrays on the way are replaced by their items, one
level before each step and one at the end. -/

namespace RecordQuery.Record

/-- The texts between the points of a path, in order; a path without points is one segment. -/
def splitPoints : List Char → List (List Char)
  | [] => [[]]
  | c :: rest =>
    if c = '.' then [] :: splitPoints rest
    else
      match splitPoints rest with
      | segment :: segments => (c :: segment) :: segments
      | [] => [[c]]

/-- The names that a path steps through. -/
def segments (path : String) : List String :=
  (splitPoints path.toList).map String.ofList

/-- The items of an array; any other value alone. -/
def spread : Json → List Json
  | .array items => items
  | value => [value]

/-- The members of one name of some values, arrays among them spread first. -/
def step (values : List Json) (name : String) : List Json :=
  (values.flatMap spread).filterMap (Json.member? name)

/-- What a path reaches from some values, with arrays spread at the end. -/
def follow (values : List Json) (names : List String) : List Json :=
  (names.foldl step values).flatMap spread

/-- What a path reaches in a record. -/
def reached (path : String) (record : Json) : List Json :=
  follow [record] (segments path)

/-- What a path stands for in a record: what it reaches, or null if that is nothing. -/
def valuesAt (path : String) (record : Json) : List Json :=
  match reached path record with
  | [] => [.null]
  | values => values

mutual

/-- The values within a value that hold no others. -/
def leaves : Json → List Json
  | .object members => leavesOfMembers members
  | .array items => leavesOfItems items
  | value => [value]
termination_by structural value => value

/-- The leaves of the items of an array. -/
def leavesOfItems : List Json → List Json
  | [] => []
  | item :: items => leaves item ++ leavesOfItems items
termination_by structural items => items

/-- The leaves of the members of an object. -/
def leavesOfMembers : List (String × Json) → List Json
  | [] => []
  | (_, value) :: members => leaves value ++ leavesOfMembers members
termination_by structural members => members

end

/-- What a field stands for in a record: what its path does, or for a star every leaf. -/
def valuesOf (field : Field) (record : Json) : List Json :=
  match field with
  | .all => leaves record
  | .named path => valuesAt path record

end RecordQuery.Record
