import RecordQuery.Error
import RecordQuery.Json.Reader

/-! The dictionary of the types of fields. Fields stand in the order in which they were first
added; a field that is added again keeps its place and takes the new type. -/

namespace RecordQuery

/-- Puts a field into a list of fields: in place of the one of that name, else at the end. -/
def putType (field type : String) : List (String × String) → List (String × String)
  | [] => [(field, type)]
  | entry :: entries =>
    if entry.1 = field then (field, type) :: entries else entry :: putType field type entries

theorem map_fst_putType (field type : String) (entries : List (String × String)) :
    (putType field type entries).map Prod.fst =
      if field ∈ entries.map Prod.fst then entries.map Prod.fst
      else entries.map Prod.fst ++ [field] := by
  induction entries with
  | nil => rfl
  | cons entry entries ih =>
    by_cases h : entry.1 = field
    · simp [putType, h]
    · have h' : field ≠ entry.1 := fun e => h e.symm
      by_cases hm : field ∈ entries.map Prod.fst
      · simp only [putType, if_neg h, List.map_cons, ih, List.mem_cons, if_pos hm,
          if_pos (Or.inr hm)]
      · simp only [putType, if_neg h, List.map_cons, ih, List.mem_cons, if_neg hm,
          if_neg (not_or.2 ⟨h', hm⟩), List.cons_append]

/-- Fields with the names of their types, no field twice. -/
structure FieldTypes where
  entries : List (String × String)
  nodup : (entries.map Prod.fst).Nodup

namespace FieldTypes

/-- The dictionary of no fields. -/
def empty : FieldTypes := ⟨[], List.nodup_nil⟩

/-- The dictionary with one more field, or with a new type for it. -/
def insert (types : FieldTypes) (field type : String) : FieldTypes where
  entries := putType field type types.entries
  nodup := by
    rw [map_fst_putType]
    split
    · exact types.nodup
    · next h =>
      rw [List.nodup_append]
      refine ⟨types.nodup, by simp, ?_⟩
      intro a ha b hb e
      simp only [List.mem_singleton] at hb
      exact h (hb ▸ e ▸ ha)

/-- The dictionary of fields added one after another. -/
def ofList (entries : List (String × String)) : FieldTypes :=
  entries.foldl (fun types entry => types.insert entry.1 entry.2) empty

/-- The type of a field, if it is known. -/
def get? (types : FieldTypes) (field : String) : Option String :=
  types.entries.lookup field

/-- The type of a field, which must be known. -/
def require (types : FieldTypes) (field : String) : Except Error String :=
  match types.get? field with
  | some type => .ok type
  | none => .error (.unknownType field)

/-- How many fields are known. -/
def size (types : FieldTypes) : Nat := types.entries.length

/-- Whether no field is known. -/
def isEmpty (types : FieldTypes) : Bool := types.entries.isEmpty

/-- Adds the members of an object, each of which must be a string. -/
def insertMembers (types : FieldTypes) : List (String × Json) → Except Error FieldTypes
  | [] => .ok types
  | (field, .string type) :: members => insertMembers (types.insert field type) members
  | (field, _) :: _ => .error (.misuse (.typeNotText field))

/-- The dictionary of an object, in the order of its members. -/
def ofJson : Json → Except Error FieldTypes
  | .object members => insertMembers empty members
  | _ => .error (.misuse .typesNotObject)

/-- The dictionary of a JSON text. -/
def ofText (text : String) : Except Error FieldTypes :=
  match Json.parse? text with
  | some value => ofJson value
  | none => .error (.misuse .typesNotJson)

end FieldTypes

end RecordQuery
