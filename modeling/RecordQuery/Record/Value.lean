import RecordQuery.Comparison
import RecordQuery.Json.Printer
import RecordQuery.Number.Decimal
import RecordQuery.Text.Case
import RecordQuery.Text.Character

/-! The values of records as texts and as numbers, and how they compare with texts. -/

namespace RecordQuery.Record

/-- The text of a value: that of a string is its content, that of null is empty, and that of
anything else is its JSON text. -/
def text : Json → String
  | .null => ""
  | .string s => s
  | value => value.compact

/-- The number that a text is, blanks around it aside. -/
def numberOfText? (text : String) : Option Decimal :=
  Decimal.read? (Text.trim text).toList

/-- The number that a value is: a JSON number, or a string that reads as a number. -/
def number? : Json → Option Decimal
  | .number n => numberOfText? n.text
  | .string s => numberOfText? s
  | _ => none

/-- Whether a value equals a text: numbers by value, anything else by text without regard to
case. -/
def equals (value : Json) (other : String) : Bool :=
  match number? value, numberOfText? other with
  | some a, some b => a.sameValue b
  | _, _ => Text.lowerCase (text value) == Text.lowerCase other

/-- Whether a value compares with a text in this way. Only numbers have an order. -/
def compares (operator : Comparison) (value : Json) (other : String) : Bool :=
  match operator with
  | .eq => equals value other
  | .ne => !equals value other
  | ordering =>
    match number? value, numberOfText? other with
    | some a, some b => ordering.holds (a.order b)
    | _, _ => false

end RecordQuery.Record
