/-! Integers in decimal digits, and the two widths that a literal may have to fit. -/

namespace RecordQuery

/-- The number that a list of decimal digits writes. -/
def digitsValue (digits : List Char) : Nat :=
  Nat.ofDigitChars 10 digits 0

namespace Integer

/-- An integer in decimal digits, a negative one after a minus sign. -/
def text (n : Int) : String :=
  if n < 0 then "-" ++ Nat.repr n.natAbs else Nat.repr n.natAbs

/-- Reads one or more decimal digits and nothing else. -/
def readDigits? (chars : List Char) : Option Nat :=
  if !chars.isEmpty && chars.all Char.isDigit then some (digitsValue chars) else none

/-- Reads decimal digits after at most one sign. -/
def read? : List Char → Option Int
  | '-' :: digits => (readDigits? digits).map fun n => -(n : Int)
  | '+' :: digits => (readDigits? digits).map Int.ofNat
  | digits => (readDigits? digits).map Int.ofNat

/-- Whether an integer fits thirty-two bits with a sign. -/
def fits32 (n : Int) : Bool :=
  -2147483648 ≤ n && n ≤ 2147483647

/-- Whether an integer fits sixty-four bits with a sign. -/
def fits64 (n : Int) : Bool :=
  -9223372036854775808 ≤ n && n ≤ 9223372036854775807

/-- Reads an integer of thirty-two bits. -/
def read32? (chars : List Char) : Option Int :=
  (read? chars).filter fits32

/-- Reads an integer of sixty-four bits. -/
def read64? (chars : List Char) : Option Int :=
  (read? chars).filter fits64

end Integer

end RecordQuery
