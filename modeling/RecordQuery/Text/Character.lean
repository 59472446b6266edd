import RecordQuery.Text.CategoryTable
import RecordQuery.Text.Properties

/-! Classes of characters: white space, letters, digits and the properties that casing and printing
ask for, all for the whole of Unicode. -/

namespace RecordQuery.Text

/-- The last row that starts at or before `code`, of rows in rising order. -/
def lastRow? (code : Nat) : List CategoryRow → Option CategoryRow
  | [] => none
  | row :: rows =>
    if row.start ≤ code then (lastRow? code rows).or (some row) else none

/-- The part of the table that covers `code`, of parts in rising order. -/
def lastPart (code : Nat) : List (Nat × List CategoryRow) → List CategoryRow
  | [] => []
  | [part] => part.2
  | part :: next :: parts =>
    if next.1 ≤ code then lastPart code (next :: parts) else part.2

/-- The general category of a character. -/
def category (c : Char) : Category :=
  match lastRow? c.toNat (lastPart c.toNat CategoryTable.parts) with
  | none => .cn
  | some row => if (c.toNat - row.start) % 2 = 0 then row.even else row.odd

/-- The code points of a row, which ends before `stop`, whose category passes a test. -/
def CategoryRow.spans (test : Category → Bool) (stop : Nat) (row : CategoryRow) : List Span :=
  let everySecond := fun start =>
    (List.range ((stop - start + 1) / 2)).map fun i => Span.mk (start + 2 * i) (start + 2 * i)
  match test row.even, test row.odd with
  | true, true => [⟨row.start, stop - 1⟩]
  | true, false => everySecond row.start
  | false, true => everySecond (row.start + 1)
  | false, false => []

/-- The code points of rows in rising order whose category passes a test. -/
def rowSpans (test : Category → Bool) : List CategoryRow → List Span
  | [] => []
  | [row] => row.spans test (Span.lastCode + 1)
  | row :: next :: rows => row.spans test next.start ++ rowSpans test (next :: rows)

/-- The code points whose category passes a test. -/
def categorySpans (test : Category → Bool) : List Span :=
  Span.joined (rowSpans test (CategoryTable.parts.flatMap Prod.snd))

/-- White space, line and paragraph separators included. -/
def isBlank (c : Char) : Bool :=
  Span.anyHolds Properties.blanks c.toNat

/-- Letters, letter numbers, and marks that behave as letters. -/
def isAlphabetic (c : Char) : Bool :=
  let category := category c
  category.isLetter || category == .nl || Span.anyHolds Properties.alphabeticMarks c.toNat

/-- Numbers of any kind: `²` and `½` are among them. -/
def isNumeric (c : Char) : Bool :=
  (category c).isNumber

/-- Alphabetic or numeric characters. -/
def isAlphanumeric (c : Char) : Bool :=
  isAlphabetic c || isNumeric c

/-- Characters with case: upper, lower and title case letters and some signs made of them. -/
def isCased (c : Char) : Bool :=
  let category := category c
  category == .lu || category == .ll || category == .lt ||
    Span.anyHolds Properties.lowercaseExtras c.toNat ||
    Span.anyHolds Properties.uppercaseExtras c.toNat

/-- Characters that casing looks through: marks, modifiers and punctuation inside words. -/
def isCaseIgnorable (c : Char) : Bool :=
  let category := category c
  category == .mn || category == .me || category == .cf || category == .lm || category == .sk ||
    Span.anyHolds Properties.caseIgnorableExtras c.toNat

/-- Characters that extend the one before them. -/
def extendsGrapheme (c : Char) : Bool :=
  let category := category c
  category == .mn || category == .me || Span.anyHolds Properties.graphemeExtendExtras c.toNat

/-- Characters that leave a mark on paper, and the plain space. -/
def isPrintable (c : Char) : Bool :=
  let category := category c
  c == ' ' || !(category.isOther || category.isSeparator)

/-- The characters without white space at either end. -/
def trimChars (chars : List Char) : List Char :=
  ((chars.dropWhile isBlank).reverse.dropWhile isBlank).reverse

/-- The text without white space at either end. -/
def trim (text : String) : String :=
  String.ofList (trimChars text.toList)

end RecordQuery.Text
