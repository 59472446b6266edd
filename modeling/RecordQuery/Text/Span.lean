/-! Spans of code points, and sets of code points as lists of spans. A list is in order when its
spans rise and neither overlap nor touch; the operations keep lists in order. -/

namespace RecordQuery.Text

/-- The code points from `first` to `last`, both included. -/
structure Span where
  first : Nat
  last : Nat
deriving DecidableEq, Repr

namespace Span

/-- Whether `code` lies in the span. -/
def holds (span : Span) (code : Nat) : Bool :=
  span.first ≤ code && code ≤ span.last

/-- Whether some span of the list holds `code`. -/
def anyHolds (spans : List Span) (code : Nat) : Bool :=
  spans.any (·.holds code)

/-- The last code point. -/
def lastCode : Nat := 0x10FFFF

/-- A span before others by their first code points; it takes in those that it meets or touches. -/
def before (span : Span) : List Span → List Span
  | [] => [span]
  | next :: spans =>
    if next.first ≤ span.last + 1 then before ⟨span.first, max span.last next.last⟩ spans
    else span :: before next spans

/-- Spans that rise by their first code points, put in order. -/
def joined : List Span → List Span
  | [] => []
  | span :: spans => before span spans

/-- The code points of two lists together. -/
def union (a b : List Span) : List Span :=
  joined (a.merge b fun x y => x.first ≤ y.first)

/-- The code points of spans that come in any order. -/
def unionAll (spans : List Span) : List Span :=
  joined (spans.mergeSort fun x y => x.first ≤ y.first)

/-- The code points from `start` on that are in no span. -/
def gapsFrom (start : Nat) : List Span → List Span
  | [] => if start ≤ lastCode then [⟨start, lastCode⟩] else []
  | span :: spans =>
    if start < span.first then ⟨start, span.first - 1⟩ :: gapsFrom (span.last + 1) spans
    else gapsFrom (span.last + 1) spans

/-- All code points but those of a list. -/
def complement (spans : List Span) : List Span :=
  gapsFrom 0 spans

/-- The code points that two lists share. -/
def intersection (a b : List Span) : List Span :=
  complement (union (complement a) (complement b))

/-- The code points of one list that are not in another. -/
def difference (a b : List Span) : List Span :=
  intersection a (complement b)

/-- The code points of exactly one of two lists. -/
def symmetricDifference (a b : List Span) : List Span :=
  union (difference a b) (difference b a)

/-- The code points that are characters; the rest are surrogates. -/
def characters (spans : List Span) : List Span :=
  difference spans [⟨0xD800, 0xDFFF⟩]

end Span

end RecordQuery.Text
