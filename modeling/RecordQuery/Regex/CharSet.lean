import RecordQuery.Text.Case

/-! Sets of characters, as regular expressions describe them. Regular expressions know the
characters of Unicode 16.0. -/

namespace RecordQuery.Regex

/-- Where categories differ from those of later versions of Unicode. -/
def earlierCategories : List (List Text.Span × Text.Category) :=
  [(Text.Properties.addedInUnicode17, .cn), ([⟨0x295, 0x295⟩], .ll)]

/-- The general category of a character. -/
def category (c : Char) : Text.Category :=
  match earlierCategories.find? (Text.Span.anyHolds ·.1 c.toNat) with
  | some earlier => earlier.2
  | none => Text.category c

/-- The code points of some categories, in order. -/
def categorySpans (categories : List Text.Category) : List Text.Span :=
  let earlier := earlierCategories.filter (categories.contains ·.2)
  Text.Span.union (Text.Span.unionAll (earlier.flatMap Prod.fst))
    (Text.Span.difference (Text.categorySpans categories.contains)
      (Text.Span.unionAll (earlierCategories.flatMap Prod.fst)))

/-- A property of characters: to have one of some categories, or to be among other characters;
some that have the category may lack the property. -/
structure Property where
  categories : List Text.Category
  others : List Text.Span
  lacking : List Text.Span
deriving DecidableEq, Repr

namespace Property

/-- Whether a character has a property. -/
def holds (property : Property) (c : Char) : Bool :=
  (property.categories.contains (category c) && !Text.Span.anyHolds property.lacking c.toNat) ||
    Text.Span.anyHolds property.others c.toNat

/-- The code points that have a property, in order. -/
def spans (property : Property) : List Text.Span :=
  Text.Span.union (Text.Span.difference (categorySpans property.categories) property.lacking)
    property.others

/-- To have one of some categories. -/
def ofCategories (categories : List Text.Category) : Property := ⟨categories, [], []⟩

/-- To be one of some characters. -/
def ofSpans (spans : List Text.Span) : Property := ⟨[], spans, []⟩

/-- The characters of a list that are known. -/
def known (spans : List Text.Span) : List Text.Span :=
  Text.Span.difference spans Text.Properties.addedInUnicode17

/-- Letters, letter numbers, and marks that behave as letters. -/
def alphabetic : Property :=
  ⟨[.lu, .ll, .lt, .lm, .lo, .nl], known Text.Properties.alphabeticMarks, []⟩

/-- White space, line and paragraph separators included. -/
def blank : Property := ofSpans Text.Properties.blanks

/-- Small letters. -/
def lowercase : Property := ⟨[.ll], known Text.Properties.lowercaseExtras, []⟩

/-- Capital letters. -/
def uppercase : Property := ⟨[.lu], known Text.Properties.uppercaseExtras, []⟩

/-- Characters with case. -/
def cased : Property :=
  ⟨[.lu, .ll, .lt],
    Text.Span.union (known Text.Properties.lowercaseExtras) (known Text.Properties.uppercaseExtras),
    []⟩

/-- Characters that casing looks through. -/
def caseIgnorable : Property :=
  ⟨[.mn, .me, .cf, .lm, .sk], known Text.Properties.caseIgnorableExtras, []⟩

/-- Characters of words: alphabetic ones, marks, decimal digits, connectors such as `_`, and the
two joiners. -/
def word : Property :=
  ⟨[.lu, .ll, .lt, .lm, .lo, .nl, .mn, .mc, .me, .nd, .pc],
    Text.Span.union (known Text.Properties.alphabeticMarks) [⟨0x200C, 0x200D⟩], []⟩

end Property

/-- The other case of a letter of ASCII; any other character itself. -/
def otherAsciiCase (c : Char) : Char :=
  if c.isUpper then c.toLower else c.toUpper

/-- The code points that differ at most in case from one of a list, among those of ASCII alone or
among all. -/
def caseClosure (ascii : Bool) (spans : List Text.Span) : List Text.Span :=
  let shifts := if ascii then [⟨0x41, 0x5A, 1, 32⟩] else Text.CaseTables.fold
  let pairs := shifts.flatMap Text.CaseShift.pairs
  let single := fun code => Text.Span.mk code code
  let reached := Text.Span.unionAll <| pairs.filterMap fun (code, folded) =>
    if Text.Span.anyHolds spans code || Text.Span.anyHolds spans folded then some (single folded)
    else none
  let variants := pairs.filterMap fun (code, folded) =>
    if Text.Span.anyHolds reached folded then some (single code) else none
  Text.Span.unionAll (spans ++ reached ++ variants)

/-- A set of characters. -/
inductive CharSet where
  | none
  /-- The characters from one code to another, both included. -/
  | span (first last : Nat)
  | property (property : Property)
  | union (a b : CharSet)
  | intersection (a b : CharSet)
  | difference (a b : CharSet)
  | symmetricDifference (a b : CharSet)
  | complement (a : CharSet)
  /-- The characters that differ at most in case from one of the set, where only letters of ASCII
  may have case. -/
  | caseless (ascii : Bool) (a : CharSet)
deriving Repr

namespace CharSet

/-- Whether a set holds a character. -/
def holds : CharSet → Char → Bool
  | .none, _ => false
  | .span first last, c => first ≤ c.toNat && c.toNat ≤ last
  | .property p, c => p.holds c
  | .union a b, c => a.holds c || b.holds c
  | .intersection a b, c => a.holds c && b.holds c
  | .difference a b, c => a.holds c && !b.holds c
  | .symmetricDifference a b, c => a.holds c != b.holds c
  | .complement a, c => !a.holds c
  | .caseless ascii a, c =>
    a.holds c || if ascii then a.holds (otherAsciiCase c) else (Text.caseVariants c).any a.holds

/-- The code points of a set, in order; surrogates may be among them. -/
def spans : CharSet → List Text.Span
  | .none => []
  | .span first last => if first ≤ last then [⟨first, last⟩] else []
  | .property p => p.spans
  | .union a b => Text.Span.union a.spans b.spans
  | .intersection a b => Text.Span.intersection a.spans b.spans
  | .difference a b => Text.Span.difference a.spans b.spans
  | .symmetricDifference a b => Text.Span.symmetricDifference a.spans b.spans
  | .complement a => Text.Span.complement a.spans
  | .caseless ascii a => caseClosure ascii a.spans

/-- The set of one character. -/
def single (c : Char) : CharSet := .span c.toNat c.toNat

/-- The set of the characters of some spans. -/
def ofSpans (spans : List (Char × Char)) : CharSet :=
  spans.foldr (fun span set => .union (.span span.1.toNat span.2.toNat) set) .none

end CharSet

end RecordQuery.Regex
