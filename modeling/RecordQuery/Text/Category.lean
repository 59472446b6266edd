/-! The general category of a character: one of thirty classes, with the usual two-letter names,
and those groups with a common first letter that names and visible texts go by. -/

namespace RecordQuery.Text

/-- General categories by their two-letter names: letters (upper, lower and title case, modifier,
other), marks, numbers, punctuation, symbols, separators, and the rest. -/
inductive Category where
  | lu | ll | lt | lm | lo
  | mn | mc | me
  | nd | nl | no
  | pc | pd | ps | pe | pi | pf | po
  | sm | sc | sk | so
  | zs | zl | zp
  | cc | cf | cs | co | cn
deriving DecidableEq, Repr, Inhabited

namespace Category

/-- Letters of any case. -/
def isLetter : Category → Bool
  | .lu | .ll | .lt | .lm | .lo => true
  | _ => false

/-- Decimal digits, letter numbers and other numbers. -/
def isNumber : Category → Bool
  | .nd | .nl | .no => true
  | _ => false

/-- Space, line and paragraph separators. -/
def isSeparator : Category → Bool
  | .zs | .zl | .zp => true
  | _ => false

/-- Control and format characters, surrogates, private use and unassigned code points. -/
def isOther : Category → Bool
  | .cc | .cf | .cs | .co | .cn => true
  | _ => false

end Category

end RecordQuery.Text
