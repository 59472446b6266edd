import RecordQuery.Regex.Program

/-! Limits on regular expressions: how deep their parts may nest, how often a repetition may ask for
its part, and how much room the program may take that a regular expression stands for. -/

namespace RecordQuery.Regex

/-- Something and how deep the parts of it nest. -/
structure Nested (α : Type) where
  value : α
  depth : Nat

/-- Several things made one. Two or more of them are one level deeper than each. -/
def Nested.all {α : Type} (make : List α → α) (parts : List (Nested α)) : Nested α :=
  let deepest := (parts.map Nested.depth).foldl max 0
  ⟨make (parts.map Nested.value), if 1 < parts.length then deepest + 1 else deepest⟩

/-- Whether no repetition asks for its part more than so many times. -/
def countsWithin (limit : Nat) : Regex → Bool
  | .empty | .among _ | .look _ => true
  | .sequence a b | .choice a b => a.countsWithin limit && b.countsWithin limit
  | .times inner least most _ =>
    least ≤ limit && most.all (· ≤ limit) && inner.countsWithin limit
  | .group inner | .capture _ inner => inner.countsWithin limit

/-- How deep a regular expression may nest, how often its repetitions may ask for their parts, and
how many bytes its program may take; a limit that is missing is not checked. -/
structure Limits where
  nesting : Option Nat
  count : Option Nat
  bytes : Option Nat
deriving DecidableEq, Repr

namespace Limits

/-- The limits that hold where no others are asked for. -/
def standard : Limits := ⟨some 250, some 4294967295, some 10485760⟩

/-- No limits. -/
def unlimited : Limits := ⟨none, none, none⟩

/-- Whether a regular expression keeps to limits. -/
def allow (limits : Limits) (regex : Nested Regex) : Bool :=
  limits.nesting.all (regex.depth ≤ ·) && limits.count.all (countsWithin · regex.value) &&
    limits.bytes.all regex.value.programFits

end Limits

end RecordQuery.Regex
