import Std.Data.HashMap
import RecordQuery.Regex.Draft
import RecordQuery.Text.Utf8

/-! The states of a program that read one character of a set. A program reads bytes, so a set comes
to sequences of spans of bytes, which share states where they can. -/

namespace RecordQuery.Regex.Build

/-- States that were added for some words, to be used again. It has a limited number of slots, in
each of which a new entry takes the place of the one before. -/
structure Reused where
  slots : Nat
  entries : Std.HashMap Nat (List Nat × Nat)

namespace Reused

/-- Nothing to be used again, in a table of so many slots. -/
def empty (slots : Nat) : Reused := ⟨slots, ∅⟩

/-- The slot of some words: their hash, which mixes them one by one by exclusive or and
multiplication, by the number of slots. -/
def slot (reused : Reused) (words : List Nat) : Nat :=
  let hash := words.foldl
    (fun hash word => (hash ^^^ UInt64.ofNat word) * 1099511628211) (14695981039346656037 : UInt64)
  hash.toNat % reused.slots

end Reused

/-- Gives the state that was added for some words, or adds one that takes so many bytes more than
every state does. -/
def reuse (words : List Nat) (bytes : Nat) : StateT Reused Build Nat := fun reused => do
  let slot := reused.slot words
  let fresh : Build (Nat × Reused) := do
    let number ← state bytes
    return (number, { reused with entries := reused.entries.insert slot (words, number) })
  match reused.entries[slot]? with
  | some (known, number) => if known = words then return (number, reused) else fresh
  | none => fresh

/-- Adds the states that read one of several sequences of spans of bytes, in rising order, and then
go on to `target`. Sequences that begin alike share their beginnings; states that read the same and
go on to the same states are one. -/
def forwardSet (target : Nat) : (length : Nat) → List (List Text.Span) → StateT Reused Build Nat
  | 0, _ => pure target
  | length + 1, sequences =>
    if sequences = [[]] then pure target
    else do
      let groups := sequences.splitBy fun a b => a.head? == b.head?
      let ways ← groups.mapM fun group => do
        let next ← forwardSet target length (group.map List.tail)
        match group with
        | (span :: _) :: _ => return [span.first, span.last, next]
        | _ => return []
      reuse ways.flatten (spanSize * ways.length)

/-- Adds the states that read sequences of spans of bytes from their ends and then go on to
`target`. Sequences that begin alike share the states that read their beginnings. -/
def backwardSet (target : Nat) (sequences : List (List Text.Span)) : StateT Reused Build Unit := do
  for sequence in sequences do
    let mut next := target
    for span in sequence do
      next ← reuse [next, span.first, span.last] 0
    StateT.lift (spend wayOutSize)

/-- How many states may be used again when a program reads forward. -/
def forwardSlots : Nat := 10000

/-- How many states may be used again when a program reads backward. -/
def backwardSlots : Nat := 1000

/-- Adds the states that read one character of a set. -/
def among (backward : Bool) (chars : List Text.Span) : Build Bool := do
  if chars.all fun span => span.last < 0x80 then
    states 1
    let _ ← state (spanSize * chars.length)
  else
    let sequences := chars.flatMap Text.Utf8.sequences
    if backward then
      states 1
      let target ← state 0
      let _ ← (backwardSet target sequences).run (.empty backwardSlots)
    else
      let target ← state 0
      let _ ← (forwardSet target 4 sequences).run (.empty forwardSlots)
  return false

end RecordQuery.Regex.Build
