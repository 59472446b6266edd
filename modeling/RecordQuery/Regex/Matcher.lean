import RecordQuery.Number.Power
import RecordQuery.Regex.Basic

/-! Matching. A set of places in a text is a natural number whose bit `i` says whether the place
after `i` characters belongs to it. A regular expression maps the set of places where a match may
begin to the set of those where it may end, so that all ways to match are followed at once. -/

namespace RecordQuery.Regex

/-- The set of the places before characters that satisfy a test. -/
def placesBefore (test : Char → Bool) : List Char → Nat
  | [] => 0
  | c :: rest => 2 * placesBefore test rest + if test c then 1 else 0

/-- The set of the places of a text where an assertion holds; `before` is the character before the
text. -/
def placesOf (assertion : Assertion) (before : Option Char) : List Char → Nat
  | [] => if assertion.holds before none then 1 else 0
  | c :: rest =>
    2 * placesOf assertion (some c) rest + if assertion.holds before (some c) then 1 else 0

/-- A regular expression for one text, with the places where each part may read or stand. -/
inductive Moves where
  | stay
  /-- Reads a character, at the places given. -/
  | read (places : Nat)
  /-- Stays, at the places given. -/
  | only (places : Nat)
  | sequence (first second : Moves)
  | choice (first second : Moves)
  | times (inner : Moves) (least : Nat) (most : Option Nat)

/-- What a regular expression does in a text. -/
def movesIn (text : List Char) : Regex → Moves
  | .empty => .stay
  | .among chars => .read (placesBefore chars.holds text)
  | .look assertion => .only (placesOf assertion none text)
  | .sequence a b => .sequence (a.movesIn text) (b.movesIn text)
  | .choice a b => .choice (a.movesIn text) (b.movesIn text)
  | .times inner least most _ => .times (inner.movesIn text) least most
  | .group inner | .capture _ inner => inner.movesIn text

/-- The places after so many moves; moves that change nothing are not repeated. -/
def after (move : Nat → Nat) : (count : Nat) → Nat → Nat
  | 0, places => places
  | count + 1, places =>
    let next := move places
    if next = places then places else after move count next

/-- The places after at most so many moves. -/
def within (move : Nat → Nat) : (count : Nat) → Nat → Nat
  | 0, places => places
  | count + 1, places =>
    let next := places ||| move places
    if next = places then places else within move count next

namespace Moves

/-- The places where a match may end that begins at one of the given places of a text of `size`
characters. More than `size` further moves reach no place that fewer do not. -/
def run (size : Nat) : Moves → Nat → Nat
  | .stay, places => places
  | .read where_, places => (places &&& where_) <<< 1
  | .only where_, places => places &&& where_
  | .sequence a b, places => b.run size (a.run size places)
  | .choice a b, places => a.run size places ||| b.run size places
  | .times inner least most, places =>
    let reached := after (inner.run size) least places
    match most with
    | none => within (inner.run size) (size + 1) reached
    | some most => within (inner.run size) (most - least) reached

end Moves

/-- The places where a match may end that begins at one of the given places. -/
def run (regex : Regex) (text : List Char) (places : Nat) : Nat :=
  (regex.movesIn text).run text.length places

/-- Whether a regular expression matches some part of a text. -/
def matchesPart (regex : Regex) (text : List Char) : Bool :=
  regex.run text (twoTo (text.length + 1) - 1) != 0

end RecordQuery.Regex
