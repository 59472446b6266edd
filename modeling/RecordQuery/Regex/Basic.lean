import RecordQuery.Regex.CharSet

/-! Regular expressions and what they are made of. -/

namespace RecordQuery.Regex

/-- What a place asks of the words before and after it. -/
inductive WordTest where
  | boundary
  | inside
  | start
  | finish
  | startHalf
  | finishHalf
deriving DecidableEq, Repr

/-- What a regular expression may ask of a place without reading a character. Lines end before a
line feed, and with `crlf` also before a carriage return, the two together counting once. -/
inductive Assertion where
  | textStart
  | textEnd
  | lineStart (crlf : Bool)
  | lineEnd (crlf : Bool)
  | word (test : WordTest) (ascii : Bool)
deriving DecidableEq, Repr

end Regex

/-- A regular expression. -/
inductive Regex where
  | empty
  | among (chars : Regex.CharSet)
  | look (assertion : Regex.Assertion)
  | sequence (first second : Regex)
  | choice (first second : Regex)
  /-- At least `least` times and, if there is a limit, at most `most` times; where there is a choice
  a greedy repetition prefers more. -/
  | times (inner : Regex) (least : Nat) (most : Option Nat) (greedy : Bool)
  /-- A group that only holds together what is in it. -/
  | group (inner : Regex)
  /-- A group whose match is remembered, perhaps under a name. -/
  | capture (name : Option String) (inner : Regex)
deriving Repr

namespace Regex

/-- The characters of words of plain ASCII texts. -/
def isAsciiWord (c : Char) : Bool :=
  c.isAlphanum || c = '_'

/-- Whether a place between two characters, either of which may be missing, meets a test. -/
def WordTest.holds (test : WordTest) (before after : Bool) : Bool :=
  match test with
  | .boundary => before != after
  | .inside => before == after
  | .start => !before && after
  | .finish => before && !after
  | .startHalf => !before
  | .finishHalf => !after

/-- Whether an assertion holds between two characters, either of which may be missing. -/
def Assertion.holds (assertion : Assertion) (before after : Option Char) : Bool :=
  match assertion with
  | .textStart => before.isNone
  | .textEnd => after.isNone
  | .lineStart crlf =>
    before.isNone || before == some '\n' || (crlf && before == some '\r' && after != some '\n')
  | .lineEnd crlf =>
    after.isNone || (crlf && after == some '\r') ||
      (after == some '\n' && !(crlf && before == some '\r'))
  | .word test ascii =>
    let isWord := if ascii then isAsciiWord else Property.word.holds
    test.holds (before.any isWord) (after.any isWord)

/-- The names of the groups of a regular expression. -/
def names : Regex → List String
  | .empty | .among _ | .look _ => []
  | .sequence a b | .choice a b => a.names ++ b.names
  | .times inner _ _ _ | .group inner => inner.names
  | .capture name inner => name.toList ++ inner.names

end Regex

end RecordQuery
