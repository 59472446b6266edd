import RecordQuery.Regex.Basic
import RecordQuery.Text.Utf8

/-! Normal forms. Before a regular expression becomes a program it is made simpler: characters in a
row become one text, choices between characters become sets, choices that begin alike share their
beginning, and repetitions that change nothing go away. -/

namespace RecordQuery.Regex

/-- A regular expression in normal form. -/
inductive Normal where
  | empty
  /-- The bytes of characters in a row, at least one of them. -/
  | literal (bytes : List Nat)
  /-- The characters of a set that does not hold exactly one, in order. -/
  | among (chars : List Text.Span)
  | look (assertion : Assertion)
  | times (inner : Normal) (least : Nat) (most : Option Nat) (greedy : Bool)
  | capture (inner : Normal)
  | sequence (parts : List Normal)
  | choice (parts : List Normal)

namespace Normal

mutual

/-- Whether two normal forms are the same. No two captures are, as each is remembered for itself. -/
def same : Normal → Normal → Bool
  | .empty, .empty => true
  | .literal a, .literal b => a == b
  | .among a, .among b => a == b
  | .look a, .look b => a == b
  | .times a least most greedy, .times b least' most' greedy' =>
    same a b && least == least' && most == most' && greedy == greedy'
  | .sequence a, .sequence b => allSame a b
  | .choice a, .choice b => allSame a b
  | _, _ => false
termination_by structural normal => normal

/-- Whether the normal forms of two lists are the same one by one. -/
def allSame : List Normal → List Normal → Bool
  | [], [] => true
  | a :: as, b :: bs => same a b && allSame as bs
  | _, _ => false
termination_by structural normals => normals

end

mutual

/-- The fewest bytes that a match takes; unknown where nothing matches. -/
def fewest? : Normal → Option Nat
  | .empty | .look _ => some 0
  | .literal bytes => some bytes.length
  | .among chars => chars.head?.map fun span => (Text.Utf8.bytes span.first).length
  | .times inner least _ _ => (fewest? inner).map (· * least)
  | .capture inner => fewest? inner
  | .sequence parts => (fewestOfAll? parts).map fun counts => counts.foldl (· + ·) 0
  | .choice parts => (fewestOfAll? parts).bind List.min?
termination_by structural normal => normal

/-- The fewest bytes of each of several parts. -/
def fewestOfAll? : List Normal → Option (List Nat)
  | [] => some []
  | part :: parts => (fewest? part).bind fun count => (fewestOfAll? parts).map (count :: ·)
termination_by structural normals => normals

end

mutual

/-- Whether every match is of no bytes and this is known. -/
def takesNothing : Normal → Bool
  | .empty | .look _ => true
  | .literal _ | .among _ => false
  | .times inner _ most _ => takesNothing inner && most.isSome
  | .capture inner => takesNothing inner
  | .sequence parts => allTakeNothing parts
  | .choice parts => allTakeNothing parts
termination_by structural normal => normal

/-- Whether every match of each part is of no bytes. -/
def allTakeNothing : List Normal → Bool
  | [] => true
  | part :: parts => takesNothing part && allTakeNothing parts
termination_by structural normals => normals

end

mutual

/-- Whether a match must meet an assertion before it takes anything, or after if `backward`. -/
def mustMeet (assertion : Assertion) (backward : Bool) : Normal → Bool
  | .empty | .literal _ | .among _ => false
  | .look other => other == assertion
  | .times inner least _ _ => 0 < least && mustMeet assertion backward inner
  | .capture inner => mustMeet assertion backward inner
  | .sequence parts =>
    if backward then lastMustMeet assertion parts else firstMustMeet assertion parts
  | .choice parts => allMustMeet assertion backward parts
termination_by structural normal => normal

/-- Whether the first part that takes anything, or one before it, must meet an assertion. -/
def firstMustMeet (assertion : Assertion) : List Normal → Bool
  | [] => false
  | part :: parts =>
    mustMeet assertion false part || (takesNothing part && firstMustMeet assertion parts)
termination_by structural normals => normals

/-- Whether the last part that takes anything, or one after it, must meet an assertion. -/
def lastMustMeet (assertion : Assertion) : List Normal → Bool
  | [] => false
  | part :: parts =>
    lastMustMeet assertion parts || (allTakeNothing parts && mustMeet assertion true part)
termination_by structural normals => normals

/-- Whether each part must meet an assertion. -/
def allMustMeet (assertion : Assertion) (backward : Bool) : List Normal → Bool
  | [] => true
  | part :: parts =>
    mustMeet assertion backward part && allMustMeet assertion backward parts
termination_by structural normals => normals

end

/-- The characters of a list in order: one alone is a text. -/
def ofSpans (spans : List Text.Span) : Normal :=
  match spans with
  | [span] => if span.first = span.last then .literal (Text.Utf8.bytes span.first) else .among spans
  | _ => .among spans

/-- A repetition. What takes nothing is not repeated. -/
def timesOf (inner : Normal) (least : Nat) (most : Option Nat) (greedy : Bool) : Normal :=
  let (least, most) :=
    if takesNothing inner then (min least 1, some (min (most.getD 1) 1)) else (least, most)
  if least = 0 ∧ most = some 0 then .empty
  else if least = 1 ∧ most = some 1 then inner
  else .times inner least most greedy

/-- A part before others; texts in a row become one. -/
def consPart (part : Normal) (parts : List Normal) : List Normal :=
  match part, parts with
  | .empty, parts => parts
  | .literal a, .literal b :: parts => .literal (a ++ b) :: parts
  | part, parts => part :: parts

/-- The parts of a sequence, where sequences in it do not count. -/
def sequenceParts (parts : List Normal) : List Normal :=
  parts.foldr
    (fun part parts =>
      match part, parts with
      | .sequence inner, [] => inner
      | .sequence inner, parts => inner.foldr consPart parts
      | part, parts => consPart part parts)
    []

/-- Parts one after another. -/
def sequenceOf (parts : List Normal) : Normal :=
  match sequenceParts parts with
  | [] => .empty
  | [part] => part
  | parts => .sequence parts

/-- The parts of a choice, where choices in it do not count. -/
def choiceParts (parts : List Normal) : List Normal :=
  parts.flatMap fun part =>
    match part with
    | .choice inner => inner
    | part => [part]

/-- The code point of a text of one character. -/
def singleCode? : Normal → Option Nat
  | .literal [a] => some a
  | .literal [a, b] =>
    if a < 0xC0 then none
    else if a < 0xE0 then some ((a - 0xC0) * 64 + (b - 0x80))
    else none
  | .literal [a, b, c] =>
    if a < 0xE0 then none
    else if a < 0xF0 then some (((a - 0xE0) * 64 + (b - 0x80)) * 64 + (c - 0x80))
    else none
  | .literal [a, b, c, d] =>
    if a < 0xF0 then none
    else some ((((a - 0xF0) * 64 + (b - 0x80)) * 64 + (c - 0x80)) * 64 + (d - 0x80))
  | _ => none

/-- The set of a normal form that is one. -/
def set? : Normal → Option (List Text.Span)
  | .among chars => some chars
  | _ => none

/-- The set that a choice between parts comes to, if all are texts of one character or all are
sets. -/
def setOf? (parts : List Normal) : Option (List Text.Span) :=
  let singles? := (parts.mapM singleCode?).map fun codes =>
    codes.map fun code => Text.Span.mk code code
  (singles?.or ((parts.mapM set?).map List.flatten)).map Text.Span.unionAll

/-- A choice between parts that do not share their beginnings. -/
def plainChoice (parts : List Normal) : Normal :=
  match choiceParts parts with
  | [] => .among []
  | [part] => part
  | parts =>
    match setOf? parts with
    | some spans => ofSpans spans
    | none => .choice parts

/-- The parts that two sequences begin with alike. -/
def shared : List Normal → List Normal → List Normal
  | a :: as, b :: bs => if same a b then a :: shared as bs else []
  | _, _ => []

/-- The parts of a normal form that is a sequence. -/
def parts? : Normal → Option (List Normal)
  | .sequence parts => some parts
  | _ => none

/-- The parts that all of several sequences begin with alike, if all are sequences and there are
such parts, and what is behind them in each. -/
def beginning? (parts : List Normal) : Option (List Normal × List (List Normal)) :=
  match parts.mapM parts? with
  | some (first :: sequences) =>
    let start := sequences.foldl shared first
    if start.isEmpty then none
    else some (start, (first :: sequences).map (·.drop start.length))
  | _ => none

/-- A choice between parts. -/
def choiceOf : List Normal → Normal
  | [part] => part
  | parts =>
    match plainChoice parts with
    | .choice parts =>
      match beginning? parts with
      | some (start, rests) => sequenceOf (start ++ [plainChoice (rests.map sequenceOf)])
      | none => .choice parts
    | normal => normal

end Normal

/-- The normal forms of the alternatives of a regular expression. -/
def alternatives : Regex → List Normal
  | .empty => [.empty]
  | .among chars => [Normal.ofSpans (Text.Span.characters chars.spans)]
  | .look assertion => [.look assertion]
  | .sequence a b =>
    [Normal.sequenceOf [Normal.choiceOf (alternatives a), Normal.choiceOf (alternatives b)]]
  | .choice a b => Normal.choiceOf (alternatives a) :: alternatives b
  | .times inner least most greedy =>
    [Normal.timesOf (Normal.choiceOf (alternatives inner)) least most greedy]
  | .group inner => [Normal.choiceOf (alternatives inner)]
  | .capture _ inner => [.capture (Normal.choiceOf (alternatives inner))]

/-- The normal form of a regular expression. -/
def normal (regex : Regex) : Normal :=
  Normal.choiceOf (alternatives regex)

end RecordQuery.Regex
