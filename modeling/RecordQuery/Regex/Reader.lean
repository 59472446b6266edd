import RecordQuery.Json.Reader
import RecordQuery.Regex.Limits
import RecordQuery.Regex.Property

/-! Reading regular expressions. A reader takes what it reads off the front of the characters, or
gives nothing if they are not well formed. There is no look-around and there are no back
references. With what it reads a reader gives how deep the parts of it nest, since there is a limit
on that. -/

namespace RecordQuery.Regex

/-- What the flags say at some place of a regular expression. -/
structure Flags where
  caseless : Bool
  multiLine : Bool
  dotAll : Bool
  swapGreed : Bool
  unicode : Bool
  crlf : Bool
  /-- White space and comments are skipped. -/
  spaced : Bool
deriving DecidableEq, Repr

/-- The flags that hold at first. -/
def Flags.initial : Flags := ⟨false, false, false, false, true, false, false⟩

/-- The flags after one is turned on or off by its letter. -/
def Flags.put? (flags : Flags) (letter : Char) (on : Bool) : Option Flags :=
  if letter = 'i' then some { flags with caseless := on }
  else if letter = 'm' then some { flags with multiLine := on }
  else if letter = 's' then some { flags with dotAll := on }
  else if letter = 'U' then some { flags with swapGreed := on }
  else if letter = 'u' then some { flags with unicode := on }
  else if letter = 'R' then some { flags with crlf := on }
  else if letter = 'x' then some { flags with spaced := on }
  else none

/-- The characters past white space and comments, which run to the end of their line. -/
def skipSpaced (inComment : Bool) : List Char → List Char
  | [] => []
  | c :: rest =>
    if inComment then skipSpaced (c != '\n') rest
    else if Text.isBlank c then skipSpaced false rest
    else if c = '#' then skipSpaced true rest
    else c :: rest

/-- The characters past what the flags say to skip. -/
def skip (flags : Flags) (chars : List Char) : List Char :=
  if flags.spaced then skipSpaced false chars else chars

/-- What one character or one escape stands for. -/
inductive Atom where
  | char (c : Char)
  | among (chars : CharSet)
  | look (assertion : Assertion)

/-- A set in which case does not matter if the flags say so. -/
def foldedSet (flags : Flags) (set : CharSet) : CharSet :=
  if flags.caseless then .caseless (!flags.unicode) set else set

/-- The set of what is not in a set. Plain ASCII sets have none, since texts are Unicode. -/
def complementOf? (flags : Flags) (set : CharSet) : Option CharSet :=
  if flags.unicode then some (.complement set) else none

/-- A set or what is not in it. -/
def negatedIf? (flags : Flags) (negated : Bool) (set : CharSet) : Option CharSet :=
  if negated then complementOf? flags set else some set

/-- The digits of ASCII. -/
def asciiDigits : CharSet := .ofSpans [('0', '9')]

/-- The blanks of ASCII. -/
def asciiBlanks : CharSet := .ofSpans [('\t', '\r'), (' ', ' ')]

/-- The word characters of ASCII. -/
def asciiWords : CharSet := .ofSpans [('0', '9'), ('A', 'Z'), ('_', '_'), ('a', 'z')]

/-- The set of an escaped letter that stands for digits, blanks or word characters; a capital letter
stands for all others. -/
def letterSet? (flags : Flags) (letter : Char) : Option CharSet :=
  let set? : Option CharSet :=
    if letter.toLower = 'd' then
      some (if flags.unicode then .property (.ofCategories [.nd]) else asciiDigits)
    else if letter.toLower = 's' then some (if flags.unicode then .property .blank else asciiBlanks)
    else if letter.toLower = 'w' then some (if flags.unicode then .property .word else asciiWords)
    else none
  set?.bind (negatedIf? flags letter.isUpper)

/-- The sets of ASCII characters that have a name within brackets. -/
def asciiSet? (name : String) : Option CharSet :=
  if name = "alnum" then some (.ofSpans [('0', '9'), ('A', 'Z'), ('a', 'z')])
  else if name = "alpha" then some (.ofSpans [('A', 'Z'), ('a', 'z')])
  else if name = "ascii" then some (.span 0 0x7F)
  else if name = "blank" then some (.ofSpans [('\t', '\t'), (' ', ' ')])
  else if name = "cntrl" then some (.union (.span 0 0x1F) (.span 0x7F 0x7F))
  else if name = "digit" then some asciiDigits
  else if name = "graph" then some (.ofSpans [('!', '~')])
  else if name = "lower" then some (.ofSpans [('a', 'z')])
  else if name = "print" then some (.ofSpans [(' ', '~')])
  else if name = "punct" then some (.ofSpans [('!', '/'), (':', '@'), ('[', '\x60'), ('\x7b', '~')])
  else if name = "space" then some asciiBlanks
  else if name = "upper" then some (.ofSpans [('A', 'Z')])
  else if name = "word" then some asciiWords
  else if name = "xdigit" then some (.ofSpans [('0', '9'), ('A', 'F'), ('a', 'f')])
  else none

/-- The character of a code, if there is one. -/
def charOfCode? (code : Nat) : Option Char :=
  if code < 0xD800 ∨ (0xDFFF < code ∧ code < 0x110000) then some (Char.ofNat code) else none

/-- Reads `count` hexadecimal digits behind a number. -/
def hexFixed? (flags : Flags) : (count : Nat) → (value : Nat) → List Char →
    Option (Nat × List Char)
  | 0, value, chars => some (value, chars)
  | _ + 1, _, [] => none
  | count + 1, value, c :: rest =>
    (Json.hexValue? c).bind fun digit =>
      hexFixed? flags count (value * 16 + digit) (skip flags rest)

/-- Reads what stands before a closing brace, without what the flags say to skip. -/
def braced? (flags : Flags) (inComment : Bool) : List Char → Option (List Char × List Char)
  | [] => none
  | c :: rest =>
    if inComment then braced? flags (c != '\n') rest
    else if flags.spaced && Text.isBlank c then braced? flags false rest
    else if flags.spaced && c = '#' then braced? flags true rest
    else if c = '\x7d' then some ([], rest)
    else (braced? flags false rest).map fun (inside, rest) => (c :: inside, rest)

/-- The number of hexadecimal digits, at least one of them. -/
def hexNumber? (digits : List Char) : Option Nat :=
  if digits.isEmpty then none
  else (digits.mapM Json.hexValue?).map fun values =>
    values.foldl (fun value digit => value * 16 + digit) 0

/-- Reads the code of a character in braces or in so many digits. Two digits give one byte, and
without Unicode a byte is a character only in ASCII. -/
def hexCode? (flags : Flags) (digits : Nat) (chars : List Char) : Option (Char × List Char) :=
  let code? := match skip flags chars with
    | '\x7b' :: rest =>
      (braced? flags false rest).bind fun (digits, rest) =>
        (hexNumber? digits).map fun code => (code, skip flags rest)
    | chars =>
      (hexFixed? flags digits 0 chars).filter fun (code, _) =>
        flags.unicode || digits != 2 || code < 128
  code?.bind fun (code, rest) => (charOfCode? code).map fun c => (c, rest)

/-- The two parts of a name around the first place where `mark` stands in it. -/
def splitAt? (mark : List Char) : List Char → Option (List Char × List Char)
  | [] => none
  | c :: rest =>
    if mark.isPrefixOf (c :: rest) then some ([], (c :: rest).drop mark.length)
    else (splitAt? mark rest).map fun (before, behind) => (c :: before, behind)

/-- A property that is named alone, or with its kind before a colon, an equals sign or an unequals
sign, and whether characters are to lack it. -/
def propertyNamed? (name : List Char) : Option (Property × Bool) :=
  let valued := fun (parts : List Char × List Char) (lack : Bool) =>
    (Property.valued? (String.ofList parts.1) (String.ofList parts.2)).map fun found =>
      (found, lack)
  match splitAt? ['!', '='] name with
  | some parts => valued parts true
  | none =>
    match splitAt? [':'] name with
    | some parts => valued parts false
    | none =>
      match splitAt? ['='] name with
      | some parts => valued parts false
      | none => (Property.named? (String.ofList name)).map fun found => (found, false)

/-- Reads the name of a property, in braces or of one letter, and gives its set. -/
def property? (flags : Flags) (negated : Bool) (chars : List Char) :
    Option (CharSet × List Char) :=
  let name? := match skip flags chars with
    | [] => none
    | '\x7b' :: rest => braced? flags false rest
    | c :: rest => if c = '\\' then none else some ([c], skip flags rest)
  name?.bind fun (name, rest) =>
    if flags.unicode then
      (propertyNamed? name).map fun (found, lack) =>
        let set := foldedSet flags (.property found)
        (if negated != lack then .complement set else set, rest)
    else none

/-- Characters of the names of special word tests. -/
def isTestName (c : Char) : Bool :=
  c.isAlpha || c = '-'

/-- The special word test of a name. -/
def specialTest? (name : String) : Option WordTest :=
  if name = "start" then some .start
  else if name = "end" then some .finish
  else if name = "start-half" then some .startHalf
  else if name = "end-half" then some .finishHalf
  else none

/-- Reads what may follow the escape of a word boundary: the name of a special test in braces. A
brace before anything but a letter or a hyphen is left alone. -/
def wordTest? (flags : Flags) (chars : List Char) : Option (WordTest × List Char) :=
  match chars with
  | '\x7b' :: rest =>
    match skip flags rest with
    | [] => none
    | c :: more =>
      if isTestName c then
        (braced? flags false (c :: more)).bind fun (name, rest) =>
          (specialTest? (String.ofList name)).map fun test => (test, rest)
      else some (.boundary, chars)
  | _ => some (.boundary, chars)

/-- Characters that stand for themselves after a backslash: all of ASCII but letters, digits and
angle brackets. -/
def isEscapable (c : Char) : Bool :=
  c.toNat < 128 && !c.isAlphanum && c != '<' && c != '>'

/-- The character of an escaped letter that stands for a control character. -/
def controlOf? (letter : Char) : Option Char :=
  if letter = 'a' then some '\x07'
  else if letter = 'f' then some '\x0c'
  else if letter = 't' then some '\t'
  else if letter = 'n' then some '\n'
  else if letter = 'r' then some '\r'
  else if letter = 'v' then some '\x0b'
  else none

/-- Reads an escape after its backslash. -/
def escape? (flags : Flags) : List Char → Option (Atom × List Char)
  | [] => none
  | c :: rest =>
    let word := fun test => Atom.look (.word test (!flags.unicode))
    if c = 'x' then (hexCode? flags 2 rest).map fun (c, rest) => (.char c, rest)
    else if c = 'u' then (hexCode? flags 4 rest).map fun (c, rest) => (.char c, rest)
    else if c = 'U' then (hexCode? flags 8 rest).map fun (c, rest) => (.char c, rest)
    else if c = 'p' then (property? flags false rest).map fun (set, rest) => (.among set, rest)
    else if c = 'P' then (property? flags true rest).map fun (set, rest) => (.among set, rest)
    else if c.toLower = 'd' || c.toLower = 's' || c.toLower = 'w' then
      (letterSet? flags c).map fun set => (.among set, rest)
    else if isEscapable c then some (.char c, rest)
    else if c = 'A' then some (.look .textStart, rest)
    else if c = 'z' then some (.look .textEnd, rest)
    else if c = 'b' then (wordTest? flags rest).map fun (test, rest) => (word test, rest)
    else if c = 'B' then some (word .inside, rest)
    else if c = '<' then some (word .start, rest)
    else if c = '>' then some (word .finish, rest)
    else (controlOf? c).map fun c => (.char c, rest)

/-- The operators on sets within brackets. -/
inductive SetOperator where
  | intersection
  | difference
  | symmetricDifference

/-- The set that an operator makes of two, in which case does not matter if the flags say so. -/
def SetOperator.apply (operator : SetOperator) (flags : Flags) (a b : CharSet) : CharSet :=
  let a := foldedSet flags a
  let b := foldedSet flags b
  match operator with
  | .intersection => .intersection a b
  | .difference => .difference a b
  | .symmetricDifference => .symmetricDifference a b

/-- The set that an operator makes of two that nest some levels deep. -/
def SetOperator.join (operator : SetOperator) (flags : Flags) (a b : Nested CharSet) :
    Nested CharSet :=
  ⟨operator.apply flags a.value b.value, max a.depth b.depth + 1⟩

/-- What stands within brackets so far: the set of all items, how many they are, and how deep the
deepest of them nests. -/
structure ClassItems where
  set : CharSet
  count : Nat
  depth : Nat

namespace ClassItems

/-- No items. -/
def none : ClassItems := ⟨.none, 0, 0⟩

/-- The items with one more. -/
def push (items : ClassItems) (item : Nested CharSet) : ClassItems :=
  ⟨.union items.set item.value, items.count + 1, max items.depth item.depth⟩

/-- All items as one set. Two or more of them are one level deeper than each. -/
def whole (items : ClassItems) : Nested CharSet :=
  ⟨items.set, if 1 < items.count then items.depth + 1 else items.depth⟩

end ClassItems

/-- The set of all operators read so far and of the items behind the last of them. -/
def combined (flags : Flags) (pending : Option (SetOperator × Nested CharSet))
    (items : ClassItems) : Nested CharSet :=
  match pending with
  | none => items.whole
  | some (operator, left) => operator.join flags left items.whole

/-- Reads the name of a set of ASCII characters within brackets, after its opening bracket, and
whether its complement is meant. -/
def asciiName? : List Char → Option ((Bool × CharSet) × List Char)
  | ':' :: rest =>
    let (negated, rest) := match rest with
      | '^' :: rest => (true, rest)
      | rest => (false, rest)
    match rest.dropWhile (· != ':') with
    | ':' :: ']' :: behind =>
      (asciiSet? (String.ofList (rest.takeWhile (· != ':')))).map fun set =>
        ((negated, set), behind)
    | _ => none
  | _ => none

/-- Reads one character or escape within brackets. -/
def classAtom? (flags : Flags) : List Char → Option (Atom × List Char)
  | [] => none
  | '\\' :: rest => escape? flags rest
  | c :: rest => some (.char c, rest)

/-- Whether a character may stand within brackets: without Unicode only those of ASCII may. -/
def mayStand (flags : Flags) (c : Char) : Bool :=
  flags.unicode || c.toNat < 128

/-- The set of one character or escape within brackets, where nothing can be asked of a place. -/
def Atom.set? (flags : Flags) : Atom → Option CharSet
  | .char c => if mayStand flags c then some (.single c) else none
  | .among set => some set
  | .look _ => none

/-- Reads a range of characters or a single item within brackets. -/
def classRange? (flags : Flags) (chars : List Char) : Option (CharSet × List Char) :=
  (classAtom? flags chars).bind fun (first, rest) =>
    match skip flags rest with
    | [] => none
    | '-' :: rest =>
      match skip flags rest with
      | ']' :: _ | '-' :: _ => (first.set? flags).map fun set => (set, '-' :: rest)
      | [] => none
      | rest =>
        (classAtom? flags rest).bind fun (last, rest) =>
          match first, last with
          | .char a, .char b =>
            if a.toNat ≤ b.toNat ∧ mayStand flags a ∧ mayStand flags b then
              some (.span a.toNat b.toNat, rest)
            else none
          | _, _ => none
    | rest => (first.set? flags).map fun set => (set, rest)

/-- Reads the inside of brackets up to the closing one: items, sets in brackets, and operators,
which group to the left. -/
def classItems? (nested : List Char → Option (Nested CharSet × List Char)) (flags : Flags) :
    (fuel : Nat) → (pending : Option (SetOperator × Nested CharSet)) → ClassItems → List Char →
      Option (Nested CharSet × List Char)
  | 0, _, _, _ => none
  | fuel + 1, pending, items, chars =>
    let operator := fun operator rest =>
      classItems? nested flags fuel (some (operator, combined flags pending items)) .none rest
    let item := fun (found, rest) =>
      classItems? nested flags fuel pending (items.push found) rest
    match skip flags chars with
    | [] => none
    | ']' :: rest => some (combined flags pending items, rest)
    | '&' :: '&' :: rest => operator .intersection rest
    | '-' :: '-' :: rest => operator .difference rest
    | '~' :: '~' :: rest => operator .symmetricDifference rest
    | '[' :: rest =>
      match asciiName? rest with
      | some ((negated, set), rest) =>
        (negatedIf? flags negated (foldedSet flags set)).bind fun set => item (⟨set, 0⟩, rest)
      | none => (nested rest).bind item
    | chars => (classRange? flags chars).bind fun (set, rest) => item (⟨set, 0⟩, rest)

/-- The hyphens that a class begins with, and what follows them. -/
def leadingHyphens (flags : Flags) : (fuel : Nat) → ClassItems → List Char →
    ClassItems × List Char
  | 0, items, chars => (items, chars)
  | fuel + 1, items, chars =>
    match chars with
    | '-' :: rest =>
      leadingHyphens flags fuel (items.push ⟨.single '-', 0⟩) (skip flags rest)
    | chars => (items, chars)

/-- Reads a class after its opening bracket, classes nested up to so many levels. A closing bracket
in the first place stands for itself. -/
def class? (flags : Flags) (fuel : Nat) : (levels : Nat) → List Char →
    Option (Nested CharSet × List Char)
  | 0, _ => none
  | levels + 1, chars =>
    let (negated, inside) := match skip flags chars with
      | '^' :: rest => (true, skip flags rest)
      | rest => (false, rest)
    let (items, rest) := leadingHyphens flags fuel .none inside
    let (items, rest) := match items.count, rest with
      | 0, ']' :: rest => (items.push ⟨.single ']', 0⟩, skip flags rest)
      | _, rest => (items, rest)
    (classItems? (class? flags fuel levels) flags fuel none items rest).bind
      fun (found, rest) =>
        (negatedIf? flags negated (foldedSet flags found.value)).map fun set =>
          (⟨set, found.depth + 1⟩, rest)

/-- The decimal digits that a text begins with, without what the flags say to skip, and what is
behind them. -/
def leadingDigits (flags : Flags) (inComment : Bool) : List Char → List Char × List Char
  | [] => ([], [])
  | c :: rest =>
    if inComment then leadingDigits flags (c != '\n') rest
    else if flags.spaced && Text.isBlank c then leadingDigits flags false rest
    else if flags.spaced && c = '#' then leadingDigits flags true rest
    else if c.isDigit then
      let (more, rest) := leadingDigits flags false rest
      (c :: more, rest)
    else ([], c :: rest)

/-- Reads the count of a repetition, with blanks around it. -/
def count? (flags : Flags) (chars : List Char) : Option (Nat × List Char) :=
  let (digits, rest) := leadingDigits flags false (chars.dropWhile Text.isBlank)
  let rest := skip flags (rest.dropWhile Text.isBlank)
  if digits.isEmpty then none else some (digitsValue digits, rest)

/-- Reads the counts of a repetition after the opening brace, with the closing one. -/
def counts? (flags : Flags) (chars : List Char) : Option ((Nat × Option Nat) × List Char) :=
  (count? flags (skip flags chars)).bind fun (least, rest) =>
    match rest with
    | '\x7d' :: rest => some ((least, some least), rest)
    | ',' :: rest =>
      match skip flags rest with
      | '\x7d' :: rest => some ((least, none), rest)
      | rest =>
        (count? flags rest).bind fun (most, rest) =>
          match rest with
          | '\x7d' :: rest => if least ≤ most then some ((least, some most), rest) else none
          | _ => none
    | _ => none

/-- Whether a repetition is greedy, and what is behind the question mark that says otherwise. -/
def greed (flags : Flags) : List Char → Bool × List Char
  | '?' :: rest => (flags.swapGreed, rest)
  | rest => (!flags.swapGreed, rest)

/-- Reads the repetitions that follow an item. -/
def repetitions? (flags : Flags) : (fuel : Nat) → Nested Regex → List Char →
    Option (Nested Regex × List Char)
  | 0, _, _ => none
  | fuel + 1, item, chars =>
    let times := fun (least : Nat) (most : Option Nat) (rest : List Char) =>
      let (greedy, rest) := greed flags rest
      repetitions? flags fuel ⟨.times item.value least most greedy, item.depth + 1⟩ rest
    match skip flags chars with
    | '?' :: rest => times 0 (some 1) rest
    | '*' :: rest => times 0 none rest
    | '+' :: rest => times 1 none rest
    | '\x7b' :: rest =>
      (counts? flags rest).bind fun ((least, most), rest) => times least most (skip flags rest)
    | rest => some (item, rest)

/-- The regular expression of one character. Without Unicode only letters of ASCII can do without
case. -/
def literal? (flags : Flags) (c : Char) : Option Regex :=
  if flags.caseless ∧ !mayStand flags c then none
  else some (.among (foldedSet flags (.single c)))

/-- The regular expression of what one character or one escape stands for. -/
def ofAtom? (flags : Flags) : Atom → Option Regex
  | .char c => literal? flags c
  | .among set => some (.among set)
  | .look assertion => some (.look assertion)

/-- The set of what a dot stands for: every character, or all but those that end lines. -/
def dotSet? (flags : Flags) : Option CharSet :=
  complementOf? flags
    (if flags.dotAll then .none
    else if flags.crlf then .union (.single '\n') (.single '\r')
    else .single '\n')

/-- Reads one item that is neither a group nor repeated. -/
def item? (fuel levels : Nat) (flags : Flags) : List Char → Option (Nested Regex × List Char)
  | [] => none
  | '.' :: rest => (dotSet? flags).map fun set => (⟨.among set, 0⟩, rest)
  | '^' :: rest =>
    some (⟨.look (if flags.multiLine then .lineStart flags.crlf else .textStart), 0⟩, rest)
  | '$' :: rest =>
    some (⟨.look (if flags.multiLine then .lineEnd flags.crlf else .textEnd), 0⟩, rest)
  | '\\' :: rest =>
    (escape? flags rest).bind fun (atom, rest) =>
      (ofAtom? flags atom).map fun regex => (⟨regex, 0⟩, rest)
  | '[' :: rest =>
    (class? flags fuel levels rest).map fun (set, rest) => (⟨.among set.value, set.depth⟩, rest)
  | c :: rest =>
    if c = '?' || c = '*' || c = '+' || c = '\x7b' then none
    else (literal? flags c).map fun regex => (⟨regex, 0⟩, rest)

/-- Whether a character may stand in the name of a group. -/
def isGroupName (isFirst : Bool) (c : Char) : Bool :=
  c = '_' || (!isFirst && (c = '.' || c = '[' || c = ']')) || Text.isAlphabetic c ||
    (!isFirst && Text.isAlphanumeric c)

/-- Reads the name of a group up to its closing angle bracket. -/
def groupName? (chars : List Char) : Option (String × List Char) :=
  let name := chars.takeWhile (· != '>')
  match name, chars.dropWhile (· != '>') with
  | first :: more, _ :: rest =>
    if isGroupName true first && more.all (isGroupName false) then
      some (String.ofList name, rest)
    else none
  | _, _ => none

/-- Reads the letters of flags, none of them twice; those after a hyphen are turned off, and the
hyphen is not the last. -/
def putFlags? (on : Bool) (seen : List Char) (flags : Flags) : List Char → Option Flags
  | [] => some flags
  | c :: rest =>
    if seen.contains c then none
    else if c = '-' then if rest.isEmpty then none else putFlags? false (c :: seen) flags rest
    else (flags.put? c on).bind fun flags => putFlags? on (c :: seen) flags rest

/-- What an opening parenthesis begins. -/
inductive Opening where
  /-- A group that is not remembered, and the flags in it. -/
  | group (flags : Flags)
  /-- A group that is remembered, perhaps under a name. -/
  | capture (name : Option String)
  /-- New flags for the rest of the group around them. -/
  | flags (flags : Flags)

/-- Reads what follows an opening parenthesis up to the inside of a group. -/
def opening? (flags : Flags) (chars : List Char) : Option (Opening × List Char) :=
  match skip flags chars with
  | '?' :: 'P' :: '<' :: rest =>
    (groupName? rest).map fun (name, rest) => (.capture (some name), rest)
  | '?' :: '<' :: rest =>
    (groupName? rest).map fun (name, rest) => (.capture (some name), rest)
  | '?' :: rest =>
    let isEnd := fun c => c = ':' || c = ')'
    let letters := rest.takeWhile (!isEnd ·)
    match rest.dropWhile (!isEnd ·) with
    | ':' :: behind =>
      (putFlags? true [] flags letters).map fun flags => (.group flags, behind)
    | _ :: behind =>
      if letters.isEmpty then none
      else (putFlags? true [] flags letters).map fun flags => (.flags flags, behind)
    | [] => none
  | rest => some (.capture none, rest)

/-- Parts one after another. -/
def sequenceOf : List Regex → Regex
  | [] => .empty
  | [part] => part
  | part :: next :: parts => .sequence part (sequenceOf (next :: parts))

/-- A choice between parts. -/
def choiceOf : List Regex → Regex
  | [] => .empty
  | [part] => part
  | part :: next :: parts => .choice part (choiceOf (next :: parts))

/-- Reads items one after another up to a bar, a closing parenthesis or the end, and gives the flags
that hold there. New flags are items too. -/
def items? (levels : Nat) (nested : Flags → List Char → Option (Nested Regex × List Char)) :
    (fuel : Nat) → Flags → List Char → Option (List (Nested Regex) × Flags × List Char)
  | 0, _, _ => none
  | fuel + 1, flags, chars =>
    let further := fun item flags rest =>
      (items? levels nested fuel flags rest).map fun (items, found) => (item :: items, found)
    let repeated := fun (item, rest) =>
      (repetitions? flags (fuel + 1) item rest).bind fun (item, rest) =>
        further item flags rest
    let inside := fun (flags : Flags) (make : Regex → Regex) (rest : List Char) =>
      (nested flags rest).bind fun (found, rest) =>
        match rest with
        | ')' :: rest => repeated (⟨make found.value, found.depth + 1⟩, rest)
        | _ => none
    match skip flags chars with
    | [] => some ([], flags, [])
    | '|' :: rest => some ([], flags, '|' :: rest)
    | ')' :: rest => some ([], flags, ')' :: rest)
    | '(' :: rest =>
      (opening? flags rest).bind fun (opening, rest) =>
        match opening with
        | .flags flags => further ⟨.empty, 0⟩ flags rest
        | .group flags => inside flags .group rest
        | .capture name => inside flags (.capture name) rest
    | chars => (item? (fuel + 1) levels flags chars).bind repeated

/-- Reads alternatives up to a closing parenthesis or the end. Flags that one alternative sets hold
in those after it. -/
def alternatives? (levels : Nat)
    (nested : Flags → List Char → Option (Nested Regex × List Char)) :
    (fuel : Nat) → Flags → List Char → Option (List (Nested Regex) × List Char)
  | 0, _, _ => none
  | fuel + 1, flags, chars =>
    (items? levels nested (fuel + 1) flags chars).bind fun (items, flags, rest) =>
      let first := Nested.all sequenceOf items
      match rest with
      | '|' :: rest =>
        (alternatives? levels nested fuel flags rest).map fun (more, rest) => (first :: more, rest)
      | rest => some ([first], rest)

/-- Reads a regular expression up to a closing parenthesis or the end, groups and classes nested in
it up to so many levels. There is fuel for texts shorter than it. -/
def regex? (fuel : Nat) : (levels : Nat) → Flags → List Char →
    Option (Nested Regex × List Char)
  | 0, _, _ => none
  | levels + 1, flags, chars =>
    (alternatives? (levels + 1) (regex? fuel levels) fuel flags chars).map
      fun (parts, rest) => (Nested.all choiceOf parts, rest)

/-- The regular expression of a text, if it is well formed, names no two groups alike and keeps to
limits. Groups and classes nest no deeper than the text is long. -/
def compile? (limits : Limits) (text : String) : Option Regex :=
  let length := text.toList.length
  match regex? (length + 1) (limits.nesting.getD length + 1) .initial text.toList with
  | some (found, []) =>
    if found.value.names.Nodup && limits.allow found then some found.value else none
  | _ => none

/-- The regular expression for whole texts. Its text is put between anchors before it is read, so
parentheses in it may close and open groups around it. -/
def compileWhole? (limits : Limits) (text : String) : Option Regex :=
  compile? limits ("^(?:" ++ text ++ ")$")

end RecordQuery.Regex
