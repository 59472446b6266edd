import RecordQuery.Error

/-! Patterns and the regular expressions they stand for. In a pattern of characters some letters
stand for a class and any other character for itself. In a pattern of words a known name in
brackets stands for a kind of word, and everything else for itself. -/

namespace RecordQuery.Pattern

/-- Characters that mean something in a regular expression. -/
def isMeta (c : Char) : Bool :=
  c ∈ ['\\', '.', '+', '*', '?', '(', ')', '|', '[', ']', '\x7b', '\x7d', '^', '$', '#', '&', '-',
    '~']

/-- The regular expression of a text that stands for itself. -/
def escape : List Char → List Char
  | [] => []
  | c :: rest => if isMeta c then '\\' :: c :: escape rest else c :: escape rest

/-- The hexadecimal escape of a character in a regular expression. -/
def codeText (digits : String) : String := "\\x\x7b" ++ digits ++ "\x7d"

/-- The class of the characters from one code to another, both in hexadecimal digits. -/
def codeRange (first last : String) : String :=
  "[" ++ codeText first ++ "-" ++ codeText last ++ "]"

/-- A choice between regular expressions. -/
def choice (parts : List String) : String := "(" ++ Text.joined "|" parts ++ ")"

/-- Small Latin letters, of full width too. -/
def lowerLatin : String :=
  choice [codeRange "61" "7a", codeRange "DF" "F6", codeRange "F8" "FF", codeRange "FF41" "FF5A"]

/-- Capital Latin letters, of full width too. -/
def upperLatin : String :=
  choice [codeRange "41" "5A", codeRange "C0" "D6", codeRange "D8" "DE", codeRange "FF21" "FF3A"]

/-- Digits, of full width too. -/
def digit : String := choice [codeRange "30" "39", codeRange "FF10" "FF19"]

/-- Hiragana. -/
def hiragana : String :=
  choice [codeRange "3041" "3096", codeText "309D", codeText "309E", codeText "30FC"]

/-- Katakana of half width. -/
def halfKatakana : String := choice [codeRange "FF66" "FF9D"]

/-- Katakana of full width. -/
def fullKatakana : String :=
  choice [codeRange "30A1" "30FA", codeText "30FD", codeText "30FE", codeRange "31F0" "31FF",
    codeText "30FC"]

/-- Katakana of either width. -/
def katakana : String :=
  choice [codeRange "FF66" "FF9D", codeRange "30A1" "30FA", codeText "30FD", codeText "30FE",
    codeRange "31F0" "31FF", codeText "30FC"]

/-- A property of characters in a regular expression. -/
def property (name : String) : String := "\\p\x7b" ++ name ++ "\x7d"

/-- Ideograms. -/
def ideogram : String := "[" ++ property "Han" ++ "]"

/-- Hangul syllables. -/
def hangul : String := choice [codeRange "AC00" "D7AF"]

/-- The class that a character stands for in a pattern of characters. -/
def characterClass? (c : Char) : Option String :=
  if c = 'a' then some lowerLatin
  else if c = 'A' then some upperLatin
  else if c = '9' then some digit
  else if c = 'h' then some hiragana
  else if c = 'k' then some halfKatakana
  else if c = 'K' then some fullKatakana
  else if c = 'C' then some ideogram
  else if c = 'G' then some hangul
  else none

/-- The regular expression of `count` characters of one kind. -/
def repeated (c : Char) (count : Nat) : String :=
  match characterClass? c with
  | some text => if count = 1 then text else text ++ "\x7b" ++ Nat.repr count ++ "\x7d"
  | none => String.join (List.replicate count (String.ofList (escape [c])))

/-- A text as its runs of equal characters. -/
def runs : List Char → List (Char × Nat)
  | [] => []
  | c :: rest =>
    match runs rest with
    | (d, count) :: others =>
      if c = d then (d, count + 1) :: others else (c, 1) :: (d, count) :: others
    | [] => [(c, 1)]

/-- The regular expression of a pattern of characters. -/
def ofCharacters (pattern : String) : String :=
  "^" ++ String.join ((runs pattern.toList).map fun run => repeated run.1 run.2) ++ "$"

/-- The kind of word that a name in brackets stands for. -/
def wordClass? (name : String) : Option String :=
  let two := "\x7b2,\x7d"
  if name = "word" then some ("[" ++ property "Ll" ++ "]" ++ two)
  else if name = "Word" then some (property "Lu" ++ "[" ++ property "Ll" ++ "]\x7b1,\x7d")
  else if name = "digit" || name = "Number" then some ("[" ++ property "Nd" ++ "]")
  else if name = "char" then some ("[" ++ property "Ll" ++ "]")
  else if name = "Char" then some ("[" ++ property "Lu" ++ "]")
  else if name = "alnum" then
    some ("[" ++ property "Nd" ++ "|" ++ property "Lu" ++ property "Ll" ++ "]" ++ two)
  else if name = "Ideogram" then some ideogram
  else if name = "IdeogramSeq" then some (ideogram ++ two)
  else if name = "hira" then some hiragana
  else if name = "hiraSeq" then some (hiragana ++ two)
  else if name = "kata" then some katakana
  else if name = "kataSeq" then some (katakana ++ two)
  else if name = "hangul" then some hangul
  else if name = "hangulSeq" then some (hangul ++ two)
  else none

/-- A part of a pattern of words: text, or the name in a pair of brackets. -/
inductive Piece where
  | text (chars : List Char)
  | bracket (name : List Char)
deriving DecidableEq, Repr

/-- The regular expression of a part; a name that is not known stands for itself in brackets. -/
def Piece.regex : Piece → String
  | .text chars => String.ofList (escape chars)
  | .bracket name =>
    match wordClass? (String.ofList name) with
    | some known => known
    | none => String.ofList (escape ('[' :: name ++ [']']))

/-- Splits a pattern of words from the left into text and bracketed names, or gives the place of the
first bracket that no bracket closes; `index` characters came before. -/
def pieces (index : Nat) (chars : List Char) : Except Nat (List Piece) :=
  let text := chars.takeWhile (· != '[')
  match _h : chars.dropWhile (· != '[') with
  | [] => .ok [.text text]
  | _ :: after =>
    let name := after.takeWhile (· != ']')
    match _h' : after.dropWhile (· != ']') with
    | [] => .error (index + text.length)
    | _ :: rest =>
      match pieces (index + text.length + name.length + 2) rest with
      | .error place => .error place
      | .ok more => .ok (.text text :: .bracket name :: more)
termination_by chars.length
decreasing_by
  have h1 := (List.dropWhile_suffix (l := chars) (· != '[')).length_le
  have h2 := (List.dropWhile_suffix (l := after) (· != ']')).length_le
  rw [_h] at h1
  rw [_h'] at h2
  simp only [List.length_cons] at h1 h2
  omega

/-- The regular expression of a pattern of words. -/
def ofWords (pattern : String) : Except Error String :=
  match pieces 0 pattern.toList with
  | .error index => .error (.unclosedBracket index pattern)
  | .ok parts => .ok ("^" ++ String.join (parts.map Piece.regex) ++ "$")

/-- The regular expression of a pattern. -/
def regex (kind : PatternKind) (pattern : String) : Except Error String :=
  match kind with
  | .character => .ok (ofCharacters pattern)
  | .word => ofWords pattern

end RecordQuery.Pattern
