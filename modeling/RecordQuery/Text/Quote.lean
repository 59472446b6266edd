/-! Quoted texts. A writer puts a backslash before each quote and changes nothing else. A reader
takes a backslash together with the character after it: before the quote it stands for the quote
alone, before any other character both are kept. So a text is read back as it was written exactly
when it is `sound`. -/

namespace RecordQuery.Text

/-- The characters between the quotes of a written text: each `quote` gets a backslash. -/
def escapeQuote (quote : Char) : List Char → List Char
  | [] => []
  | c :: rest =>
    if c = quote then '\\' :: quote :: escapeQuote quote rest else c :: escapeQuote quote rest

/-- The text between single quotes. -/
def quoted (text : String) : String :=
  "'" ++ String.ofList (escapeQuote '\'' text.toList) ++ "'"

/-- Where a quoted text that is not closed breaks off. -/
inductive Unclosed where
  | atEnd
  | afterBackslash
deriving DecidableEq, Repr

/-- Reads up to the first `quote` that no backslash escapes: the text, and what follows the
quote. -/
def readQuoted (quote : Char) : List Char → Except Unclosed (List Char × List Char)
  | [] => .error .atEnd
  | ['\\'] => .error .afterBackslash
  | '\\' :: c :: rest =>
    match readQuoted quote rest with
    | .error e => .error e
    | .ok (text, after) =>
      .ok (if c = quote then c :: text else '\\' :: c :: text, after)
  | c :: rest =>
    if c = quote then .ok ([], rest)
    else match readQuoted quote rest with
      | .error e => .error e
      | .ok (text, after) => .ok (c :: text, after)

/-- Whether every backslash, taken from the left together with the character after it, is followed
by a character other than `quote`. -/
def sound (quote : Char) : List Char → Bool
  | [] => true
  | ['\\'] => false
  | '\\' :: c :: rest => c != quote && sound quote rest
  | _ :: rest => sound quote rest

end RecordQuery.Text
