import RecordQuery.Lexeme

/-! Parsing of token streams. A parser steps through a stream with a cursor, which holds the current
token; the cursor outlives an error, so that parsing can go on behind it. When the token after the
current one is flawed, the cursor moves past the flaw and keeps its token. -/

namespace RecordQuery

/-- The current token and its place, and the stream after it. -/
structure Cursor (τ : Type) where
  current : τ
  position : Position
  stream : Stream τ

/-- A kind of token, with the one that stands for the end of the text and the name of each in
messages. -/
class TokenKind (τ : Type) where
  done : τ
  describe : τ → String

/-- A cursor on the first token of a stream. -/
def Cursor.start {τ : Type} (stream : Stream τ) : Except Error (Cursor τ) :=
  let (lexeme, rest) := stream.next
  match lexeme.token with
  | .ok token => .ok ⟨token, lexeme.position, rest⟩
  | .error e => .error e

/-- Parsers of token streams. -/
abbrev Parser (τ : Type) := EStateM Error (Cursor τ)

namespace Parser

variable {τ α : Type}

/-- The current token. -/
def current : Parser τ τ := fun cursor => .ok cursor.current cursor

/-- Moves to the next token. -/
def advance : Parser τ Unit := fun cursor =>
  let (lexeme, rest) := cursor.stream.next
  match lexeme.token with
  | .ok token => .ok () ⟨token, lexeme.position, rest⟩
  | .error e => .error e { cursor with stream := rest }

/-- Moves to the next token, the current one being used up: if the next is flawed, the end of the
text takes the place of the current one. -/
def consume [TokenKind τ] : Parser τ Unit := fun cursor =>
  advance { cursor with current := TokenKind.done }

/-- Fails at the place of the current token. -/
def fault (fault : Fault) : Parser τ α := fun cursor =>
  .error (.malformed fault cursor.position) cursor

/-- Fails because the current token is not what is wanted. -/
def expected [TokenKind τ] (wanted : String) : Parser τ α := fun cursor =>
  fault (.expected wanted (TokenKind.describe cursor.current)) cursor

/-- Moves past a token, which must be the current one. -/
def expect [TokenKind τ] [DecidableEq τ] (token : τ) : Parser τ Unit := fun cursor =>
  if cursor.current = token then advance cursor else expected (TokenKind.describe token) cursor

/-- A number of steps that no parser exceeds which takes a token in each: one for the current token
and one for each that follows. -/
def budget : Parser τ Nat := fun cursor => .ok (cursor.stream.items.length + 1) cursor

/-- At most `count` items, each after a separator. -/
def following (isSeparator : τ → Bool) (item : Parser τ α) : (count : Nat) → Parser τ (List α)
  | 0 => return []
  | count + 1 => do
    if isSeparator (← current) then
      advance
      let first ← item
      return first :: (← following isSeparator item count)
    else return []

/-- One item or several with separators between. -/
def separated (isSeparator : τ → Bool) (item : Parser τ α) : Parser τ (List α) := do
  let first ← item
  return first :: (← following isSeparator item (← budget))

/-- Runs a parser on a stream, to its result or its error. -/
def run (parser : Parser τ α) (stream : Stream τ) : Except Error α :=
  match Cursor.start stream with
  | .error e => .error e
  | .ok cursor =>
    match parser cursor with
    | .ok result _ => .ok result
    | .error e _ => .error e

/-- Runs a parser so many times, each time from where it stopped. -/
def repeatFrom (parser : Parser τ α) : (times : Nat) → Cursor τ → List (Except Error α)
  | 0, _ => []
  | times + 1, cursor =>
    match parser cursor with
    | .ok result cursor => .ok result :: repeatFrom parser times cursor
    | .error e cursor => .error e :: repeatFrom parser times cursor

end Parser

end RecordQuery
