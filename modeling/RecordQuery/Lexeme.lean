import RecordQuery.Error

/-! Texts as streams of tokens. A lexeme is a token, or what is wrong with it, and the place where
it starts. A stream ends in a lexeme that comes again for ever: the end of the text, or an error
that the reader cannot get past. -/

namespace RecordQuery

/-- What a reader finds at the front of a text that does not begin with white space, and how many
characters it takes. It takes none at the end of the text and at what it cannot get past. -/
structure Reading (τ : Type) where
  token : Except Flaw τ
  length : Nat

/-- A token or an error, and the place where it starts. -/
structure Lexeme (τ : Type) where
  position : Position
  token : Except Error τ

/-- The lexemes of a text up to the one that comes again for ever. -/
structure Stream (τ : Type) where
  items : List (Lexeme τ)
  final : Lexeme τ

namespace Lexeme

variable {τ : Type}

/-- A reading with the place where it starts. -/
def ofReading (position : Position) (reading : Reading τ) : Lexeme τ :=
  ⟨position, match reading.token with
    | .ok token => .ok token
    | .error flaw => .error (flaw.at position)⟩

/-- The next lexeme of a text, past white space, and what is left of the text after it. -/
def next (read : List Char → Reading τ) (blank : Char → Bool) (source : Source) :
    Lexeme τ × Source :=
  let start := source.skipWhile blank
  let reading := read start.rest
  (ofReading start.position reading, start.drop reading.length)

end Lexeme

namespace Stream

variable {τ : Type}

/-- The stream of the lexemes of a text. -/
def ofSource (read : List Char → Reading τ) (blank : Char → Bool) (source : Source) : Stream τ :=
  let start := source.skipWhile blank
  let (lexeme, rest) := Lexeme.next read blank source
  if _h : rest.rest.length < start.rest.length then
    let stream := ofSource read blank rest
    ⟨lexeme :: stream.items, stream.final⟩
  else ⟨[], lexeme⟩
termination_by source.rest.length
decreasing_by
  exact Nat.lt_of_lt_of_le _h (Source.length_skipWhile_le blank source)

/-- The first lexeme of a stream, and the stream after it. -/
def next (stream : Stream τ) : Lexeme τ × Stream τ :=
  match stream.items with
  | [] => (stream.final, stream)
  | lexeme :: items => (lexeme, ⟨items, stream.final⟩)

/-- The lexemes of a stream up to the one that brings the count of errors to `errors` or that of
ends to `ends`. -/
def takeUntil (isEnd : τ → Bool) (fuel errors ends : Nat) (stream : Stream τ) : List (Lexeme τ) :=
  match fuel with
  | 0 => []
  | fuel + 1 =>
    let (lexeme, rest) := stream.next
    let isLast := match lexeme.token with
      | .ok token => isEnd token && ends ≤ 1
      | .error _ => errors ≤ 1
    if isLast then [lexeme]
    else
      match lexeme.token with
      | .ok token =>
        lexeme :: rest.takeUntil isEnd fuel errors (if isEnd token then ends - 1 else ends)
      | .error _ => lexeme :: rest.takeUntil isEnd fuel (errors - 1) ends

/-- The lexemes of a stream until so many errors or so many ends have come. Each call that is
neither takes an item of the stream, which bounds the number of calls. -/
def lexemes (isEnd : τ → Bool) (errors ends : Nat) (stream : Stream τ) : List (Lexeme τ) :=
  stream.takeUntil isEnd (stream.items.length + errors + ends + 1) errors ends

end Stream

end RecordQuery
