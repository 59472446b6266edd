/-! Positions in a text, and the rest of a text together with the position it starts at. -/

namespace RecordQuery

/-- A place in a text: `line` and `column` count from one, `offset` counts characters from zero. -/
structure Position where
  line : Nat
  column : Nat
  offset : Nat
deriving DecidableEq, Repr

namespace Position

/-- The place of the first character. -/
def start : Position := ⟨1, 1, 0⟩

/-- The place after one character: a line break starts a line. -/
def after (position : Position) (c : Char) : Position :=
  if c = '\n' then ⟨position.line + 1, 1, position.offset + 1⟩
  else ⟨position.line, position.column + 1, position.offset + 1⟩

/-- The place after several characters. -/
def afterAll (position : Position) (chars : List Char) : Position :=
  chars.foldl after position

/-- The place as error messages give it. -/
def describe (position : Position) : String :=
  s!"line {position.line}, column {position.column}"

@[simp] theorem afterAll_nil (p : Position) : p.afterAll [] = p := rfl

@[simp] theorem afterAll_cons (p : Position) (c : Char) (chars : List Char) :
    p.afterAll (c :: chars) = (p.after c).afterAll chars := rfl

@[simp] theorem afterAll_append (p : Position) (chars more : List Char) :
    p.afterAll (chars ++ more) = (p.afterAll chars).afterAll more :=
  List.foldl_append

@[simp] theorem offset_after (p : Position) (c : Char) : (p.after c).offset = p.offset + 1 := by
  unfold after; split <;> rfl

@[simp] theorem offset_afterAll (p : Position) (chars : List Char) :
    (p.afterAll chars).offset = p.offset + chars.length := by
  induction chars generalizing p with
  | nil => rfl
  | cons c chars ih => simp [ih]; omega

end Position

/-- What is left of a text, and the place where it starts. -/
structure Source where
  rest : List Char
  position : Position
deriving Repr

namespace Source

/-- The whole of a text. -/
def ofString (text : String) : Source := ⟨text.toList, .start⟩

/-- The text past its first `count` characters. -/
def drop (count : Nat) (source : Source) : Source :=
  ⟨source.rest.drop count, source.position.afterAll (source.rest.take count)⟩

/-- The text past the characters at its start that satisfy `test`. -/
def skipWhile (test : Char → Bool) (source : Source) : Source :=
  ⟨source.rest.dropWhile test, source.position.afterAll (source.rest.takeWhile test)⟩

theorem length_skipWhile_le (test : Char → Bool) (source : Source) :
    (source.skipWhile test).rest.length ≤ source.rest.length :=
  (List.dropWhile_suffix test).length_le

end Source

end RecordQuery
