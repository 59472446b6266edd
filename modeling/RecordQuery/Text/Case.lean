import RecordQuery.Text.CaseTables
import RecordQuery.Text.Character

/-! Lower-casing and case folding. Lower-casing a text looks at each character alone but for one
rule: a capital sigma that ends a word becomes the final form of the letter. -/

namespace RecordQuery.Text

/-- Whether the first character that casing does not look through is a cased one. -/
def startsCased (chars : List Char) : Bool :=
  match chars.find? (!isCaseIgnorable ·) with
  | some c => isCased c
  | none => false

/-- The lower case of one character, `before` it in reverse and `after` it in the text. A capital
sigma is final when a cased character precedes it and none follows. -/
def lowerChar (before : List Char) (c : Char) (after : List Char) : List Char :=
  if c = 'Σ' then
    if startsCased before && !startsCased after then ['ς'] else ['σ']
  else if c = 'İ' then ['i', '\u0307']
  else [Char.ofNat (CaseShift.applyFirst CaseTables.lower c.toNat)]

/-- Lower-cases the characters that follow `before`, which is in reverse. -/
def lowerFrom (before : List Char) : List Char → List Char
  | [] => []
  | c :: after => lowerChar before c after ++ lowerFrom (c :: before) after

/-- The lower case of a text. -/
def lowerCase (text : String) : String :=
  String.ofList (lowerFrom [] text.toList)

/-- The simple case folding of a character. -/
def foldCase (c : Char) : Char :=
  Char.ofNat (CaseShift.applyFirst CaseTables.fold c.toNat)

/-- The characters that fold to the same character as `c`, itself included. -/
def caseVariants (c : Char) : List Char :=
  let folded := foldCase c
  folded :: (CaseShift.sources CaseTables.fold folded.toNat).map Char.ofNat

end RecordQuery.Text
