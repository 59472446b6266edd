import RecordQuery.Json.Basic
import RecordQuery.Text.Part

/-! Reading JSON. A reader takes what it reads off the front of the characters and gives the rest,
or nothing if they do not begin with what it reads. -/

namespace RecordQuery.Json

/-- The characters past blanks. -/
def skipBlanks (chars : List Char) : List Char :=
  chars.dropWhile fun c => c = ' ' || c = '\n' || c = '\t' || c = '\r'

/-- The value of a hexadecimal digit. -/
def hexValue? (c : Char) : Option Nat :=
  if c.isDigit then some (c.toNat - '0'.toNat)
  else if 'a' ≤ c && c ≤ 'f' then some (c.toNat - 'a'.toNat + 10)
  else if 'A' ≤ c && c ≤ 'F' then some (c.toNat - 'A'.toNat + 10)
  else none

/-- Reads the four digits of an escaped code unit. -/
def codeUnit? : List Char → Option (Nat × List Char)
  | a :: b :: c :: d :: rest => do
    let a ← hexValue? a
    let b ← hexValue? b
    let c ← hexValue? c
    let d ← hexValue? d
    return (((a * 16 + b) * 16 + c) * 16 + d, rest)
  | _ => none

/-- The character of a single letter after a backslash. -/
def escaped? (c : Char) : Option Char :=
  if c = '"' || c = '\\' || c = '/' then some c
  else if c = 'b' then some '\x08'
  else if c = 'f' then some '\x0c'
  else if c = 'n' then some '\n'
  else if c = 'r' then some '\r'
  else if c = 't' then some '\t'
  else none

/-- Reads the code units of one character after `\u`: a high surrogate must be followed by an
escaped low one, and a low one may not come first. -/
def escapedCharacter? (chars : List Char) : Option (Char × List Char) :=
  match codeUnit? chars with
  | none => none
  | some (unit, rest) =>
    if 0xDC00 ≤ unit && unit ≤ 0xDFFF then none
    else if 0xD800 ≤ unit && unit ≤ 0xDBFF then
      match rest with
      | '\\' :: 'u' :: more =>
        match codeUnit? more with
        | some (low, rest) =>
          if 0xDC00 ≤ low && low ≤ 0xDFFF then
            some (Char.ofNat (0x10000 + (unit - 0xD800) * 0x400 + (low - 0xDC00)), rest)
          else none
        | none => none
      | _ => none
    else some (Char.ofNat unit, rest)

/-- Reads a string up to its closing quote. Each step takes at least one character, so `fuel` of
their number is enough. -/
def stringBody? : (fuel : Nat) → List Char → Option (List Char × List Char)
  | 0, _ => none
  | _, [] => none
  | fuel + 1, c :: rest =>
    if c = '"' then some ([], rest)
    else if c.toNat < 32 then none
    else
      let next := match c, rest with
        | '\\', 'u' :: more => escapedCharacter? more
        | '\\', letter :: more => (escaped? letter).map fun c => (c, more)
        | '\\', [] => none
        | c, rest => some (c, rest)
      match next with
      | none => none
      | some (c, rest) => (stringBody? fuel rest).map fun (text, rest) => (c :: text, rest)

/-- Reads a string in double quotes. -/
def string? : List Char → Option (String × List Char)
  | '"' :: rest => (stringBody? rest.length rest).map fun (text, rest) => (String.ofList text, rest)
  | _ => none

/-- The largest significand that is kept. -/
def significandLimit : Nat := 18446744073709551615

/-- Appends whole digits to a significand while it stays in its limit; each digit past that only
counts as a power of ten. -/
def appendWhole (significand : Nat) : List Char → Nat × Nat
  | [] => (significand, 0)
  | c :: digits =>
    let next := Nat.ofDigitChars 10 [c] significand
    if next ≤ significandLimit then appendWhole next digits
    else (significand, digits.length + 1)

/-- Appends fraction digits to a significand while it stays in its limit, and counts them; digits
past that are dropped. -/
def appendFraction (significand : Nat) : List Char → Nat × Nat
  | [] => (significand, 0)
  | c :: digits =>
    let next := Nat.ofDigitChars 10 [c] significand
    if next ≤ significandLimit then
      let (result, count) := appendFraction next digits
      (result, count + 1)
    else (significand, 0)

/-- A double divided by a power of ten, at most 308 places at a time. -/
def divideByPower (x : Float) (power : Nat) : Float :=
  if power ≤ 308 then x / Double.powerOfTen power
  else if x == 0.0 then x
  else divideByPower (x / Double.powerOfTen 308) (power - 308)
termination_by power

/-- The double of a significand and a power of ten: the significand is converted, then multiplied
or divided. A product that overflows is refused. -/
def doubleOf? (significand : Nat) (power : Int) : Option Float :=
  let x := Double.ofNat significand
  if power < 0 then some (divideByPower x (-power).toNat)
  else if x == 0.0 then some x
  else if power ≤ 308 then
    let product := x * Double.powerOfTen power.toNat
    if product.isInf then none else some product
  else none

/-- The number of an integer's digits, which is a double if it does not fit. -/
def wholeNumber? (negative : Bool) (digits : List Char) : Option Number :=
  let value := digitsValue digits
  if !negative && value ≤ significandLimit then some (.integer value)
  else if negative && value ≠ 0 && value ≤ 9223372036854775808 then some (.integer (-(value : Int)))
  else
    let (significand, power) := appendWhole 0 digits
    (doubleOf? significand power).map fun x => .double (if negative then -x else x)

/-- The number of digits with a fraction or an exponent. -/
def fractionNumber? (negative : Bool) (whole fraction : List Char) (exponent : Int) :
    Option Number :=
  let (significand, power) := appendWhole 0 whole
  let (significand, places) := appendFraction significand fraction
  (doubleOf? significand (power - places + exponent)).map fun x =>
    .double (if negative then -x else x)

/-- Reads the fraction of a number, if there is one; a point needs a digit after it. -/
def fraction? : List Char → Option (List Char × List Char)
  | '.' :: rest =>
    let digits := rest.takeWhile Char.isDigit
    if digits.isEmpty then none else some (digits, rest.dropWhile Char.isDigit)
  | rest => some ([], rest)

/-- Reads the digits of an exponent, of which there must be one. -/
def exponentDigits? (negative : Bool) (chars : List Char) : Option (Int × List Char) :=
  let digits := chars.takeWhile Char.isDigit
  if digits.isEmpty then none
  else
    let value : Int := digitsValue digits
    some (if negative then -value else value, chars.dropWhile Char.isDigit)

/-- Reads the exponent of a number, if there is one. -/
def exponent? : List Char → Option (Option Int × List Char)
  | [] => some (none, [])
  | c :: rest =>
    if c = 'e' || c = 'E' then
      let read := match rest with
        | '-' :: digits => exponentDigits? true digits
        | '+' :: digits => exponentDigits? false digits
        | digits => exponentDigits? false digits
      read.map fun (value, rest) => (some value, rest)
    else some (none, c :: rest)

/-- Reads a number without its sign. A zero is not followed by another whole digit. -/
def magnitude? (negative : Bool) (chars : List Char) : Option (Number × List Char) := do
  let whole := chars.takeWhile Char.isDigit
  if whole.isEmpty || (whole.head? == some '0' && whole.length ≠ 1) then none
  let (fraction, rest) ← fraction? (chars.dropWhile Char.isDigit)
  let (exponent, rest) ← exponent? rest
  let result ←
    if fraction.isEmpty && exponent.isNone then wholeNumber? negative whole
    else fractionNumber? negative whole fraction (exponent.getD 0)
  return (result, rest)

/-- Reads a number. -/
def number? : List Char → Option (Number × List Char)
  | '-' :: rest => magnitude? true rest
  | chars => magnitude? false chars

/-- The characters past a word, if they begin with it. -/
def word? (word : List Char) (chars : List Char) : Option (List Char) :=
  if word.isPrefixOf chars then some (chars.drop word.length) else none

/-- Reads the items of an array from the first one on, up to the closing bracket. -/
def items? (value : List Char → Option (Json × List Char)) :
    (fuel : Nat) → List Char → Option (List Json × List Char)
  | 0, _ => none
  | fuel + 1, chars =>
    match value chars with
    | none => none
    | some (item, rest) =>
      match skipBlanks rest with
      | ',' :: rest => (items? value fuel rest).map fun (items, rest) => (item :: items, rest)
      | ']' :: rest => some ([item], rest)
      | _ => none

/-- Reads a member: a name, a colon and a value. -/
def member (value : List Char → Option (Json × List Char)) (chars : List Char) :
    Option ((String × Json) × List Char) :=
  match string? (skipBlanks chars) with
  | none => none
  | some (name, rest) =>
    match skipBlanks rest with
    | ':' :: rest => (value rest).map fun (value, rest) => ((name, value), rest)
    | _ => none

/-- Reads the members of an object from the first one on, up to the closing brace, and puts them
behind those read before. -/
def members? (value : List Char → Option (Json × List Char)) :
    (fuel : Nat) → List (String × Json) → List Char → Option (List (String × Json) × List Char)
  | 0, _, _ => none
  | fuel + 1, before, chars =>
    match member value chars with
    | none => none
    | some ((name, value'), rest) =>
      let members := putMember name value' before
      match skipBlanks rest with
      | ',' :: rest => members? value fuel members rest
      | '\x7d' :: rest => some (members, rest)
      | _ => none

/-- Reads a value, `depth` levels of arrays and objects at most. -/
def value? : (depth : Nat) → List Char → Option (Json × List Char)
  | depth, chars =>
    match skipBlanks chars with
    | [] => none
    | '"' :: rest => (string? ('"' :: rest)).map fun (text, rest) => (.string text, rest)
    | 'n' :: rest => (word? "ull".toList rest).map fun rest => (.null, rest)
    | 't' :: rest => (word? "rue".toList rest).map fun rest => (.bool true, rest)
    | 'f' :: rest => (word? "alse".toList rest).map fun rest => (.bool false, rest)
    | '[' :: rest =>
      match depth with
      | 0 => none
      | depth + 1 =>
        match skipBlanks rest with
        | ']' :: rest => some (.array [], rest)
        | _ => (items? (value? depth) rest.length rest).map fun (items, rest) =>
            (.array items, rest)
    | '\x7b' :: rest =>
      match depth with
      | 0 => none
      | depth + 1 =>
        match skipBlanks rest with
        | '\x7d' :: rest => some (.object [], rest)
        | _ => (members? (value? depth) rest.length [] rest).map fun (members, rest) =>
            (.object members, rest)
    | rest => (number? rest).map fun (value, rest) => (.number value, rest)

/-- How deep arrays and objects may nest. -/
def maxDepth : Nat := 127

/-- Reads a text that holds one value and blanks around it. -/
def parse? (text : String) : Option Json :=
  match value? maxDepth text.toList with
  | some (value, rest) => if (skipBlanks rest).isEmpty then some value else none
  | none => none

/-- Whether a value that does not show its own end may end before these characters. -/
def endsHere : List Char → Bool
  | [] => true
  | c :: _ => c = ' ' || c = '\n' || c = '\t' || c = '\r' || c = '"' || c = '[' || c = ']' ||
      c = '\x7b' || c = '\x7d' || c = ',' || c = ':'

/-- Whether the values that begin with this character show their own end. -/
def showsEnd (c : Char) : Bool :=
  c = '"' || c = '[' || c = '\x7b'

/-- Reads values one after another up to the end. -/
def sequence? : (fuel : Nat) → List Char → Option (List Json)
  | fuel, chars =>
    match skipBlanks chars, fuel with
    | [], _ => some []
    | _, 0 => none
    | c :: rest, fuel + 1 =>
      match value? maxDepth (c :: rest) with
      | none => none
      | some (value, rest) =>
        if showsEnd c || endsHere rest then (sequence? fuel rest).map (value :: ·) else none

/-- The values that a text holds one after another. -/
def parseSequence? (text : String) : Option (List Json) :=
  sequence? text.toList.length text.toList

end RecordQuery.Json
