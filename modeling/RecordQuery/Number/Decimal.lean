import RecordQuery.Number.Integer
import RecordQuery.Number.Power

/-! Decimal numbers of ninety-six bits: a sign, a mantissa below 2^96 and a scale of at most 28
fraction digits. The scale is part of a number's text but not of its value, so `1.50` and `1.5` are
equal in order and differ in writing. -/

namespace RecordQuery

/-- The bound that every mantissa stays below: two to the power of ninety-six. -/
def Decimal.mantissaBound : Nat := 79228162514264337593543950336

/-- The largest scale. -/
def Decimal.maxScale : Nat := 28

/-- The number `±mantissa / 10^scale`. A zero may carry a sign. -/
structure Decimal where
  negative : Bool
  mantissa : Nat
  scale : Nat
  mantissa_lt : mantissa < Decimal.mantissaBound
  scale_le : scale ≤ Decimal.maxScale
deriving DecidableEq

namespace Decimal

/-- The decimal of these parts, if they are in range. -/
def ofParts? (negative : Bool) (mantissa scale : Nat) : Option Decimal :=
  if h : mantissa < mantissaBound ∧ scale ≤ maxScale then
    some ⟨negative, mantissa, scale, h.1, h.2⟩
  else none

/-- The mantissa with its sign. -/
def coefficient (d : Decimal) : Int :=
  if d.negative then -(d.mantissa : Int) else d.mantissa

/-- The order of two decimals by value. -/
def order (a b : Decimal) : Ordering :=
  compare (a.coefficient * tenTo b.scale) (b.coefficient * tenTo a.scale)

/-- Whether two decimals have the same value. -/
def sameValue (a b : Decimal) : Bool :=
  a.order b == .eq

/-- The decimal of the other sign; a zero changes its sign too. -/
def negate (d : Decimal) : Decimal :=
  { d with negative := !d.negative }

/-- The digits of a mantissa with `scale` of them after the point, at least one before it. -/
def placePoint (scale mantissa : Nat) : String :=
  let digits := Nat.toDigits 10 mantissa
  let padded := List.replicate (scale + 1 - digits.length) '0' ++ digits
  let whole := padded.length - scale
  if scale = 0 then String.ofList padded
  else String.ofList (padded.take whole) ++ "." ++ String.ofList (padded.drop whole)

/-- The text of a decimal, with as many fraction digits as its scale says. -/
def text (d : Decimal) : String :=
  (if d.negative then "-" else "") ++ placePoint d.scale d.mantissa

/-- The digits of a text in which an underscore may stand anywhere after the first digit; `seen`
says whether a digit came before. -/
def digitsOf? (seen : Bool) : List Char → Option (List Char)
  | [] => some []
  | c :: rest =>
    if c.isDigit then (digitsOf? true rest).map (c :: ·)
    else if c = '_' && seen then digitsOf? true rest
    else none

/-- Rounds a mantissa whose next digit does not fit: up from five on. A mantissa that leaves the
range by that is rounded once more, to one digit less, if it has one after the point. -/
def roundLast? (mantissa scale : Nat) (dropped : Char) : Option (Nat × Nat) :=
  if dropped < '5' then some (mantissa, scale)
  else if mantissa + 1 < mantissaBound then some (mantissa + 1, scale)
  else if scale = 0 then none
  else some ((mantissa + 5) / 10, scale - 1)

/-- Appends fraction digits to a mantissa while they fit; the first that does not is rounded, and
those after it are dropped. -/
def appendFraction? (mantissa scale : Nat) : List Char → Option (Nat × Nat)
  | [] => some (mantissa, scale)
  | c :: digits =>
    let next := Nat.ofDigitChars 10 [c] mantissa
    if scale < maxScale && next < mantissaBound then appendFraction? next (scale + 1) digits
    else roundLast? mantissa scale c

/-- The decimal of a sign, whole digits and fraction digits; a zero gets no sign. -/
def ofDigits? (negative : Bool) (whole fraction : List Char) : Option Decimal :=
  let value := digitsValue whole
  if whole.isEmpty && fraction.isEmpty then none
  else if value < mantissaBound then
    match appendFraction? value 0 fraction with
    | none => none
    | some (mantissa, scale) => ofParts? (negative && mantissa != 0) mantissa scale
  else none

/-- Reads digits with at most one point among them. -/
def readUnsigned? (negative : Bool) (chars : List Char) : Option Decimal :=
  let whole := chars.takeWhile (· != '.')
  let fraction := (chars.dropWhile (· != '.')).drop 1
  match digitsOf? false whole with
  | none => none
  | some whole =>
    match digitsOf? (!whole.isEmpty) fraction with
    | none => none
    | some fraction => ofDigits? negative whole fraction

/-- Reads a decimal without an exponent: at most one sign, then digits with at most one point. -/
def readPlain? : List Char → Option Decimal
  | '-' :: chars => readUnsigned? true chars
  | '+' :: chars => readUnsigned? false chars
  | chars => readUnsigned? false chars

/-- A mantissa without its last `places` digits, rounded on the first of them. -/
def roundOff (mantissa places : Nat) : Nat :=
  if places = 0 then mantissa
  else
    let kept := mantissa / tenTo (places - 1)
    kept / 10 + if 5 ≤ kept % 10 then 1 else 0

/-- A decimal divided by a power of ten: the scale grows, and what passes the largest scale is
rounded off first. -/
def shiftDown? (d : Decimal) (places : Nat) : Option Decimal :=
  if maxScale < places then none
  else if d.scale + places ≤ maxScale then ofParts? d.negative d.mantissa (d.scale + places)
  else ofParts? d.negative (roundOff d.mantissa (d.scale + places - maxScale)) maxScale

/-- A decimal multiplied by a power of ten: the scale shrinks, and past zero the mantissa grows. -/
def shiftUp? (d : Decimal) (places : Nat) : Option Decimal :=
  if places ≤ d.scale then ofParts? d.negative d.mantissa (d.scale - places)
  else if maxScale < places then none
  else ofParts? d.negative (d.mantissa * tenTo (places - d.scale)) 0

/-- The digits of an exponent, after at most one plus sign. -/
def readExponent? : List Char → Option Nat
  | '+' :: digits => Integer.readDigits? digits
  | digits => Integer.readDigits? digits

/-- Reads a decimal, an `e` and an exponent with at most one minus sign. -/
def readScientific? (chars : List Char) : Option Decimal :=
  let isMark := fun c => c == 'e' || c == 'E'
  match chars.dropWhile (!isMark ·), readPlain? (chars.takeWhile (!isMark ·)) with
  | _ :: '-' :: digits, some d => (readExponent? digits).bind d.shiftDown?
  | _ :: digits, some d => (readExponent? digits).bind d.shiftUp?
  | _, _ => none

/-- Reads a decimal, with or without an exponent: what is no decimal as it stands is read once more
as one with an exponent. Numbers in the texts of queries and of formulas never have one, but
literals that are built by hand and numbers in records may. -/
def read? (chars : List Char) : Option Decimal :=
  (readPlain? chars).or (readScientific? chars)

/-- An integer as a decimal without fraction digits, if its digits fit. -/
def ofInt? (n : Int) : Option Decimal :=
  ofParts? (n < 0) n.natAbs 0

end Decimal

end RecordQuery
