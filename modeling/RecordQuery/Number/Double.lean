import RecordQuery.Number.Decimal

/-! Double precision numbers and their texts. A double is taken apart into `m · 2^q`; its shortest
digits are those of the coarsest decimal grid that has a point reading back as the double, and of
two such points the nearer. Reading rounds a ratio of integers to the nearest double, a half to the
even mantissa. -/

namespace RecordQuery

namespace Double

/-- What the bits of a double say. -/
inductive Parts where
  | nan
  | infinite (negative : Bool)
  | finite (negative : Bool) (mantissa : Nat) (exponent : Int)

/-- Takes a double apart; a finite one is `±mantissa · 2^exponent`. -/
def parts (x : Float) : Parts :=
  let bits := x.toBits.toNat
  let negative := twoTo 63 ≤ bits
  let biased : Nat := bits / twoTo 52 % twoTo 11
  let fraction : Nat := bits % twoTo 52
  if biased = 2047 then if fraction = 0 then .infinite negative else .nan
  else if biased = 0 then .finite negative fraction (-1074)
  else .finite negative (fraction + twoTo 52) ((biased : Int) - 1075)

/-- How a decimal exactly between two grid points is rounded. -/
inductive Tie where
  | up
  | even
deriving DecidableEq

/-- The interval of numbers that read as a double, over a common denominator: the double itself is
`value / unit`, and the ends belong to the interval if `closed`. -/
structure Interval where
  low : Nat
  value : Nat
  high : Nat
  unit : Nat
  closed : Bool

/-- The interval around `mantissa · 2^exponent`; below a power of two the neighbour is nearer. -/
def interval (mantissa : Nat) (exponent : Int) : Interval :=
  let grow := twoTo (exponent - 2).toNat
  let below := if mantissa = twoTo 52 ∧ -1074 < exponent then 1 else 2
  { low := (4 * mantissa - below) * grow
    value := 4 * mantissa * grow
    high := (4 * mantissa + 2) * grow
    unit := twoTo (2 - exponent).toNat
    closed := mantissa % 2 = 0 }

/-- The multiple of `10^power` in the interval that is nearest to its value, as the factor. -/
def Interval.nearest? (i : Interval) (tie : Tie) (power : Int) : Option Nat :=
  let grow := tenTo (-power).toNat
  let step := i.unit * tenTo power.toNat
  let value := i.value * grow
  let inside := fun n =>
    if i.closed then i.low * grow ≤ n * step ∧ n * step ≤ i.high * grow
    else i.low * grow < n * step ∧ n * step < i.high * grow
  let down := value / step
  let twice := 2 * (value % step)
  if inside down then
    if inside (down + 1) then
      if twice < step then some down
      else if step < twice then some (down + 1)
      else if tie = .even ∧ down % 2 = 0 then some down else some (down + 1)
    else some down
  else if inside (down + 1) then some (down + 1)
  else none

/-- The first grid with a point in the interval, from `10^power` downwards, and that point. -/
def Interval.coarsest (i : Interval) (tie : Tie) : (tries : Nat) → (power : Int) → Nat × Int
  | 0, power => (i.value * tenTo (-power).toNat / (i.unit * tenTo power.toNat), power)
  | tries + 1, power =>
    match i.nearest? tie power with
    | some digits => (digits, power)
    | none => i.coarsest tie tries (power - 1)

/-- The shortest decimal that reads as `mantissa · 2^exponent`, as `digits · 10^power`. The search
starts above the number and ends at the latest where a step is shorter than the interval. -/
def shortest (tie : Tie) (mantissa : Nat) (exponent : Int) : Nat × Int :=
  let bits : Int := (Nat.log2 mantissa : Int) + exponent
  (interval mantissa exponent).coarsest tie 30 (bits * 30103 / 100000 + 2)

/-- How doubles are written. -/
structure Format where
  /-- Follows a whole number that is written positionally. -/
  wholeEnd : String
  /-- Says of a decimal exponent whether numbers of that size are written positionally. -/
  positional : Int → Bool
  /-- Stands before an exponent that is not negative. -/
  exponentSign : String
  /-- Chooses between two shortest decimals that are equally near. -/
  tie : Tie

/-- The digits of `digits · 10^power` written out, a point among them where it is needed. -/
def Format.writePositional (format : Format) (digits : Nat) (power : Int) : String :=
  if power < 0 then Decimal.placePoint (-power).toNat digits
  else Nat.repr (digits * tenTo power.toNat) ++ format.wholeEnd

/-- The digits of a number with a point after the first, and its decimal exponent. -/
def Format.writeScientific (format : Format) (digits : Nat) (exponent : Int) : String :=
  let chars := Nat.toDigits 10 digits
  let fraction := chars.drop 1
  String.ofList (chars.take 1) ++
    (if fraction.isEmpty then "" else "." ++ String.ofList fraction) ++ "e" ++
    (if exponent < 0 then "" else format.exponentSign) ++ Integer.text exponent

/-- A finite double without its sign. -/
def Format.writeFinite (format : Format) (mantissa : Nat) (exponent : Int) : String :=
  if mantissa = 0 then "0" ++ format.wholeEnd
  else
    let (digits, power) := shortest format.tie mantissa exponent
    let size := power + (Nat.toDigits 10 digits).length - 1
    if format.positional size then format.writePositional digits power
    else format.writeScientific digits size

/-- The text of a double. -/
def Format.text (format : Format) (x : Float) : String :=
  match parts x with
  | .nan => "NaN"
  | .infinite negative => if negative then "-inf" else "inf"
  | .finite negative mantissa exponent =>
    (if negative then "-" else "") ++ format.writeFinite mantissa exponent

/-- Plain texts are positional whatever the size, and a whole number has no point. -/
def plain : Format := ⟨"", fun _ => true, "", .up⟩

/-- Texts that show the kind of number: always a point or an exponent, which begins at `1e16` and
below `1e-4`. -/
def explicit : Format := ⟨".0", fun size => -4 ≤ size && size < 16, "", .up⟩

/-- JSON texts: always a point or an exponent, which begins at `1e+16` and below `1e-5`. -/
def json : Format := ⟨".0", fun size => -5 ≤ size && size < 16, "+", .even⟩

/-- The sign and the magnitude of a double, if it is a whole number. -/
def whole? (x : Float) : Option (Bool × Nat) :=
  match parts x with
  | .finite negative mantissa exponent =>
    let unit := twoTo (-exponent).toNat
    if mantissa % unit = 0 then some (negative, mantissa * twoTo exponent.toNat / unit) else none
  | _ => none

/-- The bits of the double nearest to `numerator / denominator`, a half going to the even mantissa;
what is too large becomes infinite. -/
def nearestBits (numerator denominator : Nat) : Nat :=
  if numerator = 0 then 0
  else
    let guess : Int := (Nat.log2 numerator : Int) - Nat.log2 denominator
    let isLess := numerator * twoTo (-guess).toNat < denominator * twoTo guess.toNat
    let size := if isLess then guess - 1 else guess
    let exponent := max (size - 52) (-1074)
    let value := numerator * twoTo (-exponent).toNat
    let unit := denominator * twoTo exponent.toNat
    let down := value / unit
    let twice := 2 * (value % unit)
    let mantissa :=
      if unit < twice ∨ (twice = unit ∧ down % 2 = 1) then down + 1 else down
    min ((exponent + 1074).toNat * twoTo 52 + mantissa) (2047 * twoTo 52)

/-- The double nearest to a ratio. -/
def ofRatio (numerator denominator : Nat) : Float :=
  Float.ofBits (nearestBits numerator denominator).toUInt64

/-- The double nearest to an integer. -/
def ofNat (n : Nat) : Float := ofRatio n 1

/-- The double nearest to `10^power`. -/
def powerOfTen (power : Nat) : Float := ofNat (tenTo power)

/-- The double nearest to `digits · 10^power`, where `count` digits are written. Powers beyond every
double are cut short. -/
def ofDecimal (digits count : Nat) (power : Int) : Float :=
  if power < 0 then ofRatio digits (tenTo (min (-power).toNat (count + 400)))
  else ofNat (digits * tenTo (min power.toNat 400))

/-- Reads an exponent with at most one sign. -/
def readExponent? : List Char → Option Int
  | [] => some 0
  | c :: rest => if c = 'e' || c = 'E' then Integer.read? rest else none

/-- Reads digits with at most one point, then maybe an exponent. -/
def readUnsigned? (chars : List Char) : Option Float :=
  let whole := chars.takeWhile Char.isDigit
  let rest := chars.dropWhile Char.isDigit
  let (fraction, rest) := match rest with
    | '.' :: more => (more.takeWhile Char.isDigit, more.dropWhile Char.isDigit)
    | _ => ([], rest)
  if whole.isEmpty && fraction.isEmpty then none
  else
    let digits := whole ++ fraction
    (readExponent? rest).map fun exponent =>
      ofDecimal (digitsValue digits) digits.length (exponent - fraction.length)

/-- Reads a double without its sign; the names of infinity and NaN may be in any case. -/
def readMagnitude? (chars : List Char) : Option Float :=
  let name := String.ofList (chars.map Char.toLower)
  if name = "inf" || name = "infinity" then some (1.0 / 0.0)
  else if name = "nan" then some (0.0 / 0.0)
  else readUnsigned? chars

/-- Reads a double after at most one sign. -/
def read? : List Char → Option Float
  | '-' :: chars => (readMagnitude? chars).map fun x => -x
  | '+' :: chars => readMagnitude? chars
  | chars => readMagnitude? chars

end Double

namespace Decimal

/-- The double of a decimal: its whole part and its fraction are converted apart, and their sum is
rounded once more to the places of the scale. -/
def toDouble (d : Decimal) : Float :=
  let unit := tenTo d.scale
  let whole := Double.ofNat (d.mantissa / unit)
  let fraction := Double.ofNat (d.mantissa % unit) / Double.ofNat unit
  let magnitude :=
    if d.scale = 0 || fraction == 0.0 then whole
    else
      let places := Double.powerOfTen d.scale
      ((whole + fraction) * places).round / places
  if d.negative then -magnitude else magnitude

end Decimal

end RecordQuery
