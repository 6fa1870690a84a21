import SignIn.Text.Integer

/-!
# Floating-point numbers in decimal

`Double` is a number of the IEEE 754 format binary64, held by its sixty-four bits. Two doubles
are equal as values of the type when their bits are; `Double.same` compares the numbers that
they stand for, so that the two zeros agree and a NaN agrees with nothing. `Double.parts` takes a
finite double apart into `m` and `q`, where its size is `m · 2 ^ q`.

Among the decimals that read back as a given double, `Decimal.shortest` takes one with the
fewest digits, and of those the nearest to the double. The reals that round to `m · 2 ^ q` form an
interval whose ends lie half a step below and half a step above; below a power of two the step is
half as wide. The ends belong to the interval exactly when `m` is even. For `1, 2, …, 17` digits the
double's two neighbours on the grid of decimals with that many digits are tested, in exact
arithmetic on natural numbers; the first grid with a hit wins.

`Layout.render` writes a finite double with these digits. A `Layout` says for which sizes the digits
stand around a decimal point, and how the exponent of all others looks. `Layout.standard` is the one
in use.
-/

namespace SignIn

/-- A number of the format binary64. -/
structure Double where
  /-- The sign, the eleven bits of the exponent and the fifty-two bits of the fraction. -/
  bits : UInt64
  deriving DecidableEq, Repr, Inhabited

namespace Double

/-- The double that the machine computes with. -/
def ofFloat (x : Float) : Double := ⟨x.toBits⟩

/-- The machine's number with these bits. -/
def toFloat (x : Double) : Float := Float.ofBits x.bits

/-- Whether the sign bit is set. -/
def isNegative (x : Double) : Bool := x.bits >>> 63 == 1

/-- The stored exponent, between 0 and 2047. -/
def exponentField (x : Double) : Nat := ((x.bits >>> 52) &&& 0x7ff).toNat

/-- The stored fraction, below `2 ^ 52`. -/
def fractionField (x : Double) : Nat := (x.bits &&& 0xfffffffffffff).toNat

/-- Whether the double is a number: neither an infinity nor a NaN. -/
def isFinite (x : Double) : Bool := x.exponentField != 2047

/-- Whether the double is not a number at all. -/
def isNaN (x : Double) : Bool := x.exponentField == 2047 && x.fractionField != 0

/-- Whether the double is one of the two zeros. -/
def isZero (x : Double) : Bool := x.exponentField == 0 && x.fractionField == 0

/-- The whole number `m` and the exponent `q` such that a finite double has size `m · 2 ^ q`. -/
def parts (x : Double) : Nat × Int :=
  if x.exponentField = 0 then (x.fractionField, -1074)
  else (x.fractionField + 1 <<< 52, (x.exponentField : Int) - 1075)

/-- Whether two doubles stand for the same number. -/
def same (x y : Double) : Bool :=
  !x.isNaN && !y.isNaN && (x.bits == y.bits || (x.isZero && y.isZero))

/-- The double nearest to `digits · 10 ^ exponent`, or an infinity when it is too large. The
exponent is bounded before the power is taken, which changes no result. -/
def ofDecimal (negative : Bool) (digits : Nat) (exponent : Int) : Double :=
  let size := (Nat.toDigits 10 digits).length
  let magnitude : Float :=
    if digits = 0 ∨ exponent + size < -400 then 0.0
    else if 400 < exponent + size then Float.ofBits 0x7ff0000000000000
    else if exponent < 0 then Float.ofScientific digits true exponent.natAbs
    else Float.ofScientific digits false exponent.natAbs
  ofFloat (if negative then -magnitude else magnitude)

end Double

end SignIn

namespace SignIn.Decimal

/-! ### The shortest decimal of a double -/

/-- The size of a positive double and the ends of its rounding interval, as numerators over one
denominator. -/
structure Interval where
  low : Nat
  value : Nat
  high : Nat
  denominator : Nat
  /-- Whether the ends themselves round to the double. -/
  closed : Bool

/-- The rounding interval of `m · 2 ^ q`; `boundary` says that the step below is half as wide. -/
def Interval.ofParts (m : Nat) (q : Int) (boundary : Bool) : Interval :=
  let scale := 1 <<< (q - 2).toNat
  { low := (4 * m - if boundary then 1 else 2) * scale
    value := 4 * m * scale
    high := (4 * m + 2) * scale
    denominator := 1 <<< (2 - q).toNat
    closed := m % 2 == 0 }

/-- The interval divided by `10 ^ k`. -/
def Interval.shift (i : Interval) (k : Int) : Interval :=
  let up := Nat.pow 10 (-k).toNat
  { i with
    low := i.low * up
    value := i.value * up
    high := i.high * up
    denominator := i.denominator * Nat.pow 10 k.toNat }

/-- Whether a whole number lies in the interval. -/
def Interval.contains (i : Interval) (n : Nat) : Bool :=
  let x := n * i.denominator
  if i.closed then i.low ≤ x && x ≤ i.high else i.low < x && x < i.high

/-- The exponent of the first digit: `10 ^ e` is at most the value and `10 ^ (e + 1)` is more. -/
def Interval.firstExponent (i : Interval) : Int :=
  if i.denominator ≤ i.value then
    ((Nat.toDigits 10 (i.value / i.denominator)).length : Int) - 1
  else
    let size := (Nat.toDigits 10 (i.denominator / i.value)).length
    if i.denominator ≤ i.value * Nat.pow 10 (size - 1) then 1 - (size : Int) else -(size : Int)

/-- The whole number nearest to the value among its two neighbours that lie in the interval; of
two at the same distance the even one. -/
def Interval.nearest? (i : Interval) : Option Nat :=
  let below := i.value / i.denominator
  let rest := i.value % i.denominator
  if rest = 0 then some below
  else
    match i.contains below, i.contains (below + 1) with
    | false, false => none
    | true, false => some below
    | false, true => some (below + 1)
    | true, true =>
      if 2 * rest < i.denominator then some below
      else if i.denominator < 2 * rest then some (below + 1)
      else some (if below % 2 = 0 then below else below + 1)

/-- A positive decimal: its digits as a whole number, and the power of ten they are taken by. -/
structure Digits where
  digits : Nat
  exponent : Int
  deriving DecidableEq, Repr

/-- The first grid, among those with the given counts of digits, that has a point in the
interval. -/
def Interval.firstGrid (i : Interval) (first : Int) : List Nat → Digits
  | [] => ⟨(i.shift (first - 16)).value / (i.shift (first - 16)).denominator, first - 16⟩
  | count :: counts =>
    let k := first - (count : Int) + 1
    match (i.shift k).nearest? with
    | some n => ⟨n, k⟩
    | none => i.firstGrid first counts

/-- The shortest decimal of a finite double that is not zero, without its sign. -/
def shortest (x : Double) : Digits :=
  let (m, q) := x.parts
  let i := Interval.ofParts m q (m == 1 <<< 52 && 1 < x.exponentField)
  i.firstGrid i.firstExponent ((List.range 17).map (· + 1))

/-! ### How a double is written -/

/-- How the digits of a double are laid out. -/
structure Layout where
  /-- The least exponent of a first digit that is written with a decimal point. -/
  leastPositional : Int
  /-- The greatest such exponent. -/
  greatestPositional : Int
  /-- Whether a positive exponent carries a sign. -/
  plusSign : Bool

/-- Numbers from `1e-5` up to `1e16` have a decimal point, with `.0` after a whole number; all
others have an exponent with a sign and no leading zeros, as in `1e-6` and `1e+21`. -/
def Layout.standard : Layout := ⟨-5, 15, true⟩

/-- Drops the zeros at the end of a row of digits. -/
def dropZeros (ds : List Char) : List Char := (ds.reverse.dropWhile (· == '0')).reverse

/-- The exponent's text, from its sign on. -/
def Layout.exponent (form : Layout) (e : Int) : List Char :=
  'e' :: (if e < 0 then ['-'] else if form.plusSign then ['+'] else []) ++ Text.ofNat e.natAbs

/-- The digits, which begin at the power `first` of ten, around a decimal point. -/
def positional (ds : List Char) (first : Int) : List Char :=
  if first < 0 then ['0', '.'] ++ List.replicate (first.natAbs - 1) '0' ++ ds
  else
    let whole := first.toNat + 1
    if ds.length ≤ whole then ds ++ List.replicate (whole - ds.length) '0' ++ ['.', '0']
    else ds.take whole ++ ['.'] ++ ds.drop whole

/-- The digits with one before the point, and an exponent. -/
def Layout.scientific (form : Layout) (ds : List Char) (first : Int) : List Char :=
  (match ds with
    | [] => []
    | [d] => [d]
    | d :: rest => d :: '.' :: rest)
  ++ form.exponent first

/-- The text of a finite double that is not zero, without its sign. -/
def Layout.magnitude (form : Layout) (x : Double) : List Char :=
  let d := shortest x
  let all := Text.ofNat d.digits
  let first := d.exponent + all.length - 1
  let ds := dropZeros all
  if form.leastPositional ≤ first ∧ first ≤ form.greatestPositional then positional ds first
  else form.scientific ds first

/-- The text of a finite double. -/
def Layout.render (form : Layout) (x : Double) : String :=
  String.ofList <|
    (if x.isNegative then ['-'] else []) ++
      if x.isZero then ['0', '.', '0'] else form.magnitude x

end SignIn.Decimal
