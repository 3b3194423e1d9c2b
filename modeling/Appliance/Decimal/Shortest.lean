/-!
# Shortest decimals

A finite double is a natural number times a power of two. Its shortest decimal is the one with the
fewest digits among those that round to it, and the nearest of these; of two equally near ones the
one with an even last digit. The digits are found in exact arithmetic: the first decimal grid, from
coarse to fine, that has a point in the interval of reals that round to the double.
-/

namespace Appliance

/-- A number in the binary interchange format of 64 bits, by its bits. -/
structure Double where
  bits : UInt64
  deriving DecidableEq, Repr, Inhabited

namespace Double

/-- The double that a computed value is. -/
def ofFloat (x : Float) : Double := ⟨x.toBits⟩

/-- The value of a double, to compute with. -/
def toFloat (x : Double) : Float := Float.ofBits x.bits

/-- The nearest double of an integer, ties to even. -/
def ofInt (n : Int) : Double :=
  ofFloat (Float.ofInt n)

/-- The sign bit. -/
def isNegative (x : Double) : Bool := x.bits ≥ 0x8000000000000000

/-- The eleven bits of the exponent. -/
def exponentBits (x : Double) : Nat := x.bits.toNat / 4503599627370496 % 2048

/-- The fifty-two bits of the fraction. -/
def fractionBits (x : Double) : Nat := x.bits.toNat % 4503599627370496

/-- A double that is neither infinite nor no number. -/
def isFinite (x : Double) : Bool := x.exponentBits != 2047

/-- Either zero. -/
def isZero (x : Double) : Bool := x.exponentBits == 0 && x.fractionBits == 0

/-- The natural number m of the magnitude m · 2^q of a finite double. -/
def significand (x : Double) : Nat :=
  if x.exponentBits = 0 then x.fractionBits else 4503599627370496 + x.fractionBits

/-- The exponent q of the magnitude m · 2^q of a finite double. -/
def scale (x : Double) : Int := (max x.exponentBits 1 : Nat) - 1075

end Double

/-- Digits and a power of ten: the number `digits` · 10^`exponent`. -/
structure Decimal where
  digits : Nat
  exponent : Int
  deriving DecidableEq, Repr

namespace Decimal

/-- A positive power as a natural number, and one for any other. -/
def power (base : Nat) (e : Int) : Nat := Nat.pow base e.toNat

/-- How a · 10^p and b · 2^q compare. -/
def compareScaled (a : Nat) (p : Int) (b : Nat) (q : Int) : Ordering :=
  compare (a * power 10 p * power 2 (-q)) (b * power 2 q * power 10 (-p))

/-- The greatest of some exponents in a row from a given one on whose powers of ten are not above a
fraction, if that holds of the first of them. -/
def climb (numerator denominator : Nat) : Nat → Int → Int
  | 0, e => e
  | n + 1, e =>
    if denominator * power 10 (e + 1) ≤ numerator * power 10 (-(e + 1)) then
      climb numerator denominator n (e + 1)
    else e

/-- The exponent of the greatest power of ten that is not above a positive fraction. The lengths of
its terms in bits give an estimate from below that is at most two too small. -/
def magnitude (numerator denominator : Nat) : Int :=
  let bits := (numerator.log2 : Int) - denominator.log2 - 1
  climb numerator denominator 4 (bits * 30103 / 100000 - 1)

/-- Whether the point c · 10^p rounds to m · 2^q. The interval of such points reaches half a unit
up and half a unit down, or a quarter down where the unit below is smaller, and holds its ends iff
m is even. -/
def roundsTo (x : Double) (c : Nat) (p : Int) : Bool :=
  let m := x.significand
  let low := if x.fractionBits = 0 ∧ x.exponentBits > 1 then 4 * m - 1 else 4 * m - 2
  let fromLow := compareScaled c p low (x.scale - 2)
  let fromHigh := compareScaled c p (4 * m + 2) (x.scale - 2)
  let closed := m % 2 == 0
  (fromLow == .gt || (closed && fromLow == .eq)) &&
    (fromHigh == .lt || (closed && fromHigh == .eq))

/-- The nearest point of the grid of multiples of 10^p that rounds to a double, if there is one:
one of the two neighbours of the double on the grid. -/
def nearestOnGrid (x : Double) (p : Int) : Option Nat :=
  let m := x.significand
  let numerator := m * power 2 x.scale * power 10 (-p)
  let denominator := power 2 (-x.scale) * power 10 p
  let below := numerator / denominator
  let twice := 2 * (numerator % denominator)
  match roundsTo x below p, roundsTo x (below + 1) p with
  | true, true =>
    if twice < denominator then some below
    else if denominator < twice then some (below + 1)
    else some (if below % 2 = 0 then below else below + 1)
  | true, false => some below
  | false, true => some (below + 1)
  | false, false => none

/-- The first hit on the grids of a number of digits, of one digit more, and so on. -/
def search (x : Double) : Nat → Int → Decimal
  | 0, _ => ⟨0, 0⟩
  | n + 1, p =>
    match nearestOnGrid x p with
    | some c => ⟨c, p⟩
    | none => search x n (p - 1)

/-- The decimal without the zeros at the end of its digits. -/
def dropZeros : Nat → Decimal → Decimal
  | 0, d => d
  | n + 1, d => if d.digits % 10 = 0 then dropZeros n ⟨d.digits / 10, d.exponent + 1⟩ else d

/-- The shortest decimal of the magnitude of a finite double other than zero. Seventeen digits are
always enough. -/
def shortest (x : Double) : Decimal :=
  let top := magnitude (x.significand * power 2 x.scale) (power 2 (-x.scale))
  dropZeros 17 (search x 17 top)

/-- How the digits of a decimal are laid out. -/
structure Layout where
  /-- The least number of places before the point, negative where zeros follow the point, for
  which a number is written without an exponent. -/
  leastPlaces : Int
  /-- The greatest number of places before the point for which a number is written without an
  exponent. -/
  mostPlaces : Int
  /-- What marks the exponent. -/
  mark : String
  /-- The sign of an exponent that is not negative. -/
  plus : String
  /-- What follows an integer. -/
  integerTail : String

/-- A decimal in a layout. -/
def Layout.write (layout : Layout) (d : Decimal) : String :=
  let digits := Nat.toDigits 10 d.digits
  let places := (digits.length : Int) + d.exponent
  let zeros (n : Int) := List.replicate n.toNat '0'
  let pointed (whole part : List Char) :=
    if part.isEmpty then String.ofList whole else String.ofList (whole ++ '.' :: part)
  if layout.leastPlaces ≤ places ∧ places ≤ layout.mostPlaces then
    if 0 ≤ d.exponent then String.ofList (digits ++ zeros d.exponent) ++ layout.integerTail
    else if 0 < places then pointed (digits.take places.toNat) (digits.drop places.toNat)
    else pointed ['0'] (zeros (-places) ++ digits)
  else
    let exponent := places - 1
    let sign := if exponent < 0 then "-" else layout.plus
    pointed (digits.take 1) (digits.drop 1) ++ layout.mark ++ sign ++
      String.ofList (Nat.toDigits 10 exponent.natAbs)

end Decimal

end Appliance
