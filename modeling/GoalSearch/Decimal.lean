/-!
# Double precision numbers

The numbers `m * 2 ^ q` with `m` below `2 ^ 53` and `q` from -1074 to 971, which are the finite
double precision numbers, the one nearest to a decimal, and the shortest decimal nearest to one.
-/

namespace GoalSearch.Decimal

/-! ## Fractions -/

/-- A fraction of naturals, the second of which is positive. -/
structure Fraction where
  num : Nat
  den : Nat

namespace Fraction

def scale (a : Fraction) (base : Nat) (power : Int) : Fraction :=
  if 0 ≤ power then ⟨a.num * Nat.pow base power.toNat, a.den⟩
  else ⟨a.num, a.den * Nat.pow base (-power).toNat⟩

/-- The fraction `n * base ^ power`. -/
def ofPower (n base : Nat) (power : Int) : Fraction := scale ⟨n, 1⟩ base power

def lt (a b : Fraction) : Bool := a.num * b.den < b.num * a.den

def floor (a : Fraction) : Nat := a.num / a.den

/-- The natural nearest to a fraction, of two equally near ones the even one. -/
def round (a : Fraction) : Nat :=
  let twiceRest := 2 * (a.num % a.den)
  if twiceRest < a.den then a.floor
  else if a.den < twiceRest then a.floor + 1
  else a.floor + a.floor % 2

end Fraction

/-! ## The number nearest to a decimal -/

inductive Binary64 where
  /-- The number `mantissa * 2 ^ exponent`, or its negative. -/
  | finite (negative : Bool) (mantissa : Nat) (exponent : Int)
  | infinite (negative : Bool)
  | nan
deriving DecidableEq, Repr

namespace Binary64

/-- The least natural that is too large for a mantissa. -/
def mantissaBound : Nat := Nat.pow 2 53

def leastExponent : Int := -1074

def greatestExponent : Int := 971

/-- The least exponent at which a fraction has a mantissa. The logarithms of its parts tell it up to
one. -/
def fittingExponent (a : Fraction) : Int :=
  let guess : Int := (Nat.log2 a.num : Int) - Nat.log2 a.den - 53
  let fitting := if (a.scale 2 (-guess)).floor < mantissaBound then guess else guess + 1
  if fitting < leastExponent then leastExponent else fitting

/-- The number nearest to a fraction, a tie to the even mantissa. -/
def ofFraction (negative : Bool) (a : Fraction) : Binary64 :=
  let exponent := fittingExponent a
  let rounded := (a.scale 2 (-exponent)).round
  let (mantissa, exponent) :=
    if rounded = mantissaBound then (rounded / 2, exponent + 1) else (rounded, exponent)
  if greatestExponent < exponent then .infinite negative else .finite negative mantissa exponent

/-- The number nearest to `digits * 10 ^ power`. A decimal of more than 310 places before the point
is beyond the finite numbers, one below 330 places after it rounds to zero. -/
def ofDecimal (negative : Bool) (digits : Nat) (power : Int) : Binary64 :=
  let places : Int := (Nat.toDigits 10 digits).length + power
  if digits = 0 || places < -330 then .finite negative 0 leastExponent
  else if 310 < places then .infinite negative
  else ofFraction negative (.ofPower digits 10 power)

end Binary64

/-! ## The shortest decimal

Of the decimals that lie nearer to a double precision number than to any other, the ones with the
fewest digits are looked at, and of those the nearest to the number is taken. It is found grid by
grid, with one digit, two digits and so on: if any point of a grid is near enough, then one of the
number's two neighbours on that grid is.
-/

/-- The fractions that round to a double precision number. -/
structure Interval where
  lower : Fraction
  upper : Fraction
  /-- Whether the ends belong to it. -/
  closed : Bool

/-- The interval around `mantissa * 2 ^ exponent`. Its ends are half way to the neighbours, of which
the lower one is half as far away if the mantissa is the least of its length. -/
def Interval.around (mantissa : Nat) (exponent : Int) : Interval where
  lower :=
    if 2 * mantissa = Binary64.mantissaBound && Binary64.leastExponent < exponent then
      .ofPower (4 * mantissa - 1) 2 (exponent - 2)
    else .ofPower (2 * mantissa - 1) 2 (exponent - 1)
  upper := .ofPower (2 * mantissa + 1) 2 (exponent - 1)
  closed := mantissa % 2 = 0

def Interval.contains (i : Interval) (a : Fraction) : Bool :=
  if i.closed then !a.lt i.lower && !i.upper.lt a else i.lower.lt a && a.lt i.upper

/-- The greatest multiple of `10 ^ power` that is not above a fraction, as a factor. -/
def floorOn (a : Fraction) (power : Int) : Nat := (a.scale 10 (-power)).floor

/-- Whether a fraction is nearer to a multiple of `10 ^ power` than to the next one above it. -/
def isNearer (a : Fraction) (lower : Nat) (power : Int) : Bool :=
  Fraction.lt ⟨2 * a.num, a.den⟩ (.ofPower (2 * lower + 1) 10 power)

/-- The point of the grid of multiples of `10 ^ power` that is nearest to a fraction among those of
an interval, the upper one of two equally near. -/
def pointOn? (i : Interval) (a : Fraction) (power : Int) : Option Nat :=
  let lower := floorOn a power
  let hasLower := i.contains (.ofPower lower 10 power)
  let hasUpper := i.contains (.ofPower (lower + 1) 10 power)
  if hasLower && (!hasUpper || isNearer a lower power) then some lower
  else if hasUpper then some (lower + 1)
  else none

/-- The first point found on grids that get finer by a factor of ten, with its power of ten. -/
def firstPoint (i : Interval) (a : Fraction) : (grids : Nat) → (power : Int) → Nat × Int
  | 0, power => (floorOn a power, power)
  | grids + 1, power =>
    match pointOn? i a power with
    | some n => (n, power)
    | none => firstPoint i a grids (power - 1)

/-- The greatest power of ten that is not above a positive fraction, looked for downwards. -/
def leadingPower (a : Fraction) : (tries : Nat) → (power : Int) → Int
  | 0, power => power
  | tries + 1, power => if floorOn a power = 0 then leadingPower a tries (power - 1) else power

/-- The digits of the shortest decimal of `mantissa * 2 ^ exponent` as a natural, and the power of
ten they are to be multiplied by. Seventeen digits always suffice. The first grid is one above the
leading power, where a number just below a power of ten has its only digit. -/
def shortest (mantissa : Nat) (exponent : Int) : Nat × Int :=
  if mantissa = 0 then (0, 0)
  else
    let a := Fraction.ofPower mantissa 2 exponent
    firstPoint (.around mantissa exponent) a 18 (leadingPower a 640 309 + 1)

/-- The text of `digits * 10 ^ power` with a point and at least one digit on either side of it. -/
def positional (digits : Nat) (power : Int) : List Char :=
  let ds := Nat.toDigits 10 digits
  if 0 ≤ power then ds ++ List.replicate power.toNat '0' ++ ['.', '0']
  else
    let places := (-power).toNat
    let padded := List.replicate (places + 1 - ds.length) '0' ++ ds
    padded.take (padded.length - places) ++ '.' :: padded.drop (padded.length - places)

/-- The text of a double precision number: the shortest decimal, never with an exponent. -/
def Binary64.text : Binary64 → String
  | .finite negative mantissa exponent =>
    let (digits, power) := shortest mantissa exponent
    String.ofList ((if negative then ['-'] else []) ++ positional digits power)
  | .infinite negative => if negative then "-inf" else "inf"
  | .nan => "NaN"

end GoalSearch.Decimal
