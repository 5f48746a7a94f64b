import EntityCompiler.Number.Double

/-!
# The shortest decimal of a double

A finite double is written with the fewest significant digits that still read back as the same
value, and of the decimals with so few digits with the nearest one. The decimals that read back are
those of an interval around the value, whose ends belong to it exactly if the mantissa is even. For
each count of digits only the two neighbours of the value on the grid of that count can be the
nearest decimal, so they alone are tried.

Positional notation is used for values from `10 ^ -4` to below `10 ^ 16`; it has at least one digit
on each side of the point. All other values have an exponent with a sign and two digits or more.
-/

namespace EntityCompiler

/-- A decimal `0.d₁d₂… · 10 ^ point`, its digits held as one number of `count` digits. -/
structure Decimal where
  digits : Nat
  count : Nat
  point : Int
deriving DecidableEq

namespace FiniteDouble

/-- The value, the lower end and the upper end of the interval of reals that round to it, as
numerators over `denominator`. Below a power of two the neighbours are twice as close as above. -/
def interval (x : FiniteDouble) : Nat × Nat × Nat :=
  let unit := Nat.pow 2 x.scale
  let below := if x.mantissa = Nat.pow 2 52 ∧ x.scale ≠ 0 then 1 else 2
  (4 * x.mantissa * unit, (4 * x.mantissa - below) * unit, (4 * x.mantissa + 2) * unit)

/-- The common denominator of the three numerators of `interval`. -/
def denominator : Nat :=
  4 * Nat.pow 2 1074

/-- The `point` with `10 ^ (point - 1) ≤ num / den < 10 ^ point`, for a quotient above zero. -/
def pointOf (num den : Nat) : Int :=
  if den ≤ num then (Nat.toDigits 10 (num / den)).length
  else
    let zeros : Nat := (Nat.toDigits 10 (den / num)).length
    -- the quotient is a power of ten itself, or lies strictly between two of them
    if den ≤ num * Nat.pow 10 (zeros - 1) then 2 - (zeros : Int) else 1 - (zeros : Int)

/-- Of the two neighbours of the value among the decimals of `count` digits, the nearest one that
reads back as the value, a tie going to the even digit; `none` if neither does. -/
def neighbour (x : FiniteDouble) (point : Int) (count : Nat) : Option Nat :=
  let (value, low, high) := x.interval
  -- the grid of `count` digits has the step `10 ^ (point - count)`
  let up := Nat.pow 10 (count - point).toNat
  let step := denominator * Nat.pow 10 (point - count).toNat
  let floor := value * up / step
  let rest := value * up % step
  let even := x.mantissa % 2 == 0
  let inside (d : Nat) : Bool :=
    if even then low * up ≤ d * step && d * step ≤ high * up
    else low * up < d * step && d * step < high * up
  let lower := inside floor
  let upper := inside (floor + 1)
  if lower && upper then
    if 2 * rest < step || (2 * rest == step && floor % 2 == 0) then some floor
    else some (floor + 1)
  else if lower then some floor
  else if upper then some (floor + 1)
  else none

/-- The first of the counts from `count` on that has a decimal reading back as the value. Seventeen
digits always suffice, so the last of `tries` counts is never passed. -/
def searchFrom (x : FiniteDouble) (point : Int) : (tries count : Nat) → Decimal
  | 0, count => ⟨x.mantissa, count, point⟩
  | tries + 1, count =>
    match x.neighbour point count with
    | some d => ⟨d, count, point⟩
    | none => searchFrom x point tries (count + 1)

/-- The shortest decimal that reads back as the magnitude of a value other than zero. -/
def shortest (x : FiniteDouble) : Decimal :=
  searchFrom x (pointOf x.interval.1 denominator) 17 1

/-- The digits of a natural number without the zeros at its end. -/
def significantDigits (n : Nat) : List Char :=
  ((Nat.toDigits 10 n).reverse.dropWhile (· == '0')).reverse

/-- The exponent of a number in scientific notation: a sign and at least two digits. -/
def exponentText (e : Int) : List Char :=
  let digits := Nat.toDigits 10 e.natAbs
  let padded := if digits.length < 2 then '0' :: digits else digits
  'e' :: (if e < 0 then '-' else '+') :: padded

/-- Digits with the point after the first `point` of them, in positional or scientific notation. -/
def layout (digits : List Char) (point : Int) : List Char :=
  if point < -3 || 16 < point then
    match digits with
    | [] => []
    | [d] => d :: exponentText (point - 1)
    | d :: ds => d :: '.' :: ds ++ exponentText (point - 1)
  else if point ≤ 0 then '0' :: '.' :: List.replicate (-point).toNat '0' ++ digits
  else
    let whole := point.toNat
    if digits.length ≤ whole then
      digits ++ List.replicate (whole - digits.length) '0' ++ ['.', '0']
    else digits.take whole ++ '.' :: digits.drop whole

/-- The text of a finite double. -/
def text (x : FiniteDouble) : List Char :=
  let magnitude :=
    if x.mantissa = 0 then ['0', '.', '0']
    else
      let d := x.shortest
      -- rounding up to a power of ten gives one digit more than was asked for
      let extra : Int := (Nat.toDigits 10 d.digits).length - d.count
      layout (significantDigits d.digits) (d.point + extra)
  if x.negative then '-' :: magnitude else magnitude

end FiniteDouble

/-- The text of a double. -/
def Double.text : Double → List Char
  | .nan => "nan".toList
  | .infinite negative => if negative then "-inf".toList else "inf".toList
  | .finite x => x.text

end EntityCompiler
