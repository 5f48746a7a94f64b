/-!
# Double-precision numbers

The values of the 64-bit binary floating-point format, as exact integers: a finite value is `±
mantissa · 2 ^ (scale - 1074)`. Each value has one representation, since a mantissa of fewer than 53
bits is allowed only at scale zero. The nearest value to a quotient of natural numbers is found by
one division; a quotient half way between two values goes to the one with an even mantissa.
-/

namespace EntityCompiler

/-- The one pair of mantissa and scale of each magnitude: 53 bits unless the scale is zero. -/
def IsCanonical (mantissa scale : Nat) : Prop :=
  mantissa < Nat.pow 2 53 ∧ scale ≤ 2045 ∧ (scale = 0 ∨ Nat.pow 2 52 ≤ mantissa)

instance (mantissa scale : Nat) : Decidable (IsCanonical mantissa scale) :=
  inferInstanceAs (Decidable (_ ∧ _ ∧ _))

/-- A finite double: `± mantissa · 2 ^ (scale - 1074)`. -/
structure FiniteDouble where
  negative : Bool
  mantissa : Nat
  scale : Nat
  canonical : IsCanonical mantissa scale
deriving DecidableEq

/-- A double: a finite one, an infinity, or the value that is not a number. -/
inductive Double where
  | nan
  | infinite (negative : Bool)
  | finite (value : FiniteDouble)
deriving DecidableEq

namespace Double

/-- Neither infinite nor not a number. -/
def isFinite : Double → Bool
  | .finite _ => true
  | _ => false

/-- The double with these parts; a scale beyond the range gives an infinity. -/
def ofParts (negative : Bool) (mantissa scale : Nat) : Double :=
  if h : IsCanonical mantissa scale then .finite ⟨negative, mantissa, scale, h⟩
  else .infinite negative

/-- The quotient of `num` by `den` rounded to the nearest natural number, a half to the even one. -/
def roundedDiv (num den : Nat) : Nat :=
  let floor := num / den
  let rest := 2 * (num % den)
  if den < rest || (rest == den && floor % 2 == 1) then floor + 1 else floor

/-- The double nearest to `num / den`. -/
def ofQuotient (negative : Bool) (num den : Nat) : Double :=
  let scaled := num * Nat.pow 2 1074
  let scale := (scaled / den).log2 - 52
  let mantissa := roundedDiv scaled (den * Nat.pow 2 scale)
  -- rounding up can carry into a 54th bit
  if mantissa == Nat.pow 2 53 then ofParts negative (Nat.pow 2 52) (scale + 1)
  else ofParts negative mantissa scale

/-- The double nearest to `± significand · 10 ^ exponent`. Exponents that are out of range whatever
the digits of the significand are settled without computing the power. -/
def ofDecimal (negative : Bool) (significand : Nat) (exponent : Int) : Double :=
  if significand = 0 then ofParts negative 0 0
  else
    let magnitude : Int := exponent + (Nat.toDigits 10 significand).length
    if 400 < magnitude then .infinite negative
    else if magnitude < -400 then ofParts negative 0 0
    else if 0 ≤ exponent then ofQuotient negative (significand * Nat.pow 10 exponent.toNat) 1
    else ofQuotient negative significand (Nat.pow 10 (-exponent).toNat)

end Double

end EntityCompiler
