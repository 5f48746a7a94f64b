import EntityCompiler.Number.Shortest
import EntityCompiler.Text.Basic
import EntityCompiler.Text.Digits

/-!
# Numbers of a document

A document keeps integers, of any size, apart from doubles: `1` and `1.0` are different values and
are written differently. A number may also be given as a text. `Number.ofText?` reads minus signs
and digits as an integer and all other texts as a double; the digits may be those of any script, an
underscore may separate two of them, and white space may surround the number.
-/

namespace EntityCompiler

open Text (isDigit decimalValue? isBlank)

/-- A number of a document. -/
inductive Number where
  | integer (value : Int)
  | double (value : Double)
deriving DecidableEq

namespace Number

/-- Neither infinite nor not a number. -/
def isFinite : Number → Bool
  | integer _ => true
  | double d => d.isFinite

/-- The text of a number. -/
def text : Number → String
  | integer i => String.ofList (Text.integerText i)
  | double d => String.ofList d.text

/-- The longest integer that is read from a text. -/
def maxDigits : Nat := 4300

/-- The number with the given decimal digits; characters that are no digits count as zero. -/
def ofDigits (ds : List Char) : Nat :=
  ds.foldl (fun n d => 10 * n + (decimalValue? d).getD 0) 0

/-- Reads digits, after one minus sign at most. -/
def integerOfText? (cs : List Char) : Option Int :=
  let (negative, digits) := match cs with
    | '-' :: rest => (true, rest)
    | _ => (false, cs)
  if !digits.isEmpty && digits.length ≤ maxDigits && digits.all (decimalValue? · |>.isSome) then
    some (if negative then -(ofDigits digits : Int) else ofDigits digits)
  else none

/-- The white space that may surround a number. -/
def isMargin (c : Char) : Bool :=
  isBlank c && !(28 ≤ c.toNat && c.toNat ≤ 31)

/-- The decimal digit of Western scripts with the same value; other characters stay. -/
def westernDigit (c : Char) : Char :=
  match decimalValue? c with
  | some v => Nat.digitChar v
  | none => c

/-- Drops the underscores; each one must stand between two digits. -/
def withoutSeparators : (afterDigit : Bool) → List Char → Option (List Char)
  | _, [] => some []
  | afterDigit, '_' :: rest =>
    match rest with
    | d :: _ => if afterDigit && d.isDigit then withoutSeparators false rest else none
    | [] => none
  | _, c :: rest => (withoutSeparators c.isDigit rest).map (c :: ·)

/-- Reads an exponent: digits, after a sign at most. -/
def exponentOfText? (cs : List Char) : Option Int :=
  let (negative, digits) := match cs with
    | '-' :: rest => (true, rest)
    | '+' :: rest => (false, rest)
    | _ => (false, cs)
  if !digits.isEmpty && digits.all Char.isDigit then
    some (if negative then -(ofDigits digits : Int) else ofDigits digits)
  else none

/-- Reads a decimal without a sign: digits with a point anywhere among them or none, then perhaps an
exponent. -/
def decimalOfText? (negative : Bool) (cs : List Char) : Option Double :=
  let whole := cs.takeWhile Char.isDigit
  let afterWhole := cs.dropWhile Char.isDigit
  let (fraction, rest) := match afterWhole with
    | '.' :: r => (r.takeWhile Char.isDigit, r.dropWhile Char.isDigit)
    | r => ([], r)
  if whole.isEmpty && fraction.isEmpty then none
  else
    let exponent := match rest with
      | [] => some 0
      | e :: r => if e == 'e' || e == 'E' then exponentOfText? r else none
    exponent.map fun e =>
      Double.ofDecimal negative (ofDigits (whole ++ fraction)) (e - fraction.length)

/-- Reads a double without a sign: a decimal, or one of the names of the values that are not
finite. -/
def magnitudeOfText? (negative : Bool) (cs : List Char) : Option Double :=
  let word := String.ofList (cs.map Char.toLower)
  if word == "inf" || word == "infinity" then some (.infinite negative)
  else if word == "nan" then some .nan
  else decimalOfText? negative cs

/-- Reads a double. -/
def doubleOfText? (cs : List Char) : Option Double := do
  let inner := ((cs.dropWhile isMargin).reverse.dropWhile isMargin).reverse
  let plain ← withoutSeparators false (inner.map westernDigit)
  match plain with
  | '-' :: rest => magnitudeOfText? true rest
  | '+' :: rest => magnitudeOfText? false rest
  | _ => magnitudeOfText? false plain

/-- Reads a number: an integer if there is nothing but minus signs and digits, else a double. -/
def ofText? (s : String) : Option Number :=
  let cs := s.toList
  let unsigned := cs.dropWhile (· == '-')
  if !unsigned.isEmpty && unsigned.all isDigit then (integerOfText? cs).map integer
  else (doubleOfText? cs).map double

end Number

end EntityCompiler
