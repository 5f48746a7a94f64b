import EntityCompiler.Value.Basic

/-!
# Reading JSON

`Value.ofJson?` reads a JSON text. Integers stay integers whatever their size, a number with a
fraction or an exponent is a double, and of two entries with the same key the first gives the place
and the last the value. The words for the doubles that are not finite are accepted too.
-/

namespace EntityCompiler.Value

open EntityCompiler

/-- The white space of JSON. -/
def isJsonBlank (c : Char) : Bool :=
  c == ' ' || c == '\t' || c == '\n' || c == '\r'

/-- The text from the first character that is not white space on. -/
def skipBlank (cs : List Char) : List Char :=
  cs.dropWhile isJsonBlank

/-- The value of a hexadecimal digit. -/
def hexValue? (c : Char) : Option Nat :=
  if c.isDigit then some (c.toNat - 48)
  else if 'a' ≤ c && c ≤ 'f' then some (c.toNat - 87)
  else if 'A' ≤ c && c ≤ 'F' then some (c.toNat - 55)
  else none

/-- The value of four hexadecimal digits. -/
def hexUnit? (a b c d : Char) : Option Nat := do
  some (((← hexValue? a) * 16 + (← hexValue? b)) * 256 + (← hexValue? c) * 16 + (← hexValue? d))

/-- Reads the rest of a text after its opening quote. -/
def readText : (fuel : Nat) → List Char → (done : List Char) → Option (String × List Char)
  | 0, _, _ => none
  | fuel + 1, cs, done =>
    match cs with
    | '\x22' :: rest => some (String.ofList done.reverse, rest)
    | '\x5c' :: 'u' :: a :: b :: c :: d :: rest => do
      let unit ← hexUnit? a b c d
      if 0xd800 ≤ unit && unit < 0xdc00 then
        -- the first half of a pair
        match rest with
        | '\x5c' :: 'u' :: a :: b :: c :: d :: rest => do
          let low ← hexUnit? a b c d
          if 0xdc00 ≤ low && low < 0xe000 then
            readText fuel rest
              (Char.ofNat (0x10000 + (unit - 0xd800) * 0x400 + (low - 0xdc00)) :: done)
          else none
        | _ => none
      else readText fuel rest (Char.ofNat unit :: done)
    | '\x5c' :: e :: rest =>
      let plain : Option Char :=
        if e == '\x22' || e == '\x5c' || e == '/' then some e
        else if e == 'b' then some '\x08'
        else if e == 'f' then some '\x0c'
        else if e == 'n' then some '\n'
        else if e == 'r' then some '\r'
        else if e == 't' then some '\t'
        else none
      plain.bind fun c => readText fuel rest (c :: done)
    | c :: rest => readText fuel rest (c :: done)
    | [] => none

/-- Reads digits, at least one. -/
def readDigits (cs : List Char) : Option (List Char × List Char) :=
  let digits := cs.takeWhile Char.isDigit
  if digits.isEmpty then none else some (digits, cs.dropWhile Char.isDigit)

/-- Reads the exponent of a number, if there is one. -/
def readExponent (cs : List Char) : Option (Option Int × List Char) :=
  match cs with
  | e :: rest =>
    if e == 'e' || e == 'E' then
      let (negative, digits) := match rest with
        | '-' :: r => (true, r)
        | '+' :: r => (false, r)
        | r => (false, r)
      (readDigits digits).map fun (ds, rest) =>
        (some (if negative then -(Number.ofDigits ds : Int) else Number.ofDigits ds), rest)
    else some (none, cs)
  | [] => some (none, cs)

/-- Reads a number without its sign. -/
def readNumber (negative : Bool) (cs : List Char) : Option (Number × List Char) := do
  let (whole, rest) ← readDigits cs
  let (fraction, rest) := match rest with
    | '.' :: r =>
      match readDigits r with
      | some (ds, r) => (some ds, r)
      | none => (none, rest)
    | r => (none, r)
  let (exponent, rest) ← readExponent rest
  match fraction, exponent with
  | none, none =>
    let n : Int := Number.ofDigits whole
    some (.integer (if negative then -n else n), rest)
  | _, _ =>
    let ds := fraction.getD []
    let double := Double.ofDecimal negative (Number.ofDigits (whole ++ ds))
      (exponent.getD 0 - ds.length)
    some (.double double, rest)

/-- The text after a word, if the text starts with it. -/
def afterWord? (word : String) (cs : List Char) : Option (List Char) :=
  if word.toList.isPrefixOf cs then some (cs.drop word.length) else none

/-- The words that are values, with these values. -/
def words : List (String × Value) :=
  [("null", .null), ("true", .bool true), ("false", .bool false),
    ("NaN", .number (.double .nan)), ("Infinity", .number (.double (.infinite false))),
    ("-Infinity", .number (.double (.infinite true)))]

mutual

/-- Reads a value; the text starts with it. -/
def readValue : (fuel : Nat) → List Char → Option (Value × List Char)
  | 0, _ => none
  | fuel + 1, cs =>
    match words.findSome? fun (w, v) => (afterWord? w cs).map (v, ·) with
    | some found => some found
    | none =>
      match cs with
      | '\x22' :: rest => (readText (rest.length + 1) rest []).map fun (s, r) => (.text s, r)
      | '[' :: rest =>
        match skipBlank rest with
        | ']' :: r => some (.list [], r)
        | r => (readItems fuel r).map fun (vs, r) => (.list vs, r)
      | '\x7b' :: rest =>
        match skipBlank rest with
        | '\x7d' :: r => some (.object [], r)
        | r => (readEntries fuel r []).map fun (es, r) => (.object es, r)
      | '-' :: rest => (readNumber true rest).map fun (n, r) => (.number n, r)
      | _ => (readNumber false cs).map fun (n, r) => (.number n, r)

/-- Reads the items of a list that has any, up to its end. -/
def readItems : (fuel : Nat) → List Char → Option (List Value × List Char)
  | 0, _ => none
  | fuel + 1, cs => do
    let (v, rest) ← readValue fuel cs
    match skipBlank rest with
    | ',' :: r => (readItems fuel (skipBlank r)).map fun (vs, r) => (v :: vs, r)
    | ']' :: r => some ([v], r)
    | _ => none

/-- Reads the entries of an object that has any, up to its end. -/
def readEntries : (fuel : Nat) → List Char → (done : Fields) → Option (Fields × List Char)
  | 0, _, _ => none
  | fuel + 1, cs, done =>
    match cs with
    | '\x22' :: rest => do
      let (key, rest) ← readText (rest.length + 1) rest []
      match skipBlank rest with
      | ':' :: r => do
        let (v, rest) ← readValue fuel (skipBlank r)
        let done := Fields.put done key v
        match skipBlank rest with
        | ',' :: r => readEntries fuel (skipBlank r) done
        | '\x7d' :: r => some (done, r)
        | _ => none
      | _ => none
    | _ => none

end

/-- The value that a JSON text stands for. -/
def ofJson? (s : String) : Option Value :=
  let cs := s.toList
  match readValue (2 * (cs.length + 1)) (skipBlank cs) with
  | some (v, rest) => if (skipBlank rest).isEmpty then some v else none
  | none => none

end EntityCompiler.Value
