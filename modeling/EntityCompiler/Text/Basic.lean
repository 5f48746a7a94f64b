/-!
# Parts of texts

White space and trimming, the first place where a text holds another one, and the text between two
places. A place in a text is the number of bytes in front of it.
-/

namespace EntityCompiler.Text

/-- What holds of all characters of a text is decided on the text, and not on all characters there
are. -/
instance decidableOnText (cs : List Char) (p : Char → Prop) [DecidablePred p] :
    Decidable (∀ c ∈ cs, p c) :=
  List.decidableBAll p cs

/-! ## White space -/

/-- The characters that Unicode calls white space, together with the four separators `0x1c` to
`0x1f`. The zero-width space and the byte order mark are not among them. -/
def isBlank (c : Char) : Bool :=
  let n := c.toNat
  (9 ≤ n && n ≤ 13) || (28 ≤ n && n ≤ 32) || n == 0x85 || n == 0xa0 || n == 0x1680
    || (0x2000 ≤ n && n ≤ 0x200a) || n == 0x2028 || n == 0x2029 || n == 0x202f || n == 0x205f
    || n == 0x3000

/-- A text without the white space at its end. -/
def trimEnd (cs : List Char) : List Char :=
  (cs.reverse.dropWhile isBlank).reverse

/-- A text without the white space at its two ends. -/
def trim (cs : List Char) : List Char :=
  trimEnd (cs.dropWhile isBlank)

/-- A text that holds nothing but white space, or nothing at all. -/
def allBlank (cs : List Char) : Bool :=
  cs.all isBlank

/-! ## Searching -/

/-- What stands before and after the first occurrence of `pattern` in a text. -/
def splitAt? (pattern : List Char) : List Char → Option (List Char × List Char)
  | [] => if pattern.isEmpty then some ([], []) else none
  | c :: cs =>
    if pattern.isPrefixOf (c :: cs) then some ([], (c :: cs).drop pattern.length)
    else (splitAt? pattern cs).map fun (before, after) => (c :: before, after)

/-- Does `pattern` occur in the text? -/
def occurs (pattern text : List Char) : Bool :=
  (splitAt? pattern text).isSome

/-! ## Places -/

/-- The number of bytes of a text, in UTF-8. -/
def size : List Char → Nat
  | [] => 0
  | c :: cs => c.utf8Size + size cs

/-- What stands before and behind a place, unless it is inside a character. All of a text stands
before the places beyond its end. -/
def splitAtPlace? : (place : Nat) → List Char → Option (List Char × List Char)
  | _, [] => some ([], [])
  | place, c :: cs =>
    if place = 0 then some ([], c :: cs)
    else if c.utf8Size ≤ place then
      (splitAtPlace? (place - c.utf8Size) cs).map fun (before, behind) => (c :: before, behind)
    else none

/-- The text from one place to another, unless it starts or ends inside a character. -/
def slice? (cs : List Char) (start stop : Nat) : Option (List Char) :=
  if stop ≤ start then some []
  else do
    let (_, behind) ← splitAtPlace? start cs
    let (text, _) ← splitAtPlace? (stop - start) behind
    return text

/-- The line and the column of a place, counted on from those of the start of a text. Only line
feeds break a line here, and a column is as wide as a byte. -/
def positionOf : (line column place : Nat) → List Char → Nat × Nat
  | line, column, _, [] => (line, column)
  | line, column, place, c :: cs =>
    if place = 0 then (line, column)
    else if c == '\n' then positionOf (line + 1) 1 (place - 1) cs
    else positionOf line (column + min place c.utf8Size) (place - c.utf8Size) cs

end EntityCompiler.Text
