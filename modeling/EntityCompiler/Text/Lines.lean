import EntityCompiler.Text.Basic

/-!
# Lines

A text falls into lines at every character that breaks a line; a carriage return and the line feed
after it break it once. No empty line follows a break at the very end. Indenting comes in two forms:
`indent` marks the lines that are not blank and keeps every break as it is, `indentTail` leaves the
first line alone and ends all lines alike.
-/

namespace EntityCompiler.Text

/-- The characters that end a line. -/
def isBreak (c : Char) : Bool :=
  let n := c.toNat
  (10 ≤ n && n ≤ 13) || (28 ≤ n && n ≤ 30) || n == 0x85 || n == 0x2028 || n == 0x2029

/-- A line: what it holds, and the break that ends it, which only the last line may lack. -/
structure Line where
  content : List Char
  ending : List Char
deriving DecidableEq, Inhabited

namespace Line

/-- The line as it stands in its text. -/
def whole (l : Line) : List Char :=
  l.content ++ l.ending

/-- The line with one more character in front. -/
def cons (c : Char) (l : Line) : Line :=
  { l with content := c :: l.content }

end Line

/-- The lines of a text, in order. -/
def lines : List Char → List Line
  | [] => []
  | '\r' :: '\n' :: rest => ⟨[], ['\r', '\n']⟩ :: lines rest
  | c :: rest =>
    if isBreak c then ⟨[], [c]⟩ :: lines rest
    else match lines rest with
      | [] => [⟨[c], []⟩]
      | l :: ls => l.cons c :: ls

/-- A text whose lines that are not blank start with `margin`; every break is kept. -/
def indent (margin text : List Char) : List Char :=
  (lines text).flatMap fun l => if allBlank l.whole then l.whole else margin ++ l.whole

/-- Pieces of text with `between` from each one to the next. -/
def joined (between : List Char) : List (List Char) → List Char
  | [] => []
  | [x] => x
  | x :: y :: rest => x ++ between ++ joined between (y :: rest)

/-- A text whose lines after the first start with `margin`, unless they are empty. The lines are
separated by line feeds, whatever broke them before. -/
def indentTail (margin text : List Char) : List Char :=
  match lines text with
  | [] => []
  | first :: others =>
    joined ['\n'] (first.content :: others.map fun l =>
      if l.content.isEmpty then [] else margin ++ l.content)

end EntityCompiler.Text
