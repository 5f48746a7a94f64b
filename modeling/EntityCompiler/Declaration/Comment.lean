import EntityCompiler.Contract
import EntityCompiler.Outline

/-!
# Documentation comments

A description becomes a comment in which it stands line by line behind an asterisk. Whatever would
close the comment inside of it is taken apart by a backslash.
-/

namespace EntityCompiler

/-- A documentation comment, with its delimiters. -/
structure DocComment where
  text : String
deriving DecidableEq, Inhabited

namespace DocComment

/-- What a comment starts with. -/
def opening : List Char := ['/', '*', '*']

/-- What a comment ends with. -/
def closing : List Char := ['*', '/']

/-- A comment, if it is opened and closed, and not closed in between. -/
def checked (comment : DocComment) : Outcome DocComment := do
  let cs := comment.text.toList
  Outcome.require .commentClosedAtEnd (opening.isPrefixOf cs && closing.isSuffixOf cs)
  Outcome.require .commentClosedAtEnd (!Text.occurs closing ((cs.take (cs.length - 2)).drop 3))
  return comment

/-- A text with every end of a comment in it taken apart. -/
def escape : List Char → List Char
  | '*' :: '/' :: rest => '*' :: '\x5c' :: '/' :: escape rest
  | c :: rest => c :: escape rest
  | [] => []

/-- The line break and the asterisk that every line of a comment starts with. -/
def lineStart : List Char := ['\n', ' ', '*', ' ']

/-- The characters of the comment for a description. -/
def charsOf (description : List Char) : List Char :=
  opening ++ lineStart
    ++ (escape description).flatMap (fun c => if c == '\n' then lineStart else [c])
    ++ '\n' :: ' ' :: closing

/-- The comment for a description. -/
def ofText (description : String) : Outcome DocComment :=
  checked ⟨String.ofList (charsOf description.toList)⟩

/-- The comment for a description, if there is one that is not empty. -/
def ofText? (description : Option String) : Outcome (Option DocComment) :=
  match description with
  | none => .ok none
  | some text => if text.isEmpty then .ok none else (ofText text).map some

/-- The outline of a comment. -/
def outline (comment : DocComment) : Outline :=
  .record "DocComment" [("text", .text comment.text)]

end DocComment

end EntityCompiler
