import EntityCompiler.Text.Basic

/-!
# Gaps between tokens

White space and comments may stand between any two tokens of a script. `Gap.before` reads all of
them up to the next token. What stands behind each comment is kept too, since a statement can end
there.
-/

namespace EntityCompiler

/-- The white space of a script, as its grammar has it. Other than in Unicode, the zero-width space,
the word joiner and the byte order mark are among it. -/
def isScriptBlank (c : Char) : Bool :=
  let n := c.toNat
  (9 ≤ n && n ≤ 13) || n == 32 || n == 0xa0 || n == 0x1680 || (0x2000 ≤ n && n ≤ 0x200b)
    || n == 0x2028 || n == 0x2029 || n == 0x202f || n == 0x205f || n == 0x2060 || n == 0x3000
    || n == 0xfeff

/-- The characters that a line comment ends before. -/
def endsComment (c : Char) : Bool :=
  c == '\n' || c == '\r' || c.toNat == 0x2028 || c.toNat == 0x2029

/-- Reads a comment that the text starts with: its characters and the text behind it. -/
def comment? : List Char → Option (List Char × List Char)
  | '/' :: '/' :: rest =>
    some ('/' :: '/' :: rest.takeWhile (!endsComment ·), rest.dropWhile (!endsComment ·))
  | '/' :: '*' :: rest =>
    (Text.splitAt? ['*', '/'] rest).map fun (inner, after) =>
      ('/' :: '*' :: inner ++ ['*', '/'], after)
  | _ => none

/-- A comment in a gap: the white space in front of it, its text, and the text behind it. -/
structure GapComment where
  blank : List Char
  text : List Char
  behind : List Char

/-- The white space and the comments before a token. -/
structure Gap where
  comments : List GapComment
  /-- The white space behind the last comment. -/
  blank : List Char
  /-- The text from the token on. -/
  rest : List Char

namespace Gap

/-- Reads the gap at the start of a text. Each comment takes a character of `bound`, so a text as
long as the one that is read is bound enough. -/
def read : (bound : List Char) → List Char → Gap
  | [], cs => ⟨[], [], cs⟩
  | _ :: bound, cs =>
    let blank := cs.takeWhile isScriptBlank
    let after := cs.dropWhile isScriptBlank
    match comment? after with
    | none => ⟨[], blank, after⟩
    | some (text, behind) =>
      let others := read bound behind
      { others with comments := ⟨blank, text, behind⟩ :: others.comments }

/-- The gap that a text starts with. -/
def before (cs : List Char) : Gap :=
  match cs with
  | [] => ⟨[], [], []⟩
  | c :: _ => if isScriptBlank c || c == '/' then read cs cs else ⟨[], [], cs⟩

end Gap

end EntityCompiler
