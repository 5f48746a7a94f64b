import EntityCompiler.Script.Fragment
import EntityCompiler.Script.Grammar
import EntityCompiler.Script.Receiver
import EntityCompiler.Script.Wrapper

/-!
# Reading scripts

`Grammar.parser` reads the body of a function by the rules of the grammar. It stands in for the
tree-sitter parser of JavaScript, which is not part of this development: what is proved of blocks
for any parser holds with either. Where both read a script, they are meant to make the same tree of
it, but this parser reads fewer scripts; the module on the grammar says which it refuses. The tree
of a script that it does not read covers just the first character that cannot stand where it does,
while the other parser covers as much as it cannot make sense of. The blocks of scripts and the
bodies of methods are read with this parser.
-/

namespace EntityCompiler

namespace Grammar

/-- How deep the rules can be nested while a text of the given length is read. The depth that one
token can add is bounded by the number of rules on the way to it. -/
def depthFor (length : Nat) : Nat :=
  1000 * (length + 2)

/-- The cursor at the start of a script. -/
def start (code : List Char) : Cursor :=
  ⟨[], code, 0⟩

/-- Reads the statements at the start of a text. -/
def readStatements (code : List Char) : Reply :=
  Rule.run rules (depthFor code.length) (.many (.symbol .statement)) (start code) 0

/-- The node that covers the character at a place. -/
def errorAt (code : List Char) (place : Nat) : SyntaxNode :=
  let width := match Text.splitAtPlace? place code with
    | some (_, c :: _) => c.utf8Size
    | _ => 0
  { kind := SyntaxNode.errorKind, start := place, stop := place + width }

/-- Reads a script: statements up to its end, with nothing but a gap behind them. -/
def parser : Parser := fun code =>
  let reply := readStatements code
  let last := reply.found.getD (start code)
  let last := last.pass (Gap.before last.rest)
  let children :=
    if last.rest.isEmpty then last.done.reverse else [errorAt code (max reply.refused last.place)]
  { kind := "program", start := 0, stop := Text.size code, children }

end Grammar

namespace Block

/-- The script with the given characters. -/
def ofChars (code : List Char) : Outcome Block :=
  parsed Grammar.parser code

/-- The script with the given text. -/
def ofCode (code : String) : Outcome Block :=
  ofChars code.toList

/-- The body of the method for some code whose result has the given type. -/
def bodyOf (code : String) (resultType : BaseType) : Outcome Block :=
  match Wrapper.strip code.toList resultType with
  | .error cause => Outcome.problem none cause
  | .ok unwrapped => (ofChars unwrapped).map fun block => block.withThis?.getD block

end Block

end EntityCompiler
