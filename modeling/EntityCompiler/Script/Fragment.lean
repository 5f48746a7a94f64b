import EntityCompiler.Script.Syntax
import EntityCompiler.Text.Basic

/-!
# Fragments of scripts

Turns the syntax tree of a script into a block, whichever parser made the tree. The nodes of the
block do not refer to the script any more: the leaves keep their texts, and each node and each
comment keeps the text in front of it. The comments are taken out of the rows of nodes and attached
to their neighbours.
-/

namespace EntityCompiler

/-- The text of a script from one place to another. -/
def textBetween (code : List Char) (start stop : Nat) : Outcome (List Char) :=
  match Text.slice? code start stop with
  | some text => .ok text
  | none => .error (.broken .placesBetweenCharacters)

namespace CodeNode

/-- Some nodes in a row with comments behind them, which go to the last node. -/
def withTrailing : List CodeNode → List CodeComment → List CodeNode
  | [], _ => []
  | [node], comments => [{ node with trailingComments := node.trailingComments ++ comments }]
  | node :: next :: rest, comments => node :: withTrailing (next :: rest) comments

mutual

/-- The node of a block for a node of a syntax tree, with what stands in front of it. A node is a
leaf if there is nothing but comments in it. -/
def detach (code : List Char) (gap : List Char) (leading : List CodeComment) :
    SyntaxNode → Outcome CodeNode
  | ⟨kind, start, stop, children, field, _⟩ => do
    let (parts, dangling) ← detachAll code start [] children
    if parts.isEmpty then
      let text ← textBetween code start stop
      return { kind, text := some (String.ofList text), field, gap := String.ofList gap,
               leadingComments := leading }
    else
      return { kind, children := withTrailing parts dangling, field, gap := String.ofList gap,
               leadingComments := leading }

/-- The nodes of a block for nodes in a row that start at a place, and the comments behind the last
of them. Comments are attached to the node that follows them; `pending` are those that wait for one.
-/
def detachAll (code : List Char) (place : Nat) (pending : List CodeComment) :
    List SyntaxNode → Outcome (List CodeNode × List CodeComment)
  | [] => .ok ([], pending)
  | node :: rest => do
    let gap ← textBetween code place node.start
    if node.isComment then
      let text ← textBetween code node.start node.stop
      let comment : CodeComment := ⟨String.ofList text, String.ofList gap⟩
      detachAll code node.stop (pending ++ [comment]) rest
    else
      let part ← detach code gap pending node
      let (parts, dangling) ← detachAll code node.stop [] rest
      return (part :: parts, dangling)

end

end CodeNode

namespace Block

/-- The problem of a script with a node that could not be read. -/
def unparsable (code : List Char) (node : SyntaxNode) : Outcome Block := do
  let (line, column) := Text.positionOf 1 1 node.start code
  let offending ← textBetween code node.start node.stop
  Outcome.problem none (.unparsable line column (String.ofList offending))

/-- The script that a parser reads from a text. Its statements are all that the parser found below
the root, and comments behind the last one belong to the script. -/
def parsed (parser : Parser) (code : List Char) : Outcome Block :=
  let root := parser code
  if root.hasError then unparsable code (root.firstError?.getD root)
  else do
    let (statements, trailing) ← CodeNode.detachAll code 0 [] root.children
    return ⟨statements, trailing⟩

end Block

end EntityCompiler
