import EntityCompiler.Contract
import EntityCompiler.Outline

/-!
# Code nodes

The syntax tree of a script. Every token is a leaf and keeps its text; the white space and the
comments in front of a token are kept by the outermost node that starts with it. So the characters
of a script can be read off its tree, and a node can stand anywhere.
-/

namespace EntityCompiler

/-- A comment of a script, with the white space in front of it. -/
structure CodeComment where
  text : String
  gap : String
deriving DecidableEq, Inhabited

/-- A node of a script: a leaf with a text, or an inner node with children. `kind` is what the
grammar calls the node, `field` its part in the node around it. The leading comments stand in front
of `gap`, the white space before the node. -/
structure CodeNode where
  kind : String
  text : Option String := none
  children : List CodeNode := []
  field : Option String := none
  gap : String := ""
  leadingComments : List CodeComment := []
  trailingComments : List CodeComment := []
deriving Inhabited

/-- A script: its statements and the comments after the last one. -/
structure Block where
  statements : List CodeNode
  trailingComments : List CodeComment := []
deriving Inhabited

namespace CodeComment

/-- The characters of a comment. -/
def chars (comment : CodeComment) : List Char :=
  comment.gap.toList ++ comment.text.toList

/-- The outline of a comment. -/
def outline (comment : CodeComment) : Outline :=
  .record "CodeComment" [("text", .text comment.text), ("prefix", .text comment.gap)]

end CodeComment

namespace CodeNode

/-- A node, if it has a text or children, but not both. -/
def checked (node : CodeNode) : Outcome CodeNode := do
  Outcome.require .leafOrInner (node.text.isNone || node.children.isEmpty)
  return node

mutual

/-- The characters of a node. -/
def chars : CodeNode → List Char
  | ⟨_, text, children, _, gap, leading, trailing⟩ =>
    leading.flatMap CodeComment.chars ++ gap.toList ++ (text.getD "").toList
      ++ charsOfAll children ++ trailing.flatMap CodeComment.chars

/-- The characters of some nodes in a row. -/
def charsOfAll : List CodeNode → List Char
  | [] => []
  | node :: rest => node.chars ++ charsOfAll rest

end

/-- The source text of a node. -/
def source (node : CodeNode) : String :=
  String.ofList node.chars

mutual

/-- The outline of a node. -/
def outline : CodeNode → Outline
  | ⟨kind, text, children, field, gap, leading, trailing⟩ =>
    .record "CodeNode" [
      ("kind", .text kind),
      ("text", .optional .text text),
      ("children", .list (outlines children)),
      ("field", .optional .text field),
      ("prefix", .text gap),
      ("leading_comments", .list (leading.map CodeComment.outline)),
      ("trailing_comments", .list (trailing.map CodeComment.outline))]

/-- The outlines of some nodes. -/
def outlines : List CodeNode → List Outline
  | [] => []
  | node :: rest => node.outline :: outlines rest

end

end CodeNode

namespace Block

/-- The characters of a script. -/
def chars (block : Block) : List Char :=
  CodeNode.charsOfAll block.statements ++ block.trailingComments.flatMap CodeComment.chars

/-- The source text of a script. -/
def source (block : Block) : String :=
  String.ofList block.chars

/-- The outline of a script. -/
def outline (block : Block) : Outline :=
  .record "Block" [
    ("statements", .list (CodeNode.outlines block.statements)),
    ("trailing_comments", .list (block.trailingComments.map CodeComment.outline))]

end Block

end EntityCompiler
