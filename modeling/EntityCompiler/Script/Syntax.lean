import EntityCompiler.Script.Node

/-!
# Syntax trees

What a parser makes of a script. A node of its tree tells the places between which it stands, and
not its text; comments are nodes like all others, and white space is what no node covers. What the
parser cannot read is covered by a node of its own kind, and what it misses is marked.
-/

namespace EntityCompiler

/-- A node of a syntax tree, from one place of the script to another. `field` is its part in the
node around it. A node that `isMissing` stands for something that is not in the script. -/
structure SyntaxNode where
  kind : String
  start : Nat
  stop : Nat
  children : List SyntaxNode := []
  field : Option String := none
  isMissing : Bool := false
deriving Inhabited

namespace SyntaxNode

/-- What the comments of a script are called. -/
def commentKind : String := "comment"

/-- What the nodes are called that cover what cannot be read. -/
def errorKind : String := "ERROR"

/-- Is the node a comment? -/
def isComment (node : SyntaxNode) : Bool :=
  node.kind == commentKind

/-- Could the node itself not be read? -/
def isError (node : SyntaxNode) : Bool :=
  node.kind == errorKind || node.isMissing

mutual

/-- Is there a node in a tree that could not be read? -/
def hasError : SyntaxNode → Bool
  | ⟨kind, start, stop, children, field, isMissing⟩ =>
    isError ⟨kind, start, stop, children, field, isMissing⟩ || anyHasError children

/-- Is there a node in some trees that could not be read? -/
def anyHasError : List SyntaxNode → Bool
  | [] => false
  | node :: rest => node.hasError || anyHasError rest

end

mutual

/-- The first node of a tree that could not be read. -/
def firstError? : SyntaxNode → Option SyntaxNode
  | ⟨kind, start, stop, children, field, isMissing⟩ =>
    if isError ⟨kind, start, stop, children, field, isMissing⟩ then
      some ⟨kind, start, stop, children, field, isMissing⟩
    else firstErrorOf? children

/-- The first node of some trees that could not be read. Only the trees that have one are searched.
-/
def firstErrorOf? : List SyntaxNode → Option SyntaxNode
  | [] => none
  | node :: rest =>
    if node.hasError || node.isMissing then
      match node.firstError? with
      | some found => some found
      | none => firstErrorOf? rest
    else firstErrorOf? rest

end

mutual

/-- The comments of a tree, in the order of the script. -/
def comments : SyntaxNode → List SyntaxNode
  | ⟨kind, start, stop, children, field, isMissing⟩ =>
    if kind == commentKind then [⟨kind, start, stop, children, field, isMissing⟩]
    else commentsOfAll children

/-- The comments of some trees. -/
def commentsOfAll : List SyntaxNode → List SyntaxNode
  | [] => []
  | node :: rest => node.comments ++ commentsOfAll rest

end

end SyntaxNode

/-- A parser of scripts: the tree that it makes of a text. -/
abbrev Parser := List Char → SyntaxNode

end EntityCompiler
