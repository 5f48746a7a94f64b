import EntityCompiler.Script.Node

/-!
# The receiver of a script

A script refers to the entity that it runs on as `me`. In a method the entity is `this`, so every
access to a property or an item of `me` becomes one of `this`. All else stays: a name that is passed
on or called, and everything around it, comments included.
-/

namespace EntityCompiler

namespace CodeNode

/-- The name by which a script refers to its entity. -/
def selfName : String := "me"

/-- The kinds of nodes that access something of an object. -/
def accessKinds : List String := ["member_expression", "subscript_expression"]

/-- Is the node, a child of an access, the entity that is accessed? -/
def isReceiver (node : CodeNode) : Bool :=
  node.field == some "object" && node.kind == "identifier" && node.text == some selfName

/-- The leaf `this` in the place of a node. -/
def asThis (node : CodeNode) : CodeNode :=
  { node with kind := "this", text := some "this", children := [] }

mutual

/-- The node with each receiver in it replaced; `none` if there is none. -/
def withThis? : CodeNode → Option CodeNode
  | ⟨kind, text, children, field, gap, leading, trailing⟩ =>
    match withThisAll? (accessKinds.contains kind) children with
    | none => none
    | some changed => some ⟨kind, text, changed, field, gap, leading, trailing⟩

/-- Some nodes with each receiver in them replaced; `none` if there is none. The nodes may be
receivers themselves if they are children of an access. -/
def withThisAll? (accessed : Bool) : List CodeNode → Option (List CodeNode)
  | [] => none
  | node :: rest =>
    let first := if accessed && node.isReceiver then some node.asThis else node.withThis?
    match first, withThisAll? accessed rest with
    | none, none => none
    | some node, none => some (node :: rest)
    | none, some rest => some (node :: rest)
    | some node, some rest => some (node :: rest)

end

end CodeNode

namespace Block

/-- The script with each receiver in it replaced; `none` if there is none. -/
def withThis? (block : Block) : Option Block :=
  (CodeNode.withThisAll? false block.statements).map fun statements => { block with statements }

end Block

end EntityCompiler
