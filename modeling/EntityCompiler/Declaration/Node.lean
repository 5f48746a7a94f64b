import EntityCompiler.Declaration.Class

/-!
# Nodes

The nodes of the syntax tree of a declaration, of all classes, and how they are dumped.
-/

namespace EntityCompiler

/-- A node of the syntax tree of a declaration. -/
inductive Node where
  | expression (expression : Expression)
  | propertyAssignment (assignment : PropertyAssignment)
  | type (type : TypeNode)
  | propertySignature (signature : PropertySignature)
  | codeComment (comment : CodeComment)
  | codeNode (node : CodeNode)
  | block (block : Block)
  | docComment (comment : DocComment)
  | decorator (decorator : Decorator)
  | propertyDeclaration (declaration : PropertyDeclaration)
  | bindingElement (element : BindingElement)
  /-- An object that is taken apart. -/
  | objectBindingPattern (elements : List BindingElement)
  | parameter (parameter : Parameter)
  | methodDeclaration (declaration : MethodDeclaration)
  | classDeclaration (declaration : ClassDeclaration)

namespace Node

/-- The outline of a node. -/
def outline : Node → Outline
  | expression e => e.outline
  | propertyAssignment assignment => assignment.outline
  | type t => t.outline
  | propertySignature signature => signature.outline
  | codeComment comment => comment.outline
  | codeNode node => node.outline
  | block b => b.outline
  | docComment comment => comment.outline
  | decorator d => d.outline
  | propertyDeclaration declaration => declaration.outline
  | bindingElement element => element.outline
  | objectBindingPattern elements => BindingElement.patternOutline elements
  | parameter p => p.outline
  | methodDeclaration declaration => declaration.outline
  | classDeclaration declaration => declaration.outline

/-- A node as text. -/
def dump (node : Node) : String :=
  node.outline.dump

end Node

end EntityCompiler
