import EntityCompiler.Declaration.Expression
import EntityCompiler.Script.Node

/-!
# Class declarations

The declaration of a class in TypeScript: its decorators, its base class, and its members. The
bodies of its methods are scripts.
-/

namespace EntityCompiler

/-- An element of a parameter that is taken apart, perhaps with a default value. -/
structure BindingElement where
  name : String
  initializer : Option Expression

/-- A parameter is a name, or an object that is taken apart. -/
inductive ParameterName where
  | plain (name : String)
  | object (elements : List BindingElement)

/-- A parameter of a method. -/
structure Parameter where
  name : ParameterName
  type : TypeNode

/-- A method of a class. -/
structure MethodDeclaration where
  name : String
  parameters : List Parameter
  returnType : TypeNode
  body : Block
  decorators : List Decorator
  isAsync : Bool
  comment : Option DocComment

/-- A member of a class. -/
inductive Member where
  | property (declaration : PropertyDeclaration)
  | method (declaration : MethodDeclaration)

/-- The declaration of a class. -/
structure ClassDeclaration where
  name : String
  members : List Member
  decorators : List Decorator
  base : Option Expression
  comment : Option DocComment

/-- The outline of an element of a parameter. -/
def BindingElement.outline (element : BindingElement) : Outline :=
  .record "BindingElement" [
    ("name", .text element.name),
    ("initializer", Expression.outline? element.initializer)]

/-- The outline of a parameter that is taken apart. -/
def BindingElement.patternOutline (elements : List BindingElement) : Outline :=
  .record "ObjectBindingPattern" [("elements", .list (elements.map BindingElement.outline))]

/-- The outline of the name of a parameter. -/
def ParameterName.outline : ParameterName → Outline
  | plain name => .text name
  | object elements => BindingElement.patternOutline elements

/-- The outline of a parameter. -/
def Parameter.outline (parameter : Parameter) : Outline :=
  .record "Parameter" [
    ("name", parameter.name.outline),
    ("type_node", parameter.type.outline)]

/-- The outline of a method. -/
def MethodDeclaration.outline (method : MethodDeclaration) : Outline :=
  .record "MethodDeclaration" [
    ("name", .text method.name),
    ("parameters", .list (method.parameters.map Parameter.outline)),
    ("return_type", method.returnType.outline),
    ("body", method.body.outline),
    ("decorators", .list (Decorator.outlines method.decorators)),
    ("is_async", .bool method.isAsync),
    ("comment", .optional DocComment.outline method.comment)]

namespace Member

/-- The name of a member. -/
def name : Member → String
  | property declaration => declaration.name
  | method declaration => declaration.name

/-- The outline of a member. -/
def outline : Member → Outline
  | property declaration => declaration.outline
  | method declaration => declaration.outline

end Member

namespace ClassDeclaration

/-- A class, if it is named by an identifier. -/
def checked (declaration : ClassDeclaration) : Outcome ClassDeclaration := do
  Outcome.require .classNamed (isIdentifier declaration.name.toList)
  return declaration

/-- The names of the methods of a class and their bodies. -/
def bodies (declaration : ClassDeclaration) : List (String × Block) :=
  declaration.members.filterMap fun
    | .method method => some (method.name, method.body)
    | .property _ => none

/-- The outline of a class. -/
def outline (declaration : ClassDeclaration) : Outline :=
  .record "ClassDeclaration" [
    ("name", .text declaration.name),
    ("members", .list (declaration.members.map Member.outline)),
    ("decorators", .list (Decorator.outlines declaration.decorators)),
    ("extends", Expression.outline? declaration.base),
    ("comment", .optional DocComment.outline declaration.comment)]

end ClassDeclaration

end EntityCompiler
