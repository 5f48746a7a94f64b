import EntityCompiler.Declaration.Comment
import EntityCompiler.Declaration.Type
import EntityCompiler.Identifier

/-!
# Expressions of declarations

The expressions that initial values, base classes and the arguments of decorators are made of, with
the decorators and the properties that can stand inside of them.
-/

namespace EntityCompiler

mutual

/-- An expression. -/
inductive Expression where
  | name (identifier : String)
  | string (value : String)
  | number (value : Number)
  | boolean (value : Bool)
  | null
  /-- An access to a property. -/
  | access (object : Expression) (property : String)
  | call (callee : Expression) (arguments : List Expression)
  | object (properties : List PropertyAssignment)
  | array (elements : List Expression)
  /-- A class without a name. -/
  | classOf (members : List PropertyDeclaration)

/-- A property of an object with its value. -/
inductive PropertyAssignment where
  | mk (name : String) (value : Expression)

/-- A decorator: a name, or the call of one. -/
inductive Decorator where
  | mk (expression : Expression)

/-- A property of a class. It is definite if it is assigned elsewhere. -/
inductive PropertyDeclaration where
  | mk (name : String) (type : TypeNode) (decorators : List Decorator) (isReadonly : Bool)
    (isDefinite : Bool) (initializer : Option Expression) (comment : Option DocComment)

end

instance : Inhabited Expression := ⟨.null⟩

instance : Inhabited Decorator := ⟨⟨.null⟩⟩

namespace Expression

/-- The name, if it is an identifier. -/
def nameOf (identifier : String) : Outcome Expression := do
  Outcome.require .nameIsIdentifier (isIdentifier identifier.toList)
  return name identifier

end Expression

namespace Decorator

/-- The decorator with the given name and arguments; without arguments it is not called. -/
def ofName (name : String) (arguments : List Expression) : Decorator :=
  match arguments with
  | [] => ⟨.name name⟩
  | _ => ⟨.call (.name name) arguments⟩

/-- The name of a decorator. -/
def name : Decorator → String
  | ⟨.name identifier⟩ => identifier
  | ⟨.call (.name identifier) _⟩ => identifier
  | _ => ""

/-- The arguments of a decorator. -/
def arguments : Decorator → List Expression
  | ⟨.call _ arguments⟩ => arguments
  | _ => []

@[simp] theorem name_ofName (name : String) (arguments : List Expression) :
    (ofName name arguments).name = name := by
  cases arguments <;> rfl

@[simp] theorem arguments_ofName (name : String) (arguments : List Expression) :
    (ofName name arguments).arguments = arguments := by
  cases arguments <;> rfl

end Decorator

namespace PropertyDeclaration

/-- The name of a property. -/
def name : PropertyDeclaration → String
  | mk name _ _ _ _ _ _ => name

/-- The decorators of a property. -/
def decorators : PropertyDeclaration → List Decorator
  | mk _ _ decorators _ _ _ _ => decorators

/-- A property, if it is not both definite and initialized. -/
def checked : PropertyDeclaration → Outcome PropertyDeclaration
  | mk name type decorators isReadonly isDefinite initializer comment => do
    Outcome.require .definiteOrInitialized !(isDefinite && initializer.isSome)
    return mk name type decorators isReadonly isDefinite initializer comment

end PropertyDeclaration

mutual

/-- The outline of an expression. -/
def Expression.outline : Expression → Outline
  | .name identifier => .record "Name" [("identifier", .text identifier)]
  | .string value => .record "StringLiteral" [("value", .text value)]
  | .number value => .record "NumericLiteral" [("value", .number value)]
  | .boolean value => .record "BooleanLiteral" [("value", .bool value)]
  | .null => .record "NullLiteral" []
  | .access object property =>
    .record "PropertyAccess" [("instance", object.outline), ("name", .text property)]
  | .call callee arguments =>
    .record "Call" [("callee", callee.outline), ("args", .list (Expression.outlines arguments))]
  | .object properties =>
    .record "ObjectLiteral" [("properties", .list (PropertyAssignment.outlines properties))]
  | .array elements => .record "ArrayLiteral" [("elements", .list (Expression.outlines elements))]
  | .classOf members =>
    .record "ClassExpression" [("members", .list (PropertyDeclaration.outlines members))]

/-- The outlines of some expressions. -/
def Expression.outlines : List Expression → List Outline
  | [] => []
  | expression :: rest => expression.outline :: Expression.outlines rest

/-- The outline of an optional expression. -/
def Expression.outline? : Option Expression → Outline
  | none => .absent
  | some expression => expression.outline

/-- The outline of a property of an object. -/
def PropertyAssignment.outline : PropertyAssignment → Outline
  | .mk name value =>
    .record "PropertyAssignment" [("name", .text name), ("value", value.outline)]

/-- The outlines of some properties of an object. -/
def PropertyAssignment.outlines : List PropertyAssignment → List Outline
  | [] => []
  | property :: rest => property.outline :: PropertyAssignment.outlines rest

/-- The outline of a decorator. -/
def Decorator.outline : Decorator → Outline
  | .mk expression => .record "Decorator" [("expression", expression.outline)]

/-- The outlines of some decorators. -/
def Decorator.outlines : List Decorator → List Outline
  | [] => []
  | decorator :: rest => decorator.outline :: Decorator.outlines rest

/-- The outline of a property of a class. -/
def PropertyDeclaration.outline : PropertyDeclaration → Outline
  | .mk name type decorators isReadonly isDefinite initializer comment =>
    .record "PropertyDeclaration" [
      ("name", .text name),
      ("type_node", type.outline),
      ("decorators", .list (Decorator.outlines decorators)),
      ("is_readonly", .bool isReadonly),
      ("is_definite", .bool isDefinite),
      ("initializer", Expression.outline? initializer),
      ("comment", .optional DocComment.outline comment)]

/-- The outlines of some properties of a class. -/
def PropertyDeclaration.outlines : List PropertyDeclaration → List Outline
  | [] => []
  | property :: rest => property.outline :: PropertyDeclaration.outlines rest

end

end EntityCompiler
