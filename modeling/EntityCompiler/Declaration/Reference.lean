import EntityCompiler.Declaration.Expression
import EntityCompiler.Entity.Field

/-!
# References to entities and types of fields

A declaration refers to another entity by the class name of that entity. The type of a field is
named after its base type; types that hold or name entities of a certain kind get that kind as an
argument.
-/

namespace EntityCompiler

/-- The type that refers to the class of an entity. -/
def TypeNode.ofEntity (separator : Separator) (entityName : String) : Outcome TypeNode :=
  (className separator entityName).map (.reference · [])

/-- The expression that refers to the class of an entity. -/
def Expression.ofEntity (separator : Separator) (entityName : String) : Outcome Expression := do
  let identifier ← className separator entityName
  if identifier.isEmpty then
    Outcome.problem none (.emptyClassName entityName separator.text)
  else Expression.nameOf identifier

namespace FieldAspects

/-- What the names of things or thing templates are limited to: a template, and a shape. With a
shape alone, any template will do. -/
def thingArguments (aspects : FieldAspects) (separator : Separator) : Outcome (List TypeNode) := do
  let template ← match aspects.thingTemplate, aspects.thingShape with
    | some template, _ => (TypeNode.ofEntity separator template).map ([·])
    | none, some _ => .ok [.keyword .any]
    | none, none => .ok []
  let shape ← match aspects.thingShape with
    | some shape => (TypeNode.ofEntity separator shape).map ([·])
    | none => .ok []
  return template ++ shape

/-- The arguments of the type with the given base type. -/
def typeArguments (aspects : FieldAspects) (separator : Separator) :
    BaseType → Outcome (List TypeNode)
  | .infotable =>
    match aspects.dataShape with
    | some shape => (TypeNode.ofEntity separator shape).map ([·])
    | none => .ok []
  | .thingName => aspects.thingArguments separator
  | .thingTemplateName => aspects.thingArguments separator
  | _ => .ok []

end FieldAspects

/-- The type of something with a base type and perhaps some aspects. JSON values have a type of
another name, since the language has an object called `JSON`. -/
def TypeNode.ofBaseType (baseType : BaseType) (aspects : Option FieldAspects)
    (separator : Separator) : Outcome TypeNode :=
  if baseType = .json then .ok (.reference "TWJSON" [])
  else do
    let arguments ← match aspects with
      | none => .ok []
      | some aspects => aspects.typeArguments separator baseType
    return .reference baseType.name arguments

end EntityCompiler
