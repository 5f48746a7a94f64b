import EntityCompiler.Declaration.Literal
import EntityCompiler.Declaration.Permission
import EntityCompiler.Declaration.Reference
import EntityCompiler.Entity.Basic

/-!
# Properties of classes

The class properties that are declared for the properties of an entity, for the fields of a data
shape, for events and for configuration tables. Their decorators come in a fixed order.
-/

namespace EntityCompiler

/-- A decorator with one argument, if the argument is there. -/
def Decorator.optional {α : Type} (name : String) (argument : α → Expression) (x : Option α) :
    List Decorator :=
  match x with
  | none => []
  | some a => [.ofName name [argument a]]

/-- A decorator without arguments, if a flag is set. -/
def Decorator.flag (name : String) (isSet : Bool) : List Decorator :=
  if isSet then [.ofName name []] else []

theorem Decorator.forall_mem_optional {α : Type} {P : Decorator → Prop} {name : String}
    {argument : α → Expression} (h : ∀ a, P (ofName name [argument a])) (x : Option α) :
    ∀ decorator ∈ optional name argument x, P decorator := by
  intro decorator hdecorator
  cases x with
  | none => contradiction
  | some a =>
    rw [List.mem_singleton.mp hdecorator]
    exact h a

theorem Decorator.forall_mem_flag {P : Decorator → Prop} {name : String}
    (h : P (ofName name [])) (isSet : Bool) : ∀ decorator ∈ flag name isSet, P decorator := by
  intro decorator hdecorator
  cases isSet with
  | false => contradiction
  | true =>
    rw [List.mem_singleton.mp hdecorator]
    exact h

/-- What the declarations of all fields have. -/
structure DeclaredField where
  decorators : List Decorator
  initializer : Option Expression
  type : TypeNode
  comment : Option DocComment

namespace FieldAspects

/-- The decorators that limit the values of a field and name their unit. -/
def limitDecorators (aspects : FieldAspects) : List Decorator :=
  Decorator.optional "minimumValue" .number aspects.minimumValue
    ++ Decorator.optional "maximumValue" .number aspects.maximumValue
    ++ Decorator.optional "unit" .string aspects.units

/-- The decorator for the kind of change that counts, with its threshold if there is one. -/
def dataChangeDecorators (aspects : FieldAspects) : List Decorator :=
  match aspects.dataChangeType with
  | none => []
  | some type =>
    [.ofName "dataChangeType" (.string type :: (aspects.dataChangeThreshold.map .number).toList)]

/-- The initial value of a field, if it has a default value; a problem with it is put below the
given cause. -/
def initializer (aspects : FieldAspects) (cause : Cause) : Outcome (Option Expression) :=
  match aspects.defaultValue with
  | .null => .ok none
  | v => (Outcome.within none cause (Expression.literal v)).map some

end FieldAspects

/-- What the declarations of all fields have. -/
def FieldDefinition.declared (field : FieldDefinition) (separator : Separator) :
    Outcome DeclaredField := do
  let initializer ← field.aspects.initializer (.fieldDefault field.name)
  let type ← TypeNode.ofBaseType field.baseType (some field.aspects) separator
  let comment ← DocComment.ofText? field.description
  return ⟨field.aspects.limitDecorators, initializer, type, comment⟩

/-- The settings of a remote binding that its decorator has. -/
def RemotePropertyBinding.settings : List String :=
  ["pushType", "pushThreshold", "startType", "foldType", "cacheTime", "timeout"]

namespace PropertyDefinition

/-- The settings of the decorator for a remote binding, in the order of the binding. -/
def remoteSettings (property : PropertyDefinition) :
    Fields → Outcome (List PropertyAssignment)
  | [] => .ok []
  | (key, v) :: rest =>
    if RemotePropertyBinding.settings.contains key then do
      let first ← Outcome.within none (.remoteSetting key property.name) (Expression.literal v)
      let others ← property.remoteSettings rest
      return ⟨key, first⟩ :: others
    else property.remoteSettings rest

/-- The decorator for a remote binding, which only a remote property needs. -/
def remoteDecorators (property : PropertyDefinition) : Outcome (List Decorator) :=
  match property.aspects.isRemote, property.remoteBinding with
  | true, some binding => do
    let settings ← property.remoteSettings binding.options
    let source := binding.sourceName.getD property.name
    return [.ofName "remote" [.string source, .object settings]]
  | _, _ => .ok []

/-- The decorator for a local binding. -/
def localDecorators (property : PropertyDefinition) : List Decorator :=
  match property.localBinding with
  | none => []
  | some binding =>
    [.ofName "local" [.string binding.sourceThingName, .string binding.sourceName]]

/-- The declaration of a property with the permission that is attached to it. -/
def declaration (property : PropertyDefinition) (permission : Option RuntimePermission)
    (separator : Separator) : Outcome PropertyDeclaration := do
  let field ← property.toFieldDefinition.declared separator
  let remote ← property.remoteDecorators
  let permissions := match permission with
    | none => []
    | some permission => permission.decorators property.name false false
  let decorators := field.decorators
    ++ Decorator.flag "persistent" property.aspects.isPersistent
    ++ Decorator.flag "logged" property.aspects.isLogged
    ++ property.aspects.dataChangeDecorators ++ remote ++ property.localDecorators ++ permissions
  PropertyDeclaration.checked ⟨property.name, field.type, decorators,
    property.aspects.isReadOnly, field.initializer.isNone, field.initializer, field.comment⟩

end PropertyDefinition

/-- The declaration of a field of a data shape. -/
def DataShapeField.declaration (field : DataShapeField) (separator : Separator) :
    Outcome PropertyDeclaration := do
  let declared ← FieldDefinition.declared field separator
  let decorators := declared.decorators ++ Decorator.flag "primaryKey" field.aspects.isPrimaryKey
  PropertyDeclaration.checked ⟨field.name, declared.type, decorators, false,
    declared.initializer.isNone, declared.initializer, declared.comment⟩

/-- The declaration of an event. -/
def EventDefinition.declaration (event : EventDefinition) (separator : Separator) :
    Outcome PropertyDeclaration := do
  let data ← TypeNode.ofEntity separator event.dataShape
  let comment ← DocComment.ofText? event.description
  let decorators := Decorator.optional "remoteEvent" (fun b => .string b.sourceName)
    event.remoteBinding
  PropertyDeclaration.checked ⟨event.name, .reference "EVENT" [data], decorators, false, true,
    none, comment⟩

/-- The declaration of a configuration table, as a property of the class of all tables. -/
def ConfigurationTableDefinition.declaration (definition : ConfigurationTableDefinition)
    (separator : Separator) : Outcome PropertyDeclaration := do
  let rows ← TypeNode.ofEntity separator definition.dataShapeName
  let comment ← DocComment.ofText? definition.description
  let table := if definition.isMultiRow then "MultiRowTable" else "Table"
  PropertyDeclaration.checked ⟨definition.name, .reference table [rows], [], false, false, none,
    comment⟩

end EntityCompiler
