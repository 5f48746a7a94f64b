import EntityCompiler.Contract
import EntityCompiler.Entity.BaseType

/-!
# Fields

Properties, data shape fields and service parameters share a name, a base type, a description and
aspects. A property can be bound to a remote source, or to a property of another thing.
-/

namespace EntityCompiler

/-- The aspects of a field. A default value that is `null` is an absent one. -/
structure FieldAspects where
  defaultValue : Value := .null
  minimumValue : Option Number := none
  maximumValue : Option Number := none
  units : Option String := none
  isRequired : Bool := false
  isReadOnly : Bool := false
  isPersistent : Bool := false
  isLogged : Bool := false
  isPrimaryKey : Bool := false
  isRemote : Bool := false
  dataChangeType : Option String := none
  dataChangeThreshold : Option Number := none
  dataShape : Option String := none
  thingTemplate : Option String := none
  thingShape : Option String := none
deriving Inhabited

/-- The binding of a property to a remote source, which has the name of the property unless it is
given another one. -/
structure RemotePropertyBinding where
  sourceName : Option String
  options : Fields
deriving Inhabited

/-- The binding of a property to a property of another thing. -/
structure LocalPropertyBinding where
  sourceThingName : String
  sourceName : String
deriving DecidableEq, Inhabited

/-- What all fields have. -/
structure FieldDefinition where
  name : String
  baseType : BaseType
  description : Option String
  aspects : FieldAspects
deriving Inhabited

/-- A field of a data shape. -/
abbrev DataShapeField := FieldDefinition

/-- A parameter of a service. -/
abbrev ServiceParameter := FieldDefinition

/-- A property of an entity. -/
structure PropertyDefinition extends FieldDefinition where
  remoteBinding : Option RemotePropertyBinding
  localBinding : Option LocalPropertyBinding
deriving Inhabited

/-- What a service gives back. -/
structure ResultType where
  baseType : BaseType
  aspects : FieldAspects
deriving Inhabited

/-- A field, if it has a name. -/
def FieldDefinition.checked (field : FieldDefinition) : Outcome FieldDefinition := do
  Outcome.require .fieldNamed (!field.name.isEmpty)
  return field

/-- A property, if it has a name. -/
def PropertyDefinition.checked (property : PropertyDefinition) : Outcome PropertyDefinition := do
  Outcome.require .fieldNamed (!property.name.isEmpty)
  return property

end EntityCompiler
