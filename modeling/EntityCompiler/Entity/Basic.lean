import EntityCompiler.Entity.Behavior
import EntityCompiler.Entity.Permission

/-!
# Entities

An entity as it is read from a document: what entities of all kinds have, and what only those of its
own kind have.
-/

namespace EntityCompiler

/-- The schema of a configuration table. -/
structure ConfigurationTableDefinition where
  name : String
  description : Option String
  dataShapeName : String
  isMultiRow : Bool
deriving DecidableEq, Inhabited

/-- The aspects of an entity as a whole. -/
structure EntityAspects where
  isEditableExtensionObject : Bool := false
deriving DecidableEq, Inhabited

/-- What only things have. -/
structure ThingPart where
  enabled : Bool
  identifier : Option Number
  published : Bool
  valueStream : Option String
  thingTemplate : String
  implementedShapes : List String
deriving DecidableEq, Inhabited

/-- What only thing templates have; the instance permissions are those of the things made from it.
-/
structure ThingTemplatePart where
  valueStream : Option String
  thingTemplate : String
  implementedShapes : List String
  instanceVisibilityPermissions : List VisibilityPrincipal
  instanceRuntimePermissions : PermissionIndex
deriving DecidableEq, Inhabited

/-- What only entities of one kind have. -/
inductive EntityPart where
  | thing (part : ThingPart)
  | thingTemplate (part : ThingTemplatePart)
  | thingShape (instanceRuntimePermissions : PermissionIndex)
  | dataShape (fieldDefinitions : List DataShapeField)
  | other
deriving Inhabited

/-- An entity. The rows of a configuration table with several rows are a list, the row of any other
table is an object. -/
structure Entity where
  name : String
  description : Option String
  documentationContent : Option String
  projectName : Option String
  tags : List String
  aspects : EntityAspects
  propertyDefinitions : List PropertyDefinition
  serviceDefinitions : List ServiceDefinition
  eventDefinitions : List EventDefinition
  subscriptionDefinitions : List SubscriptionDefinition
  configurationTableDefinitions : List ConfigurationTableDefinition
  configurationTables : Fields
  visibilityPermissions : List VisibilityPrincipal
  runtimePermissions : PermissionIndex
  part : EntityPart
deriving Inhabited

namespace Entity

/-- The kind of an entity. -/
def kind (entity : Entity) : EntityKind :=
  match entity.part with
  | .thing _ => .thing
  | .thingTemplate _ => .thingTemplate
  | .thingShape _ => .thingShape
  | .dataShape _ => .dataShape
  | .other => .other

/-- The names of the properties and services that are defined on the entity itself. -/
def locallyDefinedNames (entity : Entity) : List String :=
  entity.propertyDefinitions.map (·.name) ++ entity.serviceDefinitions.map (·.name)

/-- The permissions that are attached to the members: those of the instances, if there can be any.
-/
def memberPermissions (entity : Entity) : PermissionIndex :=
  match entity.part with
  | .thingTemplate part => part.instanceRuntimePermissions
  | .thingShape permissions => permissions
  | _ => entity.runtimePermissions

/-- An entity, if its properties and services share no name, its permissions are kept under the
names of their resources, and it has no behavior if it is a data shape. -/
def checked (entity : Entity) : Outcome Entity := do
  Outcome.require .membersDistinct (allDistinct entity.locallyDefinedNames)
  Outcome.require .permissionsKeyed
    (entity.runtimePermissions.all fun (name, permission) => name == permission.resourceName)
  Outcome.require .shapeWithoutBehavior
    (entity.kind != .dataShape || entity.serviceDefinitions.isEmpty
      && entity.eventDefinitions.isEmpty && entity.subscriptionDefinitions.isEmpty)
  return entity

end Entity

end EntityCompiler
