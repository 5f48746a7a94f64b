import EntityCompiler.Declaration.Method

/-!
# The class of an entity

An entity becomes a class. The permissions on its own properties and services stand at these
members, all others at the class and under the name of their resource. For thing templates and thing
shapes the members carry the permissions of the instances, and those of the entity itself stand at
the class.
-/

namespace EntityCompiler

/-- The decorators of a class for all permissions but those on the excluded resources. -/
def PermissionIndex.classDecorators (index : PermissionIndex) (excluded : List String)
    (forInstances : Bool) : List Decorator :=
  index.flatMap fun (resource, permission) =>
    if excluded.contains resource then [] else permission.decorators resource true forInstances

/-- The decorator that makes an entity or its instances visible, if there is anybody to see them. -/
def VisibilityPrincipal.decorators (principals : List VisibilityPrincipal) (forInstances : Bool) :
    List Decorator :=
  if principals.isEmpty then [] else [decorator principals forInstances]

namespace Entity

/-- The base class made of a template and the shapes that are added to it. -/
def composedBase (template : String) (shapes : List String) (separator : Separator) :
    Outcome Expression := do
  let base ← Expression.ofEntity separator template
  let added ← shapes.mapM (Expression.ofEntity separator)
  return if added.isEmpty then base else .call (.name "ThingTemplateWithShapes") (base :: added)

/-- The base class. -/
def base (entity : Entity) (separator : Separator) : Outcome (Option Expression) :=
  match entity.part with
  | .thing part => (composedBase part.thingTemplate part.implementedShapes separator).map some
  | .thingTemplate part =>
    (composedBase part.thingTemplate part.implementedShapes separator).map some
  | .thingShape _ => .ok (some (.name "ThingShapeBase"))
  | .dataShape _ => .ok (some (.name "DataShapeBase"))
  | .other => .ok none

/-- The fields of a data shape; entities of other kinds have none. -/
def fieldDefinitions (entity : Entity) : List DataShapeField :=
  match entity.part with
  | .dataShape fields => fields
  | _ => []

/-- The decorator for the value stream. -/
def valueStreamDecorators (entity : Entity) : List Decorator :=
  match entity.part with
  | .thing part => Decorator.optional "valueStream" .string part.valueStream
  | .thingTemplate part => Decorator.optional "valueStream" .string part.valueStream
  | _ => []

/-- The decorators that only things and thing templates have. -/
def definitionDecorators (entity : Entity) : List Decorator :=
  match entity.part with
  | .thing part =>
    .ofName "ThingDefinition" [] :: Decorator.flag "published" part.published
      ++ Decorator.optional "identifier" .number part.identifier
  | .thingTemplate part =>
    .ofName "ThingTemplateDefinition" []
      :: VisibilityPrincipal.decorators part.instanceVisibilityPermissions true
  | _ => []

/-- The permission decorators that come before visibility: those of things, and all of those of
entities that have instances. -/
def earlyPermissionDecorators (entity : Entity) : List Decorator :=
  let own := entity.locallyDefinedNames
  match entity.part with
  | .thing _ => PermissionIndex.classDecorators entity.runtimePermissions own false
  | .thingTemplate _ =>
    PermissionIndex.classDecorators entity.memberPermissions own true
      ++ PermissionIndex.classDecorators entity.runtimePermissions [] false
  | .thingShape _ =>
    PermissionIndex.classDecorators entity.memberPermissions own true
      ++ PermissionIndex.classDecorators entity.runtimePermissions [] false
  | _ => []

/-- The permission decorators that come last: those of data shapes and of other entities. -/
def latePermissionDecorators (entity : Entity) : List Decorator :=
  match entity.part with
  | .dataShape _ =>
    PermissionIndex.classDecorators entity.runtimePermissions entity.locallyDefinedNames false
  | .other =>
    PermissionIndex.classDecorators entity.runtimePermissions entity.locallyDefinedNames false
  | _ => []

/-- The decorator that declares the configuration tables, if there are any. -/
def tableDecorators (entity : Entity) (separator : Separator) : Outcome (List Decorator) := do
  let tables ← entity.configurationTableDefinitions.mapM (·.declaration separator)
  return if tables.isEmpty then [] else [.ofName "ConfigurationTables" [.classOf tables]]

/-- The decorator with the rows of the configuration tables, if there are any. -/
def configurationDecorators (entity : Entity) : Outcome (List Decorator) :=
  if entity.configurationTables.isEmpty then .ok []
  else
    (Outcome.within none .configurationValues
      (Expression.jsonLiteral (.object entity.configurationTables))).map fun rows =>
        [.ofName "config" [rows]]

/-- The declaration of the class of an entity. All problems with its base class, its configuration
and its members are collected. -/
def declaration (entity : Entity) (separator : Separator) : Outcome ClassDeclaration := do
  let name ← className separator entity.name
  if name.isEmpty then
    Outcome.problem none (.emptyClassName entity.name separator.text)
  else
    let permissions := entity.memberPermissions
    let (base, baseProblems) ← Outcome.collected (entity.base separator)
    let (fields, fieldProblems) ← Outcome.gather
      (DataShapeField.declaration · separator) entity.fieldDefinitions
    let tables ← entity.tableDecorators separator
    let (configuration, configurationProblems) ←
      Outcome.collected entity.configurationDecorators
    let (properties, propertyProblems) ← Outcome.gather
      (fun p => p.declaration (PermissionIndex.get? permissions p.name) separator)
      entity.propertyDefinitions
    let (services, serviceProblems) ← Outcome.gather
      (fun s => s.declaration (PermissionIndex.get? permissions s.name) separator)
      entity.serviceDefinitions
    let events ← entity.eventDefinitions.mapM (·.declaration separator)
    let (subscriptions, subscriptionProblems) ← Outcome.gather
      (fun s => s.declaration separator) entity.subscriptionDefinitions
    let problems := baseProblems ++ fieldProblems ++ configurationProblems ++ propertyProblems
      ++ serviceProblems ++ subscriptionProblems
    if problems.isEmpty then
      let decorators := .ofName "exportName" [.string entity.name]
        :: Decorator.flag "editable" entity.aspects.isEditableExtensionObject
        ++ entity.valueStreamDecorators ++ entity.definitionDecorators
        ++ entity.earlyPermissionDecorators
        ++ VisibilityPrincipal.decorators entity.visibilityPermissions false
        ++ tables ++ configuration.getD [] ++ entity.latePermissionDecorators
      let members := fields.map Member.property ++ properties.map Member.property
        ++ services.map Member.method ++ events.map Member.property
        ++ subscriptions.map Member.method
      let comment ← DocComment.ofText? entity.description
      ClassDeclaration.checked ⟨name, members, decorators, base.join, comment⟩
    else .error (.problem (.dueTo none (.declaration entity.name) problems))

end Entity

end EntityCompiler
