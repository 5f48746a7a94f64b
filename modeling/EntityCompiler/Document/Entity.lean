import EntityCompiler.Document.Behavior
import EntityCompiler.Document.Configuration
import EntityCompiler.Document.Permission

/-!
# Reading entities

Reads the document of an entity. Things and thing templates have their members in a shape of their
own; data shapes have fields in place of members. Remote and local bindings stand beside the
members, under their names. The problems of all parts are collected, except that what only entities
of one kind have is read last, up to its first problem.
-/

namespace EntityCompiler.Document

/-- The bindings of the members, under their names. -/
structure Bindings where
  remoteProperties : Fields
  properties : Fields
  remoteServices : Fields
  remoteEvents : Fields

/-- The bindings in a document, if they can be read, and all problems met. -/
def bindings (raw : Fields) : Outcome (Option Bindings × List Problem) := do
  let (remoteProperties, problems₁) ← Outcome.collected (fields raw "remotePropertyBindings" none)
  let (properties, problems₂) ← Outcome.collected (fields raw "propertyBindings" none)
  let (remoteServices, problems₃) ← Outcome.collected (fields raw "remoteServiceBindings" none)
  let (remoteEvents, problems₄) ← Outcome.collected (fields raw "remoteEventBindings" none)
  let read := do
    return (⟨← remoteProperties, ← properties, ← remoteServices, ← remoteEvents⟩ : Bindings)
  return (read, problems₁ ++ problems₂ ++ problems₃ ++ problems₄)

/-- The members of an entity. -/
structure Members where
  properties : List PropertyDefinition := []
  services : List ServiceDefinition := []
  events : List EventDefinition := []
  subscriptions : List SubscriptionDefinition := []

namespace Members

/-- The services that have the name of a property, as problems. -/
def clashes (members : Members) (location : Option String) : List Problem :=
  (members.services.filter fun s => members.properties.any (·.name == s.name)).map fun s =>
    .plain (below location ["serviceDefinitions", s.name]) (.clash s.name)

end Members

/-- The services with their implementations, and all problems met. -/
def services (source : Fields) (location : Option String) (bindings : Bindings) :
    Outcome (List ServiceDefinition × List Problem) := do
  let (definitions, definitionProblems) ←
    Outcome.collected (fields source "serviceDefinitions" location)
  let (implementations, implementationProblems) ←
    Outcome.collected (fields source "serviceImplementations" location)
  match definitions, implementations with
  | none, _ => return ([], definitionProblems)
  | some _, none => return ([], implementationProblems)
  | some definitions, some implementations =>
    named definitions (below location ["serviceDefinitions"]) fun name raw inner =>
      service name raw (implementations.getD name) (bindings.remoteServices.getD name) inner
        (below location ["serviceImplementations", name])

/-- The members that are defined in one part of a document, and all problems met. -/
def definedMembers (source : Fields) (location : Option String) (bindings : Bindings) :
    Outcome (Members × List Problem) := do
  let (properties, propertyProblems) ← members source "propertyDefinitions" location
    fun name raw => property name raw (bindings.remoteProperties.getD name)
      (bindings.properties.getD name)
  let (services, serviceProblems) ← services source location bindings
  let (events, eventProblems) ← members source "eventDefinitions" location
    fun name raw => event name raw (bindings.remoteEvents.getD name)
  let (subscriptions, subscriptionProblems) ← members source "subscriptions" location subscription
  return (⟨properties, services, events, subscriptions⟩,
    propertyProblems ++ serviceProblems ++ eventProblems ++ subscriptionProblems)

/-- The key of the shape that holds the members, if it is not the document itself that does. -/
def membersKey? : EntityKind → Option String
  | .thing => some "thingShape"
  | .thingTemplate => some "thingShape"
  | _ => none

/-- The part of a document that holds the members, if there is one, and all problems met. -/
def membersSource (raw : Fields) (kind : EntityKind) : Outcome (Option Fields × List Problem) :=
  match kind, membersKey? kind with
  | .dataShape, _ => .ok (none, [])
  | _, none => .ok (some raw, [])
  | _, some key => Outcome.collected (fields raw key none)

/-- The members of an entity, and all problems met. -/
def entityMembers (raw : Fields) (kind : EntityKind) : Outcome (Members × List Problem) := do
  let (source, sourceProblems) ← membersSource raw kind
  let (bindings, bindingProblems) ← bindings raw
  match source, bindings with
  | some source, some bindings =>
    let location := membersKey? kind
    let (members, problems) ← definedMembers source location bindings
    return (members,
      sourceProblems ++ bindingProblems ++ problems ++ members.clashes location)
  | _, _ => return (Members.mk [] [] [] [], sourceProblems ++ bindingProblems)

/-- The text of a part of a tag; a part that is left out is empty. -/
def tagPart (tag : Fields) (key : String) : String :=
  ((tag.get? key).map Value.plain).getD ""

/-- The tags, each as its vocabulary, a colon and its term; what is no tag is passed over. -/
def tags (raw : Fields) : List String :=
  ((raw.getD "tags").items?.getD []).filterMap fun item =>
    item.fields?.map fun tag => tagPart tag "vocabulary" ++ ":" ++ tagPart tag "vocabularyTerm"

/-- The names of the thing shapes that a thing or a thing template implements. -/
def implementedShapes (raw : Fields) : List String :=
  match raw.getD "implementedShapes" with
  | .object entries => entries.map (·.1)
  | .list items => items.map Value.plain
  | _ => []

/-- The fields of a data shape. -/
def fieldDefinitions (raw : Fields) : Outcome (List DataShapeField) := do
  let definitions ← fields raw "fieldDefinitions" none
  let (read, problems) ← named definitions "fieldDefinitions" field
  if problems.isEmpty then return read
  else .error (.problem (.dueTo "fieldDefinitions" .fieldDefinitions problems))

/-- What only entities of one kind have. -/
def entityPart (raw : Fields) : EntityKind → Outcome EntityPart
  | .thing =>
    match text? raw "thingTemplate" with
    | none => Outcome.problem "thingTemplate" .noThingTemplate
    | some template => do
      let identifier ← number? raw "identifier" none
      return .thing {
        enabled := flag raw "enabled"
        identifier
        published := flag raw "published"
        valueStream := text? raw "valueStream"
        thingTemplate := template
        implementedShapes := implementedShapes raw }
  | .thingTemplate =>
    match text? raw "baseThingTemplate" with
    | none => Outcome.problem "baseThingTemplate" .noBaseThingTemplate
    | some template => do
      let visibility ← visibilityPermissions raw "instanceVisibilityPermissions"
      let permissions ← runtimePermissions raw "instanceRunTimePermissions"
      return .thingTemplate {
        valueStream := text? raw "valueStream"
        thingTemplate := template
        implementedShapes := implementedShapes raw
        instanceVisibilityPermissions := visibility
        instanceRuntimePermissions := permissions }
  | .thingShape => (runtimePermissions raw "instanceRunTimePermissions").map .thingShape
  | .dataShape => (fieldDefinitions raw).map .dataShape
  | .other => .ok .other

/-- The entity with the given name that a document describes. -/
def namedEntity (name : String) (raw : Fields) (kind : EntityKind) : Outcome Entity := do
  let (members, memberProblems) ← entityMembers raw kind
  let (definitions, definitionProblems) ← Outcome.collected (configurationTableDefinitions raw)
  let (tables, tableProblems) ← Outcome.collected (configurationTables raw)
  let (visibility, visibilityProblems) ←
    Outcome.collected (visibilityPermissions raw "visibilityPermissions")
  let (permissions, permissionProblems) ←
    Outcome.collected (runtimePermissions raw "runTimePermissions")
  let (aspects, aspectProblems) ← Outcome.collected (fields raw "aspects" none)
  match memberProblems, definitions, tables, visibility, permissions, aspects with
  | [], some definitions, some tables, some visibility, some permissions, some aspects => do
    let part ← Outcome.within none (.entity name) (entityPart raw kind)
    Entity.checked {
      name
      description := text? raw "description"
      documentationContent := text? raw "documentationContent"
      projectName := text? raw "projectName"
      tags := tags raw
      aspects := ⟨flag aspects "isEditableExtensionObject"⟩
      propertyDefinitions := members.properties
      serviceDefinitions := members.services
      eventDefinitions := members.events
      subscriptionDefinitions := members.subscriptions
      configurationTableDefinitions := definitions
      configurationTables := tables
      visibilityPermissions := visibility
      runtimePermissions := permissions
      part }
  | _, _, _, _, _, _ =>
    .error (.problem (.dueTo none (.entity name) (memberProblems ++ definitionProblems
      ++ tableProblems ++ visibilityProblems ++ permissionProblems ++ aspectProblems)))

/-- The entity of the given kind that a document describes. -/
def entity (document : Value) (kind : EntityKind) : Outcome Entity :=
  match document with
  | .object raw =>
    match text? raw "name" with
    | some name => namedEntity name raw kind
    | none => Outcome.problem "name" .noEntityName
  | v => Outcome.problem none (.documentNotAnObject v)

end EntityCompiler.Document
