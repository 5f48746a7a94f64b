import EntityCompiler.Entity.Basic
import EntityCompiler.Outline

/-!
# Outlines of entities

What a dump shows of an entity and of each of its parts.
-/

namespace EntityCompiler

open Outline (record optional)

/-- The outline of a base type. -/
def BaseType.outline (baseType : BaseType) : Outline :=
  .constant "BaseType" baseType.name

/-- The outline of a kind of entity. -/
def EntityKind.outline (kind : EntityKind) : Outline :=
  .constant "EntityKind" kind.constant

/-- The outline of a kind of permission. -/
def PermissionKind.outline (kind : PermissionKind) : Outline :=
  .constant "PermissionKind" kind.constant

/-- The outline of a kind of principal. -/
def PrincipalType.outline (type : PrincipalType) : Outline :=
  .constant "PrincipalType" type.constant

/-- The outline of a kind of visibility. -/
def VisibilityType.outline (type : VisibilityType) : Outline :=
  .constant "VisibilityType" type.constant

/-- The outline of the aspects of a field. -/
def FieldAspects.outline (aspects : FieldAspects) : Outline :=
  record "FieldAspects" [
    ("default_value", .ofValue aspects.defaultValue),
    ("minimum_value", optional .number aspects.minimumValue),
    ("maximum_value", optional .number aspects.maximumValue),
    ("units", optional .text aspects.units),
    ("is_required", .bool aspects.isRequired),
    ("is_read_only", .bool aspects.isReadOnly),
    ("is_persistent", .bool aspects.isPersistent),
    ("is_logged", .bool aspects.isLogged),
    ("is_primary_key", .bool aspects.isPrimaryKey),
    ("is_remote", .bool aspects.isRemote),
    ("data_change_type", optional .text aspects.dataChangeType),
    ("data_change_threshold", optional .number aspects.dataChangeThreshold),
    ("data_shape", optional .text aspects.dataShape),
    ("thing_template", optional .text aspects.thingTemplate),
    ("thing_shape", optional .text aspects.thingShape)]

/-- The outline of a remote binding of a property. -/
def RemotePropertyBinding.outline (binding : RemotePropertyBinding) : Outline :=
  record "RemotePropertyBinding" [
    ("source_name", optional .text binding.sourceName),
    ("options", .mapping (Outline.ofEntries binding.options))]

/-- The outline of a local binding of a property. -/
def LocalPropertyBinding.outline (binding : LocalPropertyBinding) : Outline :=
  record "LocalPropertyBinding" [
    ("source_thing_name", .text binding.sourceThingName),
    ("source_name", .text binding.sourceName)]

/-- The properties that the outlines of all fields start with. -/
def FieldDefinition.outlineProperties (field : FieldDefinition) : List (String × Outline) :=
  [("name", .text field.name),
    ("base_type", field.baseType.outline),
    ("description", optional .text field.description),
    ("aspects", field.aspects.outline)]

/-- The outline of a data shape field. -/
def DataShapeField.outline (field : DataShapeField) : Outline :=
  record "DataShapeField" (FieldDefinition.outlineProperties field)

/-- The outline of a parameter of a service. -/
def ServiceParameter.outline (parameter : ServiceParameter) : Outline :=
  record "ServiceParameter" (FieldDefinition.outlineProperties parameter)

/-- The outline of a property. -/
def PropertyDefinition.outline (property : PropertyDefinition) : Outline :=
  record "PropertyDefinition" (property.toFieldDefinition.outlineProperties ++ [
    ("remote_binding", optional RemotePropertyBinding.outline property.remoteBinding),
    ("local_binding", optional LocalPropertyBinding.outline property.localBinding)])

/-- The outline of a result type. -/
def ResultType.outline (result : ResultType) : Outline :=
  record "ResultType" [
    ("base_type", result.baseType.outline),
    ("aspects", result.aspects.outline)]

/-- The outline of a remote binding of a service. -/
def RemoteServiceBinding.outline (binding : RemoteServiceBinding) : Outline :=
  record "RemoteServiceBinding" [
    ("source_name", optional .text binding.sourceName),
    ("enable_queue", .bool binding.enableQueue),
    ("timeout", optional .number binding.timeout)]

/-- The outline of a service. -/
def ServiceDefinition.outline (service : ServiceDefinition) : Outline :=
  record "ServiceDefinition" [
    ("name", .text service.name),
    ("description", optional .text service.description),
    ("result_type", service.resultType.outline),
    ("parameters", .list (service.parameters.map ServiceParameter.outline)),
    ("is_async", .bool service.isAsync),
    ("is_allow_override", .bool service.isAllowOverride),
    ("is_overridden", .bool service.isOverridden),
    ("code", optional .text service.code),
    ("remote_binding", optional RemoteServiceBinding.outline service.remoteBinding)]

/-- The outline of a remote binding of an event. -/
def RemoteEventBinding.outline (binding : RemoteEventBinding) : Outline :=
  record "RemoteEventBinding" [("source_name", .text binding.sourceName)]

/-- The outline of an event. -/
def EventDefinition.outline (event : EventDefinition) : Outline :=
  record "EventDefinition" [
    ("name", .text event.name),
    ("description", optional .text event.description),
    ("data_shape", .text event.dataShape),
    ("remote_binding", optional RemoteEventBinding.outline event.remoteBinding)]

/-- The outline of a subscription. -/
def SubscriptionDefinition.outline (subscription : SubscriptionDefinition) : Outline :=
  record "SubscriptionDefinition" [
    ("name", .text subscription.name),
    ("description", optional .text subscription.description),
    ("event_name", .text subscription.eventName),
    ("source", optional .text subscription.source),
    ("source_property", optional .text subscription.sourceProperty),
    ("enabled", .bool subscription.enabled),
    ("code", .text subscription.code)]

/-- The outline of an entry of a permission. -/
def PermissionEntry.outline (entry : PermissionEntry) : Outline :=
  record "PermissionEntry" [
    ("principal", .text entry.principal),
    ("principal_type", entry.principalType.outline),
    ("is_permitted", .bool entry.isPermitted)]

/-- The outline of the permissions on a resource. -/
def RuntimePermission.outline (permission : RuntimePermission) : Outline :=
  record "RuntimePermission" [
    ("resource_name", .text permission.resourceName),
    ("entries_by_kind", .mapping (permission.entriesByKind.map fun (kind, entries) =>
      ("PermissionKind." ++ kind.constant, .list (entries.map PermissionEntry.outline))))]

/-- The outline of permissions under the names of their resources. -/
def PermissionIndex.outline (index : PermissionIndex) : Outline :=
  .mapping (index.map fun (name, permission) => (name, permission.outline))

/-- The outline of a principal that an entity is visible to. -/
def VisibilityPrincipal.outline (principal : VisibilityPrincipal) : Outline :=
  record "VisibilityPrincipal" [
    ("organization", .text principal.organization),
    ("unit", optional .text principal.unit),
    ("visibility_type", principal.visibilityType.outline)]

/-- The outline of the schema of a configuration table. -/
def ConfigurationTableDefinition.outline (definition : ConfigurationTableDefinition) : Outline :=
  record "ConfigurationTableDefinition" [
    ("name", .text definition.name),
    ("description", optional .text definition.description),
    ("data_shape_name", .text definition.dataShapeName),
    ("is_multi_row", .bool definition.isMultiRow)]

/-- The outline of the aspects of an entity. -/
def EntityAspects.outline (aspects : EntityAspects) : Outline :=
  record "EntityAspects" [
    ("is_editable_extension_object", .bool aspects.isEditableExtensionObject)]

namespace Entity

/-- The properties that the outlines of entities of all kinds start with. -/
def outlineProperties (entity : Entity) : List (String × Outline) :=
  [("name", .text entity.name),
    ("description", optional .text entity.description),
    ("documentation_content", optional .text entity.documentationContent),
    ("project_name", optional .text entity.projectName),
    ("tags", .list (entity.tags.map .text)),
    ("aspects", entity.aspects.outline),
    ("property_definitions", .list (entity.propertyDefinitions.map (·.outline))),
    ("service_definitions", .list (entity.serviceDefinitions.map (·.outline))),
    ("event_definitions", .list (entity.eventDefinitions.map (·.outline))),
    ("subscription_definitions", .list (entity.subscriptionDefinitions.map (·.outline))),
    ("configuration_table_definitions",
      .list (entity.configurationTableDefinitions.map (·.outline))),
    ("configuration_tables", .mapping (Outline.ofEntries entity.configurationTables)),
    ("visibility_permissions", .list (entity.visibilityPermissions.map (·.outline))),
    ("runtime_permissions", PermissionIndex.outline entity.runtimePermissions)]

/-- The outline of an entity. -/
def outline (entity : Entity) : Outline :=
  match entity.part with
  | .thing part =>
    record "Thing" (entity.outlineProperties ++ [
      ("enabled", .bool part.enabled),
      ("identifier", optional .number part.identifier),
      ("published", .bool part.published),
      ("value_stream", optional .text part.valueStream),
      ("thing_template", .text part.thingTemplate),
      ("implemented_shapes", .list (part.implementedShapes.map .text))])
  | .thingTemplate part =>
    record "ThingTemplate" (entity.outlineProperties ++ [
      ("value_stream", optional .text part.valueStream),
      ("thing_template", .text part.thingTemplate),
      ("implemented_shapes", .list (part.implementedShapes.map .text)),
      ("instance_visibility_permissions",
        .list (part.instanceVisibilityPermissions.map (·.outline))),
      ("instance_runtime_permissions",
        PermissionIndex.outline part.instanceRuntimePermissions)])
  | .thingShape permissions =>
    record "ThingShape" (entity.outlineProperties ++ [
      ("instance_runtime_permissions", PermissionIndex.outline permissions)])
  | .dataShape fields =>
    record "DataShape" (entity.outlineProperties ++ [
      ("field_definitions", .list (fields.map DataShapeField.outline))])
  | .other => record "OtherEntity" entity.outlineProperties

end Entity

end EntityCompiler
