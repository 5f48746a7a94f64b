/-!
# Kinds

The kinds of entities, of permissions, of the principals that permissions are granted to, and of the
principals that entities are visible to. `label` is the word for a kind in documents, `constant` the
one in dumps.
-/

namespace EntityCompiler

/-- The kinds of entities. -/
inductive EntityKind where
  | thing
  | thingTemplate
  | thingShape
  | dataShape
  | other
deriving DecidableEq, Inhabited

namespace EntityKind

/-- All kinds of entities. -/
def all : List EntityKind := [thing, thingTemplate, thingShape, dataShape, other]

/-- The word for a kind of entity in documents. -/
def label : EntityKind → String
  | thing => "Thing"
  | thingTemplate => "ThingTemplate"
  | thingShape => "ThingShape"
  | dataShape => "DataShape"
  | other => "Other"

/-- The word for a kind of entity in dumps. -/
def constant : EntityKind → String
  | thing => "THING"
  | thingTemplate => "THING_TEMPLATE"
  | thingShape => "THING_SHAPE"
  | dataShape => "DATA_SHAPE"
  | other => "OTHER"

end EntityKind

/-- The kinds of runtime permissions. -/
inductive PermissionKind where
  | propertyRead
  | propertyWrite
  | serviceInvoke
  | eventInvoke
  | eventSubscribe
deriving DecidableEq, Inhabited

namespace PermissionKind

/-- All kinds of permissions, in the order in which decorators list them. -/
def all : List PermissionKind :=
  [propertyRead, propertyWrite, serviceInvoke, eventInvoke, eventSubscribe]

theorem mem_all (kind : PermissionKind) : kind ∈ all := by
  cases kind <;> decide

/-- The word for a kind of permission in documents. -/
def label : PermissionKind → String
  | propertyRead => "PropertyRead"
  | propertyWrite => "PropertyWrite"
  | serviceInvoke => "ServiceInvoke"
  | eventInvoke => "EventInvoke"
  | eventSubscribe => "EventSubscribe"

/-- The word for a kind of permission in dumps. -/
def constant : PermissionKind → String
  | propertyRead => "PROPERTY_READ"
  | propertyWrite => "PROPERTY_WRITE"
  | serviceInvoke => "SERVICE_INVOKE"
  | eventInvoke => "EVENT_INVOKE"
  | eventSubscribe => "EVENT_SUBSCRIBE"

end PermissionKind

/-- The kinds of principals that a permission can be granted to. -/
inductive PrincipalType where
  | user
  | group
deriving DecidableEq, Inhabited

namespace PrincipalType

/-- All kinds of principals. -/
def all : List PrincipalType := [user, group]

/-- The word for a kind of principal in documents. -/
def label : PrincipalType → String
  | user => "User"
  | group => "Group"

/-- The word for a kind of principal in dumps. -/
def constant : PrincipalType → String
  | user => "USER"
  | group => "GROUP"

/-- The kind of principal with this label. -/
def ofLabel? (s : String) : Option PrincipalType :=
  all.find? (·.label == s)

end PrincipalType

/-- The kinds of principals that an entity can be visible to. -/
inductive VisibilityType where
  | organization
  | organizationalUnit
deriving DecidableEq, Inhabited

namespace VisibilityType

/-- All kinds of principals that an entity can be visible to. -/
def all : List VisibilityType := [organization, organizationalUnit]

/-- The word for a kind of visibility in documents. -/
def label : VisibilityType → String
  | organization => "Organization"
  | organizationalUnit => "OrganizationalUnit"

/-- The word for a kind of visibility in dumps. -/
def constant : VisibilityType → String
  | organization => "ORGANIZATION"
  | organizationalUnit => "ORGANIZATIONAL_UNIT"

/-- The kind of visibility with this label. -/
def ofLabel? (s : String) : Option VisibilityType :=
  all.find? (·.label == s)

end VisibilityType

end EntityCompiler
