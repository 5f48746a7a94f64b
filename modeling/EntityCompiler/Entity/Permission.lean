import EntityCompiler.Contract
import EntityCompiler.Entity.Kind

/-!
# Permissions

Who may do what with the resources of an entity, and who can see it.
-/

namespace EntityCompiler

/-- A principal that is granted or denied a permission. -/
structure PermissionEntry where
  principal : String
  principalType : PrincipalType
  isPermitted : Bool
deriving DecidableEq, Inhabited

/-- The permissions on a resource: the entries for each kind of permission. -/
structure RuntimePermission where
  resourceName : String
  entriesByKind : List (PermissionKind × List PermissionEntry)
deriving DecidableEq, Inhabited

namespace RuntimePermission

/-- The entries for a kind of permission. -/
def entries (permission : RuntimePermission) (kind : PermissionKind) : List PermissionEntry :=
  ((permission.entriesByKind.find? (·.1 == kind)).map (·.2)).getD []

/-- A permission, if it lists its entries for every kind. -/
def checked (permission : RuntimePermission) : Outcome RuntimePermission := do
  Outcome.require .kindsListed
    (PermissionKind.all.all fun kind => permission.entriesByKind.any (·.1 == kind))
  return permission

end RuntimePermission

/-- The permissions on some resources, under their names. -/
abbrev PermissionIndex := List (String × RuntimePermission)

namespace PermissionIndex

/-- The permission on a resource. -/
def get? (index : PermissionIndex) (resource : String) : Option RuntimePermission :=
  (index.find? (·.1 == resource)).map (·.2)

end PermissionIndex

/-- An organization, or a unit of one, that an entity is visible to. -/
structure VisibilityPrincipal where
  organization : String
  unit : Option String
  visibilityType : VisibilityType
deriving DecidableEq, Inhabited

/-- A principal, if it has a unit exactly when it is an organizational unit. -/
def VisibilityPrincipal.checked (principal : VisibilityPrincipal) :
    Outcome VisibilityPrincipal := do
  Outcome.require .unitMatchesType
    ((principal.visibilityType == .organizationalUnit) == principal.unit.isSome)
  return principal

end EntityCompiler
