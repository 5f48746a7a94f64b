import EntityCompiler.Declaration.Expression
import EntityCompiler.Entity.Permission

/-!
# Decorators for permissions

Runtime permissions become a decorator that allows and one that denies, either of them only if there
is somebody to name. The arguments are grouped by the kind of permission: the kind, then its
principals. Visibility becomes one decorator that lists organizations and their units.
-/

namespace EntityCompiler

/-- The resource name that stands for all resources. -/
def wildcardResource : String := "*"

/-- The reference to a principal. -/
def PermissionEntry.reference (entry : PermissionEntry) : Expression :=
  .access (.name (entry.principalType.label ++ "s")) entry.principal

/-- The reference to a kind of permission. -/
def PermissionKind.reference (kind : PermissionKind) : Expression :=
  .access (.name "Permission") kind.label

namespace RuntimePermission

/-- The arguments for one kind of permission: none, or the kind and the principals that are granted
it, or denied it. -/
def kindArguments (permission : RuntimePermission) (permitted : Bool) (kind : PermissionKind) :
    List Expression :=
  match (permission.entries kind).filter (·.isPermitted == permitted) with
  | [] => []
  | entries => kind.reference :: entries.map PermissionEntry.reference

/-- The arguments for all kinds of permissions. -/
def arguments (permission : RuntimePermission) (permitted : Bool) : List Expression :=
  PermissionKind.all.flatMap (permission.kindArguments permitted)

/-- The name of the decorator that grants permissions, or denies them. -/
def decoratorName (permitted forInstances : Bool) : String :=
  (if permitted then "allow" else "deny") ++ (if forInstances then "Instance" else "")

/-- The arguments of the decorator that grants permissions, or of the one that denies them. With
`explicit`, the resource is named in front of them, unless it is the wildcard. -/
def decoratorArguments (permission : RuntimePermission) (resourceName : String)
    (explicit permitted : Bool) : List Expression :=
  (if explicit && resourceName != wildcardResource then [.string resourceName] else [])
    ++ permission.arguments permitted

/-- The decorators of a permission. A kind and a principal are two arguments, so a single one, which
would be the name of the resource, makes no decorator. -/
def decorators (permission : RuntimePermission) (resourceName : String)
    (explicit forInstances : Bool) : List Decorator :=
  [true, false].filterMap fun permitted =>
    let arguments := permission.decoratorArguments resourceName explicit permitted
    if 1 < arguments.length then some (.ofName (decoratorName permitted forInstances) arguments)
    else none

end RuntimePermission

namespace VisibilityPrincipal

/-- The reference to an organization, or to a unit of one. -/
def reference (principal : VisibilityPrincipal) : Expression :=
  let organization := .access (.name "Organizations") principal.organization
  match principal.visibilityType with
  | .organization => organization
  | .organizationalUnit =>
    .call (.name "Unit") [organization, .string (principal.unit.getD "")]

/-- The decorator that makes an entity, or its instances, visible. -/
def decorator (principals : List VisibilityPrincipal) (forInstances : Bool) : Decorator :=
  .ofName (if forInstances then "visibleInstance" else "visible") (principals.map reference)

end VisibilityPrincipal

end EntityCompiler
