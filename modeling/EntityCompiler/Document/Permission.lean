import EntityCompiler.Document.Access
import EntityCompiler.Entity.Permission
import EntityCompiler.Text.Basic

/-!
# Reading permissions

Reads who may use the resources of an entity and who can see it. All problems of a list of
permissions are collected. If a resource occurs twice, the last permission on it counts, in the
first one's place.
-/

namespace EntityCompiler.Document

/-- An entry of a permission. -/
def permissionEntry (raw : Value) (location : String) : Outcome PermissionEntry :=
  match raw.fields? with
  | none => Outcome.problem location (.notAPrincipal raw)
  | some entries =>
    match text? entries "name", (entries.getD "type").text?.bind PrincipalType.ofLabel? with
    | some name, some type => .ok ⟨name, type, flag entries "isPermitted"⟩
    | _, _ => Outcome.problem location (.notAPrincipal raw)

/-- The entries for one kind of permission, and the problems met; no entries if they are no list. -/
def permissionEntries (raw : Fields) (kind : PermissionKind) (location : String) :
    Outcome (Option (List PermissionEntry) × List Problem) := do
  let (found, problems) ← Outcome.collected (items raw kind.label location)
  match found with
  | none => return (none, problems)
  | some items =>
    let (entries, problems) ← Outcome.gather
      (fun (item, index) => permissionEntry item (below location [kind.label, toString index]))
      items.zipIdx
    return (some entries, problems)

/-- The entries for each kind of permission that has a list of them, and all problems met. -/
def permissionKinds (raw : Fields) (location : String) :
    List PermissionKind → Outcome (List (PermissionKind × List PermissionEntry) × List Problem)
  | [] => .ok ([], [])
  | kind :: kinds => do
    let (entries, problems) ← permissionEntries raw kind location
    let (others, otherProblems) ← permissionKinds raw location kinds
    return ((entries.map (kind, ·)).toList ++ others, problems ++ otherProblems)

/-- The permission that an item of a list states. -/
def runtimePermission (raw : Value) (location : String) :
    Outcome (Option RuntimePermission × List Problem) :=
  match raw.fields? with
  | none => .ok (none, [.plain location .itemNotAnObject])
  | some entries =>
    match text? entries "resourceName" with
    | none => .ok (none, [.plain (below location ["resourceName"]) .noResourceName])
    | some resource => do
      let (kinds, problems) ← permissionKinds entries location PermissionKind.all
      if problems.isEmpty then
        let permission ← RuntimePermission.checked ⟨resource, kinds⟩
        return (some permission, [])
      else return (none, problems)

/-- The permissions that the items of a list state, added to those of an index, and all problems
met. Each item comes with its position. -/
def permissionIndex (location : String) :
    List (Value × Nat) → PermissionIndex → Outcome (PermissionIndex × List Problem)
  | [], index => .ok (index, [])
  | (item, position) :: rest, index => do
    let (permission, problems) ←
      runtimePermission item (below location ["permissions", toString position])
    let extended := match permission with
      | some permission => Fields.put index permission.resourceName permission
      | none => index
    let (all, others) ← permissionIndex location rest extended
    return (all, problems ++ others)

/-- The runtime permissions under a key of a document. -/
def runtimePermissions (raw : Fields) (key : String) : Outcome PermissionIndex := do
  let container ← fields raw key none
  let items ← items container "permissions" key
  let (index, problems) ← permissionIndex key items.zipIdx []
  if problems.isEmpty then return index
  else .error (.problem (.dueTo key .runtimePermissions problems))

/-- The organization and the unit that a name puts a colon between. -/
def unitOf? (name : String) : Option (String × String) := do
  let (organization, unit) ← Text.splitAt? [':'] name.toList
  if organization.isEmpty || unit.isEmpty then none
  else some (String.ofList organization, String.ofList unit)

/-- A principal that the entity is visible to. -/
def visibilityPrincipal (raw : Value) (location : String) : Outcome VisibilityPrincipal :=
  match raw.fields? with
  | none => Outcome.problem location .itemNotAnObject
  | some entries =>
    let type := entries.getD "type"
    match text? entries "name", type.text?.bind VisibilityType.ofLabel? with
    | none, _ => Outcome.problem location .noPrincipalName
    | some name, some .organization => VisibilityPrincipal.checked ⟨name, none, .organization⟩
    | some name, some .organizationalUnit =>
      match unitOf? name with
      | some (organization, unit) =>
        VisibilityPrincipal.checked ⟨organization, some unit, .organizationalUnit⟩
      | none => Outcome.problem (below location ["name"]) (.notAUnit name)
    | some _, none => Outcome.problem (below location ["type"]) (.unknownVisibility type)

/-- The visibility permissions under a key of a document. -/
def visibilityPermissions (raw : Fields) (key : String) : Outcome (List VisibilityPrincipal) := do
  let container ← fields raw key none
  let items ← items container "Visibility" key
  let (principals, problems) ← Outcome.gather
    (fun (item, index) => visibilityPrincipal item (below key ["Visibility", toString index]))
    items.zipIdx
  if problems.isEmpty then return principals
  else .error (.problem (.dueTo key .visibility problems))

end EntityCompiler.Document
