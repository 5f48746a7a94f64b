import EntityCompiler.Declaration.OfEntity
import Mathlib.Data.List.Perm.Basic
import Mathlib.Tactic.Lemma

/-!
# Grants

A grant allows or denies one principal one kind of use of one resource, of an entity or of its
instances. An entity states its grants in the indexes of its permissions, the class declared for it
states them in decorators, some at the class and some at its members. `Grant.ofClassDecorator` and
`Grant.ofMemberDecorator` read grants off decorators, knowing nothing of how these were made.

Main statement: what is read off a class and its members are the grants of the entity, each as often
as the entity states it. The members hold those on the entity's own properties and services, of the
instances if the entity has any, and the class holds all others.
-/

namespace EntityCompiler

/-- One entry of the access control of an entity: who may, or may not, do what with which resource.
-/
structure Grant where
  /-- Does it concern the instances of the entity, rather than the entity itself? -/
  forInstances : Bool
  resource : String
  kind : PermissionKind
  entry : PermissionEntry
deriving DecidableEq

/-! ## The grants of an entity -/

/-- The grants that a permission states on a resource. -/
def RuntimePermission.grants (permission : RuntimePermission) (forInstances : Bool)
    (resource : String) : List Grant :=
  PermissionKind.all.flatMap fun kind =>
    (permission.entries kind).map (⟨forInstances, resource, kind, ·⟩)

namespace PermissionIndex

/-- The names of the resources of an index. -/
def resources (index : PermissionIndex) : List String :=
  index.map (·.1)

/-- The grants that an index states. -/
def grants (index : PermissionIndex) (forInstances : Bool) : List Grant :=
  index.flatMap fun (resource, permission) => permission.grants forInstances resource

/-- The grants on one resource; none if the index does not have it. -/
def grantsOn (index : PermissionIndex) (forInstances : Bool) (resource : String) : List Grant :=
  ((get? index resource).map fun permission => permission.grants forInstances resource).getD []

end PermissionIndex

namespace Entity

/-- Can there be instances of the entity, with permissions of their own? -/
def hasInstances (entity : Entity) : Bool :=
  entity.kind == .thingTemplate || entity.kind == .thingShape

/-- The permissions of the instances of an entity. -/
def instancePermissions (entity : Entity) : PermissionIndex :=
  match entity.part with
  | .thingTemplate part => part.instanceRuntimePermissions
  | .thingShape permissions => permissions
  | _ => []

/-- The grants that an entity states. -/
def grants (entity : Entity) : List Grant :=
  PermissionIndex.grants entity.runtimePermissions false
    ++ PermissionIndex.grants entity.instancePermissions true

/-- Does a grant belong to a member: is it on a property or a service of the entity, and about the
instances exactly if the entity has them? -/
def isMemberGrant (entity : Entity) (grant : Grant) : Bool :=
  grant.forInstances == entity.hasInstances && entity.locallyDefinedNames.contains grant.resource

end Entity

/-! ## Reading grants off decorators -/

namespace Grant

/-- The kind of permission that an argument names. -/
def kindOf? : Expression → Option PermissionKind
  | .access (.name "Permission") label => PermissionKind.all.find? (·.label == label)
  | _ => none

/-- The principal that an argument names. -/
def principalOf? : Expression → Option (PrincipalType × String)
  | .access (.name "Users") principal => some (.user, principal)
  | .access (.name "Groups") principal => some (.group, principal)
  | _ => none

/-- The principal that an argument names, with the kind of permission that is in force there. -/
def principalUnder (current : Option PermissionKind) (argument : Expression) :
    List (PermissionKind × PrincipalType × String) :=
  match current, principalOf? argument with
  | some kind, some principal => [(kind, principal)]
  | _, _ => []

/-- The principals that arguments name, each with the last kind of permission in front of it. -/
def principals (current : Option PermissionKind) :
    List Expression → List (PermissionKind × PrincipalType × String)
  | [] => []
  | argument :: rest =>
    match kindOf? argument with
    | some kind => principals kind rest
    | none => principalUnder current argument ++ principals current rest

/-- Whether a decorator allows or denies something, and whether it does so for instances. -/
def polarityOf? : String → Option (Bool × Bool)
  | "allow" => some (true, false)
  | "allowInstance" => some (true, true)
  | "deny" => some (false, false)
  | "denyInstance" => some (false, true)
  | _ => none

/-- The grants on a resource that arguments state. -/
def ofArguments (isPermitted forInstances : Bool) (resource : String)
    (arguments : List Expression) : List Grant :=
  (principals none arguments).map fun (kind, type, principal) =>
    ⟨forInstances, resource, kind, ⟨principal, type, isPermitted⟩⟩

/-- The grants that a decorator of a class states. A text in front names the resource; without it
the wildcard is meant. -/
def ofClassDecorator (decorator : Decorator) : List Grant :=
  match polarityOf? decorator.name with
  | none => []
  | some (isPermitted, forInstances) =>
    match decorator.arguments with
    | .string resource :: arguments => ofArguments isPermitted forInstances resource arguments
    | arguments => ofArguments isPermitted forInstances wildcardResource arguments

/-- The grants that a decorator of a member states; they are on the member itself. -/
def ofMemberDecorator (forInstances : Bool) (member : String) (decorator : Decorator) :
    List Grant :=
  match polarityOf? decorator.name with
  | none => []
  | some (isPermitted, _) => ofArguments isPermitted forInstances member decorator.arguments

end Grant

/-- The decorators of a member. -/
def Member.decorators : Member → List Decorator
  | property declaration => declaration.decorators
  | method declaration => declaration.decorators

/-- The grants that are read off the decorators of a member. -/
def Member.grants (forInstances : Bool) (member : Member) : List Grant :=
  member.decorators.flatMap (Grant.ofMemberDecorator forInstances member.name)

namespace ClassDeclaration

/-- The grants that are read off the decorators of the class itself. -/
def classGrants (declaration : ClassDeclaration) : List Grant :=
  declaration.decorators.flatMap Grant.ofClassDecorator

/-- The grants that are read off the decorators of all members. -/
def memberGrants (declaration : ClassDeclaration) (forInstances : Bool) : List Grant :=
  declaration.members.flatMap (Member.grants forInstances)

end ClassDeclaration

/-! ## What the reader makes of the arguments of one permission -/

namespace Grant

@[simp] lemma kindOf?_kindReference (kind : PermissionKind) :
    kindOf? kind.reference = some kind := by
  cases kind <;> rfl

@[simp] lemma kindOf?_entryReference (entry : PermissionEntry) :
    kindOf? entry.reference = none := by
  obtain ⟨principal, type, isPermitted⟩ := entry
  cases type <;> rfl

@[simp] lemma principalOf?_entryReference (entry : PermissionEntry) :
    principalOf? entry.reference = some (entry.principalType, entry.principal) := by
  obtain ⟨principal, type, isPermitted⟩ := entry
  cases type <;> rfl

/-- References to entries are read as their principals, under the kind that stands in front. -/
lemma principals_references (kind : PermissionKind) (entries : List PermissionEntry)
    (rest : List Expression) :
    principals (some kind) (entries.map PermissionEntry.reference ++ rest)
      = entries.map (fun entry => (kind, entry.principalType, entry.principal))
        ++ principals (some kind) rest := by
  induction entries with
  | nil => rfl
  | cons entry entries ih =>
    rw [List.map_cons, List.map_cons, List.cons_append, List.cons_append, ← ih]
    simp only [principals, principalUnder, kindOf?_entryReference, principalOf?_entryReference,
      List.singleton_append]

/-- The arguments for all kinds are read kind by kind, whatever kind was read before. -/
lemma principals_arguments (permission : RuntimePermission) (permitted : Bool)
    (kinds : List PermissionKind) (current : Option PermissionKind) :
    principals current (kinds.flatMap (permission.kindArguments permitted))
      = kinds.flatMap fun kind =>
          ((permission.entries kind).filter (·.isPermitted == permitted)).map
            fun entry => (kind, entry.principalType, entry.principal) := by
  induction kinds generalizing current with
  | nil => rfl
  | cons kind kinds ih =>
    rw [List.flatMap_cons, List.flatMap_cons, RuntimePermission.kindArguments]
    split
    · rename_i hnone
      rw [List.nil_append, ih, hnone, List.map_nil, List.nil_append]
    · simp only [List.cons_append, principals, kindOf?_kindReference, principals_references, ih]

/-- The grants of a permission that allow, or that deny, read off its arguments. -/
lemma ofArguments_arguments (permission : RuntimePermission) (permitted forInstances : Bool)
    (resource : String) :
    ofArguments permitted forInstances resource (permission.arguments permitted)
      = PermissionKind.all.flatMap fun kind =>
          ((permission.entries kind).filter (·.isPermitted == permitted)).map
            (⟨forInstances, resource, kind, ·⟩) := by
  unfold ofArguments RuntimePermission.arguments
  rw [principals_arguments, List.map_flatMap]
  refine List.flatMap_congr fun kind _ => ?_
  rw [List.map_map]
  refine List.map_congr_left fun entry hentry => ?_
  have hpermitted : entry.isPermitted = permitted := by
    simpa using (List.mem_filter.mp hentry).2
  simp only [Function.comp, ← hpermitted]

/-- A permission splits into what it allows and what it denies. -/
lemma ofArguments_perm_grants (permission : RuntimePermission) (forInstances : Bool)
    (resource : String) :
    (ofArguments true forInstances resource (permission.arguments true)
      ++ ofArguments false forInstances resource (permission.arguments false)).Perm
      (permission.grants forInstances resource) := by
  rw [ofArguments_arguments, ofArguments_arguments, RuntimePermission.grants]
  refine (List.flatMap_append_perm _ _ _).trans (List.Perm.flatMap_left _ fun kind _ => ?_)
  rw [← List.map_append]
  refine List.Perm.map _ ?_
  have hsplit := List.filter_append_perm (·.isPermitted == true) (permission.entries kind)
  simpa using hsplit

/-! ## What the reader makes of the decorators of one permission -/

/-- The arguments of a permission start with a kind, if there are any. -/
lemma arguments_ne_string (permission : RuntimePermission) (permitted : Bool) (text : String)
    (rest : List Expression) : permission.arguments permitted ≠ .string text :: rest := by
  have hkinds : ∀ kinds : List PermissionKind,
      kinds.flatMap (permission.kindArguments permitted) ≠ .string text :: rest := by
    intro kinds
    induction kinds with
    | nil => simp
    | cons kind kinds ih =>
      rw [List.flatMap_cons, RuntimePermission.kindArguments]
      split
      · exact ih
      · simp [PermissionKind.reference]
  exact hkinds _

lemma polarityOf?_decoratorName (permitted forInstances : Bool) :
    polarityOf? (RuntimePermission.decoratorName permitted forInstances)
      = some (permitted, forInstances) := by
  cases permitted <;> cases forInstances <;> rfl

/-- There are no arguments, or a kind and a principal at least. -/
lemma length_arguments (permission : RuntimePermission) (permitted : Bool) :
    permission.arguments permitted = [] ∨ 1 < (permission.arguments permitted).length := by
  unfold RuntimePermission.arguments
  induction PermissionKind.all with
  | nil => exact .inl rfl
  | cons kind kinds ih =>
    rw [List.flatMap_cons, RuntimePermission.kindArguments]
    split
    · exact ih
    · rename_i hsome
      obtain ⟨entry, entries, hentries⟩ := List.exists_cons_of_ne_nil hsome
      right
      simp [hentries]

/-- A decorator is there exactly if its polarity has arguments, whether or not the resource is named
in front of them. -/
lemma one_lt_length_decoratorArguments (permission : RuntimePermission) (resource : String)
    (explicit permitted : Bool) :
    1 < (permission.decoratorArguments resource explicit permitted).length
      ↔ permission.arguments permitted ≠ [] := by
  rw [RuntimePermission.decoratorArguments, List.length_append]
  rcases length_arguments permission permitted with hnone | hsome
  · rw [hnone]
    split <;> simp
  · exact iff_of_true (by omega) (List.ne_nil_of_length_pos (by omega))

/-- A reader that makes of either decorator of a permission what its arguments say reads the grants
of the permission. -/
lemma flatMap_decorators_perm {permission : RuntimePermission} {resource : String}
    {explicit forInstances scope : Bool} {read : Decorator → List Grant}
    (hread : ∀ permitted, permission.arguments permitted ≠ [] →
      read (.ofName (RuntimePermission.decoratorName permitted forInstances)
        (permission.decoratorArguments resource explicit permitted))
        = ofArguments permitted scope resource (permission.arguments permitted)) :
    ((permission.decorators resource explicit forInstances).flatMap read).Perm
      (permission.grants scope resource) := by
  have hone : ∀ permitted,
      (if 1 < (permission.decoratorArguments resource explicit permitted).length then
        read (.ofName (RuntimePermission.decoratorName permitted forInstances)
          (permission.decoratorArguments resource explicit permitted))
      else [])
      = ofArguments permitted scope resource (permission.arguments permitted) := by
    intro permitted
    have hlength := one_lt_length_decoratorArguments permission resource explicit permitted
    split
    · rename_i hsome
      exact hread permitted (hlength.mp hsome)
    · rename_i hnone
      rw [hlength, not_not] at hnone
      rw [hnone]
      rfl
  refine List.Perm.trans (List.Perm.of_eq ?_) (ofArguments_perm_grants permission scope resource)
  rw [← hone true, ← hone false]
  unfold RuntimePermission.decorators
  by_cases htrue : 1 < (permission.decoratorArguments resource explicit true).length <;>
    by_cases hfalse : 1 < (permission.decoratorArguments resource explicit false).length <;>
      simp [htrue, hfalse]

/-- At a class, the decorators of a permission are read as its grants. -/
lemma flatMap_ofClassDecorator_perm (permission : RuntimePermission) (resource : String)
    (forInstances : Bool) :
    ((permission.decorators resource true forInstances).flatMap ofClassDecorator).Perm
      (permission.grants forInstances resource) := by
  refine flatMap_decorators_perm fun permitted hsome => ?_
  rw [ofClassDecorator, Decorator.name_ofName, polarityOf?_decoratorName,
    Decorator.arguments_ofName, RuntimePermission.decoratorArguments]
  split
  · rename_i hnone
    simp at hnone
  · rename_i hpolarity
    obtain ⟨rfl, rfl⟩ := Prod.mk.inj (Option.some.inj hpolarity)
    by_cases hwild : resource = wildcardResource
    · -- nothing stands in front of the arguments, which do not start with a text
      simp only [hwild, bne_self_eq_false, Bool.and_false, Bool.false_eq_true, if_false,
        List.nil_append]
      split
      · rename_i harguments
        exact absurd harguments (arguments_ne_string permission _ _ _)
      · rfl
    · simp [hwild]

/-- At a member, the decorators of the permission on it are read as its grants. -/
lemma flatMap_ofMemberDecorator_perm (permission : RuntimePermission) (member : String)
    (scope : Bool) :
    ((permission.decorators member false false).flatMap (ofMemberDecorator scope member)).Perm
      (permission.grants scope member) := by
  refine flatMap_decorators_perm fun permitted hsome => ?_
  rw [ofMemberDecorator, Decorator.name_ofName, polarityOf?_decoratorName,
    Decorator.arguments_ofName]
  rfl

/-! ## Decorators that state no grant -/

/-- A decorator that neither allows nor denies anything. -/
def IsSilent (decorator : Decorator) : Prop :=
  polarityOf? decorator.name = none

lemma isSilent_ofName {name : String} (arguments : List Expression)
    (h : polarityOf? name = none) : IsSilent (.ofName name arguments) := by
  rwa [IsSilent, Decorator.name_ofName]

lemma isSilent_flag {name : String} {isSet : Bool} (h : polarityOf? name = none) :
    ∀ d ∈ Decorator.flag name isSet, IsSilent d :=
  Decorator.forall_mem_flag (isSilent_ofName [] h) isSet

lemma isSilent_optional {α : Type} {name : String} {argument : α → Expression} {x : Option α}
    (h : polarityOf? name = none) : ∀ d ∈ Decorator.optional name argument x, IsSilent d :=
  Decorator.forall_mem_optional (fun _ => isSilent_ofName _ h) x

lemma flatMap_ofClassDecorator_of_silent {decorators : List Decorator}
    (h : ∀ d ∈ decorators, IsSilent d) : decorators.flatMap ofClassDecorator = [] := by
  rw [List.flatMap_eq_nil_iff]
  intro d hd
  rw [ofClassDecorator, h d hd]

lemma flatMap_ofMemberDecorator_of_silent {decorators : List Decorator}
    (h : ∀ d ∈ decorators, IsSilent d) (scope : Bool) (member : String) :
    decorators.flatMap (ofMemberDecorator scope member) = [] := by
  rw [List.flatMap_eq_nil_iff]
  intro d hd
  rw [ofMemberDecorator, h d hd]

end Grant

end EntityCompiler
