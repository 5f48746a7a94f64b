import EntityCompiler.Proofs.Declared
import EntityCompiler.Proofs.Grant
import Mathlib.Data.List.Nodup

/-!
# Placement of grants

Where the grants of an entity end up in the class that is declared for it. A member reads as the
grants on its own name, looked up in the index for members; a class reads as the grants of an index
without the excluded resources. The two together are the whole index, since the names that are
looked up are different, are just those that are excluded, and occur in the index once at most.

Main statement: `Entity.declaration_grants_perm`, no grant is lost, doubled or moved to another
scope on the way to the decorators, and the members hold just those that belong to them.
-/

namespace EntityCompiler

/-! ## The members -/

section Members

open Grant

variable {separator : Separator}

lemma FieldAspects.isSilent_limitDecorators (aspects : FieldAspects) :
    ∀ d ∈ aspects.limitDecorators, IsSilent d := by
  unfold limitDecorators
  simp only [List.mem_append]
  intro d hd
  rcases hd with (hd | hd) | hd
  · exact isSilent_optional rfl d hd
  · exact isSilent_optional rfl d hd
  · exact isSilent_optional rfl d hd

lemma FieldAspects.isSilent_dataChangeDecorators (aspects : FieldAspects) :
    ∀ d ∈ aspects.dataChangeDecorators, IsSilent d := by
  intro d hd
  unfold dataChangeDecorators at hd
  split at hd
  · simp at hd
  · rw [List.mem_singleton.mp hd]
    exact isSilent_ofName _ rfl

lemma PropertyDefinition.isSilent_remoteDecorators {property : PropertyDefinition}
    {decorators : List Decorator} (h : property.remoteDecorators = .ok decorators) :
    ∀ d ∈ decorators, IsSilent d := by
  intro d hd
  unfold remoteDecorators at h
  split at h
  · rw [Outcome.bind_eq_ok] at h
    obtain ⟨settings, -, h⟩ := h
    obtain rfl := Outcome.pure_eq_ok.mp h
    rw [List.mem_singleton.mp hd]
    exact isSilent_ofName _ rfl
  · obtain rfl : [] = decorators := by simpa using h
    simp at hd

lemma PropertyDefinition.isSilent_localDecorators (property : PropertyDefinition) :
    ∀ d ∈ property.localDecorators, IsSilent d := by
  intro d hd
  unfold localDecorators at hd
  split at hd
  · simp at hd
  · rw [List.mem_singleton.mp hd]
    exact isSilent_ofName _ rfl

/-- What a field declares has the limits of the field as its decorators. -/
lemma FieldDefinition.declared_decorators {field : FieldDefinition} {declared : DeclaredField}
    (h : field.declared separator = .ok declared) :
    declared.decorators = field.aspects.limitDecorators := by
  unfold FieldDefinition.declared at h
  rw [Outcome.bind_eq_ok] at h
  obtain ⟨initializer, -, h⟩ := h
  rw [Outcome.bind_eq_ok] at h
  obtain ⟨type, -, h⟩ := h
  rw [Outcome.bind_eq_ok] at h
  obtain ⟨comment, -, h⟩ := h
  rw [← Outcome.pure_eq_ok.mp h]

lemma PropertyDeclaration.checked_eq_ok {declaration checked : PropertyDeclaration}
    (h : declaration.checked = .ok checked) : checked = declaration := by
  obtain ⟨name, type, decorators, isReadonly, isDefinite, initializer, comment⟩ := declaration
  rw [PropertyDeclaration.checked, Outcome.bind_eq_ok] at h
  obtain ⟨-, -, h⟩ := h
  exact (Outcome.pure_eq_ok.mp h).symm

/-- At a property stand the grants of the permission that is attached to it. -/
lemma PropertyDefinition.declaration_grants {property : PropertyDefinition}
    {permission : Option RuntimePermission} {declaration : PropertyDeclaration} (scope : Bool)
    (h : property.declaration permission separator = .ok declaration) :
    ((Member.property declaration).grants scope).Perm
      ((permission.map fun p => p.grants scope property.name).getD []) := by
  unfold PropertyDefinition.declaration at h
  rw [Outcome.bind_eq_ok] at h
  obtain ⟨field, hfield, h⟩ := h
  rw [Outcome.bind_eq_ok] at h
  obtain ⟨remote, hremote, h⟩ := h
  rw [PropertyDeclaration.checked_eq_ok h]
  have hsilent : ∀ d ∈ field.decorators ++ Decorator.flag "persistent" property.aspects.isPersistent
      ++ Decorator.flag "logged" property.aspects.isLogged
      ++ property.aspects.dataChangeDecorators ++ remote ++ property.localDecorators,
      IsSilent d := by
    simp only [List.mem_append, FieldDefinition.declared_decorators hfield]
    intro d hd
    rcases hd with ((((hd | hd) | hd) | hd) | hd) | hd
    · exact FieldAspects.isSilent_limitDecorators _ d hd
    · exact isSilent_flag rfl d hd
    · exact isSilent_flag rfl d hd
    · exact FieldAspects.isSilent_dataChangeDecorators _ d hd
    · exact isSilent_remoteDecorators hremote d hd
    · exact isSilent_localDecorators property d hd
  have hown := flatMap_ofMemberDecorator_of_silent hsilent scope property.name
  unfold Member.grants Member.decorators
  simp only [PropertyDeclaration.decorators, Member.name, PropertyDeclaration.name]
  rw [List.flatMap_append, hown, List.nil_append]
  cases permission with
  | none => exact .nil
  | some permission => exact flatMap_ofMemberDecorator_perm permission property.name scope

/-- At a method for a service stand the grants of the permission that is attached to it. -/
lemma ServiceDefinition.declaration_grants {service : ServiceDefinition}
    {permission : Option RuntimePermission} {declaration : MethodDeclaration} (scope : Bool)
    (h : service.declaration permission separator = .ok declaration) :
    ((Member.method declaration).grants scope).Perm
      ((permission.map fun p => p.grants scope service.name).getD []) := by
  unfold ServiceDefinition.declaration at h
  rw [Outcome.bind_eq_ok] at h
  obtain ⟨⟨remote, body⟩, himplementation, h⟩ := h
  rw [Outcome.bind_eq_ok] at h
  obtain ⟨parameters, -, h⟩ := h
  rw [Outcome.bind_eq_ok] at h
  obtain ⟨returnType, -, h⟩ := h
  rw [Outcome.bind_eq_ok] at h
  obtain ⟨comment, -, h⟩ := h
  obtain rfl := Outcome.pure_eq_ok.mp h
  have hremote : ∀ d ∈ remote, IsSilent d := by
    intro d hd
    unfold ServiceDefinition.implementation at himplementation
    split at himplementation
    · obtain ⟨rfl, -⟩ := Prod.mk.inj (Except.ok.inj himplementation)
      rw [List.mem_singleton.mp hd]
      exact isSilent_ofName _ rfl
    · split at himplementation
      · simp [Outcome.problem] at himplementation
      · obtain ⟨block, -, hpair⟩ := Outcome.map_eq_ok.mp himplementation
        obtain ⟨rfl, -⟩ := Prod.mk.inj hpair
        simp at hd
  have hsilent : ∀ d ∈ Decorator.flag "final" (!service.isAllowOverride)
      ++ Decorator.flag "override" service.isOverridden ++ remote, IsSilent d := by
    simp only [List.mem_append]
    intro d hd
    rcases hd with (hd | hd) | hd
    · exact isSilent_flag rfl d hd
    · exact isSilent_flag rfl d hd
    · exact hremote d hd
  have hown := flatMap_ofMemberDecorator_of_silent hsilent scope service.name
  unfold Member.grants Member.decorators
  simp only [Member.name]
  rw [List.flatMap_append, hown, List.nil_append]
  cases permission with
  | none => exact .nil
  | some permission => exact flatMap_ofMemberDecorator_perm permission service.name scope

/-- No grant stands at a field of a data shape. -/
lemma DataShapeField.declaration_grants {field : DataShapeField} {declaration : PropertyDeclaration}
    (scope : Bool) (h : DataShapeField.declaration field separator = .ok declaration) :
    (Member.property declaration).grants scope = [] := by
  unfold DataShapeField.declaration at h
  rw [Outcome.bind_eq_ok] at h
  obtain ⟨declared, hdeclared, h⟩ := h
  rw [PropertyDeclaration.checked_eq_ok h]
  refine flatMap_ofMemberDecorator_of_silent ?_ scope field.name
  simp only [Member.decorators, PropertyDeclaration.decorators, List.mem_append,
    FieldDefinition.declared_decorators hdeclared]
  intro d hd
  rcases hd with hd | hd
  · exact FieldAspects.isSilent_limitDecorators _ d hd
  · exact isSilent_flag rfl d hd

/-- No grant stands at an event. -/
lemma EventDefinition.declaration_grants {event : EventDefinition}
    {declaration : PropertyDeclaration}
    (scope : Bool) (h : event.declaration separator = .ok declaration) :
    (Member.property declaration).grants scope = [] := by
  unfold EventDefinition.declaration at h
  rw [Outcome.bind_eq_ok] at h
  obtain ⟨data, -, h⟩ := h
  rw [Outcome.bind_eq_ok] at h
  obtain ⟨comment, -, h⟩ := h
  rw [PropertyDeclaration.checked_eq_ok h]
  exact flatMap_ofMemberDecorator_of_silent (isSilent_optional rfl) scope event.name

/-- No grant stands at a method for a subscription. -/
lemma SubscriptionDefinition.declaration_grants {subscription : SubscriptionDefinition}
    {declaration : MethodDeclaration} (scope : Bool)
    (h : subscription.declaration separator = .ok declaration) :
    (Member.method declaration).grants scope = [] := by
  unfold SubscriptionDefinition.declaration at h
  split at h
  · simp [Outcome.problem] at h
  · rw [Outcome.bind_eq_ok] at h
    obtain ⟨body, -, h⟩ := h
    rw [Outcome.bind_eq_ok] at h
    obtain ⟨parameters, -, h⟩ := h
    rw [Outcome.bind_eq_ok] at h
    obtain ⟨comment, -, h⟩ := h
    obtain rfl := Outcome.pure_eq_ok.mp h
    refine flatMap_ofMemberDecorator_of_silent ?_ scope subscription.name
    intro d hd
    rw [Member.decorators, List.mem_singleton] at hd
    rw [hd]
    unfold SubscriptionDefinition.decorator
    simp only
    split
    · exact isSilent_ofName _ rfl
    · exact isSilent_ofName _ rfl

end Members

/-! ## Placing the grants of an index -/

lemma RuntimePermission.mem_grants {permission : RuntimePermission} {scope : Bool}
    {resource : String} {g : Grant} (h : g ∈ permission.grants scope resource) :
    g.forInstances = scope ∧ g.resource = resource := by
  unfold grants at h
  rw [List.mem_flatMap] at h
  obtain ⟨kind, -, hg⟩ := h
  obtain ⟨entry, -, rfl⟩ := List.mem_map.mp hg
  exact ⟨rfl, rfl⟩

/-- A filter for resources takes the grants of a permission all together. -/
lemma RuntimePermission.filter_grants (permission : RuntimePermission) (scope : Bool)
    (resource : String) (chosen : String → Bool) :
    (permission.grants scope resource).filter (fun g => chosen g.resource)
      = if chosen resource then permission.grants scope resource else [] := by
  split
  · rename_i hchosen
    exact List.filter_eq_self.mpr fun g hg => by rw [(mem_grants hg).2, hchosen]
  · rename_i hchosen
    exact List.filter_eq_nil_iff.mpr fun g hg => by rwa [(mem_grants hg).2]

namespace PermissionIndex

lemma mem_grants_forInstances {index : PermissionIndex} {scope : Bool} {g : Grant}
    (h : g ∈ grants index scope) : g.forInstances = scope := by
  obtain ⟨⟨resource, permission⟩, -, hg⟩ := List.mem_flatMap.mp h
  exact (RuntimePermission.mem_grants hg).1

lemma grantsOn_of_not_mem {index : PermissionIndex} {resource : String} (scope : Bool)
    (h : resource ∉ resources index) : grantsOn index scope resource = [] := by
  have hnone : index.find? (·.1 == resource) = none := by
    rw [List.find?_eq_none]
    intro entry hentry heq
    exact h (List.mem_map.mpr ⟨entry, hentry, by simpa using heq⟩)
  rw [grantsOn, get?, hnone]
  rfl

/-- Among different names, a resource is met once if it is there, and else not at all. -/
private lemma flatMap_ite_eq (names : List String) (resource : String) (found : List Grant)
    (hnames : names.Nodup) :
    (names.flatMap fun name => if resource = name then found else [])
      = if names.contains resource then found else [] := by
  induction names with
  | nil => rfl
  | cons name names ih =>
    obtain ⟨hfresh, hnames⟩ := List.nodup_cons.mp hnames
    rw [List.flatMap_cons, ih hnames]
    by_cases heq : resource = name
    · simp [heq, hfresh]
    · simp [heq]

/-- The grants of an index on some resources, looked up resource by resource, are those that the
filter for these resources finds in it. -/
lemma flatMap_grantsOn_perm {index : PermissionIndex} {names : List String} (scope : Bool)
    (hnames : names.Nodup) (hindex : (resources index).Nodup) :
    (names.flatMap (grantsOn index scope)).Perm
      ((grants index scope).filter fun g => names.contains g.resource) := by
  induction index with
  | nil => simp [grantsOn, get?, grants]
  | cons entry index ih =>
    obtain ⟨resource, permission⟩ := entry
    obtain ⟨hfresh, hindex⟩ := List.nodup_cons.mp hindex
    -- each name finds the first entry or goes on to the others, and never finds both
    have hsplit : names.flatMap (grantsOn ((resource, permission) :: index) scope)
        = names.flatMap fun name =>
            (if resource = name then permission.grants scope resource else [])
              ++ grantsOn index scope name := by
      refine List.flatMap_congr fun name _ => ?_
      by_cases heq : resource = name
      · subst heq
        rw [grantsOn_of_not_mem scope hfresh, if_pos rfl, List.append_nil]
        simp [grantsOn, get?]
      · simp [grantsOn, get?, heq]
    rw [hsplit, grants, List.flatMap_cons, List.filter_append,
      RuntimePermission.filter_grants permission scope resource names.contains,
      ← flatMap_ite_eq names resource _ hnames]
    exact (List.flatMap_append_perm names _ _).symm.trans ((ih hindex).append_left _)

/-- At a class, the decorators for an index are read as the grants on all resources that are not
excluded. -/
lemma classDecorators_perm (index : PermissionIndex) (excluded : List String)
    (forInstances : Bool) :
    ((classDecorators index excluded forInstances).flatMap Grant.ofClassDecorator).Perm
      ((grants index forInstances).filter fun g => !excluded.contains g.resource) := by
  rw [classDecorators, grants, List.flatMap_assoc, List.filter_flatMap]
  refine List.Perm.flatMap_left index fun entry _ => ?_
  obtain ⟨resource, permission⟩ := entry
  simp only
  rw [RuntimePermission.filter_grants permission forInstances resource
    fun r => !excluded.contains r]
  by_cases hexcluded : resource ∈ excluded
  · simp [hexcluded]
  · simpa [hexcluded] using Grant.flatMap_ofClassDecorator_perm permission resource forInstances

end PermissionIndex

/-! ## The class -/

namespace Entity

open Grant

/-- What holds of every entity that has been put together: it keeps the contract of entities, and no
index of permissions has a resource twice. -/
structure IsConstructed (entity : Entity) : Prop where
  checked : entity.checked = .ok entity
  resources_nodup : (PermissionIndex.resources entity.runtimePermissions).Nodup
  instanceResources_nodup : (PermissionIndex.resources entity.instancePermissions).Nodup

lemma allDistinct_eq_true_iff {names : List String} : allDistinct names = true ↔ names.Nodup := by
  induction names with
  | nil => simp [allDistinct]
  | cons name names ih => simp [allDistinct, ih]

lemma IsConstructed.locallyDefinedNames_nodup {entity : Entity} (h : entity.IsConstructed) :
    entity.locallyDefinedNames.Nodup := by
  have hchecked := h.checked
  unfold Entity.checked at hchecked
  rw [Outcome.bind_eq_ok] at hchecked
  obtain ⟨⟨⟩, hdistinct, -⟩ := hchecked
  exact allDistinct_eq_true_iff.mp (Outcome.require_eq_ok.mp hdistinct)

lemma isSilent_valueStreamDecorators (entity : Entity) :
    ∀ d ∈ entity.valueStreamDecorators, IsSilent d := by
  intro d hd
  unfold valueStreamDecorators at hd
  split at hd
  · exact isSilent_optional rfl d hd
  · exact isSilent_optional rfl d hd
  · simp at hd

lemma isSilent_visibilityDecorators (principals : List VisibilityPrincipal) (forInstances : Bool) :
    ∀ d ∈ VisibilityPrincipal.decorators principals forInstances, IsSilent d := by
  intro d hd
  unfold VisibilityPrincipal.decorators at hd
  split at hd
  · simp at hd
  · rw [List.mem_singleton.mp hd]
    refine isSilent_ofName _ ?_
    cases forInstances <;> rfl

lemma isSilent_definitionDecorators (entity : Entity) :
    ∀ d ∈ entity.definitionDecorators, IsSilent d := by
  intro d hd
  unfold definitionDecorators at hd
  split at hd
  · simp only [List.cons_append, List.mem_cons, List.mem_append] at hd
    rcases hd with rfl | hd | hd
    · exact isSilent_ofName [] rfl
    · exact isSilent_flag rfl d hd
    · exact isSilent_optional rfl d hd
  · rcases List.mem_cons.mp hd with rfl | hd
    · exact isSilent_ofName [] rfl
    · exact isSilent_visibilityDecorators _ _ d hd
  · simp at hd

lemma isSilent_tableDecorators {entity : Entity} {separator : Separator}
    {decorators : List Decorator} (h : entity.tableDecorators separator = .ok decorators) :
    ∀ d ∈ decorators, IsSilent d := by
  unfold tableDecorators at h
  rw [Outcome.bind_eq_ok] at h
  obtain ⟨tables, -, h⟩ := h
  obtain rfl := Outcome.pure_eq_ok.mp h
  intro d hd
  split at hd
  · simp at hd
  · rw [List.mem_singleton.mp hd]
    exact isSilent_ofName _ rfl

lemma isSilent_configurationDecorators {entity : Entity} {decorators : List Decorator}
    (h : entity.configurationDecorators = .ok decorators) : ∀ d ∈ decorators, IsSilent d := by
  unfold configurationDecorators at h
  intro d hd
  split at h
  · obtain rfl : [] = decorators := by simpa using h
    simp at hd
  · obtain ⟨rows, -, rfl⟩ := Outcome.map_eq_ok.mp h
    rw [List.mem_singleton.mp hd]
    exact isSilent_ofName _ rfl

/-- The two ways in which permissions are placed. With instances, their permissions go to the
members and those of the entity itself to the class; else there is one index, and both go by it. -/
lemma permission_cases (entity : Entity) :
    (entity.hasInstances = true ∧ entity.memberPermissions = entity.instancePermissions
      ∧ entity.earlyPermissionDecorators ++ entity.latePermissionDecorators
        = PermissionIndex.classDecorators entity.instancePermissions entity.locallyDefinedNames true
          ++ PermissionIndex.classDecorators entity.runtimePermissions [] false)
    ∨ (entity.hasInstances = false ∧ entity.memberPermissions = entity.runtimePermissions
      ∧ entity.instancePermissions = []
      ∧ entity.earlyPermissionDecorators ++ entity.latePermissionDecorators
        = PermissionIndex.classDecorators entity.runtimePermissions entity.locallyDefinedNames
          false) := by
  unfold hasInstances kind memberPermissions instancePermissions earlyPermissionDecorators
    latePermissionDecorators memberPermissions
  cases entity.part with
  | thing part => exact .inr ⟨rfl, rfl, rfl, List.append_nil _⟩
  | thingTemplate part => exact .inl ⟨rfl, rfl, List.append_nil _⟩
  | thingShape permissions => exact .inl ⟨rfl, rfl, List.append_nil _⟩
  | dataShape fields => exact .inr ⟨rfl, rfl, rfl, rfl⟩
  | other => exact .inr ⟨rfl, rfl, rfl, rfl⟩

/-- The decorators of the class of an entity, with these ones for the permissions that members may
carry. -/
def decoratorsAround (entity : Entity) (tables configuration permissions : List Decorator) :
    List Decorator :=
  let front := .ofName "exportName" [.string entity.name]
    :: Decorator.flag "editable" entity.aspects.isEditableExtensionObject
    ++ entity.valueStreamDecorators ++ entity.definitionDecorators
  let rest := VisibilityPrincipal.decorators entity.visibilityPermissions false ++ tables
    ++ configuration
  match entity.part with
  | .thing _ => front ++ permissions ++ rest
  | .thingTemplate _ =>
    front ++ permissions ++ PermissionIndex.classDecorators entity.runtimePermissions
      [] false ++ rest
  | .thingShape _ =>
    front ++ permissions ++ PermissionIndex.classDecorators entity.runtimePermissions
      [] false ++ rest
  | .dataShape _ => front ++ rest ++ permissions
  | .other => front ++ rest ++ permissions

lemma decorators_eq_around (entity : Entity) (tables configuration : List Decorator) :
    .ofName "exportName" [.string entity.name]
      :: Decorator.flag "editable" entity.aspects.isEditableExtensionObject
      ++ entity.valueStreamDecorators ++ entity.definitionDecorators
        ++ entity.earlyPermissionDecorators
      ++ VisibilityPrincipal.decorators entity.visibilityPermissions false
      ++ tables ++ configuration ++ entity.latePermissionDecorators
    = entity.decoratorsAround tables configuration
      (PermissionIndex.classDecorators entity.memberPermissions entity.locallyDefinedNames
        entity.hasInstances) := by
  unfold decoratorsAround earlyPermissionDecorators latePermissionDecorators
    memberPermissions hasInstances
    kind
  cases entity.part <;>
  · simp only [List.cons_append, List.append_assoc, List.append_nil]
    rfl

lemma IsConstructed.memberResources_nodup {entity : Entity} (h : entity.IsConstructed) :
    (PermissionIndex.resources entity.memberPermissions).Nodup := by
  rcases permission_cases entity with ⟨-, hmember, -⟩ | ⟨-, hmember, -⟩
  · rw [hmember]
    exact h.instanceResources_nodup
  · rw [hmember]
    exact h.resources_nodup

/-- Whether a grant of an index belongs to a member depends on its resource alone, if the index is
that of the members, and no grant of any other index does. -/
lemma isMemberGrant_of_mem {entity : Entity} {index : PermissionIndex} {scope : Bool} {g : Grant}
    (h : g ∈ PermissionIndex.grants index scope) :
    entity.isMemberGrant g
      = (scope == entity.hasInstances && entity.locallyDefinedNames.contains g.resource) := by
  rw [isMemberGrant, PermissionIndex.mem_grants_forInstances h]

/-- Of the grants of an entity, those that belong to members are the ones in the index for members
that are on one of the entity's own names. -/
lemma filter_isMemberGrant (entity : Entity) :
    entity.grants.filter entity.isMemberGrant
      = (PermissionIndex.grants entity.memberPermissions entity.hasInstances).filter
          fun g => entity.locallyDefinedNames.contains g.resource := by
  rw [grants, List.filter_append, List.filter_congr fun g hg => isMemberGrant_of_mem hg,
    List.filter_congr fun g hg => isMemberGrant_of_mem hg]
  rcases permission_cases entity with ⟨hinstances, hmember, -⟩ | ⟨hinstances, hmember, hnone, -⟩
  · simp [hinstances, hmember]
  · simp [hinstances, hmember, hnone, PermissionIndex.grants]

/-- The decorators of the class for permissions are read as the grants that do not belong to
members. -/
lemma permissionDecorators_perm (entity : Entity) :
    ((entity.earlyPermissionDecorators ++ entity.latePermissionDecorators).flatMap
      ofClassDecorator).Perm (entity.grants.filter fun g => !entity.isMemberGrant g) := by
  rw [grants, List.filter_append,
    List.filter_congr fun g hg => congrArg not (isMemberGrant_of_mem hg),
    List.filter_congr fun g hg => congrArg not (isMemberGrant_of_mem hg)]
  have hown := PermissionIndex.classDecorators_perm entity.runtimePermissions
  have hinstance := PermissionIndex.classDecorators_perm entity.instancePermissions
  rcases permission_cases entity with ⟨hinstances, -, hplaced⟩ | ⟨hinstances, -, hnone, hplaced⟩
  · rw [hplaced, List.flatMap_append, hinstances]
    refine List.perm_append_comm.trans (List.Perm.append ?_ ?_)
    · simpa using hown [] false
    · simpa using hinstance entity.locallyDefinedNames true
  · rw [hplaced, hinstances, hnone]
    simpa [PermissionIndex.grants] using hown entity.locallyDefinedNames false

/-! ## Conservation -/

/-- The decorators for permissions stand at two places of a class, among others that state no
grant. -/
lemma DeclaredFrom.decorators_split {entity : Entity} {separator : Separator}
    {parts : DeclaredParts} {d : ClassDeclaration} (h : entity.DeclaredFrom separator parts d) :
    ∃ front middle, (∀ x ∈ front, IsSilent x) ∧ (∀ x ∈ middle, IsSilent x)
      ∧ d.decorators = front ++ (entity.earlyPermissionDecorators
        ++ (middle ++ entity.latePermissionDecorators)) := by
  refine ⟨.ofName "exportName" [.string entity.name]
      :: Decorator.flag "editable" entity.aspects.isEditableExtensionObject
      ++ entity.valueStreamDecorators ++ entity.definitionDecorators,
    VisibilityPrincipal.decorators entity.visibilityPermissions false
      ++ parts.tables ++ parts.configuration, ?_, ?_, ?_⟩
  · simp only [List.cons_append, List.mem_cons, List.mem_append]
    intro x hx
    rcases hx with rfl | (hx | hx) | hx
    · exact isSilent_ofName _ rfl
    · exact isSilent_flag rfl x hx
    · exact isSilent_valueStreamDecorators entity x hx
    · exact isSilent_definitionDecorators entity x hx
  · simp only [List.mem_append]
    intro x hx
    rcases hx with (hx | hx) | hx
    · exact isSilent_visibilityDecorators _ _ x hx
    · exact isSilent_tableDecorators h.tables x hx
    · exact isSilent_configurationDecorators h.configuration x hx
  · rw [h.decorators]
    simp only [List.cons_append, List.append_assoc]

/-- What is read off the decorators of the class itself are the grants that do not belong to
members. -/
lemma DeclaredFrom.classGrants_perm {entity : Entity} {separator : Separator}
    {parts : DeclaredParts} {d : ClassDeclaration} (h : entity.DeclaredFrom separator parts d) :
    d.classGrants.Perm (entity.grants.filter fun g => !entity.isMemberGrant g) := by
  obtain ⟨front, middle, hfront, hmiddle, hsplit⟩ := h.decorators_split
  rw [ClassDeclaration.classGrants, hsplit, List.flatMap_append, List.flatMap_append,
    List.flatMap_append, flatMap_ofClassDecorator_of_silent hfront,
    flatMap_ofClassDecorator_of_silent hmiddle, List.nil_append, List.nil_append,
    ← List.flatMap_append]
  exact permissionDecorators_perm entity

/-- Lists that correspond item by item, up to the order of what each item gives, give the same up to
the order. -/
private lemma flatMap_perm_of_forall₂ {α β γ : Type} {R : α → β → Prop} {f : α → List γ}
    {g : β → List γ} {xs : List α} {ys : List β} (h : List.Forall₂ R xs ys)
    (hR : ∀ x y, R x y → (g y).Perm (f x)) : (ys.flatMap g).Perm (xs.flatMap f) := by
  induction h with
  | nil => exact .nil
  | cons hxy _ ih => exact (hR _ _ hxy).append ih

/-- Members that correspond to items without a grant have none. -/
private lemma flatMap_eq_nil_of_forall₂ {α β γ : Type} {R : α → β → Prop} {g : β → List γ}
    {xs : List α} {ys : List β} (h : List.Forall₂ R xs ys) (hR : ∀ x y, R x y → g y = []) :
    ys.flatMap g = [] := by
  induction h with
  | nil => rfl
  | cons hxy _ ih => rw [List.flatMap_cons, hR _ _ hxy, ih, List.nil_append]

/-- What is read off the members are the grants of the index for members on the entity's own
names, name by name. -/
lemma DeclaredFrom.memberGrants_perm {entity : Entity} {separator : Separator}
    {parts : DeclaredParts} {d : ClassDeclaration} (h : entity.DeclaredFrom separator parts d)
    (scope : Bool) :
    (d.memberGrants scope).Perm (entity.locallyDefinedNames.flatMap
      (PermissionIndex.grantsOn entity.memberPermissions scope)) := by
  have hfields : parts.fields.flatMap (fun q => (Member.property q).grants scope) = [] :=
    flatMap_eq_nil_of_forall₂ h.fields fun _ _ => DataShapeField.declaration_grants scope
  have hevents : parts.events.flatMap (fun q => (Member.property q).grants scope) = [] :=
    flatMap_eq_nil_of_forall₂ h.events fun _ _ => EventDefinition.declaration_grants scope
  have hsubscriptions :
      parts.subscriptions.flatMap (fun m => (Member.method m).grants scope) = [] :=
    flatMap_eq_nil_of_forall₂ h.subscriptions fun _ _ =>
      SubscriptionDefinition.declaration_grants scope
  have hproperties := flatMap_perm_of_forall₂ h.properties fun _ _ =>
    PropertyDefinition.declaration_grants scope
  have hservices := flatMap_perm_of_forall₂ h.services fun _ _ =>
    ServiceDefinition.declaration_grants scope
  rw [ClassDeclaration.memberGrants, h.members, locallyDefinedNames]
  simp only [List.flatMap_append, List.flatMap_map, hfields, hevents, hsubscriptions,
    List.nil_append, List.append_nil]
  exact hproperties.append hservices

/-- No grant is lost, doubled or moved to another scope on the way from an entity to the decorators
of its class: what is read off the class and its members are the grants of the entity. The members
hold those that belong to them, on a property or a service of the entity and in the scope of its
members, and the class holds all others. -/
theorem declaration_grants_perm {entity : Entity} {separator : Separator} {d : ClassDeclaration}
    (hentity : entity.IsConstructed) (h : entity.declaration separator = .ok d) :
    (d.classGrants ++ d.memberGrants entity.hasInstances).Perm entity.grants
      ∧ (d.memberGrants entity.hasInstances).Perm (entity.grants.filter entity.isMemberGrant)
      ∧ d.classGrants.Perm (entity.grants.filter fun g => !entity.isMemberGrant g) := by
  obtain ⟨parts, hparts⟩ := declaration_eq_ok h
  have hclass := hparts.classGrants_perm
  have hmembers : (d.memberGrants entity.hasInstances).Perm
      (entity.grants.filter entity.isMemberGrant) := by
    rw [filter_isMemberGrant]
    exact (hparts.memberGrants_perm entity.hasInstances).trans
      (PermissionIndex.flatMap_grantsOn_perm _ hentity.locallyDefinedNames_nodup
        hentity.memberResources_nodup)
  refine ⟨?_, hmembers, hclass⟩
  have hsplit := List.filter_append_perm entity.isMemberGrant entity.grants
  exact ((hclass.append hmembers).trans List.perm_append_comm).trans hsplit

/-- A permission to read that allows one user and denies one group. -/
def readersOf (resource : String) : RuntimePermission where
  resourceName := resource
  entriesByKind := PermissionKind.all.map fun kind =>
    (kind, if kind = .propertyRead then [⟨"ann", .user, true⟩, ⟨"ops", .group, false⟩] else [])

/-- A thing template with one property, and permissions on it both of the template and of its
instances. -/
def sensorTemplate : Entity where
  name := "Sensor"
  description := none
  documentationContent := none
  projectName := none
  tags := []
  aspects := {}
  propertyDefinitions := [⟨⟨"level", .number, none, {}⟩, none, none⟩]
  serviceDefinitions := []
  eventDefinitions := []
  subscriptionDefinitions := []
  configurationTableDefinitions := []
  configurationTables := []
  visibilityPermissions := []
  runtimePermissions := [("level", readersOf "level")]
  part := .thingTemplate {
    valueStream := none
    thingTemplate := "GenericThing"
    implementedShapes := []
    instanceVisibilityPermissions := []
    instanceRuntimePermissions := [("*", readersOf "*"), ("level", readersOf "level")] }

/-- The sensor satisfies its contract. -/
lemma sensorTemplate_isConstructed : sensorTemplate.IsConstructed where
  checked := rfl
  resources_nodup := by simp [sensorTemplate, PermissionIndex.resources]
  instanceResources_nodup := by
    simp [sensorTemplate, PermissionIndex.resources, instancePermissions]

/-- The sensor has six grants. The two of its instances on the property sit on the property, the
other four on the class. -/
theorem sensorTemplate_grants_perm :
    sensorTemplate.IsConstructed ∧ sensorTemplate.grants.length = 6
      ∧ (sensorTemplate.grants.filter sensorTemplate.isMemberGrant).length = 2
      ∧ ∃ d, sensorTemplate.declaration .default = .ok d
        ∧ (d.classGrants ++ d.memberGrants true).Perm sensorTemplate.grants
        ∧ (d.memberGrants true).Perm (sensorTemplate.grants.filter sensorTemplate.isMemberGrant)
        ∧ d.classGrants.Perm
            (sensorTemplate.grants.filter fun g => !sensorTemplate.isMemberGrant g) := by
  refine ⟨sensorTemplate_isConstructed, rfl, rfl, ?_⟩
  have hok : (sensorTemplate.declaration .default).isOk = true := rfl
  cases hd : sensorTemplate.declaration .default with
  | ok d => exact ⟨d, rfl, declaration_grants_perm sensorTemplate_isConstructed hd⟩
  | error e => rw [hd] at hok; contradiction

end Entity

end EntityCompiler
