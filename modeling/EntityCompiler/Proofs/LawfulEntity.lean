import EntityCompiler.Document.Entity
import EntityCompiler.Proofs.Keyed
import EntityCompiler.Proofs.Placement

/-!
# Entities that keep their contracts

`Entity.Lawful` puts together all conditions on the parts of an entity. Reading a document whose
keys differ breaks none of them, whatever else is in the document: either the entity is lawful, or
the problem is worded. The parts come first, in the order in which they are read.
-/

namespace EntityCompiler

/-! ## The contracts -/

/-- A service whose parameters have names, and different ones. -/
structure ServiceDefinition.Lawful (service : ServiceDefinition) : Prop where
  parameters_named : ∀ parameter ∈ service.parameters, parameter.name ≠ ""
  parameters_nodup : (service.parameters.map (·.name)).Nodup

/-- A principal that has a unit exactly if it is an organizational unit. -/
def VisibilityPrincipal.Lawful (principal : VisibilityPrincipal) : Prop :=
  principal.visibilityType = .organizationalUnit ↔ principal.unit.isSome = true

lemma VisibilityPrincipal.Lawful.sound_checked {principal : VisibilityPrincipal}
    (h : principal.Lawful) : principal.checked.Sound VisibilityPrincipal.Lawful := by
  have hagree : ((principal.visibilityType == .organizationalUnit) == principal.unit.isSome)
      = true := by
    rw [beq_iff_eq, Bool.eq_iff_iff, beq_iff_eq]
    exact h
  exact Outcome.Sound.require_bind hagree (.pure h)

/-- A permission that lists its entries for every kind. -/
def RuntimePermission.ListsKinds (permission : RuntimePermission) : Prop :=
  ∀ kind : PermissionKind, kind ∈ permission.entriesByKind.map (·.1)

lemma RuntimePermission.ListsKinds.sound_checked {permission : RuntimePermission}
    (h : permission.ListsKinds) : permission.checked.Sound RuntimePermission.ListsKinds := by
  refine Outcome.Sound.require_bind ?_ (.pure h)
  rw [List.all_eq_true]
  intro kind _
  simpa using h kind

/-- Permissions on different resources, each under the name of its own resource. -/
structure PermissionIndex.Lawful (index : PermissionIndex) : Prop where
  resources_nodup : (resources index).Nodup
  keyed : ∀ entry ∈ index, entry.1 = entry.2.resourceName
  listsKinds : ∀ entry ∈ index, entry.2.ListsKinds

/-- The principals that the instances of an entity are visible to. -/
def Entity.instanceVisibility (entity : Entity) : List VisibilityPrincipal :=
  match entity.part with
  | .thingTemplate part => part.instanceVisibilityPermissions
  | _ => []

/-- An entity all of whose parts keep their contracts. -/
structure Entity.Lawful (entity : Entity) : Prop where
  properties_named : ∀ property ∈ entity.propertyDefinitions, property.name ≠ ""
  fields_named : ∀ field ∈ entity.fieldDefinitions, field.name ≠ ""
  services : ∀ service ∈ entity.serviceDefinitions, service.Lawful
  members_nodup : entity.locallyDefinedNames.Nodup
  permissions : PermissionIndex.Lawful entity.runtimePermissions
  instancePermissions : PermissionIndex.Lawful entity.instancePermissions
  visibility : ∀ principal ∈ entity.visibilityPermissions, principal.Lawful
  instanceVisibility : ∀ principal ∈ entity.instanceVisibility, principal.Lawful
  withoutBehavior : entity.kind = .dataShape → entity.serviceDefinitions = []
    ∧ entity.eventDefinitions = [] ∧ entity.subscriptionDefinitions = []

/-- An entity no two fields, events or subscriptions of which have the same name. If it has fields,
it has no properties. -/
structure Entity.NamedApart (entity : Entity) : Prop where
  fields_nodup : (entity.fieldDefinitions.map (·.name)).Nodup
  events_nodup : (entity.eventDefinitions.map (·.name)).Nodup
  subscriptions_nodup : (entity.subscriptionDefinitions.map (·.name)).Nodup
  withoutProperties : entity.kind = .dataShape → entity.propertyDefinitions = []

/-- Aspects that name the entities they mention, if they mention any. -/
structure FieldAspects.NamesOthers (aspects : FieldAspects) : Prop where
  dataShape : ∀ name ∈ aspects.dataShape, name ≠ ""
  thingTemplate : ∀ name ∈ aspects.thingTemplate, name ≠ ""
  thingShape : ∀ name ∈ aspects.thingShape, name ≠ ""

lemma FieldAspects.NamesOthers.nil : NamesOthers {} :=
  ⟨by simp, by simp, by simp⟩

/-- A service that names the entities which its parameters and its result mention. -/
structure ServiceDefinition.NamesOthers (service : ServiceDefinition) : Prop where
  parameters : ∀ parameter ∈ service.parameters, parameter.aspects.NamesOthers
  result : service.resultType.aspects.NamesOthers

/-- An entity that names the entities which its members and its configuration tables mention. -/
structure Entity.NamesOthers (entity : Entity) : Prop where
  fields : ∀ field ∈ entity.fieldDefinitions, field.aspects.NamesOthers
  properties : ∀ property ∈ entity.propertyDefinitions, property.aspects.NamesOthers
  services : ∀ service ∈ entity.serviceDefinitions, service.NamesOthers
  events : ∀ event ∈ entity.eventDefinitions, event.dataShape ≠ ""
  tables : ∀ definition ∈ entity.configurationTableDefinitions, definition.dataShapeName ≠ ""

namespace Document

open Outcome (Sound AllWorded)

variable {raw : Fields}

/-! ## Fields and properties -/

/-- What is there as a text is not empty. -/
lemma text?_ne_empty {key name : String} (h : text? raw key = some name) : name ≠ "" := by
  unfold text? at h
  split at h
  · contradiction
  · split at h
    · contradiction
    · rename_i hnonempty
      rw [← Option.some.inj h]
      intro hempty
      exact hnonempty (by rw [hempty]; rfl)

lemma aspects_sound (h : raw.IsKeyed) (location : Option String) :
    (aspects raw location).Sound FieldAspects.NamesOthers := by
  unfold aspects
  refine (fields_sound h "aspects" location).bind fun inner _ => ?_
  refine (number?_sound _ _).collected.bind_pair fun minimum minimumProblems hread => ?_
  obtain ⟨hminimum, -⟩ := hread
  refine (number?_sound _ _).collected.bind_pair fun maximum maximumProblems hread => ?_
  obtain ⟨hmaximum, -⟩ := hread
  refine (number?_sound _ _).collected.bind_pair fun threshold thresholdProblems hread => ?_
  obtain ⟨hthreshold, -⟩ := hread
  dsimp only
  split
  · exact ⟨fun _ => text?_ne_empty, fun _ => text?_ne_empty, fun _ => text?_ne_empty⟩
  · exact Sound.dueTo trivial ((hminimum.append hmaximum).append hthreshold)

lemma fieldBase_sound {value : Value} (h : value.IsKeyed) (location : String) :
    (fieldBase value location).Sound fun base => base.aspects.NamesOthers := by
  unfold fieldBase
  refine (definition_sound h location).bind fun inner hinner => ?_
  refine (baseType_sound _).collected.bind_pair fun type typeProblems hread => ?_
  obtain ⟨htype, -⟩ := hread
  refine (aspects_sound hinner _).collected.bind_pair fun read aspectProblems hread => ?_
  obtain ⟨haspectProblems, hread, -⟩ := hread
  dsimp only
  split
  · exact hread _ rfl
  · exact Sound.dueTo trivial (htype.append haspectProblems)

lemma field_sound {name : String} {value : Value} (hname : name ≠ "") (h : value.IsKeyed)
    (location : String) :
    (field name value location).Sound fun f =>
      f.name = name ∧ f.name ≠ "" ∧ f.aspects.NamesOthers := by
  unfold field
  refine (fieldBase_sound h location).bind fun base hothers => ?_
  unfold FieldDefinition.checked
  exact Sound.require_bind (by simpa using hname) ⟨rfl, hname, hothers⟩

lemma localPropertyBinding_sound (name : String) (value : Value) :
    (localPropertyBinding name value).Sound fun _ => True := by
  unfold localPropertyBinding
  split
  · split
    · trivial
    · exact Sound.problem trivial
  · trivial

lemma property_sound {name : String} {value : Value} (hname : name ≠ "") (h : value.IsKeyed)
    (remoteBinding localBinding : Value) (location : String) :
    (property name value remoteBinding localBinding location).Sound fun p =>
      p.name = name ∧ p.name ≠ "" ∧ p.aspects.NamesOthers := by
  unfold property
  refine (fieldBase_sound h location).bind fun base hothers => ?_
  refine (localPropertyBinding_sound name localBinding).bind fun bound _ => ?_
  unfold PropertyDefinition.checked
  exact Sound.require_bind (by simpa using hname) ⟨rfl, hname, hothers⟩

/-! ## Services, subscriptions and events -/

lemma scriptCode_sound (implementation : Fields) (location : String) :
    (scriptCode implementation location).Sound fun _ => True := by
  unfold scriptCode
  split
  · trivial
  · exact Sound.problem trivial

lemma serviceCode_sound (name : String) (implementation : Value) (location : String) :
    (serviceCode name implementation location).Sound fun _ => True := by
  unfold serviceCode
  split
  · dsimp only
    split
    · exact (scriptCode_sound _ location).map fun _ _ => trivial
    · exact Sound.problem trivial
  · trivial

lemma resultType_sound (h : raw.IsKeyed) (location : String) :
    (resultType raw location).Sound fun result => result.aspects.NamesOthers := by
  unfold resultType
  split
  · exact FieldAspects.NamesOthers.nil
  · exact (fieldBase_sound (h.getD "resultType") _).map fun _ hothers => hothers

lemma remoteServiceBinding_sound (name : String) (value : Value) :
    (remoteServiceBinding name value).Sound fun _ => True := by
  unfold remoteServiceBinding
  split
  · exact (number?_sound _ _).map fun _ _ => trivial
  · trivial

lemma service_sound {name : String} {value : Value} (h : value.IsKeyed)
    (implementation remoteBinding : Value) (location implementationLocation : String) :
    (service name value implementation remoteBinding location implementationLocation).Sound
      fun s => s.name = name ∧ s.Lawful ∧ s.NamesOthers := by
  unfold service
  refine (definition_sound h location).bind fun inner hinner => ?_
  refine (serviceCode_sound name implementation _).collected.bind_pair
    fun code codeProblems hread => ?_
  obtain ⟨hcode, -⟩ := hread
  refine (resultType_sound hinner _).collected.bind_pair fun result resultProblems hread => ?_
  obtain ⟨hresultProblems, hresult, -⟩ := hread
  refine (members_sound (g := (·.name))
    (P := fun f => f.name ≠ "" ∧ f.aspects.NamesOthers) hinner _ _
    fun _ _ _ hname hpart => field_sound hname hpart _).bind_pair
    fun parameters parameterProblems hread => ?_
  obtain ⟨hproblems, hdistinct, hparameters⟩ := hread
  refine (fields_sound hinner _ _).collected.bind_pair fun aspects aspectProblems hread => ?_
  obtain ⟨haspects, -⟩ := hread
  refine (remoteServiceBinding_sound name remoteBinding).collected.bind_pair
    fun binding bindingProblems hread => ?_
  obtain ⟨hbinding, -⟩ := hread
  dsimp only
  split
  · unfold ServiceDefinition.checked
    exact Sound.require_bind (Entity.allDistinct_eq_true_iff.mpr hdistinct)
      ⟨rfl, ⟨fun parameter hmem => (hparameters parameter hmem).1, hdistinct⟩,
        fun parameter hmem => (hparameters parameter hmem).2, hresult _ rfl⟩
  · exact Sound.dueTo trivial
      ((((hcode.append hresultProblems).append hproblems).append haspects).append hbinding)

lemma subscription_sound {value : Value} (h : value.IsKeyed) (name location : String) :
    (subscription name value location).Sound fun s => s.name = name := by
  unfold subscription
  refine (definition_sound h location).bind fun inner _ => ?_
  split
  · exact Sound.problem trivial
  · exact (scriptCode_sound _ _).bind fun _ _ => Sound.pure rfl
  · exact Sound.problem trivial

lemma event_sound {value : Value} (h : value.IsKeyed) (name : String) (remoteBinding : Value)
    (location : String) :
    (event name value remoteBinding location).Sound fun e => e.name = name ∧ e.dataShape ≠ "" := by
  unfold event
  refine (definition_sound h location).bind fun inner _ => ?_
  split
  · exact Sound.problem trivial
  · rename_i hdataShape
    exact Sound.pure ⟨rfl, text?_ne_empty hdataShape⟩

/-! ## Configuration tables -/

lemma tableRows_sound (name : String) (value : Value) :
    (tableRows name value).Sound fun _ => True := by
  unfold tableRows
  split
  · split
    · trivial
    · trivial
  · exact Sound.problem trivial

lemma configurationTables_sound (h : raw.IsKeyed) :
    (configurationTables raw).Sound fun _ => True := by
  unfold configurationTables
  refine (fields_sound h _ _).bind fun tables _ => ?_
  refine (Sound.gather fun entry _ => tableRows_sound entry.1 entry.2).bind_pair
    fun kept problems hread => ?_
  obtain ⟨hproblems, -⟩ := hread
  dsimp only
  split
  · trivial
  · exact Sound.dueTo trivial hproblems

lemma tableDefinition_sound (name : String) (value : Value) :
    (tableDefinition name value).Sound fun definition => definition.dataShapeName ≠ "" := by
  unfold tableDefinition
  split
  · rename_i hread
    obtain ⟨table, -, htable⟩ := Option.bind_eq_some_iff.mp hread
    obtain ⟨name, hname, hpair⟩ := Option.map_eq_some_iff.mp htable
    obtain ⟨rfl, rfl⟩ := Prod.mk.inj hpair
    exact text?_ne_empty hname
  · exact Sound.problem trivial

lemma configurationTableDefinitions_sound (h : raw.IsKeyed) :
    (configurationTableDefinitions raw).Sound fun definitions =>
      ∀ definition ∈ definitions, definition.dataShapeName ≠ "" := by
  unfold configurationTableDefinitions
  refine (fields_sound h _ _).bind fun tables _ => ?_
  refine (Sound.gather fun entry _ => tableDefinition_sound entry.1 entry.2).bind_pair
    fun definitions problems hread => ?_
  obtain ⟨hproblems, kept, -, hdefinitions⟩ := hread
  dsimp only
  split
  · exact Outcome.forall_of_forall₂ hdefinitions fun _ _ hdefinition => hdefinition
  · exact Sound.dueTo trivial hproblems

/-! ## Permissions -/

lemma permissionEntry_sound (value : Value) (location : String) :
    (permissionEntry value location).Sound fun _ => True := by
  unfold permissionEntry
  split
  · exact Sound.problem trivial
  · split
    · trivial
    · exact Sound.problem trivial

lemma permissionEntries_sound (entries : Fields) (kind : PermissionKind) (location : String) :
    (permissionEntries entries kind location).Sound fun (found, problems) =>
      AllWorded problems ∧ (found = none → problems ≠ []) := by
  unfold permissionEntries
  refine (items_sound _ _).collected.bind_pair fun list problems hread => ?_
  obtain ⟨hproblems, -, hnone⟩ := hread
  cases list with
  | none => exact ⟨hproblems, fun _ => hnone rfl⟩
  | some values =>
    refine (Sound.gather fun entry _ => permissionEntry_sound entry.1 _).bind_pair
      fun found others hread => ?_
    obtain ⟨hothers, -⟩ := hread
    exact ⟨hothers, by simp⟩

lemma permissionKinds_sound (entries : Fields) (location : String) (kinds : List PermissionKind) :
    (permissionKinds entries location kinds).Sound fun (found, problems) =>
      AllWorded problems ∧ (problems = [] → found.map (·.1) = kinds) := by
  induction kinds with
  | nil => exact ⟨.nil, fun _ => rfl⟩
  | cons kind kinds ih =>
    refine (permissionEntries_sound entries kind location).bind_pair fun listed problems hread => ?_
    obtain ⟨hproblems, hnone⟩ := hread
    refine ih.bind_pair fun others otherProblems hread => ?_
    obtain ⟨hotherProblems, hothers⟩ := hread
    refine ⟨hproblems.append hotherProblems, fun hempty => ?_⟩
    obtain ⟨hfirst, hrest⟩ := List.append_eq_nil_iff.mp hempty
    cases listed with
    | none =>
      -- a kind is left out only on account of a problem
      exact absurd hfirst (hnone rfl)
    | some listed => exact congrArg (kind :: ·) (hothers hrest)

lemma runtimePermission_sound (value : Value) (location : String) :
    (runtimePermission value location).Sound fun (found, problems) =>
      AllWorded problems ∧ ∀ permission, found = some permission → permission.ListsKinds := by
  unfold runtimePermission
  split
  · exact ⟨.singleton (.plain trivial), by simp⟩
  · split
    · exact ⟨.singleton (.plain trivial), by simp⟩
    · refine (permissionKinds_sound _ location _).bind_pair fun kinds problems hread => ?_
      obtain ⟨hproblems, hkinds⟩ := hread
      dsimp only
      split
      · rename_i resource _ hempty
        have hlists : RuntimePermission.ListsKinds ⟨resource, kinds⟩ := by
          intro kind
          rw [hkinds (List.isEmpty_iff.mp hempty)]
          exact kind.mem_all
        refine hlists.sound_checked.bind fun permission hchecked => ?_
        exact ⟨.nil, by simpa using hchecked⟩
      · exact ⟨hproblems, by simp⟩

end Document

namespace PermissionIndex

lemma mem_put {index : PermissionIndex} {resource : String} {permission : RuntimePermission}
    {entry : String × RuntimePermission} (h : entry ∈ Fields.put index resource permission) :
    entry = (resource, permission) ∨ entry ∈ index := by
  induction index with
  | nil => exact .inl (by simpa [Fields.put] using h)
  | cons first rest ih =>
    obtain ⟨k, v⟩ := first
    rw [Fields.put] at h
    split at h
    · rename_i hk
      rcases List.mem_cons.mp h with rfl | h
      · exact .inl (by rw [eq_of_beq hk])
      · exact .inr (List.mem_cons_of_mem _ h)
    · rcases List.mem_cons.mp h with rfl | h
      · exact .inr List.mem_cons_self
      · exact (ih h).imp_right (List.mem_cons_of_mem _)

lemma resources_put (index : PermissionIndex) (resource : String)
    (permission : RuntimePermission) :
    resources (Fields.put index resource permission)
      = if resource ∈ resources index then resources index
        else resources index ++ [resource] := by
  unfold resources
  induction index with
  | nil => simp [Fields.put]
  | cons first rest ih =>
    obtain ⟨k, v⟩ := first
    rw [Fields.put]
    by_cases hk : k = resource
    · -- the permission takes the place of the one in front, and no resource is added
      subst hk
      simp
    · rw [if_neg (by simpa using hk), List.map_cons, ih, List.map_cons]
      by_cases hrest : resource ∈ rest.map (·.1)
      · rw [if_pos hrest, if_pos (List.mem_cons_of_mem _ hrest)]
      · rw [if_neg hrest, if_neg (by simp [Ne.symm hk, hrest])]
        rfl

lemma Lawful.nil : Lawful [] := ⟨List.nodup_nil, by simp, by simp⟩

lemma Lawful.put {index : PermissionIndex} (h : index.Lawful) {permission : RuntimePermission}
    (hpermission : permission.ListsKinds) :
    Lawful (Fields.put index permission.resourceName permission) where
  resources_nodup := by
    rw [resources_put]
    split
    · exact h.resources_nodup
    · rename_i hnew
      rw [← List.concat_eq_append]
      exact List.Nodup.concat hnew h.resources_nodup
  keyed := by
    intro entry hentry
    rcases mem_put hentry with rfl | hentry
    · rfl
    · exact h.keyed entry hentry
  listsKinds := by
    intro entry hentry
    rcases mem_put hentry with rfl | hentry
    · exact hpermission
    · exact h.listsKinds entry hentry

end PermissionIndex

namespace Document

open Outcome (Sound AllWorded)

variable {raw : Fields}

lemma permissionIndex_sound (location : String) (items : List (Value × Nat))
    {index : PermissionIndex} (h : index.Lawful) :
    (permissionIndex location items index).Sound fun (found, problems) =>
      AllWorded problems ∧ found.Lawful := by
  induction items generalizing index with
  | nil => exact ⟨.nil, h⟩
  | cons item rest ih =>
    refine (runtimePermission_sound item.1 _).bind_pair fun permission problems hread => ?_
    obtain ⟨hproblems, hpermission⟩ := hread
    cases permission with
    | none =>
      refine (ih h).bind_pair fun found others hread => ?_
      obtain ⟨hothers, hfound⟩ := hread
      exact ⟨hproblems.append hothers, hfound⟩
    | some permission =>
      refine (ih (h.put (hpermission permission rfl))).bind_pair fun found others hread => ?_
      obtain ⟨hothers, hfound⟩ := hread
      exact ⟨hproblems.append hothers, hfound⟩

lemma runtimePermissions_sound (h : raw.IsKeyed) (key : String) :
    (runtimePermissions raw key).Sound PermissionIndex.Lawful := by
  unfold runtimePermissions
  refine (fields_sound h _ _).bind fun container _ => ?_
  refine (items_sound _ _).bind fun items _ => ?_
  refine (permissionIndex_sound key _ .nil).bind_pair fun index problems hread => ?_
  obtain ⟨hproblems, hindex⟩ := hread
  dsimp only
  split
  · exact hindex
  · exact Sound.dueTo trivial hproblems

lemma visibilityPrincipal_sound (value : Value) (location : String) :
    (visibilityPrincipal value location).Sound VisibilityPrincipal.Lawful := by
  unfold visibilityPrincipal
  split
  · exact Sound.problem trivial
  · dsimp only
    split
    · exact Sound.problem trivial
    · exact VisibilityPrincipal.Lawful.sound_checked (by simp [VisibilityPrincipal.Lawful])
    · split
      · exact VisibilityPrincipal.Lawful.sound_checked (by simp [VisibilityPrincipal.Lawful])
      · exact Sound.problem trivial
    · exact Sound.problem trivial

lemma visibilityPermissions_sound (h : raw.IsKeyed) (key : String) :
    (visibilityPermissions raw key).Sound fun principals =>
      ∀ principal ∈ principals, principal.Lawful := by
  unfold visibilityPermissions
  refine (fields_sound h _ _).bind fun container _ => ?_
  refine (items_sound _ _).bind fun items _ => ?_
  refine (Sound.gather fun item _ => visibilityPrincipal_sound item.1 _).bind_pair
    fun principals problems hread => ?_
  obtain ⟨hproblems, kept, -, hprincipals⟩ := hread
  dsimp only
  split
  · exact Outcome.forall_of_forall₂ hprincipals fun _ _ hprincipal => hprincipal
  · exact Sound.dueTo trivial hproblems

/-! ## Members -/

/-- Members of which no two of a kind have the same name, and that name the entities they mention.
-/
structure Members.Lawful (members : Members) : Prop where
  properties : ∀ property ∈ members.properties, property.name ≠ "" ∧ property.aspects.NamesOthers
  properties_nodup : (members.properties.map (·.name)).Nodup
  services : ∀ service ∈ members.services, service.Lawful ∧ service.NamesOthers
  services_nodup : (members.services.map (·.name)).Nodup
  events : ∀ event ∈ members.events, event.dataShape ≠ ""
  events_nodup : (members.events.map (·.name)).Nodup
  subscriptions_nodup : (members.subscriptions.map (·.name)).Nodup

lemma Members.Lawful.nil : Members.Lawful ⟨[], [], [], []⟩ :=
  ⟨by simp, List.nodup_nil, by simp, List.nodup_nil, by simp, List.nodup_nil, List.nodup_nil⟩

lemma Members.clashes_allWorded (members : Members) (location : Option String) :
    AllWorded (members.clashes location) := by
  intro p hp
  obtain ⟨service, -, rfl⟩ := List.mem_map.mp hp
  exact Problem.Worded.plain trivial

/-- Without a clash, the names of the services are none of those of the properties. -/
lemma Members.Lawful.names_nodup {members : Members} (h : members.Lawful)
    {location : Option String} (hclashes : members.clashes location = []) :
    (members.properties.map (·.name) ++ members.services.map (·.name)).Nodup := by
  refine List.nodup_append.mpr ⟨h.properties_nodup, h.services_nodup, ?_⟩
  intro name hproperty other hservice hsame
  obtain ⟨property, hmem, rfl⟩ := List.mem_map.mp hproperty
  obtain ⟨service, hmem', rfl⟩ := List.mem_map.mp hservice
  rw [Members.clashes, List.map_eq_nil_iff, List.filter_eq_nil_iff] at hclashes
  refine hclashes service hmem' ?_
  rw [List.any_eq_true]
  exact ⟨property, hmem, by simpa using hsame⟩

lemma bindings_sound (h : raw.IsKeyed) :
    (bindings raw).Sound fun (_, problems) => AllWorded problems := by
  unfold bindings
  refine (fields_sound h _ _).collected.bind_pair fun remoteProperties problems₁ hread => ?_
  obtain ⟨h₁, -⟩ := hread
  refine (fields_sound h _ _).collected.bind_pair fun properties problems₂ hread => ?_
  obtain ⟨h₂, -⟩ := hread
  refine (fields_sound h _ _).collected.bind_pair fun remoteServices problems₃ hread => ?_
  obtain ⟨h₃, -⟩ := hread
  refine (fields_sound h _ _).collected.bind_pair fun remoteEvents problems₄ hread => ?_
  obtain ⟨h₄, -⟩ := hread
  exact ((h₁.append h₂).append h₃).append h₄

lemma services_sound (h : raw.IsKeyed) (location : Option String) (bound : Bindings) :
    (services raw location bound).Sound fun (found, problems) =>
      AllWorded problems ∧ (found.map (·.name)).Nodup
        ∧ ∀ service ∈ found, service.Lawful ∧ service.NamesOthers := by
  unfold services
  refine (fields_sound h _ _).collected.bind_pair fun definitions definitionProblems hread => ?_
  obtain ⟨hdefinitionProblems, hdefinitions, -⟩ := hread
  refine (fields_sound h _ _).collected.bind_pair
    fun implementations implementationProblems hread => ?_
  obtain ⟨himplementationProblems, -⟩ := hread
  dsimp only
  split
  · exact ⟨hdefinitionProblems, List.nodup_nil, by simp⟩
  · exact ⟨himplementationProblems, List.nodup_nil, by simp⟩
  · exact named_sound (hdefinitions _ rfl) _ fun _ _ _ _ hpart => service_sound hpart _ _ _ _

lemma definedMembers_sound (h : raw.IsKeyed) (location : Option String) (bound : Bindings) :
    (definedMembers raw location bound).Sound fun (found, problems) =>
      AllWorded problems ∧ found.Lawful := by
  unfold definedMembers
  refine (members_sound (g := (·.name)) (P := fun p => p.name ≠ "" ∧ p.aspects.NamesOthers) h _ _
    fun _ _ _ hname hpart => property_sound hname hpart _ _ _).bind_pair
    fun properties propertyProblems hread => ?_
  obtain ⟨h₁, hdistinct, hproperties⟩ := hread
  refine (services_sound h location bound).bind_pair fun services serviceProblems hread => ?_
  obtain ⟨h₂, hservices, hlawful⟩ := hread
  refine (members_sound (g := (·.name)) (P := (·.dataShape ≠ "")) h _ _
    fun _ _ _ _ hpart => event_sound hpart _ _ _).bind_pair fun events eventProblems hread => ?_
  obtain ⟨h₃, hevents, hshapes⟩ := hread
  refine (members_sound (g := (·.name)) (P := fun _ => True) h _ _
    fun _ _ _ _ hpart => (subscription_sound hpart _ _).mono fun _ hname =>
      ⟨hname, trivial⟩).bind_pair fun subscriptions subscriptionProblems hread => ?_
  obtain ⟨h₄, hsubscriptions, -⟩ := hread
  exact ⟨((h₁.append h₂).append h₃).append h₄, hproperties, hdistinct, hlawful, hservices, hshapes,
    hevents, hsubscriptions⟩

/-- A data shape has no source of members, and the source of any other entity is keyed. -/
lemma membersSource_sound (h : raw.IsKeyed) (kind : EntityKind) :
    (membersSource raw kind).Sound fun (source, problems) => AllWorded problems
      ∧ ∀ part, source = some part → part.IsKeyed ∧ kind ≠ .dataShape := by
  have hnested : kind ≠ .dataShape → (Outcome.collected (fields raw "thingShape" none)).Sound
      fun (source, problems) => AllWorded problems
        ∧ ∀ part, source = some part → part.IsKeyed ∧ kind ≠ .dataShape := by
    intro hkind
    refine (fields_sound h _ _).collected.mono ?_
    intro found hfound
    obtain ⟨source, problems⟩ := found
    obtain ⟨hproblems, hsource, -⟩ := hfound
    exact ⟨hproblems, fun part hpart => ⟨hsource part hpart, hkind⟩⟩
  cases kind with
  | thing => exact hnested (by decide)
  | thingTemplate => exact hnested (by decide)
  | thingShape => exact ⟨.nil, by simp [h]⟩
  | dataShape => exact ⟨.nil, by simp⟩
  | other => exact ⟨.nil, by simp [h]⟩

lemma entityMembers_sound (h : raw.IsKeyed) (kind : EntityKind) :
    (entityMembers raw kind).Sound fun (found, problems) => AllWorded problems ∧ found.Lawful
      ∧ (problems = [] → (found.properties.map (·.name) ++ found.services.map (·.name)).Nodup)
      ∧ (kind = .dataShape → found.properties = [] ∧ found.services = [] ∧ found.events = []
          ∧ found.subscriptions = []) := by
  unfold entityMembers
  refine (membersSource_sound h kind).bind_pair fun source sourceProblems hread => ?_
  obtain ⟨hsourceProblems, hsource⟩ := hread
  refine (bindings_sound h).bind_pair fun bound bindingProblems hbindingProblems => ?_
  dsimp only
  split
  · rename_i part bound
    obtain ⟨hpart, hkind⟩ := hsource part rfl
    refine (definedMembers_sound hpart _ bound).bind_pair fun found problems hread => ?_
    obtain ⟨hproblems, hfound⟩ := hread
    refine ⟨?_, hfound, fun hempty => ?_, fun h => absurd h hkind⟩
    · exact ((hsourceProblems.append hbindingProblems).append hproblems).append
        (Members.clashes_allWorded found _)
    · -- the clashes of names come last among the problems, so there are none
      exact hfound.names_nodup (List.append_eq_nil_iff.mp hempty).2
  · exact ⟨hsourceProblems.append hbindingProblems, Members.Lawful.nil,
      fun _ => List.nodup_nil, fun _ => ⟨rfl, rfl, rfl, rfl⟩⟩

/-! ## Entities -/

lemma fieldDefinitions_sound (h : raw.IsKeyed) :
    (fieldDefinitions raw).Sound fun fields =>
      (fields.map (·.name)).Nodup
        ∧ ∀ field ∈ fields, field.name ≠ "" ∧ field.aspects.NamesOthers := by
  unfold fieldDefinitions
  refine (fields_sound h _ _).bind fun definitions hdefinitions => ?_
  refine (named_sound (g := (·.name)) (P := fun f => f.name ≠ "" ∧ f.aspects.NamesOthers)
    hdefinitions _ fun _ _ _ hname hpart => field_sound hname hpart _).bind_pair
    fun found problems hread => ?_
  obtain ⟨hproblems, hnodup, hnamed⟩ := hread
  dsimp only
  split
  · exact ⟨hnodup, hnamed⟩
  · exact Sound.dueTo trivial hproblems

/-- What an entity has on account of its kind keeps its contracts. -/
structure PartLawful (kind : EntityKind) (entity : Entity) : Prop where
  kind_eq : entity.kind = kind
  fields_nodup : (entity.fieldDefinitions.map (·.name)).Nodup
  fields : ∀ field ∈ entity.fieldDefinitions, field.name ≠ "" ∧ field.aspects.NamesOthers
  instancePermissions : PermissionIndex.Lawful entity.instancePermissions
  instanceVisibility : ∀ principal ∈ entity.instanceVisibility, principal.Lawful

lemma entityPart_sound (h : raw.IsKeyed) (kind : EntityKind) :
    (entityPart raw kind).Sound fun part =>
      ∀ entity : Entity, entity.part = part → PartLawful kind entity := by
  cases kind with
  | thing =>
    rw [entityPart]
    split
    · exact Sound.problem trivial
    · refine (number?_sound _ _).bind fun identifier _ => ?_
      rintro ⟨⟩ rfl
      exact ⟨rfl, List.nodup_nil, by simp [Entity.fieldDefinitions], .nil,
        by simp [Entity.instanceVisibility]⟩
  | thingTemplate =>
    rw [entityPart]
    split
    · exact Sound.problem trivial
    · refine (visibilityPermissions_sound h _).bind fun visibility hvisibility => ?_
      refine (runtimePermissions_sound h _).bind fun permissions hpermissions => ?_
      rintro ⟨⟩ rfl
      exact ⟨rfl, List.nodup_nil, by simp [Entity.fieldDefinitions], hpermissions, hvisibility⟩
  | thingShape =>
    refine (runtimePermissions_sound h _).map fun permissions hpermissions => ?_
    rintro ⟨⟩ rfl
    exact ⟨rfl, List.nodup_nil, by simp [Entity.fieldDefinitions], hpermissions,
      by simp [Entity.instanceVisibility]⟩
  | dataShape =>
    refine (fieldDefinitions_sound h).map fun fields hfields => ?_
    rintro ⟨⟩ rfl
    exact ⟨rfl, hfields.1, hfields.2, .nil, by simp [Entity.instanceVisibility]⟩
  | other =>
    rintro ⟨⟩ rfl
    exact ⟨rfl, List.nodup_nil, by simp [Entity.fieldDefinitions], .nil,
      by simp [Entity.instanceVisibility]⟩

end Document

namespace Entity

/-- A lawful entity passes the check of its contracts. -/
lemma Lawful.isConstructed {entity : Entity} (h : entity.Lawful) : entity.IsConstructed where
  checked := by
    unfold Entity.checked
    refine Outcome.bind_eq_ok.mpr ⟨(), Outcome.require_eq_ok.mpr ?_, ?_⟩
    · exact allDistinct_eq_true_iff.mpr h.members_nodup
    refine Outcome.bind_eq_ok.mpr ⟨(), Outcome.require_eq_ok.mpr ?_, ?_⟩
    · rw [List.all_eq_true]
      intro entry hentry
      simpa using h.permissions.keyed entry hentry
    refine Outcome.bind_eq_ok.mpr ⟨(), Outcome.require_eq_ok.mpr ?_, rfl⟩
    by_cases hkind : entity.kind = .dataShape
    · obtain ⟨hservices, hevents, hsubscriptions⟩ := h.withoutBehavior hkind
      rw [hservices, hevents, hsubscriptions]
      simp
    · simp [hkind]
  resources_nodup := h.permissions.resources_nodup
  instanceResources_nodup := h.instancePermissions.resources_nodup

lemma Lawful.sound_checked {entity : Entity} {P : Entity → Prop} (h : entity.Lawful)
    (hP : P entity) : entity.checked.Sound fun entity => entity.Lawful ∧ P entity := by
  rw [h.isConstructed.checked]
  exact ⟨h, hP⟩

end Entity

namespace Document

open Outcome (Sound AllWorded)

lemma namedEntity_sound {raw : Fields} (h : raw.IsKeyed) (name : String) (kind : EntityKind) :
    (namedEntity name raw kind).Sound fun entity =>
      entity.Lawful ∧ entity.kind = kind ∧ entity.NamedApart ∧ entity.NamesOthers := by
  unfold namedEntity
  refine (entityMembers_sound h kind).bind_pair fun members memberProblems hread => ?_
  obtain ⟨h₁, hmembers, hnames, hshape⟩ := hread
  refine (configurationTableDefinitions_sound h).collected.bind_pair
    fun definitions definitionProblems hread => ?_
  obtain ⟨h₂, hdefinitions, -⟩ := hread
  refine (configurationTables_sound h).collected.bind_pair fun tables tableProblems hread => ?_
  obtain ⟨h₃, -⟩ := hread
  refine (visibilityPermissions_sound h _).collected.bind_pair
    fun visibility visibilityProblems hread => ?_
  obtain ⟨h₄, hvisibility, -⟩ := hread
  refine (runtimePermissions_sound h _).collected.bind_pair
    fun permissions permissionProblems hread => ?_
  obtain ⟨h₅, hpermissions, -⟩ := hread
  refine (fields_sound h _ _).collected.bind_pair fun aspects aspectProblems hread => ?_
  obtain ⟨h₆, -⟩ := hread
  dsimp only
  split
  · refine Sound.bind (Sound.within ?_ (entityPart_sound h kind)) fun part hpart => ?_
    · trivial
    -- no part has a problem here, so what each of them ensures holds of the entity made of them
    refine @Entity.Lawful.sound_checked ?entity
      (fun entity => entity.kind = kind ∧ entity.NamedApart ∧ entity.NamesOthers) ?lawful ?names
    case names =>
      have hpart := hpart ?entity rfl
      refine ⟨hpart.kind_eq, ?_, ?_⟩
      · exact {
          fields_nodup := hpart.fields_nodup
          events_nodup := hmembers.events_nodup
          subscriptions_nodup := hmembers.subscriptions_nodup
          withoutProperties := fun hdata => (hshape (hpart.kind_eq.symm.trans hdata)).1 }
      · exact {
          fields := fun field hmem => (hpart.fields field hmem).2
          properties := fun property hmem => (hmembers.properties property hmem).2
          services := fun service hmem => (hmembers.services service hmem).2
          events := hmembers.events
          tables := hdefinitions _ rfl }
    have hpart := hpart ?entity rfl
    exact {
      properties_named := fun property hmem => (hmembers.properties property hmem).1
      fields_named := fun field hmem => (hpart.fields field hmem).1
      services := fun service hmem => (hmembers.services service hmem).1
      members_nodup := hnames rfl
      permissions := hpermissions _ rfl
      instancePermissions := hpart.instancePermissions
      visibility := hvisibility _ rfl
      instanceVisibility := hpart.instanceVisibility
      withoutBehavior := fun hdata => (hshape (hpart.kind_eq.symm.trans hdata)).2 }
  · exact Sound.dueTo trivial (((((h₁.append h₂).append h₃).append h₄).append h₅).append h₆)

/-- A document whose keys differ describes an entity whose names and parts are as they should be, or
has a problem that is worded. -/
lemma entity_named_sound {document : Value} (h : document.IsKeyed) (kind : EntityKind) :
    (entity document kind).Sound fun entity =>
      entity.Lawful ∧ entity.kind = kind ∧ entity.NamedApart ∧ entity.NamesOthers := by
  unfold entity
  split
  · split
    · exact namedEntity_sound (Fields.isKeyed_of_object h) _ kind
    · exact Sound.problem trivial
  · exact Sound.problem trivial

/-- A document whose keys differ describes a lawful entity of the kind asked for, or has a problem
that is worded. -/
theorem entity_sound {document : Value} (h : document.IsKeyed) (kind : EntityKind) :
    (entity document kind).Sound fun entity => entity.Lawful ∧ entity.kind = kind :=
  (entity_named_sound h kind).mono fun _ hentity => ⟨hentity.1, hentity.2.1⟩

end Document

end EntityCompiler
