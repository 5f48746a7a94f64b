import EntityCompiler.Proofs.Absence.Reading

/-!
# Reading a document with less in it

Two documents that are alike describe entities that differ at most in their tags and in `null`
options of remote bindings, or both have a problem (`Document.entity_agree`).
-/

namespace EntityCompiler

lemma PropertyDefinition.names_of_thins {properties properties' : List PropertyDefinition}
    (h : List.Forall₂ PropertyDefinition.Thins properties properties') :
    properties.map (·.name) = properties'.map (·.name) := by
  rw [← List.forall₂_eq_eq_eq, List.forall₂_map_left_iff, List.forall₂_map_right_iff]
  exact h.imp fun p p' hp => by rw [hp.field]

/-- The same entity, but for its tags and `null` options of remote bindings. -/
structure Entity.Thins (entity entity' : Entity) : Prop where
  same : entity' = { entity with
    tags := entity'.tags
    propertyDefinitions := entity'.propertyDefinitions }
  properties :
    List.Forall₂ PropertyDefinition.Thins entity.propertyDefinitions entity'.propertyDefinitions

lemma Entity.Thins.locallyDefinedNames {entity entity' : Entity} (h : entity.Thins entity') :
    entity'.locallyDefinedNames = entity.locallyDefinedNames := by
  rw [h.same]
  unfold Entity.locallyDefinedNames
  rw [PropertyDefinition.names_of_thins h.properties]

namespace Document

open Outcome (Agrees AlikeProblems)
open Schema (Alike)

variable {raw raw' : Fields} {v v' : Value} {items items' : List Value} {s : Schema}

/-! ## Configuration tables -/

lemma tableRows_alike (h : Schema.flat.Alike v v') (name : String) :
    tableRows name v = tableRows name v' := by
  obtain ⟨raw, raw', rfl, rfl⟩ | ⟨rfl, -⟩ := h.object_cases trivial
  · have hrows : rows? raw = rows? raw' := by
      unfold rows?
      rw [flat_ext h]
    simp only [tableRows, Value.fields?, Option.bind_some, hrows]
    cases rows? raw' with
    | none => rfl
    | some rows => simp only [Option.map_some, flag_ext (flat_ext h)]
  · rfl

lemma tableDefinition_alike (h : Schema.flat.Alike v v') (name : String) :
    tableDefinition name v = tableDefinition name v' := by
  obtain ⟨raw, raw', rfl, rfl⟩ | ⟨rfl, -⟩ := h.object_cases trivial
  · simp only [tableDefinition, Value.fields?, Option.bind_some, text?_ext (flat_ext h)]
    cases text? raw' "dataShapeName" with
    | none => rfl
    | some dataShape => simp only [Option.map_some, text?_ext (flat_ext h), flag_ext (flat_ext h)]
  · rfl

/-- The parts of a map come to the same if each of them does. -/
lemma gather_alike {α : Type} {read : String → Value → Outcome α}
    (h : (Schema.map s).Alike (.object raw) (.object raw'))
    (hread : ∀ name v v', s.Alike v v' → read name v = read name v') :
    Outcome.gather (fun entry => read entry.1 entry.2) raw
      = Outcome.gather (fun entry => read entry.1 entry.2) raw' := by
  refine Outcome.gather_congr (h.entries.imp fun entry entry' hentry => ?_)
  rw [hentry.1]
  exact hread _ _ _ hentry.2

lemma configurationTables_alike
    (h : (Schema.map .flat).Alike (raw.getD "configurationTables")
      (raw'.getD "configurationTables")) :
    configurationTables raw = configurationTables raw' := by
  unfold configurationTables
  obtain ⟨found, found', h₁, h₂, hfound⟩ | ⟨p, h₁, h₂⟩ := fields_alike h trivial none
  · have hrows := gather_alike hfound fun name _ _ hv => tableRows_alike hv name
    rw [h₁, h₂]
    simp only [bind, Except.bind, hrows]
  · rw [h₁, h₂]

lemma configurationTableDefinitions_alike (h : (Schema.map .flat).Alike
      (raw.getD "configurationTableDefinitions") (raw'.getD "configurationTableDefinitions")) :
    configurationTableDefinitions raw = configurationTableDefinitions raw' := by
  unfold configurationTableDefinitions
  obtain ⟨found, found', h₁, h₂, hfound⟩ | ⟨p, h₁, h₂⟩ := fields_alike h trivial none
  · have hdefinitions := gather_alike hfound fun name _ _ hv => tableDefinition_alike hv name
    rw [h₁, h₂]
    simp only [bind, Except.bind, hdefinitions]
  · rw [h₁, h₂]

/-! ## Permissions -/

/-- Like items of two lists stand at the same positions. -/
lemma forall₂_zipIdx (h : List.Forall₂ s.Alike items items') (start : Nat) :
    List.Forall₂ (fun item item' => s.Alike item.1 item'.1 ∧ item.2 = item'.2)
      (items.zipIdx start) (items'.zipIdx start) := by
  induction h generalizing start with
  | nil => exact .nil
  | cons hitem _ ih => exact .cons ⟨hitem, rfl⟩ (ih (start + 1))

lemma permissionEntry_agree (h : Schema.flat.Alike v v') (location : String) :
    Agrees Eq (permissionEntry v location) (permissionEntry v' location) := by
  obtain ⟨raw, raw', rfl, rfl⟩ | ⟨rfl, -⟩ := h.object_cases trivial
  · -- the problem with an entry shows it as a whole, so it may be another one
    have hsame := flat_ext h
    simp only [permissionEntry, Value.fields?, text?_ext hsame, flag_ext hsame, hsame]
    cases text? raw' "name" with
    | none => trivial
    | some name =>
      cases (Fields.getD raw' "type").text?.bind PrincipalType.ofLabel? with
      | none => trivial
      | some type => exact Agrees.refl _
  · exact Agrees.refl _

lemma permissionEntries_agree (h : Schema.permission.Alike (.object raw) (.object raw'))
    (kind : PermissionKind) (location : String) :
    Agrees (fun found found' => found.1 = found'.1 ∧ AlikeProblems found.2 found'.2)
      (permissionEntries raw kind location) (permissionEntries raw' kind location) := by
  have hpart : (Schema.list .flat).Alike (raw.getD kind.label) (raw'.getD kind.label) := by
    have hpart := h.part kind.label
    cases kind <;> exact hpart
  unfold permissionEntries
  obtain ⟨found, found', h₁, h₂, hfound⟩ | ⟨p, h₁, h₂⟩ := items_of_list hpart location
  · rw [h₁, h₂]
    refine (Agrees.gather
      ((forall₂_zipIdx hfound 0).imp fun item item' hitem => ?_)).of_forall₂_eq.bind
      fun entries entries' hentries => ⟨congrArg some hentries.1, hentries.2⟩
    dsimp only
    rw [hitem.2]
    exact permissionEntry_agree hitem.1 _
  · rw [h₁, h₂]
    exact ⟨rfl, .refl _⟩

lemma permissionKinds_agree (h : Schema.permission.Alike (.object raw) (.object raw'))
    (location : String)
    (kinds : List PermissionKind) :
    Agrees (fun found found' => found.1 = found'.1 ∧ AlikeProblems found.2 found'.2)
      (permissionKinds raw location kinds) (permissionKinds raw' location kinds) := by
  induction kinds with
  | nil => exact ⟨rfl, .refl _⟩
  | cons kind kinds ih =>
    unfold permissionKinds
    refine (permissionEntries_agree h kind location).bind fun entries entries' hentries => ?_
    refine ih.bind fun others others' hothers => ?_
    exact ⟨by dsimp only; rw [hentries.1, hothers.1], hentries.2.append hothers.2⟩

lemma runtimePermission_agree (h : Schema.permission.Alike v v') (location : String) :
    Agrees (fun found found' => found.1 = found'.1 ∧ AlikeProblems found.2 found'.2)
      (runtimePermission v location) (runtimePermission v' location) := by
  obtain ⟨raw, raw', rfl, rfl⟩ | ⟨rfl, -⟩ := h.object_cases trivial
  · unfold runtimePermission
    dsimp only [Value.fields?]
    rw [text?_congr (h.part "resourceName").eq]
    cases text? raw' "resourceName" with
    | none => exact ⟨rfl, .refl _⟩
    | some resource =>
      refine (permissionKinds_agree h location _).bind fun (kinds, problems) (kinds', problems')
        ⟨hkinds, hproblems⟩ => ?_
      obtain rfl : kinds = kinds' := hkinds
      refine Agrees.ite_isEmpty hproblems ?_ ⟨rfl, hproblems⟩
      exact (Agrees.refl _).bind fun permission _ hpermission =>
        ⟨congrArg some hpermission, .refl _⟩
  · exact (Agrees.refl _).mono fun _ _ hfound => by subst hfound; exact ⟨rfl, .refl _⟩

lemma permissionIndex_agree (location : String) {items items' : List (Value × Nat)}
    (h : List.Forall₂ (fun item item' => Schema.permission.Alike item.1 item'.1 ∧ item.2 = item'.2)
      items items') (index : PermissionIndex) :
    Agrees (fun found found' => found.1 = found'.1 ∧ AlikeProblems found.2 found'.2)
      (permissionIndex location items index) (permissionIndex location items' index) := by
  induction h generalizing index with
  | nil => exact ⟨rfl, .refl _⟩
  | @cons item item' items items' hitem _ ih =>
    obtain ⟨v, position⟩ := item
    obtain ⟨v', position'⟩ := item'
    obtain ⟨hv, rfl⟩ := hitem
    unfold permissionIndex
    refine (runtimePermission_agree hv _).bind fun (found, problems) (found', problems')
      ⟨hfound, hproblems⟩ => ?_
    obtain rfl : found = found' := hfound
    exact (ih _).bind fun all all' hall => ⟨hall.1, hproblems.append hall.2⟩

lemma runtimePermissions_agree {key : String}
    (h : Schema.runtimePermissions.Alike (raw.getD key) (raw'.getD key)) :
    Agrees Eq (runtimePermissions raw key) (runtimePermissions raw' key) := by
  unfold runtimePermissions
  refine (fields_agree h trivial none).bind fun container container' hcontainer => ?_
  obtain ⟨found, found', h₁, h₂, hfound⟩ | ⟨p, h₁, h₂⟩ :=
    items_of_list (hcontainer.part "permissions") (some key)
  · rw [h₁, h₂]
    refine (permissionIndex_agree key (forall₂_zipIdx hfound 0) []).bind fun (index, problems)
      (index', problems') ⟨hindex, hproblems⟩ => ?_
    exact Agrees.ite_isEmpty hproblems hindex trivial
  · rw [h₁, h₂]
    trivial

/-! ## Visibility -/

lemma visibilityPrincipal_alike (h : Schema.flat.Alike v v') (location : String) :
    visibilityPrincipal v location = visibilityPrincipal v' location := by
  obtain ⟨raw, raw', rfl, rfl⟩ | ⟨rfl, -⟩ := h.object_cases trivial
  · simp only [visibilityPrincipal, Value.fields?, text?_ext (flat_ext h), flat_ext h "type"]
  · rfl

lemma visibilityPermissions_alike {key : String}
    (h : Schema.visibilityPermissions.Alike (raw.getD key) (raw'.getD key)) :
    visibilityPermissions raw key = visibilityPermissions raw' key := by
  unfold visibilityPermissions
  obtain ⟨container, container', h₁, h₂, hcontainer⟩ | ⟨p, h₁, h₂⟩ := fields_alike h trivial none
  · rw [h₁, h₂]
    obtain ⟨found, found', h₃, h₄, hfound⟩ | ⟨p, h₃, h₄⟩ :=
      items_of_list (hcontainer.part "Visibility") (some key)
    · have hprincipals : Outcome.gather (fun item =>
            visibilityPrincipal item.1 (below key ["Visibility", toString item.2])) found.zipIdx
          = Outcome.gather (fun item =>
            visibilityPrincipal item.1 (below key ["Visibility", toString item.2]))
              found'.zipIdx := by
        refine Outcome.gather_congr ((forall₂_zipIdx hfound 0).imp fun item item' hitem => ?_)
        rw [hitem.2, visibilityPrincipal_alike hitem.1]
      simp only [bind, Except.bind, h₃, h₄, hprincipals]
    · simp only [bind, Except.bind, h₃, h₄]
  · rw [h₁, h₂]

/-! ## Members -/

/-- Bindings with like parts under the same names. -/
structure Bindings.Alike (bindings bindings' : Bindings) : Prop where
  remoteProperties : (Schema.map .flat).Alike (.object bindings.remoteProperties)
    (.object bindings'.remoteProperties)
  properties : (Schema.map .flat).Alike (.object bindings.properties) (.object bindings'.properties)
  remoteServices : (Schema.map .flat).Alike (.object bindings.remoteServices)
    (.object bindings'.remoteServices)
  remoteEvents :
    (Schema.map .flat).Alike (.object bindings.remoteEvents) (.object bindings'.remoteEvents)

/-- Two parts in which members are defined alike. -/
structure DefineAlike (source source' : Fields) : Prop where
  properties : (Schema.map .field).Alike (source.getD "propertyDefinitions")
    (source'.getD "propertyDefinitions")
  services : (Schema.map .service).Alike (source.getD "serviceDefinitions")
    (source'.getD "serviceDefinitions")
  implementations : (Schema.map .implementation).Alike (source.getD "serviceImplementations")
    (source'.getD "serviceImplementations")
  events :
    (Schema.map .flat).Alike (source.getD "eventDefinitions") (source'.getD "eventDefinitions")
  subscriptions : (Schema.map .subscription).Alike (source.getD "subscriptions")
    (source'.getD "subscriptions")

/-- The same members, but for `null` options of remote bindings. -/
structure Members.Thins (members members' : Members) : Prop where
  properties : List.Forall₂ PropertyDefinition.Thins members.properties members'.properties
  services : members.services = members'.services
  events : members.events = members'.events
  subscriptions : members.subscriptions = members'.subscriptions

lemma bindings_agree (h : Schema.document.Alike (.object raw) (.object raw')) :
    Agrees (fun found found' => Option.Rel Bindings.Alike found.1 found'.1
      ∧ AlikeProblems found.2 found'.2) (bindings raw) (bindings raw') := by
  unfold bindings
  refine (fields_agree (h.part "remotePropertyBindings") trivial none).collected.bind
    fun (found₁, problems₁) (found₁', problems₁') ⟨h₁, hproblems₁⟩ => ?_
  refine (fields_agree (h.part "propertyBindings") trivial none).collected.bind
    fun (found₂, problems₂) (found₂', problems₂') ⟨h₂, hproblems₂⟩ => ?_
  refine (fields_agree (h.part "remoteServiceBindings") trivial none).collected.bind
    fun (found₃, problems₃) (found₃', problems₃') ⟨h₃, hproblems₃⟩ => ?_
  refine (fields_agree (h.part "remoteEventBindings") trivial none).collected.bind
    fun (found₄, problems₄) (found₄', problems₄') ⟨h₄, hproblems₄⟩ => ?_
  refine ⟨?_, ((hproblems₁.append hproblems₂).append hproblems₃).append hproblems₄⟩
  -- there are bindings only if all four maps are there
  dsimp only at h₁ h₂ h₃ h₄ ⊢
  cases h₁ with
  | none => exact .none
  | some h₁ =>
    cases h₂ with
    | none => exact .none
    | some h₂ =>
      cases h₃ with
      | none => exact .none
      | some h₃ =>
        cases h₄ with
        | none => exact .none
        | some h₄ => exact .some ⟨h₁, h₂, h₃, h₄⟩

lemma services_agree {source source' : Fields} {bindings bindings' : Bindings}
    (h : DefineAlike source source') (hbindings : bindings.Alike bindings')
    (location : Option String) :
    Agrees (fun found found' => found.1 = found'.1 ∧ AlikeProblems found.2 found'.2)
      (services source location bindings) (services source' location bindings') := by
  unfold services
  refine (fields_agree h.services trivial location).collected.bind
    fun (definitions, problems) (definitions', problems') ⟨hdefinitions, hproblems⟩ => ?_
  refine (fields_agree h.implementations trivial location).collected.bind
    fun (implementations, others) (implementations', others') ⟨himplementations, hothers⟩ => ?_
  dsimp only at hdefinitions himplementations ⊢
  cases hdefinitions with
  | none => exact ⟨rfl, hproblems⟩
  | some hdefinitions =>
    cases himplementations with
    | none => exact ⟨rfl, hothers⟩
    | some himplementations =>
      refine (named_agree hdefinitions ?_ _).of_forall₂_eq
      intro name v v' inner hv
      exact service_agree hv (himplementations.entry name)
        (hbindings.remoteServices.entry name) name inner _

lemma definedMembers_agree {source source' : Fields} {bindings bindings' : Bindings}
    (h : DefineAlike source source') (hbindings : bindings.Alike bindings')
    (location : Option String) :
    Agrees (fun found found' => found.1.Thins found'.1 ∧ AlikeProblems found.2 found'.2)
      (definedMembers source location bindings) (definedMembers source' location bindings') := by
  unfold definedMembers
  refine (members_agree h.properties (fun name _ _ inner hv => property_agree hv
    (hbindings.remoteProperties.entry name) (hbindings.properties.entry name) name inner)
      location).bind
    fun (properties, problems₁) (properties', problems₁') ⟨hproperties, hproblems₁⟩ => ?_
  refine (services_agree h hbindings location).bind
    fun (services, problems₂) (services', problems₂') ⟨hservices, hproblems₂⟩ => ?_
  refine (members_agree h.events (fun name _ _ inner hv => Agrees.of_eq (event_alike hv
    (hbindings.remoteEvents.entry name) name inner)) location).of_forall₂_eq.bind
    fun (events, problems₃) (events', problems₃') ⟨hevents, hproblems₃⟩ => ?_
  refine (members_agree h.subscriptions
    (fun name _ _ inner hv => Agrees.of_eq (subscription_alike hv
    name inner)) location).of_forall₂_eq.bind
    fun (subscriptions, problems₄) (subscriptions', problems₄') ⟨hsubscriptions, hproblems₄⟩ => ?_
  exact ⟨⟨hproperties, hservices, hevents, hsubscriptions⟩,
    ((hproblems₁.append hproblems₂).append hproblems₃).append hproblems₄⟩

lemma membersSource_agree (h : Schema.document.Alike (.object raw) (.object raw'))
    (kind : EntityKind) :
    Agrees (fun found found' => Option.Rel DefineAlike found.1 found'.1
      ∧ AlikeProblems found.2 found'.2) (membersSource raw kind) (membersSource raw' kind) := by
  have htop : DefineAlike raw raw' := {
    properties := h.part "propertyDefinitions"
    services := h.part "serviceDefinitions"
    implementations := h.part "serviceImplementations"
    events := h.part "eventDefinitions"
    subscriptions := h.part "subscriptions" }
  have hnested : Agrees (fun found found' => Option.Rel DefineAlike found.1 found'.1
      ∧ AlikeProblems found.2 found'.2) (Outcome.collected (fields raw "thingShape" none))
      (Outcome.collected (fields raw' "thingShape" none)) := by
    refine ((fields_agree (h.part "thingShape") trivial none).mono fun shape shape' hshape =>
      ?_).collected
    exact {
      properties := hshape.part "propertyDefinitions"
      services := hshape.part "serviceDefinitions"
      implementations := hshape.part "serviceImplementations"
      events := hshape.part "eventDefinitions"
      subscriptions := hshape.part "subscriptions" }
  cases kind with
  | thing => exact hnested
  | thingTemplate => exact hnested
  | thingShape => exact ⟨.some htop, .refl _⟩
  | dataShape => exact ⟨.none, .refl _⟩
  | other => exact ⟨.some htop, .refl _⟩

/-- Properties keep their names, so they clash with the same services. -/
lemma clashes_of_thins {members members' : Members} (h : members.Thins members')
    (location : Option String) :
    members.clashes location = members'.clashes location := by
  have hany : ∀ name, members.properties.any (·.name == name)
      = members'.properties.any (·.name == name) := by
    intro name
    have hnames := congrArg (·.any (· == name)) (PropertyDefinition.names_of_thins h.properties)
    rwa [List.any_map, List.any_map] at hnames
  unfold Members.clashes
  simp only [hany, h.services]

lemma entityMembers_agree (h : Schema.document.Alike (.object raw) (.object raw'))
    (kind : EntityKind) :
    Agrees (fun found found' => found.1.Thins found'.1 ∧ AlikeProblems found.2 found'.2)
      (entityMembers raw kind) (entityMembers raw' kind) := by
  unfold entityMembers
  refine (membersSource_agree h kind).bind
    fun (source, problems) (source', problems') ⟨hsource, hproblems⟩ => ?_
  refine (bindings_agree h).bind
    fun (found, others) (found', others') ⟨hfound, hothers⟩ => ?_
  -- without a source or without the bindings no member is read, and a problem may tell why
  have hnone : (⟨[], [], [], []⟩ : Members).Thins ⟨[], [], [], []⟩ := ⟨.nil, rfl, rfl, rfl⟩
  dsimp only at hsource hfound ⊢
  cases hsource with
  | none => exact ⟨hnone, hproblems.append hothers⟩
  | some hsource =>
    cases hfound with
    | none => exact ⟨hnone, hproblems.append hothers⟩
    | some hfound =>
      refine (definedMembers_agree hsource hfound _).bind fun members members' hmembers => ?_
      refine ⟨hmembers.1, ((hproblems.append hothers).append hmembers.2).append ?_⟩
      rw [clashes_of_thins hmembers.1]
      exact .refl _

/-! ## Entities -/

lemma fieldDefinitions_agree
    (h : (Schema.map .field).Alike (raw.getD "fieldDefinitions") (raw'.getD "fieldDefinitions")) :
    Agrees Eq (fieldDefinitions raw) (fieldDefinitions raw') := by
  unfold fieldDefinitions
  refine (fields_agree h trivial none).bind fun found found' hfound => ?_
  refine (named_agree hfound
    (fun name _ _ inner hv => Agrees.of_eq (congrFun (field_alike hv name) inner))
    _).of_forall₂_eq.bind fun (read, problems) (read', problems') ⟨hread, hproblems⟩ => ?_
  exact Agrees.ite_isEmpty hproblems hread trivial

lemma entityPart_agree (h : Schema.document.Alike (.object raw) (.object raw'))
    (kind : EntityKind) :
    Agrees Eq (entityPart raw kind) (entityPart raw' kind) := by
  have hshapes : implementedShapes raw = implementedShapes raw' := by
    unfold implementedShapes
    rw [(h.part "implementedShapes").eq]
  have hpermissions := runtimePermissions_agree (h.part "instanceRunTimePermissions")
  cases kind with
  | thing =>
    simp only [entityPart, hshapes, text?_congr (h.part "thingTemplate").eq,
      number?_congr (h.part "identifier").eq, flag_congr (h.part "enabled").eq,
      flag_congr (h.part "published").eq, text?_congr (h.part "valueStream").eq]
    exact Agrees.refl _
  | thingTemplate =>
    simp only [entityPart, hshapes, text?_congr (h.part "baseThingTemplate").eq,
      text?_congr (h.part "valueStream").eq,
      visibilityPermissions_alike (h.part "instanceVisibilityPermissions")]
    cases text? raw' "baseThingTemplate" with
    | none => trivial
    | some template =>
      refine (Agrees.refl _).bind fun visibility _ hvisibility => hvisibility ▸ ?_
      exact hpermissions.bind fun permissions _ hpermissions => hpermissions ▸ Agrees.refl _
  | thingShape => exact hpermissions.map fun _ _ hpermissions => congrArg _ hpermissions
  | dataShape =>
    exact (fieldDefinitions_agree (h.part "fieldDefinitions")).map fun _ _ hfields =>
      congrArg _ hfields
  | other => exact rfl

/-- A check of an entity asks for no more than the names of its properties. -/
lemma checked_agree {described described' : Entity} (h : described.Thins described') :
    Agrees Entity.Thins described.checked described'.checked := by
  have hkind : described'.kind = described.kind := by
    rw [h.same]
    rfl
  have hpermissions : described'.runtimePermissions = described.runtimePermissions := by rw [h.same]
  have hservices : described'.serviceDefinitions = described.serviceDefinitions := by rw [h.same]
  have hevents : described'.eventDefinitions = described.eventDefinitions := by rw [h.same]
  have hsubscriptions : described'.subscriptionDefinitions = described.subscriptionDefinitions := by
    rw [h.same]
  unfold Entity.checked
  rw [h.locallyDefinedNames, hkind, hpermissions, hservices, hevents, hsubscriptions]
  refine (Agrees.refl _).bind fun _ _ _ => ?_
  refine (Agrees.refl _).bind fun _ _ _ => ?_
  exact (Agrees.refl _).bind fun _ _ _ => h

lemma namedEntity_agree (h : Schema.document.Alike (.object raw) (.object raw')) (kind : EntityKind)
    (name : String) :
    Agrees Entity.Thins (namedEntity name raw kind) (namedEntity name raw' kind) := by
  unfold namedEntity
  -- these three parts come to the same, problems included; the others only agree
  rw [configurationTableDefinitions_alike (h.part "configurationTableDefinitions"),
    configurationTables_alike (h.part "configurationTables"),
    visibilityPermissions_alike (h.part "visibilityPermissions")]
  refine (entityMembers_agree h kind).bind
    fun (members, problems) (members', problems') ⟨hmembers, hproblems⟩ => ?_
  refine (Agrees.refl _).bind fun (definitions, _) _ hdefinitions => hdefinitions ▸ ?_
  refine (Agrees.refl _).bind fun (tables, _) _ htables => htables ▸ ?_
  refine (Agrees.refl _).bind fun (visibility, _) _ hvisibility => hvisibility ▸ ?_
  refine (runtimePermissions_agree (h.part "runTimePermissions")).collected.bind
    fun (permissions, _) (permissions', _) ⟨hpermissions, _⟩ => ?_
  refine (fields_agree (h.part "aspects") trivial none).collected.bind
    fun (aspects, _) (aspects', _) ⟨haspects, _⟩ => ?_
  dsimp only at hpermissions haspects ⊢
  obtain ⟨rfl, rfl⟩ | ⟨p, rest, q, rest', rfl, rfl⟩ := AlikeProblems.cases hproblems
  · -- without a problem with a member, any other part that is missing gives the entity up
    rcases definitions with _ | definitions
    · trivial
    rcases tables with _ | tables
    · trivial
    rcases visibility with _ | visibility
    · trivial
    rcases hpermissions with hpermissions | _
    · rcases haspects with haspects | _
      · refine ((entityPart_agree h kind).within none (.entity name)).bind
          fun part _ hpart => hpart ▸ ?_
        have hservices : members.services = members'.services := hmembers.services
        have hevents : members.events = members'.events := hmembers.events
        have hsubscriptions : members.subscriptions = members'.subscriptions :=
          hmembers.subscriptions
        refine checked_agree ⟨?_, hmembers.properties⟩
        simp only [hservices, hevents, hsubscriptions, hpermissions,
          text?_congr (h.part "description").eq, text?_congr (h.part "documentationContent").eq,
          text?_congr (h.part "projectName").eq,
          flag_congr (flat_ext haspects "isEditableExtensionObject")]
      · trivial
    · trivial
  · trivial

lemma entity_agree (h : Schema.document.Alike v v') (kind : EntityKind) :
    Agrees Entity.Thins (entity v kind) (entity v' kind) := by
  obtain ⟨raw, raw', rfl, rfl⟩ | ⟨rfl, hnone⟩ := h.object_cases trivial
  · unfold entity
    dsimp only
    rw [text?_congr (h.part "name").eq]
    cases text? raw' "name" with
    | none => trivial
    | some name => exact namedEntity_agree h kind name
  · cases v with
    | object raw => contradiction
    | _ => trivial

end Document

end EntityCompiler
