import EntityCompiler.Proofs.Joining
import EntityCompiler.Proofs.StrayParts

/-!
# What an entity is assembled from

`Document.entity` reads the parts of a document one after the other and collects the problems on the
way. `Document.entity_eq_ok_iff` says once what a run that succeeds has done: each part has been
read on its own, and the entity is put together from them. So where two documents differ in their
members only, and those of the second one can be read, it describes an entity that differs in its
members only (`Document.AssembledFrom.entity_withMembers`).
-/

namespace EntityCompiler

/-- The members of an entity. -/
def Entity.members (entity : Entity) : Document.Members where
  properties := entity.propertyDefinitions
  services := entity.serviceDefinitions
  events := entity.eventDefinitions
  subscriptions := entity.subscriptionDefinitions

/-- The entity with other members, and with something else in the place of what only its kind has.
-/
def Entity.withMembers (entity : Entity) (members : Document.Members) (part : EntityPart) :
    Entity :=
  { entity with
    propertyDefinitions := members.properties
    serviceDefinitions := members.services
    eventDefinitions := members.events
    subscriptionDefinitions := members.subscriptions
    part }

/-- An entity passes its check exactly if it keeps the contracts of entities. -/
lemma Entity.checked_eq_ok_iff {entity : Entity} :
    entity.checked = .ok entity ↔ entity.locallyDefinedNames.Nodup
      ∧ (entity.runtimePermissions.all fun (name, permission) =>
        name == permission.resourceName) = true
      ∧ (entity.kind = .dataShape → entity.serviceDefinitions = [] ∧ entity.eventDefinitions = []
        ∧ entity.subscriptionDefinitions = []) := by
  have hshape : (entity.kind != .dataShape || entity.serviceDefinitions.isEmpty
        && entity.eventDefinitions.isEmpty && entity.subscriptionDefinitions.isEmpty) = true
      ↔ (entity.kind = .dataShape → entity.serviceDefinitions = [] ∧ entity.eventDefinitions = []
        ∧ entity.subscriptionDefinitions = []) := by
    simp only [Bool.or_eq_true, Bool.and_eq_true, bne_iff_ne, List.isEmpty_iff, and_assoc,
      ← imp_iff_not_or]
  rw [← hshape, ← allDistinct_eq_true_iff]
  unfold Entity.checked
  constructor
  · intro h
    obtain ⟨⟨⟩, hdistinct, h⟩ := Outcome.bind_eq_ok.mp h
    obtain ⟨⟨⟩, hkeyed, h⟩ := Outcome.bind_eq_ok.mp h
    obtain ⟨⟨⟩, halone, -⟩ := Outcome.bind_eq_ok.mp h
    exact ⟨Outcome.require_eq_ok.mp hdistinct, Outcome.require_eq_ok.mp hkeyed,
      Outcome.require_eq_ok.mp halone⟩
  · rintro ⟨hdistinct, hkeyed, halone⟩
    rw [hdistinct, hkeyed, halone]
    rfl

lemma Entity.fieldDefinitions_eq_nil {entity : Entity} (h : entity.kind ≠ .dataShape) :
    entity.fieldDefinitions = [] := by
  unfold kind at h
  unfold fieldDefinitions
  cases hpart : entity.part with
  | dataShape fields =>
    rw [hpart] at h
    contradiction
  | _ => rfl

namespace Document

variable {raw raw' : Fields} {kind : EntityKind} {members members' : Members} {described : Entity}

/-- The entity is put together from what each part of a document is read as. -/
structure AssembledFrom (raw : Fields) (kind : EntityKind) (described : Entity) : Prop where
  name : text? raw "name" = some described.name
  description : text? raw "description" = described.description
  documentationContent : text? raw "documentationContent" = described.documentationContent
  projectName : text? raw "projectName" = described.projectName
  tags : tags raw = described.tags
  aspects : ∃ entries, fields raw "aspects" none = .ok entries
    ∧ (⟨flag entries "isEditableExtensionObject"⟩ : EntityAspects) = described.aspects
  members : entityMembers raw kind = .ok (described.members, [])
  tableDefinitions : configurationTableDefinitions raw = .ok described.configurationTableDefinitions
  tables : configurationTables raw = .ok described.configurationTables
  visibility :
    visibilityPermissions raw "visibilityPermissions" = .ok described.visibilityPermissions
  permissions : runtimePermissions raw "runTimePermissions" = .ok described.runtimePermissions
  part : entityPart raw kind = .ok described.part
  checked : described.checked = .ok described

/-- A document describes an entity exactly if the entity can be put together from its parts. -/
theorem entity_eq_ok_iff : entity (.object raw) kind = .ok described
    ↔ AssembledFrom raw kind described := by
  constructor
  · intro h
    unfold entity at h
    dsimp only at h
    split at h
    · rename_i name hname
      unfold namedEntity at h
      obtain ⟨⟨members, memberProblems⟩, hmembers, h⟩ := Outcome.bind_eq_ok.mp h
      obtain ⟨⟨definitions, definitionProblems⟩, hdefinitions, h⟩ := Outcome.bind_eq_ok.mp h
      obtain ⟨⟨tables, tableProblems⟩, htables, h⟩ := Outcome.bind_eq_ok.mp h
      obtain ⟨⟨visibility, visibilityProblems⟩, hvisibility, h⟩ := Outcome.bind_eq_ok.mp h
      obtain ⟨⟨permissions, permissionProblems⟩, hpermissions, h⟩ := Outcome.bind_eq_ok.mp h
      obtain ⟨⟨aspects, aspectProblems⟩, haspects, h⟩ := Outcome.bind_eq_ok.mp h
      dsimp only at h
      -- problems have been collected so far; a run without one has a result in each place
      split at h
      · obtain ⟨part, hpart, hchecked⟩ := Outcome.bind_eq_ok.mp h
        obtain rfl := Entity.eq_of_checked hchecked
        exact {
          name := hname
          description := rfl
          documentationContent := rfl
          projectName := rfl
          tags := rfl
          aspects := ⟨_, (Outcome.collected_eq_ok_some haspects).1, rfl⟩
          members := hmembers
          tableDefinitions := (Outcome.collected_eq_ok_some hdefinitions).1
          tables := (Outcome.collected_eq_ok_some htables).1
          visibility := (Outcome.collected_eq_ok_some hvisibility).1
          permissions := (Outcome.collected_eq_ok_some hpermissions).1
          part := Outcome.within_eq_ok.mp hpart
          checked := hchecked }
      · contradiction
    · contradiction
  · intro h
    obtain ⟨entries, haspects, hflag⟩ := h.aspects
    have hcollected : ∀ {α : Type} {x : Outcome α} {a : α}, x = .ok a →
        Outcome.collected x = .ok (some a, []) :=
      fun hx => Outcome.collected_eq_ok_nil.mpr ⟨_, hx, rfl⟩
    unfold entity
    dsimp only
    rw [h.name]
    dsimp only
    unfold namedEntity
    rw [h.members, hcollected h.tableDefinitions, hcollected h.tables, hcollected h.visibility,
      hcollected h.permissions, hcollected haspects, h.part]
    dsimp only [bind, Except.bind, Outcome.within]
    rw [h.description, h.documentationContent, h.projectName, h.tags, hflag]
    exact h.checked

/-! ## Data shapes -/

lemma entityMembers_dataShape {members : Members} : entityMembers raw .dataShape = .ok (members, [])
    ↔ members = ⟨[], [], [], []⟩ ∧ ∀ key ∈ ["remotePropertyBindings", "propertyBindings",
      "remoteServiceBindings", "remoteEventBindings"], (raw.getD key).IsMap := by
  unfold entityMembers
  constructor
  · intro h
    obtain ⟨_, hsource, h⟩ := Outcome.bind_eq_ok.mp h
    obtain rfl := Except.ok.inj hsource
    obtain ⟨⟨bound, problems⟩, hbound, h⟩ := Outcome.bind_eq_ok.mp h
    obtain ⟨rfl, rfl⟩ := Prod.mk.inj (Outcome.pure_eq_ok.mp h)
    exact ⟨rfl, (isMap_of_bindings hbound).2⟩
  · rintro ⟨rfl, hmaps⟩
    rw [bindings_eq hmaps]
    rfl

lemma fieldDefinitions_eq_ok {fields : List DataShapeField} : fieldDefinitions raw = .ok fields
    ↔ (raw.getD "fieldDefinitions").IsMap ∧ List.Forall₂
      (fun entry f => readNamed "fieldDefinitions" field entry = .ok f)
      (entriesUnder raw "fieldDefinitions")
      fields := by
  unfold fieldDefinitions
  constructor
  · intro h
    obtain ⟨definitions, hdefinitions, h⟩ := Outcome.bind_eq_ok.mp h
    obtain ⟨hmap, rfl⟩ := isMap_of_fields_eq_ok hdefinitions
    obtain ⟨⟨read, problems⟩, hread, h⟩ := Outcome.bind_eq_ok.mp h
    dsimp only at h
    split at h
    · rename_i hnone
      obtain rfl := List.isEmpty_iff.mp hnone
      obtain rfl := Outcome.pure_eq_ok.mp h
      exact ⟨hmap, Outcome.gather_eq_ok_nil.mp hread⟩
    · contradiction
  · rintro ⟨hmap, hread⟩
    rw [fields_of_isMap hmap]
    dsimp only [bind, Except.bind]
    rw [named_eq, Outcome.gather_eq_ok_nil.mpr hread]
    rfl

lemma name_of_field {entry : String × Value} {f : DataShapeField}
    (h : readNamed "fieldDefinitions" field entry = .ok f) : f.name = entry.1 := by
  have hread := readNamed_eq_ok h
  unfold field at hread
  obtain ⟨base, -, hchecked⟩ := Outcome.bind_eq_ok.mp hread
  unfold FieldDefinition.checked at hchecked
  obtain ⟨-, -, hpure⟩ := Outcome.bind_eq_ok.mp hchecked
  rw [← Outcome.pure_eq_ok.mp hpure]

/-! ## Other members -/

/-- Without a problem, the results are those of the items one by one. -/
lemma filterMap_of_forall₂ {α β : Type} {f : α → Outcome β} {xs : List α} {ys : List β}
    (h : List.Forall₂ (fun x y => f x = .ok y) xs ys) :
    (xs.filterMap fun x => (f x).toOption) = ys
      ∧ xs.flatMap (fun x => Outcome.failure (f x)) = [] := by
  induction h with
  | nil => exact ⟨rfl, rfl⟩
  | @cons x y xs ys hxy _ ih =>
    obtain ⟨hfound, hquiet⟩ := ih
    have hsome : (f x).toOption = some y := Outcome.toOption_eq_some.mpr hxy
    rw [List.filterMap_cons_some (f := fun x => (f x).toOption) hsome, hfound, List.flatMap_cons,
      Outcome.failure_eq_nil_of_ok hxy, hquiet]
    exact ⟨rfl, rfl⟩

lemma Members.clashes_eq_nil (hnames : described.locallyDefinedNames.Nodup)
    (location : Option String) :
    described.members.clashes location = [] := by
  unfold Members.clashes
  rw [List.map_eq_nil_iff, List.filter_eq_nil_iff]
  intro service hservice hclash
  obtain ⟨property, hproperty, hsame⟩ := List.any_eq_true.mp hclash
  exact List.disjoint_of_nodup_append hnames (List.mem_map_of_mem hproperty)
    (eq_of_beq hsame ▸ List.mem_map_of_mem hservice)

/-- The members of an entity are found in a document where each of them is read off its definition.
-/
lemma entityMembers_of_describes (hkeyed : raw.IsKeyed) (hkind : kind ≠ .dataShape)
    (hmaps : HasMaps raw kind) (h : DescribesMembers raw kind described)
    (hnames : described.locallyDefinedNames.Nodup) :
    entityMembers raw kind = .ok (described.members, []) := by
  obtain ⟨hproperties, hquiet₁⟩ := filterMap_of_forall₂ h.properties
  obtain ⟨hservices, hquiet₂⟩ := filterMap_of_forall₂ h.services
  obtain ⟨hevents, hquiet₃⟩ := filterMap_of_forall₂ h.events
  obtain ⟨hsubscriptions, hquiet₄⟩ := filterMap_of_forall₂ h.subscriptions
  have hmembers : readMembers raw kind = described.members := by
    simp only [readMembers, Entity.members, hproperties, hservices, hevents, hsubscriptions]
  have hfailures : memberFailures raw kind = [] := by
    simp only [memberFailures, hquiet₁, hquiet₂, hquiet₃, hquiet₄, List.append_nil]
  rw [entityMembers_eq hkeyed hmaps hkind, ← clashes_readMembers hkeyed, hmembers, hfailures,
    Members.clashes_eq_nil hnames, List.append_nil]

namespace AssembledFrom

variable {part : EntityPart}

/-- What is read beside the members, and beside what only entities of one kind have, stays as it is.
-/
lemma withMembers (h : AssembledFrom raw kind described)
    (hrest : ∀ key, key ∉ "fieldDefinitions" :: memberKeys → raw.getD key = raw'.getD key)
    (hmembers : entityMembers raw' kind = .ok (members, []))
    (hpart : entityPart raw' kind = .ok part)
    (hchecked : (described.withMembers members part).checked
      = .ok (described.withMembers members part)) :
    AssembledFrom raw' kind (described.withMembers members part) where
  name := text?_congr (hrest "name" (by decide)) ▸ h.name
  description := text?_congr (hrest "description" (by decide)) ▸ h.description
  documentationContent :=
    text?_congr (hrest "documentationContent" (by decide)) ▸ h.documentationContent
  projectName := text?_congr (hrest "projectName" (by decide)) ▸ h.projectName
  tags := tags_congr (hrest "tags" (by decide)) ▸ h.tags
  aspects := fields_congr (hrest "aspects" (by decide)) none ▸ h.aspects
  members := hmembers
  tableDefinitions := configurationTableDefinitions_congr (hrest _ (by decide)) ▸ h.tableDefinitions
  tables := configurationTables_congr (hrest _ (by decide)) ▸ h.tables
  visibility := visibilityPermissions_congr (hrest "visibilityPermissions" (by decide))
    ▸ h.visibility
  permissions := runtimePermissions_congr (hrest "runTimePermissions" (by decide)) ▸ h.permissions
  part := hpart
  checked := hchecked

lemma checked_withMembers (h : AssembledFrom raw kind described)
    (hnames : (described.withMembers members part).locallyDefinedNames.Nodup)
    (halone : (described.withMembers members part).kind ≠ .dataShape) :
    (described.withMembers members part).checked = .ok (described.withMembers members part) :=
  Entity.checked_eq_ok_iff.mpr ⟨hnames, (Entity.checked_eq_ok_iff.mp h.checked).2.1,
    fun hkind => absurd hkind halone⟩

/-- A document that differs from another one in its members only, all of which can be read,
describes an entity that differs in its members only. -/
theorem entity_withMembers (h : AssembledFrom raw kind described) (hkeyed : raw'.IsKeyed)
    (hkind : kind ≠ .dataShape) (hmaps : HasMaps raw' kind)
    (hrest : ∀ key, key ∉ "fieldDefinitions" :: memberKeys → raw.getD key = raw'.getD key)
    (hmembers : DescribesMembers raw' kind (described.withMembers members described.part))
    (hnames : (described.withMembers members described.part).locallyDefinedNames.Nodup) :
    entity (.object raw') kind = .ok (described.withMembers members described.part) := by
  have hpart : entityPart raw' kind = .ok described.part :=
    entityPart_congr hrest (fun hshape => absurd hshape hkind) ▸ h.part
  have hsame := ((entityPart_sound hkeyed kind).post hpart
    (described.withMembers members described.part) rfl).kind_eq
  exact entity_eq_ok_iff.mpr (h.withMembers hrest
    (entityMembers_of_describes hkeyed hkind hmaps hmembers hnames) hpart
    (h.checked_withMembers hnames (hsame ▸ hkind)))

end AssembledFrom

end Document

end EntityCompiler
