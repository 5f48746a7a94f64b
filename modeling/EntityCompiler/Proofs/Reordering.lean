import EntityCompiler.Compilation
import EntityCompiler.Proofs.Assembly
import EntityCompiler.Proofs.MemberNames

/-!
# The order of definitions

Documents whose maps of definitions, implementations and bindings have the same entries in different
orders are compiled alike. What is looked up by its name is found in any order. The definitions
themselves are read and declared one by one, so their order is that of the members and of nothing
else: the clashes and the permissions at the class depend on which names there are.

Main statement: `Compilation.compile_reordered`.
-/

namespace EntityCompiler

/-! ## Maps in another order -/

/-- The same value, or two objects with the same entries in some order each. -/
def Value.Reordered (v v' : Value) : Prop :=
  v = v' ∨ ∃ entries entries', v = .object entries ∧ v' = .object entries' ∧ entries.Perm entries'

namespace Value.Reordered

variable {v v' : Value}

lemma symm (h : v.Reordered v') : v'.Reordered v := by
  obtain rfl | ⟨entries, entries', rfl, rfl, hperm⟩ := h
  · exact .inl rfl
  · exact .inr ⟨entries', entries, rfl, rfl, hperm.symm⟩

lemma isMap (h : v.Reordered v') (hmap : v.IsMap) : v'.IsMap := by
  obtain rfl | ⟨entries, entries', rfl, rfl, -⟩ := h
  · exact hmap
  · trivial

lemma fields_perm (h : v.Reordered v') : (v.fields?.getD []).Perm (v'.fields?.getD []) := by
  obtain rfl | ⟨entries, entries', rfl, rfl, hperm⟩ := h
  · exact .refl _
  · exact hperm

end Value.Reordered

/-- What belongs to the items of a list, one by one, belongs to them in any order. -/
lemma exists_forall₂_of_perm {α β : Type} {R : α → β → Prop} {xs xs' : List α} {ys : List β}
    (hperm : xs.Perm xs') (h : List.Forall₂ R xs ys) :
    ∃ ys', List.Forall₂ R xs' ys' ∧ ys.Perm ys' := by
  obtain ⟨ys', hys', hback⟩ := List.perm_comp_forall₂ hperm.symm h
  exact ⟨ys', hys', hback.symm⟩

namespace Fields

variable {entries entries' : Fields}

/-- Where all keys differ, the value under a key is the one that stands there. -/
lemma IsKeyed.get?_eq_some_iff (h : entries.IsKeyed) {name : String} {value : Value} :
    entries.get? name = some value ↔ (name, value) ∈ entries := by
  unfold Fields.get?
  constructor
  · intro hfound
    obtain ⟨⟨key, found⟩, hentry, rfl⟩ := Option.map_eq_some_iff.mp hfound
    obtain rfl : key = name := by simpa using List.find?_some hentry
    exact List.mem_of_find?_eq_some hentry
  · intro hmem
    have hfirst : (entries.find? (·.1 == name)).isSome := List.find?_isSome.mpr ⟨_, hmem, by simp⟩
    obtain ⟨entry, hentry⟩ := Option.isSome_iff_exists.mp hfirst
    have hkey : entry.1 = (name, value).1 := by simpa using List.find?_some hentry
    -- no second entry has the key of the one that is found first
    have hsame := List.inj_on_of_nodup_map h.keys_nodup (List.mem_of_find?_eq_some hentry) hmem hkey
    rw [hentry, hsame]
    rfl

/-- A value is found under its key in any order of the entries. -/
lemma IsKeyed.getD_perm (h : entries.IsKeyed) (h' : entries'.IsKeyed)
    (hperm : entries.Perm entries')
    (name : String) : entries.getD name = entries'.getD name := by
  have hget : entries.get? name = entries'.get? name := by
    refine Option.ext fun value => ?_
    rw [h.get?_eq_some_iff, h'.get?_eq_some_iff, hperm.mem_iff]
  unfold Fields.getD
  rw [hget]

end Fields

namespace Document

/-- The keys of the maps in a document, or in the shape of a thing, the order of which is compared.
-/
def mapKeys : List String :=
  ["propertyDefinitions", "serviceDefinitions", "serviceImplementations", "eventDefinitions",
    "subscriptions",
    "fieldDefinitions"] ++ bindingKeys

/-- Two documents that have the same entries in each of their maps of definitions, implementations
and bindings, in some order each, and are the same otherwise. -/
structure Reordered (raw raw' : Fields) : Prop where
  maps : ∀ key ∈ mapKeys, (raw.getD key).Reordered (raw'.getD key)
  shape : raw.getD "thingShape" = raw'.getD "thingShape" ∨ ∃ shape shape' : Fields,
    raw.getD "thingShape" = .object shape ∧ raw'.getD "thingShape" = .object shape'
      ∧ (∀ key ∈ mapKeys, (shape.getD key).Reordered (shape'.getD key))
      ∧ ∀ key ∉ mapKeys, shape.getD key = shape'.getD key
  rest : ∀ key ∉ "thingShape" :: mapKeys, raw.getD key = raw'.getD key

namespace Reordered

variable {raw raw' : Fields} {kind : EntityKind}

lemma symm (h : Reordered raw raw') : Reordered raw' raw where
  maps := fun key hkey => (h.maps key hkey).symm
  shape := by
    obtain hsame | ⟨shape, shape', hshape, hshape', hmaps, hrest⟩ := h.shape
    · exact .inl hsame.symm
    · exact .inr ⟨shape', shape, hshape', hshape, fun key hkey => (hmaps key hkey).symm,
        fun key hkey => (hrest key hkey).symm⟩
  rest := fun key hkey => (h.rest key hkey).symm

lemma memberPart (h : Reordered raw raw') (kind : EntityKind) {key : String}
    (hkey : key ∈ mapKeys) :
    ((Document.memberPart raw kind).getD key).Reordered
    ((Document.memberPart raw' kind).getD key) := by
  unfold Document.memberPart
  obtain hshaped | hplain := membersKey?_cases kind
  · rw [hshaped]
    dsimp only [entriesUnder]
    obtain hsame | ⟨shape, shape', hshape, hshape', hmaps, -⟩ := h.shape
    · rw [hsame]
      exact .inl rfl
    · rw [hshape, hshape']
      exact hmaps key hkey
  · rw [hplain]
    exact h.maps key hkey

lemma definitions_perm (h : Reordered raw raw') (kind : EntityKind) {key : String}
    (hkey : key ∈ mapKeys) :
    (definitionsUnder raw kind key).Perm (definitionsUnder raw' kind key) :=
  (h.memberPart kind hkey).fields_perm

lemma hasMaps (h : Reordered raw raw') (hmaps : HasMaps raw kind) : HasMaps raw' kind where
  shape := by
    intro key hkey
    have hmap := hmaps.shape key hkey
    obtain hshaped | hplain := membersKey?_cases kind
    · obtain rfl : "thingShape" = key := Option.some.inj (hshaped.symm.trans hkey)
      obtain hsame | ⟨shape, shape', -, hshape', -⟩ := h.shape
      · rwa [← hsame]
      · rw [hshape']
        trivial
    · rw [hplain] at hkey
      contradiction
  bindings := fun key hkey => (h.maps key (by revert key; decide)).isMap (hmaps.bindings key hkey)
  definitions := fun key hkey =>
    (h.memberPart kind (by revert key; decide)).isMap (hmaps.definitions key hkey)

/-- Definitions are joined with the same implementations and bindings. -/
lemma joinAlike (h : Reordered raw raw') (hkeyed : raw.IsKeyed) (hkeyed' : raw'.IsKeyed)
    (kind : EntityKind)
    (name : String) : JoinAlike name kind raw raw' where
  implementation := (isKeyed_definitionsUnder hkeyed kind _).getD_perm
    (isKeyed_definitionsUnder hkeyed' kind _) (h.definitions_perm kind (by decide)) name
  bindings := fun key hkey => (isKeyed_entriesUnder hkeyed key).getD_perm
    (isKeyed_entriesUnder hkeyed' key)
    (h.maps key (by revert key; decide)).fields_perm name

end Reordered

/-! ## Members in another order -/

/-- The same members, those of each group in some order. -/
structure Members.Reordered (members members' : Members) : Prop where
  properties : members.properties.Perm members'.properties
  services : members.services.Perm members'.services
  events : members.events.Perm members'.events
  subscriptions : members.subscriptions.Perm members'.subscriptions

variable {raw raw' : Fields} {kind : EntityKind} {described : Entity}

/-- Each definition is read as before, whatever stands before and after it. -/
lemma DescribesMembers.reordered (h : DescribesMembers raw kind described)
    (hraw : Reordered raw raw')
    (hkeyed : raw.IsKeyed) (hkeyed' : raw'.IsKeyed) :
    ∃ members, described.members.Reordered members
      ∧ ∀ part, DescribesMembers raw' kind (described.withMembers members part) := by
  have hjoin := hraw.joinAlike hkeyed hkeyed' kind
  have hperm := fun key hkey => @Reordered.definitions_perm raw raw' hraw kind key hkey
  obtain ⟨properties, hproperties, hperm₁⟩ :=
    exists_forall₂_of_perm (hperm "propertyDefinitions" (by decide)) h.properties
  obtain ⟨services, hservices, hperm₂⟩ :=
    exists_forall₂_of_perm (hperm "serviceDefinitions" (by decide)) h.services
  obtain ⟨events, hevents, hperm₃⟩ :=
    exists_forall₂_of_perm (hperm "eventDefinitions" (by decide)) h.events
  obtain ⟨subscriptions, hsubscriptions, hperm₄⟩ :=
    exists_forall₂_of_perm (hperm "subscriptions" (by decide)) h.subscriptions
  refine ⟨⟨properties, services, events, subscriptions⟩, ⟨hperm₁, hperm₂, hperm₃, hperm₄⟩,
    fun part => ?_⟩
  exact {
    properties := hproperties.imp fun entry p hp => (hjoin entry.1).readProperty_eq entry.2 ▸ hp
    services := hservices.imp fun entry s hs => (hjoin entry.1).readService_eq entry.2 ▸ hs
    events := hevents.imp fun entry e he => (hjoin entry.1).readEvent_eq entry.2 ▸ he
    subscriptions := hsubscriptions }

end Document

/-! ## Entities in another order -/

/-- The same part; if it is that of a data shape, with its fields in some order. -/
def EntityPart.Reordered (part part' : EntityPart) : Prop :=
  part = part' ∨ ∃ fields fields', part = .dataShape fields ∧ part' = .dataShape fields'
    ∧ fields.Perm fields'

/-- The same entity, with the members of each group in some order. -/
def Entity.Reordered (entity entity' : Entity) : Prop :=
  ∃ members part, entity' = entity.withMembers members part ∧ entity.members.Reordered members
    ∧ entity.part.Reordered part

namespace Entity.Reordered

variable {entity entity' : Entity}

lemma locallyDefinedNames_perm (h : entity.Reordered entity') :
    entity.locallyDefinedNames.Perm entity'.locallyDefinedNames := by
  obtain ⟨members, part, rfl, hmembers, -⟩ := h
  exact (hmembers.properties.map _).append (hmembers.services.map _)

lemma fieldDefinitions_perm (h : entity.Reordered entity') :
    entity.fieldDefinitions.Perm entity'.fieldDefinitions := by
  obtain ⟨members, part, rfl, -, hsame | ⟨fields, fields', hfields, hfields', hperm⟩⟩ := h
  · unfold fieldDefinitions
    rw [hsame]
    exact .refl _
  · unfold fieldDefinitions
    rw [hfields, hfields']
    exact hperm

end Entity.Reordered

namespace Document

variable {raw raw' : Fields} {kind : EntityKind} {described : Entity}

lemma entity_reordered (hkeyed : (Value.object raw).IsKeyed) (hkeyed' : (Value.object raw').IsKeyed)
    (hraw : Reordered raw raw') (h : entity (.object raw) kind = .ok described) :
    ∃ described', entity (.object raw') kind = .ok described' ∧ described.Reordered described' := by
  have hparts := Fields.isKeyed_of_object hkeyed
  have hparts' := Fields.isKeyed_of_object hkeyed'
  have hassembled := entity_eq_ok_iff.mp h
  obtain ⟨hnames, hpermissions, hshape⟩ := Entity.checked_eq_ok_iff.mp hassembled.checked
  have hedited :
      ∀ key ∈ "thingShape" :: mapKeys, key ∈ "fieldDefinitions" :: memberKeys := by decide
  have hrest : ∀ key, key ∉ "fieldDefinitions" :: memberKeys → raw.getD key = raw'.getD key :=
    fun key hkey => hraw.rest key fun hmem => hkey (hedited key hmem)
  by_cases hkind : kind = .dataShape
  · -- a data shape has fields, and no members that are defined elsewhere
    subst hkind
    obtain ⟨hnone, hmaps⟩ := entityMembers_dataShape.mp hassembled.members
    obtain ⟨fields, hfields, hpart⟩ := Outcome.map_eq_ok.mp hassembled.part
    obtain ⟨hmap, hread⟩ := fieldDefinitions_eq_ok.mp hfields
    have hreordered := hraw.maps "fieldDefinitions" (by decide)
    obtain ⟨fields', hread', hperm⟩ := exists_forall₂_of_perm hreordered.fields_perm hread
    have hpart' : entityPart raw' .dataShape = .ok (.dataShape fields') :=
      Outcome.map_eq_ok.mpr
        ⟨fields', fieldDefinitions_eq_ok.mpr ⟨hreordered.isMap hmap, hread'⟩, rfl⟩
    have hmembers' : entityMembers raw' .dataShape = .ok (described.members, []) :=
      entityMembers_dataShape.mpr ⟨hnone, fun key hkey =>
        (hraw.maps key (by revert key; decide)).isMap (hmaps key hkey)⟩
    refine ⟨described.withMembers described.members (.dataShape fields'),
      entity_eq_ok_iff.mpr (hassembled.withMembers hrest hmembers' hpart'
        (Entity.checked_eq_ok_iff.mpr ⟨hnames, hpermissions, fun _ => hshape ?_⟩)),
      _, _, rfl, ⟨.refl _, .refl _, .refl _, .refl _⟩,
      .inr ⟨fields, fields', hpart.symm, rfl, hperm⟩⟩
    exact ((entityPart_sound hparts _).post hassembled.part described rfl).kind_eq
  · -- other entities have members, which are read one by one
    have hmaps := hasMaps_of_entityMembers hkind hassembled.members
    obtain ⟨members, hmembers, hdescribes⟩ :=
      (describesMembers_of_entity hkeyed hkind h).reordered hraw hparts hparts'
    have hreordered : described.Reordered (described.withMembers members described.part) :=
      ⟨members, _, rfl, hmembers, .inl rfl⟩
    exact ⟨_, hassembled.entity_withMembers hparts' hkind (hraw.hasMaps hmaps) hrest (hdescribes _)
      (hreordered.locallyDefinedNames_perm.nodup hnames), hreordered⟩

end Document

/-! ## Classes in another order -/

/-- The members of a class in groups: the fields, the properties, the services, the events and the
subscriptions. -/
def DeclaredParts.groups (parts : DeclaredParts) : List (List Member) :=
  [parts.fields.map .property, parts.properties.map .property, parts.services.map .method,
    parts.events.map .property, parts.subscriptions.map .method]

/-- The names of the fields, the properties, the services, the events and the subscriptions. -/
def Entity.groupNames (entity : Entity) : List (List String) :=
  [entity.fieldDefinitions.map (·.name), entity.propertyDefinitions.map (·.name),
    entity.serviceDefinitions.map (·.name), entity.eventDefinitions.map (·.name),
    entity.subscriptionDefinitions.map (·.name)]

/-- Two classes that differ in the order of their members only, and each group of members has the
given names in this order. -/
structure ClassDeclaration.Reordered (names names' : List (List String)) (d d' : ClassDeclaration) :
    Prop where
  name : d'.name = d.name
  base : d'.base = d.base
  comment : d'.comment = d.comment
  decorators : d'.decorators = d.decorators
  members : ∃ groups groups' : List (List Member), d.members = groups.flatten
    ∧ d'.members = groups'.flatten
    ∧ List.Forall₂ List.Perm groups groups' ∧ groups.map (·.map (·.name)) = names
    ∧ groups'.map (·.map (·.name)) = names'

/-- The decorators of a class for permissions do not depend on the order of the excluded resources.
-/
lemma PermissionIndex.classDecorators_perm_excluded {excluded excluded' : List String}
    (hperm : excluded.Perm excluded') (index : PermissionIndex) (forInstances : Bool) :
    index.classDecorators excluded forInstances = index.classDecorators excluded' forInstances := by
  refine List.flatMap_congr fun entry _ => ?_
  have hcontains : excluded.contains entry.1 = excluded'.contains entry.1 := by
    rw [Bool.eq_iff_iff, List.contains_iff_mem, List.contains_iff_mem, hperm.mem_iff]
  simp only [hcontains]

namespace Entity

variable {entity entity' : Entity} {separator : Separator} {parts : DeclaredParts}
    {d : ClassDeclaration}

lemma DeclaredFrom.members_eq_groups (h : entity.DeclaredFrom separator parts d) :
    d.members = parts.groups.flatten := by
  rw [h.members]
  simp only [DeclaredParts.groups, List.flatten_cons, List.flatten_nil, List.append_nil,
    List.append_assoc]

lemma DeclaredFrom.names_groups (h : entity.DeclaredFrom separator parts d) :
    parts.groups.map (·.map (·.name)) = entity.groupNames := by
  simp only [DeclaredParts.groups, Entity.groupNames, List.map_cons (f := fun g : List Member =>
    g.map (·.name)), List.map_nil, h.names_fields, h.names_properties, h.names_services,
      h.names_events,
    h.names_subscriptions]

/-- Only the kind of an entity and what is said of it as a whole bear on its base class and on the
decorators. -/
lemma Reordered.kept (h : entity.Reordered entity') : entity'.base separator = entity.base separator
    ∧ entity'.memberPermissions = entity.memberPermissions
    ∧ entity'.hasInstances = entity.hasInstances
    ∧ entity'.decoratorsAround = entity.decoratorsAround := by
  obtain ⟨members, part, rfl, -, rfl | ⟨fields, fields', hfields, rfl, -⟩⟩ := h
  · exact ⟨rfl, rfl, rfl, rfl⟩
  · unfold base memberPermissions hasInstances kind decoratorsAround valueStreamDecorators
      definitionDecorators
    rw [hfields]
    exact ⟨rfl, rfl, rfl, rfl⟩

/-- An entity whose members stand in another order is declared as a class that differs in this only.
-/
lemma Reordered.declaration (h : entity.Reordered entity')
    (hdeclared : entity.DeclaredFrom separator parts d) :
    ∃ d', entity'.declaration separator = .ok d'
      ∧ ClassDeclaration.Reordered entity.groupNames entity'.groupNames d d' := by
  obtain ⟨hbase, hpermissions, hinstances, haround⟩ := @Reordered.kept _ _ separator h
  have hown := h.locallyDefinedNames_perm
  obtain ⟨fields, hfields, hperm⟩ := exists_forall₂_of_perm h.fieldDefinitions_perm hdeclared.fields
  obtain ⟨members, part, rfl, hmembers, -⟩ := h
  obtain ⟨properties, hproperties, hperm₁⟩ :=
    exists_forall₂_of_perm hmembers.properties hdeclared.properties
  obtain ⟨services, hservices, hperm₂⟩ :=
    exists_forall₂_of_perm hmembers.services hdeclared.services
  obtain ⟨events, hevents, hperm₃⟩ := exists_forall₂_of_perm hmembers.events hdeclared.events
  obtain ⟨subscriptions, hsubscriptions, hperm₄⟩ :=
    exists_forall₂_of_perm hmembers.subscriptions hdeclared.subscriptions
  -- the tables and the configuration are not among what is reordered
  let parts' : DeclaredParts :=
    ⟨fields, parts.tables, parts.configuration, properties, services, events, subscriptions⟩
  have hdeclared' : (entity.withMembers members part).DeclaredFrom separator parts'
      { d with members := parts'.groups.flatten } := {
    name := hdeclared.name
    base := hbase.trans hdeclared.base
    fields := hfields
    tables := hdeclared.tables
    configuration := hdeclared.configuration
    properties := hpermissions ▸ hproperties
    services := hpermissions ▸ hservices
    events := hevents
    subscriptions := hsubscriptions
    decorators := by
      rw [decorators_eq_around, haround, hpermissions, hinstances,
        ← PermissionIndex.classDecorators_perm_excluded hown, ← decorators_eq_around]
      exact hdeclared.decorators
    members := by
      simp only [DeclaredParts.groups, List.flatten_cons, List.flatten_nil, List.append_nil,
        List.append_assoc]
    comment := hdeclared.comment
    named := hdeclared.named }
  refine ⟨_, hdeclared'.declaration, rfl, rfl, rfl, rfl, parts.groups, parts'.groups,
    hdeclared.members_eq_groups, rfl, ?_, hdeclared.names_groups, hdeclared'.names_groups⟩
  exact .cons (hperm.map _) (.cons (hperm₁.map _) (.cons (hperm₂.map _) (.cons (hperm₃.map _)
    (.cons (hperm₄.map _) .nil))))

end Entity

/-! ## Compiling documents in another order -/

namespace Document

/-- The names of the fields, the properties, the services, the events and the subscriptions that a
document defines. -/
def groupNames (raw : Fields) (kind : EntityKind) : List (List String) :=
  match kind with
  | .dataShape => [(entriesUnder raw "fieldDefinitions").map (·.1), [], [], [], []]
  | _ =>
    [] :: ["propertyDefinitions", "serviceDefinitions", "eventDefinitions", "subscriptions"].map
    fun key => (definitionsUnder raw kind key).map (·.1)

lemma groupNames_of_entity {raw : Fields} {kind : EntityKind} {described : Entity}
    (hkeyed : (Value.object raw).IsKeyed) (h : entity (.object raw) kind = .ok described) :
    described.groupNames = groupNames raw kind := by
  have hassembled := entity_eq_ok_iff.mp h
  by_cases hkind : kind = .dataShape
  · subst hkind
    obtain ⟨hnone, -⟩ := entityMembers_dataShape.mp hassembled.members
    obtain ⟨hproperties, hservices, hevents, hsubscriptions⟩ := Members.mk.inj hnone
    obtain ⟨fields, hfields, hpart⟩ := Outcome.map_eq_ok.mp hassembled.part
    have hread := (fieldDefinitions_eq_ok.mp hfields).2
    have hdescribed : described.fieldDefinitions = fields := by
      unfold Entity.fieldDefinitions
      rw [← hpart]
    unfold Entity.groupNames
    rw [hproperties, hservices, hevents, hsubscriptions, hdescribed,
      Outcome.map_eq_of_forall₂ hread fun _ _ => name_of_field]
    rfl
  · have hmembers := describesMembers_of_entity hkeyed hkind h
    have hsame := ((Document.entity_sound hkeyed kind).post h).2
    unfold Entity.groupNames
    rw [Entity.fieldDefinitions_eq_nil (hsame.symm ▸ hkind),
      Outcome.map_eq_of_forall₂ hmembers.properties fun _ _ => name_of_readProperty,
      Outcome.map_eq_of_forall₂ hmembers.services fun _ _ => name_of_readService,
      Outcome.map_eq_of_forall₂ hmembers.events fun _ _ => name_of_readEvent,
      Outcome.map_eq_of_forall₂ hmembers.subscriptions fun _ _ => name_of_readSubscription]
    cases kind with
    | dataShape => contradiction
    | _ => rfl

end Document

namespace Compilation

open Document

variable {raw raw' : Fields} {kind : EntityKind} {separator : Separator}

lemma compile_of_reordered (hkeyed : (Value.object raw).IsKeyed)
    (hkeyed' : (Value.object raw').IsKeyed)
    (hraw : Reordered raw raw') {d : ClassDeclaration}
    (h : compile (.object raw) kind separator = .ok d) :
    ∃ d', compile (.object raw') kind separator = .ok d'
      ∧ ClassDeclaration.Reordered (groupNames raw kind) (groupNames raw' kind) d d' := by
  obtain ⟨described, hdescribed, hdeclared⟩ := Outcome.bind_eq_ok.mp h
  obtain ⟨described', hdescribed', hreordered⟩ := entity_reordered hkeyed hkeyed' hraw hdescribed
  obtain ⟨parts, hparts⟩ := Entity.declaration_eq_ok hdeclared
  obtain ⟨d', hdeclared', hd'⟩ := hreordered.declaration hparts
  rw [groupNames_of_entity hkeyed hdescribed, groupNames_of_entity hkeyed' hdescribed'] at hd'
  exact ⟨d', Outcome.bind_eq_ok.mpr ⟨described', hdescribed', hdeclared'⟩, hd'⟩

/-- The order of definitions is that of the members, and of nothing else. Documents that differ only
in the order of the entries in their maps of definitions, implementations and bindings compile both
or neither, whatever their kind and the separator. If they do, the two classes have the same name,
base, comment and decorators, and the members of each group are the same declarations, each group in
the order of its definitions. -/
theorem compile_reordered (hkeyed : (Value.object raw).IsKeyed)
    (hkeyed' : (Value.object raw').IsKeyed)
    (hraw : Reordered raw raw') (kind : EntityKind) (separator : Separator) :
    ((∃ d, compile (.object raw) kind separator = .ok d)
      ↔ ∃ d', compile (.object raw') kind separator = .ok d')
    ∧ ∀ d d', compile (.object raw) kind separator = .ok d →
    compile (.object raw') kind separator = .ok d' →
      ClassDeclaration.Reordered (groupNames raw kind) (groupNames raw' kind) d d' := by
  refine ⟨⟨?_, ?_⟩, ?_⟩
  · rintro ⟨d, hd⟩
    obtain ⟨d', hd', -⟩ := compile_of_reordered hkeyed hkeyed' hraw hd
    exact ⟨d', hd'⟩
  · rintro ⟨d', hd'⟩
    obtain ⟨d, hd, -⟩ := compile_of_reordered hkeyed' hkeyed hraw.symm hd'
    exact ⟨d, hd⟩
  · intro d d' hd hd'
    obtain ⟨found, hfound, hreordered⟩ := compile_of_reordered hkeyed hkeyed' hraw hd
    obtain rfl := Except.ok.inj (hfound.symm.trans hd')
    exact hreordered

/-- The document of a gauge with two properties in the given order, both of which are bound. -/
def gaugeParts (first second : String) : Fields :=
  [("name", .text "Gauge"), ("thingTemplate", .text "GenericThing"),
    ("remotePropertyBindings", .object [(first, .object [("sourceName", .text "F")]),
      (second, .object [("sourceName", .text "F")])]),
    ("thingShape", .object [("propertyDefinitions", .object [
      (first, .object [("baseType", .text "NUMBER")]),
      (second, .object [("baseType", .text "NUMBER")])])])]

lemma isKeyed_gaugeParts {first second : String} (h : first ≠ second) :
    (Value.object (gaugeParts first second)).IsKeyed := by
  simp [gaugeParts, h]

lemma reordered_gaugeParts (first second : String) :
    Document.Reordered (gaugeParts first second) (gaugeParts second first) where
  maps := by
    simp only [mapKeys, bindingKeys, List.cons_append, List.nil_append, List.forall_mem_cons]
    exact ⟨.inl rfl, .inl rfl, .inl rfl, .inl rfl, .inl rfl, .inl rfl,
      .inr ⟨_, _, rfl, rfl, .swap _ _ _⟩, .inl rfl, .inl rfl, .inl rfl, by simp⟩
  shape := by
    refine .inr ⟨_, _, rfl, rfl, ?_, fun key hkey => ?_⟩
    · simp only [mapKeys, bindingKeys, List.cons_append, List.nil_append, List.forall_mem_cons]
      exact ⟨.inr ⟨_, _, rfl, rfl, .swap _ _ _⟩, .inl rfl, .inl rfl, .inl rfl, .inl rfl,
        .inl rfl, .inl rfl,
        .inl rfl, .inl rfl, .inl rfl, by simp⟩
    · have hne : "propertyDefinitions" ≠ key := fun h => hkey (h ▸ by decide)
      simp [Fields.getD, Fields.get?, hne]
  rest := by
    intro key hkey
    have hbindings : "remotePropertyBindings" ≠ key := fun h => hkey (h ▸ by decide)
    have hshape : "thingShape" ≠ key := fun h => hkey (h ▸ by decide)
    simp [gaugeParts, Fields.getD, Fields.get?, List.find?_cons, hbindings, hshape]

/-- With its two properties exchanged, the gauge is the same class with two members exchanged. -/
theorem gaugeParts_reordered :
    (Value.object (gaugeParts "level" "flow")).IsKeyed
      ∧ (Value.object (gaugeParts "flow" "level")).IsKeyed
    ∧ Document.Reordered (gaugeParts "level" "flow") (gaugeParts "flow" "level")
    ∧ ∃ d d', compile (.object (gaugeParts "level" "flow")) .thing .default = .ok d
      ∧ compile (.object (gaugeParts "flow" "level")) .thing .default = .ok d'
      ∧ d'.decorators = d.decorators ∧ d.memberNames = ["level", "flow"]
      ∧ d'.memberNames = ["flow", "level"] := by
  have hkeyed := isKeyed_gaugeParts (show "level" ≠ "flow" by decide)
  have hkeyed' := isKeyed_gaugeParts (show "flow" ≠ "level" by decide)
  have hraw := reordered_gaugeParts "level" "flow"
  obtain ⟨-, hsame⟩ := compile_reordered hkeyed hkeyed' hraw .thing .default
  exact ⟨hkeyed, hkeyed', hraw, _, _, rfl, rfl, (hsame _ _ rfl rfl).decorators, rfl, rfl⟩

end Compilation

end EntityCompiler
