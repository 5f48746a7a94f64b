import EntityCompiler.Compilation
import EntityCompiler.Proofs.Assembly
import EntityCompiler.Proofs.MemberNames
import EntityCompiler.Proofs.PermissionReading

/-!
# Documents without one of their members

Members are read and declared on their own, so a document stays what it is without one of its
properties or services, whatever else still mentions it: bindings and implementations of a name that
is not defined are never looked up. Only a permission on the member finds its place elsewhere. It
stood at the member, and now stands at the class, between those that come before and after it in the
index.

Main statement: `Compilation.compile_withoutDefinition`.
-/

namespace EntityCompiler

/-! ## Objects without an entry -/

namespace Fields

/-- The entries of an object but those of a name. -/
def without (entries : Fields) (name : String) : Fields :=
  entries.filter (·.1 != name)

variable {raw : Fields} {keys : List String} {f : Fields → Fields}

lemma IsKeyed.without {entries : Fields} (h : entries.IsKeyed) (name : String) :
    (entries.without name).IsKeyed where
  keys_nodup := (List.filter_sublist.map _).nodup h.keys_nodup
  values := fun entry hentry => h.values entry (List.mem_filter.mp hentry).1

lemma IsKeyed.inObjects (h : raw.IsKeyed)
    (hf : ∀ entries : Fields, entries.IsKeyed → (f entries).IsKeyed) :
    (raw.inObjects keys f).IsKeyed where
  keys_nodup := by
    unfold Fields.inObjects
    rw [List.map_map]
    exact h.keys_nodup
  values := by
    intro entry hentry
    obtain ⟨⟨key, part⟩, hpart, rfl⟩ := List.mem_map.mp hentry
    have hvalue := h.values _ hpart
    dsimp only at hvalue ⊢
    split
    · cases part with
      | object entries =>
        obtain ⟨hkeys, hvalues⟩ := hf entries (isKeyed_of_object hvalue)
        exact .object hkeys hvalues
      | _ => exact hvalue
    · exact hvalue

end Fields

lemma Value.isMap_mapFields {f : Fields → Fields} {v : Value} (h : v.IsMap) :
    (v.mapFields f).IsMap := by
  cases v <;> trivial

namespace Document

open Fields

variable {raw : Fields} {kind : EntityKind} {name : String}

/-- The keys of the maps that define the members which permissions are attached to. -/
def ownKeys : List String := ["propertyDefinitions", "serviceDefinitions"]

/-- The names of the properties and then the services that are defined in a document. -/
def ownNames (raw : Fields) (kind : EntityKind) : List String :=
  ownKeys.flatMap fun key => (definitionsUnder raw kind key).map (·.1)

/-- A document without the definition of a property or a service. All that is said about it
elsewhere is left in its place. -/
def withoutDefinition (raw : Fields) (kind : EntityKind) (name : String) : Fields :=
  match membersKey? kind with
  | none => raw.inObjects ownKeys (·.without name)
  | some key => raw.inObjects [key] (·.inObjects ownKeys (·.without name))

lemma entriesUnder_inObjects {keys : List String} {f : Fields → Fields} {key : String}
    (h : key ∈ keys)
    (hf : f [] = []) : entriesUnder (raw.inObjects keys f) key = f (entriesUnder raw key) := by
  unfold entriesUnder
  rw [getD_inObjects_of_mem h]
  cases raw.getD key with
  | object entries => rfl
  | _ => exact hf.symm

lemma memberPart_withoutDefinition (raw : Fields) (kind : EntityKind) (name : String) :
    memberPart (withoutDefinition raw kind name) kind
      = (memberPart raw kind).inObjects ownKeys (·.without name) := by
  unfold memberPart withoutDefinition
  obtain hkey | hkey := membersKey?_cases kind
  · rw [hkey]
    exact entriesUnder_inObjects List.mem_cons_self rfl
  · rw [hkey]

lemma definitionsUnder_withoutDefinition {key : String} (h : key ∈ ownKeys) :
    definitionsUnder (withoutDefinition raw kind name) kind key
      = (definitionsUnder raw kind key).without name := by
  unfold definitionsUnder
  rw [memberPart_withoutDefinition]
  exact entriesUnder_inObjects h rfl

lemma getD_memberPart_withoutDefinition {key : String} (h : key ∉ ownKeys) :
    (memberPart (withoutDefinition raw kind name) kind).getD key
      = (memberPart raw kind).getD key := by
  rw [memberPart_withoutDefinition]
  exact getD_inObjects_of_not_mem h

lemma getD_withoutDefinition {key : String} (h : key ∉ "thingShape" :: ownKeys) :
    (withoutDefinition raw kind name).getD key = raw.getD key := by
  rw [List.mem_cons, not_or] at h
  obtain ⟨hshape, hown⟩ := h
  unfold withoutDefinition
  obtain hkey | hkey := membersKey?_cases kind
  · rw [hkey]
    exact getD_inObjects_of_not_mem (by simpa using hshape)
  · rw [hkey]
    exact getD_inObjects_of_not_mem hown

lemma isKeyed_withoutDefinition (h : raw.IsKeyed) (kind : EntityKind) (name : String) :
    (withoutDefinition raw kind name).IsKeyed := by
  unfold withoutDefinition
  split
  · exact h.inObjects fun _ hentries => hentries.without name
  · exact h.inObjects fun _ hshape => hshape.inObjects fun _ hentries => hentries.without name

lemma hasMaps_withoutDefinition (h : HasMaps raw kind) (name : String) :
    HasMaps (withoutDefinition raw kind name) kind where
  shape := by
    intro key hkey
    have hshape := h.shape key hkey
    unfold withoutDefinition
    rw [hkey]
    dsimp only
    rw [getD_inObjects_of_mem List.mem_cons_self]
    exact Value.isMap_mapFields hshape
  bindings := by
    intro key hkey
    rw [getD_withoutDefinition]
    · exact h.bindings key hkey
    · revert key
      decide
  definitions := by
    intro key hkey
    have hmap := h.definitions key hkey
    by_cases hown : key ∈ ownKeys
    · rw [memberPart_withoutDefinition, getD_inObjects_of_mem hown]
      exact Value.isMap_mapFields hmap
    · rwa [getD_memberPart_withoutDefinition hown]

/-- A definition that stays is joined with what it was joined with before. -/
lemma joinAlike_withoutDefinition (raw : Fields) (kind : EntityKind) (name other : String) :
    JoinAlike other kind raw (withoutDefinition raw kind name) where
  implementation := by
    unfold definitionsUnder entriesUnder
    rw [getD_memberPart_withoutDefinition (by decide)]
  bindings := by
    intro key hkey
    unfold entriesUnder
    rw [getD_withoutDefinition]
    revert key
    decide

end Document

/-! ## Entities without a member -/

/-- What belongs to the items of a list, one by one, and has their names, does so where a name is
left out. -/
lemma forall₂_filter_name {α β : Type} {R : α → β → Prop} {nameOf : α → String}
    {nameOf' : β → String}
    {xs : List α} {ys : List β} (h : List.Forall₂ R xs ys)
    (hname : ∀ x y, R x y → nameOf' y = nameOf x)
    (name : String) :
    List.Forall₂ R (xs.filter (nameOf · != name)) (ys.filter (nameOf' · != name)) :=
  List.rel_filter (fun x y hxy => by simp only [hname x y hxy]) h

/-- The parts of a class without those for the property or the service of a name. -/
def DeclaredParts.without (parts : DeclaredParts) (name : String) : DeclaredParts :=
  { parts with
    properties := parts.properties.filter (·.name != name)
    services := parts.services.filter (·.name != name) }

namespace Entity

variable {entity : Entity} {name : String}

/-- An entity without its property or service of a name. -/
def without (entity : Entity) (name : String) : Entity :=
  { entity with
    propertyDefinitions := entity.propertyDefinitions.filter (·.name != name)
    serviceDefinitions := entity.serviceDefinitions.filter (·.name != name) }

lemma locallyDefinedNames_without (entity : Entity) (name : String) :
    (entity.without name).locallyDefinedNames = entity.locallyDefinedNames.filter (· != name) := by
  simp only [locallyDefinedNames, without, List.filter_append, List.filter_map, Function.comp_def]

/-- Where an entity has a permission for its members on one of its own names, the class has
decorators for it only once the name is no longer its own. -/
lemma classDecorators_without {index : PermissionIndex}
    (hresources : (PermissionIndex.resources index).Nodup)
    {own : List String} (hown : name ∈ own) (forInstances : Bool) :
    match PermissionIndex.get? index name with
    | none => PermissionIndex.classDecorators index (own.filter (· != name)) forInstances
      = PermissionIndex.classDecorators index own forInstances
    | some permission => ∃ earlier later, index = earlier ++ (name, permission) :: later
      ∧ PermissionIndex.classDecorators index own forInstances
        = PermissionIndex.classDecorators earlier own forInstances
          ++ PermissionIndex.classDecorators later own forInstances
      ∧ PermissionIndex.classDecorators index (own.filter (· != name)) forInstances
        = PermissionIndex.classDecorators earlier own forInstances
          ++ permission.decorators name true forInstances
          ++ PermissionIndex.classDecorators later own forInstances := by
  -- every other resource is excluded exactly if it was
  have hcontains : ∀ resource, resource ≠ name →
      (own.filter (· != name)).contains resource = own.contains resource := by
    intro resource hne
    rw [Bool.eq_iff_iff]
    simp [hne]
  have hothers : ∀ part : PermissionIndex, name ∉ PermissionIndex.resources part →
      PermissionIndex.classDecorators part (own.filter (· != name)) forInstances
        = PermissionIndex.classDecorators part own forInstances := by
    intro part hpart
    refine List.flatMap_congr fun entry hentry => ?_
    have hne : entry.1 ≠ name := fun h => hpart (h ▸ List.mem_map_of_mem hentry)
    simp only [hcontains entry.1 hne]
  unfold PermissionIndex.get?
  cases hfound : index.find? (·.1 == name) with
  | none =>
    refine hothers index fun hmem => ?_
    obtain ⟨entry, hentry, hname⟩ := List.mem_map.mp hmem
    exact List.find?_eq_none.mp hfound entry hentry (by simp [hname])
  | some entry =>
    obtain ⟨hname, earlier, later, rfl, hearlier⟩ := List.find?_eq_some_iff_append.mp hfound
    obtain ⟨resource, permission⟩ := entry
    obtain rfl : resource = name := eq_of_beq hname
    -- a resource has one place in the index, so what stands around it does not change
    have hlater : resource ∉ PermissionIndex.resources later := by
      unfold PermissionIndex.resources at hresources ⊢
      rw [List.map_append, List.map_cons] at hresources
      exact (List.nodup_cons.mp (List.nodup_append.mp hresources).2.1).1
    have hbefore : resource ∉ PermissionIndex.resources earlier := by
      intro hmem
      obtain ⟨entry, hentry, hsame⟩ := List.mem_map.mp hmem
      simpa [hsame] using hearlier entry hentry
    refine ⟨earlier, later, rfl, ?_, ?_⟩
    · simp [PermissionIndex.classDecorators, hown]
    · rw [← hothers earlier hbefore, ← hothers later hlater]
      simp [PermissionIndex.classDecorators]

/-- One of several things of different names stands somewhere, and without its name the others are
left. -/
lemma exists_append_of_name {α : Type} {nameOf : α → String} {xs : List α}
    (hnames : (xs.map nameOf).Nodup)
    (hname : name ∈ xs.map nameOf) :
    ∃ before x after, xs = before ++ x :: after ∧ before.length = (xs.map nameOf).idxOf name
      ∧ nameOf x = name ∧ xs.filter (nameOf · != name) = before ++ after := by
  induction xs with
  | nil => contradiction
  | cons x xs ih =>
    rw [List.map_cons] at hnames hname
    obtain ⟨hx, hrest⟩ := List.nodup_cons.mp hnames
    by_cases hsame : nameOf x = name
    · refine ⟨[], x, xs, rfl, ?_, hsame, ?_⟩
      · rw [List.map_cons, hsame, List.idxOf_cons_self]
        rfl
      · rw [List.filter_cons_of_neg (by simp [hsame])]
        refine List.filter_eq_self.mpr fun y hy => bne_iff_ne.mpr fun hother => hx ?_
        exact hsame ▸ hother ▸ List.mem_map_of_mem hy
    · have hmem := (List.mem_cons.mp hname).resolve_left fun h => hsame h.symm
      obtain ⟨before, y, after, rfl, hlength, hy, hkept⟩ := ih hrest hmem
      refine ⟨x :: before, y, after, rfl, ?_, hy, ?_⟩
      · rw [List.length_cons, hlength, List.map_cons, List.idxOf_cons_ne _ hsame]
      · rw [List.filter_cons_of_pos (by simpa using hsame), hkept]
        rfl

namespace DeclaredFrom

variable {separator : Separator} {parts : DeclaredParts} {d : ClassDeclaration}

/-- The properties and the services that are left are declared as before, with their own
permissions. -/
lemma without (h : entity.DeclaredFrom separator parts d) (name : String) :
    (entity.without name).DeclaredFrom separator (parts.without name) { d with
      members := parts.fields.map Member.property
        ++ (parts.properties.filter (·.name != name)).map Member.property
        ++ (parts.services.filter (·.name != name)).map Member.method
        ++ parts.events.map Member.property ++ parts.subscriptions.map Member.method
      decorators := entity.decoratorsAround parts.tables parts.configuration
        (PermissionIndex.classDecorators entity.memberPermissions
          (entity.locallyDefinedNames.filter (· != name)) entity.hasInstances) } where
  name := h.name
  base := h.base
  fields := h.fields
  tables := h.tables
  configuration := h.configuration
  properties :=
    forall₂_filter_name h.properties (fun _ _ => PropertyDefinition.name_declaration) name
  services := forall₂_filter_name h.services (fun _ _ => ServiceDefinition.name_declaration) name
  events := h.events
  subscriptions := h.subscriptions
  decorators := by
    rw [← locallyDefinedNames_without]
    exact ((entity.without name).decorators_eq_around parts.tables parts.configuration).symm
  members := rfl
  comment := h.comment
  named := h.named

/-- The member of a name stands among the others where its definition does. -/
lemma members_without (h : entity.DeclaredFrom separator parts d)
    (hfields : entity.fieldDefinitions = [])
    (hown : entity.locallyDefinedNames.Nodup) (hname : name ∈ entity.locallyDefinedNames) :
    ∃ before member after, d.members = before ++ member :: after
      ∧ before.length = entity.locallyDefinedNames.idxOf name ∧ member.name = name
      ∧ parts.fields.map Member.property
        ++ (parts.properties.filter (·.name != name)).map Member.property
        ++ (parts.services.filter (·.name != name)).map Member.method
        ++ parts.events.map Member.property ++ parts.subscriptions.map Member.method
        = before ++ after := by
  have hnames :
      (parts.properties.map Member.property ++ parts.services.map Member.method).map (·.name)
      = entity.locallyDefinedNames := by
    rw [List.map_append, h.names_properties, h.names_services]
    rfl
  have hnofields : parts.fields = [] := by
    have hparts := h.fields
    rw [hfields] at hparts
    exact List.forall₂_nil_left_iff.mp hparts
  -- properties and services share one name space, and stand in front of all other members
  obtain ⟨before, member, after, hsplit, hlength, hmember, hkept⟩ :=
    exists_append_of_name (hnames.symm ▸ hown) (hnames.symm ▸ hname)
  rw [hnames] at hlength
  rw [List.filter_append, List.filter_map, List.filter_map] at hkept
  refine ⟨before, member, after ++ (parts.events.map Member.property
    ++ parts.subscriptions.map Member.method), ?_, hlength, hmember, ?_⟩
  · rw [h.members, hnofields, List.map_nil, List.nil_append, hsplit]
    simp only [List.append_assoc, List.cons_append]
  · rw [hnofields, List.map_nil, List.nil_append, ← List.append_assoc before, ← hkept,
      List.append_assoc]
    rfl

end DeclaredFrom

end Entity

/-! ## Compiling without a member -/

namespace Document

variable {raw : Fields} {kind : EntityKind} {described : Entity}

lemma DescribesMembers.locallyDefinedNames (h : DescribesMembers raw kind described) :
    described.locallyDefinedNames = ownNames raw kind := by
  unfold ownNames ownKeys
  rw [Entity.locallyDefinedNames, Outcome.map_eq_of_forall₂ h.properties fun _ _ =>
    name_of_readProperty,
    Outcome.map_eq_of_forall₂ h.services fun _ _ => name_of_readService]
  simp only [List.flatMap_cons, List.flatMap_nil, List.append_nil]

/-- The members that are left are read as before, with the bindings and the implementations under
their names. -/
lemma DescribesMembers.without (h : DescribesMembers raw kind described) (name : String) :
    DescribesMembers (withoutDefinition raw kind name) kind (described.without name) := by
  have hjoin := joinAlike_withoutDefinition raw kind name
  constructor
  · rw [definitionsUnder_withoutDefinition (by decide)]
    refine (forall₂_filter_name h.properties (fun _ _ => name_of_readProperty) name).imp
      fun entry p hp => ?_
    rw [← hp, (hjoin entry.1).readProperty_eq]
  · rw [definitionsUnder_withoutDefinition (by decide)]
    refine (forall₂_filter_name h.services (fun _ _ => name_of_readService) name).imp
      fun entry s hs => ?_
    rw [← hs, (hjoin entry.1).readService_eq]
  · unfold definitionsUnder entriesUnder
    rw [getD_memberPart_withoutDefinition (by decide)]
    refine h.events.imp fun entry e he => ?_
    rw [← he, (hjoin entry.1).readEvent_eq]
  · unfold definitionsUnder entriesUnder
    rw [getD_memberPart_withoutDefinition (by decide)]
    exact h.subscriptions

lemma entity_withoutDefinition (hkeyed : (Value.object raw).IsKeyed) (hkind : kind ≠ .dataShape)
    (h : entity (.object raw) kind = .ok described) (name : String) :
    entity (.object (withoutDefinition raw kind name)) kind = .ok (described.without name) := by
  have hparts := Fields.isKeyed_of_object hkeyed
  have hassembled := entity_eq_ok_iff.mp h
  have hnames := (Entity.checked_eq_ok_iff.mp hassembled.checked).1
  have hmaps := hasMaps_of_entityMembers hkind hassembled.members
  have hmembers := (describesMembers_of_entity hkeyed hkind h).without name
  have hedited :
      ∀ key ∈ "thingShape" :: ownKeys, key ∈ "fieldDefinitions" :: memberKeys := by decide
  change entity _ kind = .ok (described.withMembers (described.without name).members described.part)
  refine hassembled.entity_withMembers (isKeyed_withoutDefinition hparts kind name) hkind
    (hasMaps_withoutDefinition hmaps name) ?_ hmembers ?_
  · exact fun key hkey => (getD_withoutDefinition fun hmem => hkey (hedited key hmem)).symm
  · change (described.without name).locallyDefinedNames.Nodup
    rw [Entity.locallyDefinedNames_without]
    exact hnames.filter _

end Document

namespace Compilation

open Document

variable {raw : Fields} {kind : EntityKind} {separator : Separator} {d : ClassDeclaration}
    {name : String}

/-- Members depend on each other in the place of their permissions only. A document that compiles
does so without the definition of one of its properties or services, too, with all that is said of
it elsewhere left in its place. The class has the same name, base and comment, and all its members
but that one, each as it was and in its place. If the index of permissions for members has one on
that member, the class has decorators for it, of instances if there can be any, between those for
the permissions before and after it in the index; else it has the same decorators. -/
theorem compile_withoutDefinition (hkeyed : (Value.object raw).IsKeyed) (hkind : kind ≠ .dataShape)
    (h : compile (.object raw) kind separator = .ok d) (hname : name ∈ ownNames raw kind) :
    ∃ d', compile (.object (withoutDefinition raw kind name)) kind separator = .ok d'
      ∧ d'.name = d.name ∧ d'.base = d.base ∧ d'.comment = d.comment
      ∧ (∃ before member after, d.members = before ++ member :: after
        ∧ before.length = (ownNames raw kind).idxOf name ∧ member.name = name
        ∧ d'.members = before ++ after)
      ∧ ∃ entity tables configuration, Document.entity (.object raw) kind = .ok entity
        ∧ entity.tableDecorators separator = .ok tables
        ∧ entity.configurationDecorators = .ok configuration
        ∧ match PermissionIndex.get? entity.memberPermissions name with
          | none => d'.decorators = d.decorators
          | some permission => ∃ earlier later,
            entity.memberPermissions = earlier ++ (name, permission) :: later
            ∧ d.decorators = entity.decoratorsAround tables configuration
              (PermissionIndex.classDecorators earlier (ownNames raw kind) entity.hasInstances
                ++ PermissionIndex.classDecorators later (ownNames raw kind) entity.hasInstances)
            ∧ d'.decorators = entity.decoratorsAround tables configuration
              (PermissionIndex.classDecorators earlier (ownNames raw kind) entity.hasInstances
                ++ permission.decorators name true entity.hasInstances
                ++ PermissionIndex.classDecorators later (ownNames raw kind)
                  entity.hasInstances) := by
  obtain ⟨entity, hentity, hdeclared⟩ := Outcome.bind_eq_ok.mp h
  obtain ⟨parts, hparts⟩ := Entity.declaration_eq_ok hdeclared
  obtain ⟨hlawful, hsame⟩ := (Document.entity_sound hkeyed kind).post hentity
  have hnames := (describesMembers_of_entity hkeyed hkind hentity).locallyDefinedNames
  have hfields := Entity.fieldDefinitions_eq_nil (hsame.symm ▸ hkind)
  have hown : name ∈ entity.locallyDefinedNames := hnames ▸ hname
  obtain ⟨before, member, after, hmembers, hlength, hmember, hkept⟩ :=
    hparts.members_without hfields hlawful.members_nodup hown
  refine ⟨_, Outcome.bind_eq_ok.mpr ⟨_, entity_withoutDefinition hkeyed hkind hentity name,
      (hparts.without name).declaration⟩, rfl, rfl, rfl,
    ⟨before, member, after, hmembers, hnames ▸ hlength, hmember, hkept⟩,
    entity, _, _, hentity, hparts.tables, hparts.configuration, ?_⟩
  -- of all decorators, only those for permissions depend on the names that are defined
  have hplaced := Entity.classDecorators_without hlawful.isConstructed.memberResources_nodup hown
    entity.hasInstances
  rw [hparts.decorators, Entity.decorators_eq_around, ← hnames]
  split
  · rename_i hnone
    rw [hnone] at hplaced
    rw [hplaced]
  · rename_i permission hsome
    rw [hsome] at hplaced
    obtain ⟨earlier, later, hindex, hbefore, hafter⟩ := hplaced
    exact ⟨earlier, later, hindex, by rw [hbefore], by rw [hafter]⟩

/-- The document of a shape with two properties, one of them bound, and with permissions of its
instances on everything and on that property. -/
def valveShape : Fields :=
  [("name", .text "Valve"),
    ("instanceRunTimePermissions", .object [("permissions",
      .list [readItem "*" "ann" true, readItem "level" "bob" false])]),
    ("remotePropertyBindings", .object [("level", .object [("sourceName", .text "L1")])]),
    ("propertyDefinitions", .object [("level", .object [("baseType", .text "NUMBER")]),
      ("state", .object [("baseType", .text "STRING")])])]

/-- Without the definition of the level, the valve keeps its other property, and denies at its class
what it has denied at the level. -/
theorem valveShape_withoutLevel :
    (Value.object valveShape).IsKeyed ∧ EntityKind.thingShape ≠ .dataShape
    ∧ "level" ∈ ownNames valveShape .thingShape
    ∧ ∃ d d', compile (.object valveShape) .thingShape .default = .ok d
      ∧ compile (.object (withoutDefinition valveShape .thingShape "level")) .thingShape
        .default = .ok d'
      ∧ d.memberNames = ["level", "state"] ∧ d'.members = d.members.drop 1
      ∧ d'.decorators = d.decorators ++ [.ofName "denyInstance" [.string "level",
        .access (.name "Permission") "PropertyRead", .access (.name "Users") "bob"]] := by
  have hkeyed : (Value.object valveShape).IsKeyed := by
    simp [valveShape, readItem, Value.IsKeyed.bool]
  have hlevel : "level" ∈ ownNames valveShape .thingShape := by decide
  obtain ⟨d', hd', -, -, -, ⟨before, member, after, hmembers, hplace, -, hkept⟩, -⟩ :=
    @compile_withoutDefinition valveShape .thingShape .default _ "level" hkeyed
      (by decide) rfl hlevel
  obtain rfl : before = [] := List.length_eq_zero_iff.mp hplace
  refine ⟨hkeyed, by decide, hlevel, _, d', rfl, hd', rfl, ?_, ?_⟩
  · rw [hkept, hmembers]
    rfl
  · obtain rfl := Except.ok.inj (hd'.symm.trans (show compile _ _ _ = .ok _ from rfl))
    rfl

end Compilation

end EntityCompiler
