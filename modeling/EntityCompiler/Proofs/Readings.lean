import EntityCompiler.Document.Entity
import EntityCompiler.Proofs.Failures
import EntityCompiler.Proofs.LawfulEntity

/-!
# Every part of a document is read on its own

`Document.namedEntity` threads the problems it meets through all parts of a document. What it comes
to is told by the parts alone. Each entry of the four maps of definitions is read on its own, with
the bindings and the implementation that stand under its name in other maps;
`Document.memberFailures`, `Document.clashFailures` and `Document.sectionFailures` list the problems
that the parts have, on their own.

Main statement: if the maps are objects, a document fails with exactly these problems, in this
order, and with the problem of what only entities of its kind have if there is no other one
(`Document.entity_collects`).
-/

namespace EntityCompiler

/-- An object, or `null`, which stands for an empty one. -/
def Value.IsMap : Value → Prop
  | .null => True
  | .object _ => True
  | _ => False

namespace Outcome

/-- A sound computation has met no problem exactly if it has a result. -/
lemma Sound.failure_eq_nil_iff {α : Type} {P : α → Prop} {x : Outcome α} (hx : Sound P x) :
    failure x = [] ↔ ∃ a, x.toOption = some a := by
  constructor
  · intro h
    obtain ⟨a, ha, -⟩ := hx.exists_ok h
    exact ⟨a, toOption_eq_some.mpr ha⟩
  · intro h
    obtain ⟨a, ha⟩ := h
    exact failure_eq_nil_of_ok (toOption_eq_some.mp ha)

end Outcome

lemma Entity.failure_checked (entity : Entity) : entity.checked.failure = [] := by
  refine Outcome.failure_bind (Outcome.failure_require _ _) fun _ _ => ?_
  refine Outcome.failure_bind (Outcome.failure_require _ _) fun _ _ => ?_
  exact Outcome.failure_bind (Outcome.failure_require _ _) fun _ _ => rfl

namespace Document

open Outcome (failure Sound)

variable {raw : Fields} {kind : EntityKind}

/-! ## The maps of a document -/

/-- The entries of the object under a key; none if there is no object. -/
def entriesUnder (raw : Fields) (key : String) : Fields :=
  (raw.getD key).fields?.getD []

/-- The part of a document in which its members are defined. -/
def memberPart (raw : Fields) (kind : EntityKind) : Fields :=
  match membersKey? kind with
  | none => raw
  | some key => entriesUnder raw key

/-- The members of an entity are defined in a shape of their own, or beside everything else. -/
lemma membersKey?_cases (kind : EntityKind) :
    membersKey? kind = some "thingShape" ∨ membersKey? kind = none := by
  cases kind with
  | thing => exact .inl rfl
  | thingTemplate => exact .inl rfl
  | _ => exact .inr rfl

/-- The entries of one of the maps in which members are defined. -/
def definitionsUnder (raw : Fields) (kind : EntityKind) (key : String) : Fields :=
  entriesUnder (memberPart raw kind) key

/-- The bindings of the members of a document. -/
def allBindings (raw : Fields) : Bindings where
  remoteProperties := entriesUnder raw "remotePropertyBindings"
  properties := entriesUnder raw "propertyBindings"
  remoteServices := entriesUnder raw "remoteServiceBindings"
  remoteEvents := entriesUnder raw "remoteEventBindings"

/-- A document whose maps of bindings, of definitions and of implementations are objects, if they
are there. -/
structure HasMaps (raw : Fields) (kind : EntityKind) : Prop where
  shape : ∀ key, membersKey? kind = some key → (raw.getD key).IsMap
  bindings : ∀ key ∈ ["remotePropertyBindings", "propertyBindings", "remoteServiceBindings",
    "remoteEventBindings"], (raw.getD key).IsMap
  definitions : ∀ key ∈ ["propertyDefinitions", "serviceDefinitions", "serviceImplementations",
    "eventDefinitions", "subscriptions"], ((memberPart raw kind).getD key).IsMap

lemma fields_of_isMap {key : String} (h : (raw.getD key).IsMap) (location : Option String) :
    fields raw key location = .ok (entriesUnder raw key) := by
  unfold fields entriesUnder
  cases hpart : raw.getD key with
  | null => rfl
  | object entries => rfl
  | bool b => rw [hpart] at h; contradiction
  | number n => rw [hpart] at h; contradiction
  | text s => rw [hpart] at h; contradiction
  | list items => rw [hpart] at h; contradiction

lemma isMap_of_fields_eq_ok {key : String} {location : Option String} {entries : Fields}
    (h : fields raw key location = .ok entries) :
    (raw.getD key).IsMap ∧ entries = entriesUnder raw key := by
  unfold entriesUnder
  unfold fields at h
  split at h
  · rename_i hpart
    rw [hpart]
    exact ⟨trivial, (Except.ok.inj h).symm⟩
  · rename_i entries' hpart
    rw [hpart]
    exact ⟨trivial, (Except.ok.inj h).symm⟩
  · simp [Outcome.problem] at h

lemma isKeyed_entriesUnder (h : raw.IsKeyed) (key : String) : (entriesUnder raw key).IsKeyed := by
  have hpart := h.getD key
  unfold entriesUnder
  cases hvalue : raw.getD key with
  | object entries =>
    rw [hvalue] at hpart
    exact Fields.isKeyed_of_object hpart
  | _ => exact Fields.IsKeyed.nil

lemma isKeyed_definitionsUnder (h : raw.IsKeyed) (kind : EntityKind) (key : String) :
    (definitionsUnder raw kind key).IsKeyed := by
  refine isKeyed_entriesUnder ?_ key
  unfold memberPart
  split
  · exact h
  · exact isKeyed_entriesUnder h _

/-! ## Each member, read on its own -/

/-- What `read` makes of an entry, which must have the name of a member. -/
def readNamed {α : Type} (location : String) (read : String → Value → String → Outcome α)
    (entry : String × Value) : Outcome α := do
  checkName entry.1 location
  read entry.1 entry.2 (below location [entry.1])

/-- What is read of the definition of a property, with the bindings under its name. -/
def readProperty (raw : Fields) (kind : EntityKind) : String × Value → Outcome PropertyDefinition :=
  readNamed (below (membersKey? kind) ["propertyDefinitions"]) fun name definition =>
    property name definition ((allBindings raw).remoteProperties.getD name)
      ((allBindings raw).properties.getD name)

/-- What is read of the definition of a service, with the implementation and the binding under its
name. -/
def readService (raw : Fields) (kind : EntityKind) : String × Value → Outcome ServiceDefinition :=
  readNamed (below (membersKey? kind) ["serviceDefinitions"]) fun name definition location =>
    service name definition ((definitionsUnder raw kind "serviceImplementations").getD name)
      ((allBindings raw).remoteServices.getD name) location
      (below (membersKey? kind) ["serviceImplementations", name])

/-- What is read of the definition of an event, with the binding under its name. -/
def readEvent (raw : Fields) (kind : EntityKind) : String × Value → Outcome EventDefinition :=
  readNamed (below (membersKey? kind) ["eventDefinitions"]) fun name definition =>
    event name definition ((allBindings raw).remoteEvents.getD name)

/-- What is read of the definition of a subscription. -/
def readSubscription (kind : EntityKind) : String × Value → Outcome SubscriptionDefinition :=
  readNamed (below (membersKey? kind) ["subscriptions"]) subscription

section Sound

variable {entry : String × Value}

lemma readNamed_sound {α : Type} {location : String} {read : String → Value → String → Outcome α}
    {P : α → Prop} (h : ∀ inner, entry.1 ≠ "" → Sound P (read entry.1 entry.2 inner)) :
    Sound P (readNamed location read entry) :=
  (checkName_sound entry.1 location).bind fun _ hname => h _ hname

lemma readProperty_sound (h : entry.2.IsKeyed) :
    Sound (fun p => p.name = entry.1) (readProperty raw kind entry) :=
  readNamed_sound fun _ hname => (property_sound hname h _ _ _).mono fun _ hp => hp.1

lemma readService_sound (h : entry.2.IsKeyed) :
    Sound (fun s => s.name = entry.1) (readService raw kind entry) :=
  readNamed_sound fun _ _ => (service_sound h _ _ _ _).mono fun _ hs => hs.1

lemma readEvent_sound (h : entry.2.IsKeyed) :
    Sound (fun e => e.name = entry.1) (readEvent raw kind entry) :=
  readNamed_sound fun _ _ => (event_sound h _ _ _).mono fun _ he => he.1

lemma readSubscription_sound (h : entry.2.IsKeyed) :
    Sound (fun s => s.name = entry.1) (readSubscription kind entry) :=
  readNamed_sound fun _ _ => subscription_sound h _ _

end Sound

/-- The members whose definitions can be read. -/
def readMembers (raw : Fields) (kind : EntityKind) : Members where
  properties := (definitionsUnder raw kind "propertyDefinitions").filterMap fun entry =>
    (readProperty raw kind entry).toOption
  services := (definitionsUnder raw kind "serviceDefinitions").filterMap fun entry =>
    (readService raw kind entry).toOption
  events := (definitionsUnder raw kind "eventDefinitions").filterMap fun entry =>
    (readEvent raw kind entry).toOption
  subscriptions := (definitionsUnder raw kind "subscriptions").filterMap fun entry =>
    (readSubscription kind entry).toOption

/-! ## The problems of the parts -/

/-- The problems with the definitions of properties, services, events and subscriptions, each on its
own and in this order. -/
def memberFailures (raw : Fields) (kind : EntityKind) : List Problem :=
  (definitionsUnder raw kind "propertyDefinitions").flatMap (fun entry =>
      failure (readProperty raw kind entry))
    ++ (definitionsUnder raw kind "serviceDefinitions").flatMap (fun entry =>
      failure (readService raw kind entry))
    ++ (definitionsUnder raw kind "eventDefinitions").flatMap (fun entry =>
      failure (readEvent raw kind entry))
    ++ (definitionsUnder raw kind "subscriptions").flatMap (fun entry =>
      failure (readSubscription kind entry))

/-- Is there a definition of a property of this name, and can it be read? -/
def definesProperty (raw : Fields) (kind : EntityKind) (name : String) : Bool :=
  (definitionsUnder raw kind "propertyDefinitions").any fun entry =>
    entry.1 == name && (readProperty raw kind entry).toOption.isSome

/-- One problem for each service that can be read and has the name of a property that can be read.
-/
def clashFailures (raw : Fields) (kind : EntityKind) : List Problem :=
  ((definitionsUnder raw kind "serviceDefinitions").filter fun entry =>
      (readService raw kind entry).toOption.isSome && definesProperty raw kind entry.1).map
        fun entry =>
    .plain (below (membersKey? kind) ["serviceDefinitions", entry.1]) (.clash entry.1)

/-- The problems with the definitions of the configuration tables, with their rows, with the two
kinds of permissions and with the aspects of the entity, each on its own and in this order. -/
def sectionFailures (raw : Fields) : List Problem :=
  failure (configurationTableDefinitions raw) ++ failure (configurationTables raw)
    ++ failure (visibilityPermissions raw "visibilityPermissions")
    ++ failure (runtimePermissions raw "runTimePermissions") ++ failure (fields raw "aspects" none)

/-- All problems but those with what only entities of one kind have. -/
def generalFailures (raw : Fields) (kind : EntityKind) : List Problem :=
  memberFailures raw kind ++ clashFailures raw kind ++ sectionFailures raw

/-! ## Reading all parts -/

lemma named_eq {α : Type} (entries : Fields) (location : String)
    (read : String → Value → String → Outcome α) :
    named entries location read = Outcome.gather (readNamed location read) entries := rfl

lemma members_eq {α : Type} {key : String} {location : Option String}
    {read : String → Value → String → Outcome α} {P : String × Value → α → Prop}
    (hmap : (raw.getD key).IsMap) (hread : ∀ entry ∈ entriesUnder raw key,
      Sound (P entry) (readNamed (below location [key]) read entry)) :
    members raw key location read
      = .ok ((entriesUnder raw key).filterMap fun entry =>
          (readNamed (below location [key]) read entry).toOption,
        (entriesUnder raw key).flatMap fun entry =>
          failure (readNamed (below location [key]) read entry)) := by
  unfold members
  rw [fields_of_isMap hmap location]
  dsimp only [Outcome.collected, Outcome.caught, bind, Except.bind, pure, Except.pure,
    Option.getD_some]
  rw [named_eq, Outcome.gather_eq hread]
  rfl

lemma bindings_eq
    (h : ∀ key ∈ ["remotePropertyBindings", "propertyBindings", "remoteServiceBindings",
    "remoteEventBindings"], (raw.getD key).IsMap) :
    bindings raw = .ok (some (allBindings raw), []) := by
  unfold bindings
  rw [fields_of_isMap (h "remotePropertyBindings" (by decide)),
    fields_of_isMap (h "propertyBindings" (by decide)),
    fields_of_isMap (h "remoteServiceBindings" (by decide)),
    fields_of_isMap (h "remoteEventBindings" (by decide))]
  rfl

lemma membersSource_eq (hmaps : HasMaps raw kind) (hkind : kind ≠ .dataShape) :
    membersSource raw kind = .ok (some (memberPart raw kind), []) := by
  unfold membersSource memberPart
  cases hkey : membersKey? kind with
  | none =>
    split
    · contradiction
    · rfl
    · contradiction
  | some key =>
    have hshape := fields_of_isMap (hmaps.shape key hkey) none
    split
    · contradiction
    · contradiction
    · rename_i hsome
      obtain rfl := Option.some.inj hsome
      rw [hshape]
      rfl

lemma services_eq (hkeyed : raw.IsKeyed) (hmaps : HasMaps raw kind) :
    services (memberPart raw kind) (membersKey? kind) (allBindings raw)
      = .ok ((readMembers raw kind).services,
        (definitionsUnder raw kind "serviceDefinitions").flatMap fun entry =>
          failure (readService raw kind entry)) := by
  have hparts := (isKeyed_definitionsUnder hkeyed kind "serviceDefinitions").values
  have hread := Outcome.gather_eq fun entry hentry => @readService_sound raw kind entry
    (hparts entry hentry)
  unfold services
  rw [fields_of_isMap (hmaps.definitions "serviceDefinitions" (by decide)),
    fields_of_isMap (hmaps.definitions "serviceImplementations" (by decide))]
  exact hread

/-- Among things that bear the names of the items they are made of, those of a name are looked up by
the items. -/
private lemma any_filterMap_name {α β : Type} {f : α → Option β} {key : α → String}
    {name : β → String}
    {xs : List α} (hname : ∀ x ∈ xs, ∀ y, f x = some y → name y = key x) (wanted : String) :
    (xs.filterMap f).any (name · == wanted) = xs.any fun x => key x == wanted && (f x).isSome := by
  induction xs with
  | nil => rfl
  | cons x xs ih =>
    have hrest := ih fun y hy => hname y (List.mem_cons_of_mem x hy)
    cases hx : f x with
    | none => simp [List.filterMap_cons_none hx, hx, hrest]
    | some y =>
      have hy := hname x List.mem_cons_self y hx
      rw [List.filterMap_cons_some hx, List.any_cons, List.any_cons, hrest, hx, hy]
      simp

private lemma map_filter_filterMap_name {α β γ : Type} {f : α → Option β} {key : α → String}
    {name : β → String} {xs : List α} (hname : ∀ x ∈ xs, ∀ y, f x = some y → name y = key x)
    (p : String → Bool) (g : String → γ) :
    ((xs.filterMap f).filter fun y => p (name y)).map (fun y => g (name y))
      = (xs.filter fun x => (f x).isSome && p (key x)).map fun x => g (key x) := by
  induction xs with
  | nil => rfl
  | cons x xs ih =>
    have hrest := ih fun y hy => hname y (List.mem_cons_of_mem x hy)
    cases hx : f x with
    | none => simp [List.filterMap_cons_none hx, hx, hrest]
    | some y =>
      have hy := hname x List.mem_cons_self y hx
      rw [List.filterMap_cons_some hx]
      by_cases hp : p (key x) = true
      · simp [hx, hy, hp, hrest]
      · simp [hx, hy, hp, hrest]

/-- The clashes are told by the definitions, since what is read of a definition bears its name. -/
lemma clashes_readMembers (hkeyed : raw.IsKeyed) (kind : EntityKind) :
    (readMembers raw kind).clashes (membersKey? kind) = clashFailures raw kind := by
  have hproperties : ∀ entry ∈ definitionsUnder raw kind "propertyDefinitions", ∀ p,
      (readProperty raw kind entry).toOption = some p → p.name = entry.1 := by
    intro entry hentry p hp
    have hpart := (isKeyed_definitionsUnder hkeyed kind "propertyDefinitions").values entry hentry
    exact (readProperty_sound hpart).post (Outcome.toOption_eq_some.mp hp)
  have hservices : ∀ entry ∈ definitionsUnder raw kind "serviceDefinitions", ∀ s,
      (readService raw kind entry).toOption = some s → s.name = entry.1 := by
    intro entry hentry s hs
    have hpart := (isKeyed_definitionsUnder hkeyed kind "serviceDefinitions").values entry hentry
    exact (readService_sound hpart).post (Outcome.toOption_eq_some.mp hs)
  -- `Members.clashes` asks the properties that were read, `clashFailures` asks their definitions
  have hany : ∀ name, (readMembers raw kind).properties.any (·.name == name)
      = definesProperty raw kind name := any_filterMap_name hproperties
  unfold Members.clashes clashFailures
  simp only [hany]
  exact map_filter_filterMap_name hservices (definesProperty raw kind) fun name =>
    Problem.plain (below (membersKey? kind) ["serviceDefinitions", name]) (.clash name)

lemma definedMembers_eq (hkeyed : raw.IsKeyed) (hmaps : HasMaps raw kind) :
    definedMembers (memberPart raw kind) (membersKey? kind) (allBindings raw)
      = .ok (readMembers raw kind, memberFailures raw kind) := by
  have hparts := fun key => (isKeyed_definitionsUnder hkeyed kind key).values
  have hproperties := members_eq (hmaps.definitions "propertyDefinitions" (by decide))
    fun entry hentry => @readProperty_sound raw kind entry
      (hparts "propertyDefinitions" entry hentry)
  have hevents := members_eq (hmaps.definitions "eventDefinitions" (by decide))
    fun entry hentry => @readEvent_sound raw kind entry (hparts "eventDefinitions" entry hentry)
  have hsubscriptions := members_eq (hmaps.definitions "subscriptions" (by decide))
    fun entry hentry => @readSubscription_sound kind entry (hparts "subscriptions" entry hentry)
  unfold definedMembers
  rw [hproperties, services_eq hkeyed hmaps, hevents, hsubscriptions]
  rfl

/-- The members are read one by one, and with the maps in order nothing else can go wrong. -/
lemma entityMembers_eq (hkeyed : raw.IsKeyed) (hmaps : HasMaps raw kind)
    (hkind : kind ≠ .dataShape) :
    entityMembers raw kind
      = .ok (readMembers raw kind, memberFailures raw kind ++ clashFailures raw kind) := by
  unfold entityMembers
  rw [membersSource_eq hmaps hkind, bindings_eq hmaps.bindings]
  dsimp only [bind, Except.bind]
  rw [definedMembers_eq hkeyed hmaps]
  dsimp only
  rw [clashes_readMembers hkeyed]
  rfl

/-- The entity that is made of the parts of a document which can be read. -/
def assembled (name : String) (raw : Fields) (kind : EntityKind) (part : EntityPart) : Entity where
  name
  description := text? raw "description"
  documentationContent := text? raw "documentationContent"
  projectName := text? raw "projectName"
  tags := tags raw
  aspects := ⟨flag (entriesUnder raw "aspects") "isEditableExtensionObject"⟩
  propertyDefinitions := (readMembers raw kind).properties
  serviceDefinitions := (readMembers raw kind).services
  eventDefinitions := (readMembers raw kind).events
  subscriptionDefinitions := (readMembers raw kind).subscriptions
  configurationTableDefinitions := (configurationTableDefinitions raw).toOption.getD []
  configurationTables := (configurationTables raw).toOption.getD []
  visibilityPermissions := (visibilityPermissions raw "visibilityPermissions").toOption.getD []
  runtimePermissions := (runtimePermissions raw "runTimePermissions").toOption.getD []
  part

/-- With a problem in a general part, all problems of these parts are reported. Without one, what
only entities of its kind have decides. -/
lemma namedEntity_eq (hkeyed : raw.IsKeyed) (hmaps : HasMaps raw kind) (hkind : kind ≠ .dataShape)
    (name : String) :
    namedEntity name raw kind = if (generalFailures raw kind).isEmpty then
        Outcome.within none (.entity name) (entityPart raw kind) >>= fun part =>
          (assembled name raw kind part).checked
      else .error (.problem (.dueTo none (.entity name) (generalFailures raw kind))) := by
  have hdefinitions := configurationTableDefinitions_sound hkeyed
  have htables := configurationTables_sound hkeyed
  have hvisibility := visibilityPermissions_sound hkeyed "visibilityPermissions"
  have hpermissions := runtimePermissions_sound hkeyed "runTimePermissions"
  have haspects := fields_sound hkeyed "aspects" none
  -- a part without a problem has been read, so without any problem all five parts are at hand
  have hnone :
      generalFailures raw kind = [] ↔ memberFailures raw kind ++ clashFailures raw kind = []
      ∧ failure (configurationTableDefinitions raw) = [] ∧ failure (configurationTables raw) = []
      ∧ failure (visibilityPermissions raw "visibilityPermissions") = []
      ∧ failure (runtimePermissions raw "runTimePermissions") = []
      ∧ failure (fields raw "aspects" none) = [] := by
    simp only [generalFailures, sectionFailures, List.append_eq_nil_iff, and_assoc]
  rw [hdefinitions.failure_eq_nil_iff, htables.failure_eq_nil_iff, hvisibility.failure_eq_nil_iff,
    hpermissions.failure_eq_nil_iff, haspects.failure_eq_nil_iff] at hnone
  unfold namedEntity
  rw [entityMembers_eq hkeyed hmaps hkind]
  simp only [hdefinitions.collected_eq, htables.collected_eq, hvisibility.collected_eq,
    hpermissions.collected_eq, haspects.collected_eq, bind, Except.bind]
  split
  · rename_i hmembers hd ht hv hp ha
    have hquiet := hnone.mpr ⟨hmembers, ⟨_, hd⟩, ⟨_, ht⟩, ⟨_, hv⟩, ⟨_, hp⟩, ⟨_, ha⟩⟩
    obtain ⟨-, rfl⟩ := isMap_of_fields_eq_ok (Outcome.toOption_eq_some.mp ha)
    rw [hquiet]
    simp only [assembled, hd, ht, hv, hp, Option.getD_some]
    rfl
  · -- a part that is not at hand has left a problem
    rename_i hother
    have hfails : generalFailures raw kind ≠ [] := by
      intro h
      obtain ⟨hmembers, ⟨d, hd⟩, ⟨t, ht⟩, ⟨v, hv⟩, ⟨p, hp⟩, a, ha⟩ := hnone.mp h
      exact hother d t v p a hmembers hd ht hv hp ha
    rw [if_neg (by simpa using hfails)]
    simp only [generalFailures, sectionFailures, List.append_assoc]

/-- The problems below that of a document which is no entity: those of all general parts, or, if
there are none, that of what only entities of its kind have. -/
def documentFailures (raw : Fields) (kind : EntityKind) : List Problem :=
  if (generalFailures raw kind).isEmpty then failure (entityPart raw kind)
    else generalFailures raw kind

/-- A document with a name, whose maps of bindings, definitions and implementations are objects if
they are there, describes an entity exactly if none of its parts has a problem. Otherwise there is a
problem with the entity, and below it stand the problems of the members, each read on its own, in
the order of their definitions, those of clashing names and those of the other parts; only without
any of these, what only entities of its kind have is read, and its problem stands there alone. -/
theorem entity_collects (hkeyed : (Value.object raw).IsKeyed) {name : String}
    (hname : text? raw "name" = some name) (hkind : kind ≠ .dataShape) (hmaps : HasMaps raw kind) :
    ((∃ described, entity (.object raw) kind = .ok described) ↔ documentFailures raw kind = [])
    ∧ (documentFailures raw kind ≠ [] → entity (.object raw) kind
      = .error (.problem (.dueTo none (.entity name) (documentFailures raw kind)))) := by
  have hparts := Fields.isKeyed_of_object hkeyed
  have hsound := entity_sound hkeyed kind
  have hread : entity (.object raw) kind = namedEntity name raw kind := by
    simp only [entity, hname]
  rw [namedEntity_eq hparts hmaps hkind name] at hread
  unfold documentFailures
  split
  · rename_i hquiet
    rw [if_pos hquiet] at hread
    rcases (entityPart_sound hparts kind).total with ⟨part, hpart, -⟩ | ⟨p, hpart, -⟩
    · -- putting the parts together meets no problem, and breaks no contract
      have hsilent : failure (entity (.object raw) kind) = [] := by
        rw [hread, hpart]
        exact (assembled name raw kind part).failure_checked
      obtain ⟨described, hdescribed, -⟩ := hsound.exists_ok hsilent
      rw [hpart]
      exact ⟨⟨fun _ => rfl, fun _ => ⟨described, hdescribed⟩⟩, fun h => absurd rfl h⟩
    · rw [hread, hpart]
      exact ⟨⟨by rintro ⟨described, ⟨⟩⟩, by rintro ⟨⟩⟩, fun _ => rfl⟩
  · rename_i hfails
    rw [if_neg hfails] at hread
    rw [hread]
    exact ⟨⟨by rintro ⟨described, ⟨⟩⟩, fun h => absurd (by rw [h]; rfl) hfails⟩, fun _ => rfl⟩

/-- The document of a boiler with a property, another one whose name is given, a service and an
event. -/
def boilerParts (property service : String) (event : Fields) (template : Value) : Fields :=
  [("name", .text "Boiler"), ("thingTemplate", template),
    ("remoteServiceBindings", .object [(service, .object [])]),
    ("thingShape", .object [
      ("propertyDefinitions", .object [
        ("level", .object [("baseType", .text "NUMBER")]),
        (property, .object [("baseType", .text "STRING")])]),
      ("serviceDefinitions", .object [(service, .object [])]),
      ("eventDefinitions", .object [("hot", .object event)])])]

lemma isKeyed_boilerParts {property service : String} {event : Fields} {template : Value}
    (hproperty : property ≠ "level") (hevent : (Value.object event).IsKeyed)
    (htemplate : template.IsKeyed) :
    (Value.object (boilerParts property service event template)).IsKeyed := by
  simpa [boilerParts, Ne.symm hproperty, htemplate] using hevent

lemma hasMaps_boilerParts (property service : String) (event : Fields) (template : Value) :
    HasMaps (boilerParts property service event template) .thing where
  shape := by
    rintro key ⟨⟩
    trivial
  bindings := by
    simp only [List.forall_mem_cons]
    exact ⟨trivial, trivial, trivial, trivial, by simp⟩
  definitions := by
    simp only [List.forall_mem_cons]
    exact ⟨trivial, trivial, trivial, trivial, trivial, by simp⟩

/-- With a nameless property, an event without a data shape and a service that has the name of a
property, the boiler has just these three problems. Without them, it lacks a template, or has no
problem at all. -/
theorem boilerParts_collects :
    (Value.object (boilerParts "" "level" [] .null)).IsKeyed
    ∧ text? (boilerParts "" "level" [] .null) "name" = some "Boiler" ∧ EntityKind.thing ≠ .dataShape
    ∧ HasMaps (boilerParts "" "level" [] .null) .thing
    ∧ entity (.object (boilerParts "" "level" [] .null)) .thing
      = .error (.problem (.dueTo none (.entity "Boiler") [
        .plain "thingShape.propertyDefinitions" (.emptyName ""),
        .plain "thingShape.eventDefinitions.hot.dataShape" (.noDataShape "hot"),
        .plain "thingShape.serviceDefinitions.level" (.clash "level")]))
    ∧ entity (.object (boilerParts "unit" "heat" [("dataShape", .text "HotEvent")] .null)) .thing
      = .error (.problem (.dueTo none (.entity "Boiler") [.plain "thingTemplate" .noThingTemplate]))
    ∧ ∃ described, entity (.object (boilerParts "unit" "heat" [("dataShape", .text "HotEvent")]
      (.text "GenericThing"))) .thing = .ok described := by
  have hfaulty : (Value.object (boilerParts "" "level" [] .null)).IsKeyed :=
    isKeyed_boilerParts (by decide) (by simp) .null
  have hevent : (Value.object [("dataShape", .text "HotEvent")]).IsKeyed := by simp
  have hmaps := hasMaps_boilerParts
  refine ⟨hfaulty, rfl, by decide, hmaps _ _ _ _, ?_, ?_, ?_⟩
  · exact (entity_collects hfaulty rfl (by decide) (hmaps _ _ _ _)).2 (List.cons_ne_nil _ _)
  · exact (entity_collects (isKeyed_boilerParts (by decide) hevent .null) rfl (by decide)
      (hmaps _ _ _ _)).2 (List.cons_ne_nil _ _)
  · exact (entity_collects (isKeyed_boilerParts (by decide) hevent (.text)) rfl (by decide)
      (hmaps _ _ _ _)).1.mpr rfl

end Document

end EntityCompiler
