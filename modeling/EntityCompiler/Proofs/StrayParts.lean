import EntityCompiler.Proofs.Agreement
import EntityCompiler.Proofs.Readings

/-!
# Parts that are no objects

A binding or an implementation that is no object is passed over, as if `null` stood in its place.
Main statement: a document describes the same entity, or has the same problem, with or without such
parts (`Document.entity_withoutStray`). So they are reported only where something else is.
-/

namespace EntityCompiler

/-- An object, or `null` in the place of anything else. -/
def Value.objectOrNull : Value → Value
  | .object entries => .object entries
  | _ => .null

/-- A value, with `f` applied to its entries if it is an object. -/
def Value.mapFields (f : Fields → Fields) : Value → Value
  | .object entries => .object (f entries)
  | v => v

namespace Fields

/-- The entries, each of them an object or `null`. -/
def objectsOnly (entries : Fields) : Fields :=
  entries.map fun (name, part) => (name, part.objectOrNull)

/-- The entries, with `f` applied to the entries of the objects under some keys. -/
def inObjects (raw : Fields) (keys : List String) (f : Fields → Fields) : Fields :=
  raw.map fun (key, part) => (key, if keys.contains key then part.mapFields f else part)

lemma getD_map {f : String → Value → Value} {key : String} (raw : Fields)
    (hf : f key .null = .null) :
    getD (raw.map fun (key, part) => (key, f key part)) key = f key (raw.getD key) := by
  unfold getD get?
  induction raw with
  | nil => exact hf.symm
  | cons entry raw ih =>
    obtain ⟨name, part⟩ := entry
    rw [List.map_cons, List.find?_cons, List.find?_cons]
    by_cases h : name = key
    · subst h
      simp
    · rw [beq_false_of_ne h]
      exact ih

@[simp] lemma getD_objectsOnly (entries : Fields) (name : String) :
    entries.objectsOnly.getD name = (entries.getD name).objectOrNull :=
  @getD_map (fun _ part => part.objectOrNull) name entries rfl

variable {raw : Fields} {keys : List String} {f : Fields → Fields} {key : String}

lemma getD_inObjects_of_not_mem (h : key ∉ keys) :
    (raw.inObjects keys f).getD key = raw.getD key := by
  have hkey : keys.contains key = false := by simpa using h
  have hgetD :=
    @getD_map (fun key part => if keys.contains key then part.mapFields f else part) key raw
    (by rw [hkey]; rfl)
  rw [hkey] at hgetD
  exact hgetD

lemma getD_inObjects_of_mem (h : key ∈ keys) :
    (raw.inObjects keys f).getD key = (raw.getD key).mapFields f := by
  have hkey : keys.contains key = true := by simpa using h
  have hgetD :=
    @getD_map (fun key part => if keys.contains key then part.mapFields f else part) key raw
    (by rw [hkey]; rfl)
  rw [hkey] at hgetD
  exact hgetD

end Fields

namespace Document

open Fields

variable {raw raw' : Fields} {kind : EntityKind}

/-- The keys of the maps of bindings. -/
def bindingKeys : List String :=
  ["remotePropertyBindings", "propertyBindings", "remoteServiceBindings", "remoteEventBindings"]

/-- A part that defines members, with `null` in the place of each implementation that is no object.
-/
def withoutStrayCode (source : Fields) : Fields :=
  source.inObjects ["serviceImplementations"] objectsOnly

/-- A document with `null` in the place of each binding and of each implementation that is no
object. -/
def withoutStray (raw : Fields) (kind : EntityKind) : Fields :=
  let bound := raw.inObjects bindingKeys objectsOnly
  match membersKey? kind with
  | none => withoutStrayCode bound
  | some key => bound.inObjects [key] withoutStrayCode

/-! ## What a part of a document depends on -/

/-- The keys under which a document has its members and their bindings. -/
def memberKeys : List String :=
  ["thingShape", "propertyDefinitions", "serviceDefinitions", "serviceImplementations",
    "eventDefinitions", "subscriptions"] ++ bindingKeys

lemma visibilityPermissions_congr {key : String} (h : raw.getD key = raw'.getD key) :
    visibilityPermissions raw key = visibilityPermissions raw' key := by
  unfold visibilityPermissions
  rw [fields_congr h]

lemma runtimePermissions_congr {key : String} (h : raw.getD key = raw'.getD key) :
    runtimePermissions raw key = runtimePermissions raw' key := by
  unfold runtimePermissions
  rw [fields_congr h]

lemma configurationTableDefinitions_congr
    (h : raw.getD "configurationTableDefinitions" = raw'.getD "configurationTableDefinitions") :
    configurationTableDefinitions raw = configurationTableDefinitions raw' := by
  unfold configurationTableDefinitions
  rw [fields_congr h]

lemma configurationTables_congr
    (h : raw.getD "configurationTables" = raw'.getD "configurationTables") :
    configurationTables raw = configurationTables raw' := by
  unfold configurationTables
  rw [fields_congr h]

lemma tags_congr (h : raw.getD "tags" = raw'.getD "tags") : tags raw = tags raw' := by
  unfold tags
  rw [h]

lemma implementedShapes_congr (h : raw.getD "implementedShapes" = raw'.getD "implementedShapes") :
    implementedShapes raw = implementedShapes raw' := by
  unfold implementedShapes
  rw [h]

lemma entityPart_congr
    (h : ∀ key, key ∉ "fieldDefinitions" :: memberKeys → raw.getD key = raw'.getD key)
    (hfields : kind = .dataShape → raw.getD "fieldDefinitions" = raw'.getD "fieldDefinitions") :
    entityPart raw kind = entityPart raw' kind := by
  have hshapes : implementedShapes raw = implementedShapes raw' :=
    implementedShapes_congr (h _ (by decide))
  have hpermissions : runtimePermissions raw "instanceRunTimePermissions"
      = runtimePermissions raw' "instanceRunTimePermissions" :=
    runtimePermissions_congr (h _ (by decide))
  cases kind with
  | thing =>
    simp only [entityPart, hshapes, text?_congr (h "thingTemplate" (by decide)),
      number?_congr (h "identifier" (by decide)), flag_congr (h "enabled" (by decide)),
      flag_congr (h "published" (by decide)), text?_congr (h "valueStream" (by decide))]
  | thingTemplate =>
    simp only [entityPart, hpermissions, hshapes,
      visibilityPermissions_congr (h "instanceVisibilityPermissions" (by decide)),
      text?_congr (h "baseThingTemplate" (by decide)), text?_congr (h "valueStream" (by decide))]
  | thingShape => simp only [entityPart, hpermissions]
  | dataShape =>
    simp only [entityPart, fieldDefinitions, fields_congr (hfields rfl)]
  | other => rfl

/-- Two documents with the same members that do not differ elsewhere are read alike. -/
lemma namedEntity_congr (h : ∀ key, key ∉ memberKeys → raw.getD key = raw'.getD key)
    (hmembers : entityMembers raw kind = entityMembers raw' kind) (name : String) :
    namedEntity name raw kind = namedEntity name raw' kind := by
  have hpart : entityPart raw kind = entityPart raw' kind :=
    entityPart_congr (fun key hkey => h key fun hmem => hkey (List.mem_cons_of_mem _ hmem))
      fun _ => h _ (by decide)
  simp only [namedEntity, hmembers, hpart, tags_congr (h _ (by decide)),
    configurationTableDefinitions_congr (h _ (by decide)),
    configurationTables_congr (h _ (by decide)),
    visibilityPermissions_congr (h "visibilityPermissions" (by decide)),
    runtimePermissions_congr (h "runTimePermissions" (by decide)),
    fields_congr (h "aspects" (by decide)), text?_congr (h "description" (by decide)),
    text?_congr (h "documentationContent" (by decide)), text?_congr (h "projectName" (by decide))]

/-! ## Members with parts that are no objects -/

lemma fields_inObjects {keys : List String} {f : Fields → Fields} {key : String} (h : key ∈ keys)
    (hf : f [] = []) (location : Option String) :
    fields (raw.inObjects keys f) key location = Except.map f (fields raw key location) := by
  unfold fields
  rw [getD_inObjects_of_mem h]
  cases raw.getD key with
  | null => exact congrArg Except.ok hf.symm
  | _ => rfl

/-- What stands under a key is an object, or nothing, or there is a problem. -/
lemma fields_eq_ok_or_problem (raw : Fields) (key : String) (location : Option String) :
    (∃ entries, fields raw key location = .ok entries)
      ∨ ∃ p, fields raw key location = .error (.problem p) := by
  unfold fields
  split
  · exact .inl ⟨_, rfl⟩
  · exact .inl ⟨_, rfl⟩
  · exact .inr ⟨_, rfl⟩

lemma property_objectOrNull (name : String) (definition remote bound : Value) :
    property name definition remote.objectOrNull bound.objectOrNull
      = property name definition remote bound := by
  have hremote : remotePropertyBinding remote.objectOrNull = remotePropertyBinding remote := by
    cases remote <;> rfl
  have hbound : localPropertyBinding name bound.objectOrNull = localPropertyBinding name bound := by
    cases bound <;> rfl
  unfold property
  rw [hremote, hbound]

lemma service_objectOrNull (name : String) (definition implementation remote : Value)
    (location implementationLocation : String) :
    service name definition implementation.objectOrNull remote.objectOrNull location
        implementationLocation
      = service name definition implementation remote location implementationLocation := by
  have hcode : serviceCode name implementation.objectOrNull implementationLocation
      = serviceCode name implementation implementationLocation := by
    cases implementation <;> rfl
  have hremote :
      remoteServiceBinding name remote.objectOrNull = remoteServiceBinding name remote := by
    cases remote <;> rfl
  unfold service
  rw [hcode, hremote]

lemma event_objectOrNull (name : String) (definition remote : Value) :
    event name definition remote.objectOrNull = event name definition remote := by
  have hremote : remoteEventBinding name remote.objectOrNull = remoteEventBinding name remote := by
    cases remote <;> rfl
  unfold event
  rw [hremote]

/-- The bindings of members, each of them an object or `null`. -/
def Bindings.objectsOnly (bindings : Bindings) : Bindings where
  remoteProperties := bindings.remoteProperties.objectsOnly
  properties := bindings.properties.objectsOnly
  remoteServices := bindings.remoteServices.objectsOnly
  remoteEvents := bindings.remoteEvents.objectsOnly

lemma members_congr {α : Type} {key : String} (h : raw.getD key = raw'.getD key)
    (location : Option String) (read : String → Value → String → Outcome α) :
    members raw key location read = members raw' key location read := by
  unfold members
  rw [fields_congr h]

lemma services_objectsOnly (source : Fields) (location : Option String) (bindings : Bindings) :
    services (withoutStrayCode source) location bindings.objectsOnly
      = services source location bindings := by
  have hdefinitions : fields (withoutStrayCode source) "serviceDefinitions" location
      = fields source "serviceDefinitions" location :=
    fields_congr (getD_inObjects_of_not_mem (by decide)) location
  have himplementations : fields (withoutStrayCode source) "serviceImplementations" location
      = Except.map Fields.objectsOnly (fields source "serviceImplementations" location) :=
    fields_inObjects (by decide) rfl location
  unfold services
  rw [hdefinitions, himplementations]
  -- services are read only if both maps are there; what is missing leaves the same problem on both
  -- sides
  obtain ⟨definitions, h₁⟩ | ⟨_, h₁⟩ :=
    fields_eq_ok_or_problem source "serviceDefinitions" location <;>
  obtain ⟨implementations, h₂⟩ | ⟨_, h₂⟩ :=
    fields_eq_ok_or_problem source "serviceImplementations" location
  · rw [h₁, h₂]
    dsimp only [Except.map, Outcome.collected, Outcome.caught, bind, Except.bind, pure, Except.pure]
    simp only [Bindings.objectsOnly, getD_objectsOnly, service_objectOrNull]
  all_goals
    rw [h₁, h₂]
    dsimp only [Except.map, Outcome.collected, Outcome.caught, bind, Except.bind, pure, Except.pure]

/-- A member is read as if `null` stood in the place of a binding or an implementation that is no
object. -/
lemma definedMembers_objectsOnly (source : Fields) (location : Option String)
    (bindings : Bindings) :
    definedMembers (withoutStrayCode source) location bindings.objectsOnly
      = definedMembers source location bindings := by
  have hmembers : ∀ key ≠ "serviceImplementations",
      (withoutStrayCode source).getD key = source.getD key :=
    fun key h => getD_inObjects_of_not_mem (by simpa using h)
  unfold definedMembers
  rw [services_objectsOnly, members_congr (hmembers "propertyDefinitions" (by decide)),
    members_congr (hmembers "eventDefinitions" (by decide)),
    members_congr (hmembers "subscriptions" (by decide))]
  simp only [Bindings.objectsOnly, getD_objectsOnly, property_objectOrNull, event_objectOrNull]

/-! ## Documents with parts that are no objects -/

/-- Implementations stand in the shape of a document, or in the document itself. -/
lemma withoutStray_cases (raw : Fields) (kind : EntityKind) :
    (membersKey? kind = some "thingShape" ∧ withoutStray raw kind
      = (raw.inObjects bindingKeys objectsOnly).inObjects ["thingShape"] withoutStrayCode)
    ∨ (membersKey? kind = none ∧ withoutStray raw kind
      = (raw.inObjects bindingKeys objectsOnly).inObjects ["serviceImplementations"]
        objectsOnly) := by
  cases kind with
  | thing => exact .inl ⟨rfl, rfl⟩
  | thingTemplate => exact .inl ⟨rfl, rfl⟩
  | thingShape => exact .inr ⟨rfl, rfl⟩
  | dataShape => exact .inr ⟨rfl, rfl⟩
  | other => exact .inr ⟨rfl, rfl⟩

lemma getD_withoutStray {key : String} (h : key ∉ memberKeys) (raw : Fields) (kind : EntityKind) :
    (withoutStray raw kind).getD key = raw.getD key := by
  have hne : ∀ found ∈ memberKeys, key ∉ [found] := by
    intro found hfound hkey
    rw [List.mem_singleton.mp hkey] at h
    exact h hfound
  have hbindings : key ∉ bindingKeys := fun hmem => h (List.mem_append_right _ hmem)
  obtain ⟨-, hraw⟩ | ⟨-, hraw⟩ := withoutStray_cases raw kind
  · rw [hraw, getD_inObjects_of_not_mem (hne "thingShape" (by decide)),
      getD_inObjects_of_not_mem hbindings]
  · rw [hraw, getD_inObjects_of_not_mem (hne "serviceImplementations" (by decide)),
      getD_inObjects_of_not_mem hbindings]

lemma bindings_withoutStray (raw : Fields) (kind : EntityKind) :
    bindings (withoutStray raw kind) = Except.map
      (fun (found, problems) => (found.map Bindings.objectsOnly, problems)) (bindings raw) := by
  have hshape : ∀ key ∈ bindingKeys, key ∉ ["thingShape"] := by decide
  have hcode : ∀ key ∈ bindingKeys, key ∉ ["serviceImplementations"] := by decide
  have hfields : ∀ key ∈ bindingKeys, fields (withoutStray raw kind) key none
      = Except.map Fields.objectsOnly (fields raw key none) := by
    intro key hkey
    rw [← fields_inObjects hkey rfl none]
    obtain ⟨-, hraw⟩ | ⟨-, hraw⟩ := withoutStray_cases raw kind
    · exact fields_congr (hraw ▸ getD_inObjects_of_not_mem (hshape key hkey)) none
    · exact fields_congr (hraw ▸ getD_inObjects_of_not_mem (hcode key hkey)) none
  unfold bindings
  rw [hfields "remotePropertyBindings" (by decide), hfields "propertyBindings" (by decide),
    hfields "remoteServiceBindings" (by decide), hfields "remoteEventBindings" (by decide)]
  -- whether a map is there does not depend on its entries, so both sides fail in the same cases
  obtain ⟨_, h₁⟩ | ⟨_, h₁⟩ := fields_eq_ok_or_problem raw "remotePropertyBindings" none <;>
  obtain ⟨_, h₂⟩ | ⟨_, h₂⟩ := fields_eq_ok_or_problem raw "propertyBindings" none <;>
  obtain ⟨_, h₃⟩ | ⟨_, h₃⟩ := fields_eq_ok_or_problem raw "remoteServiceBindings" none <;>
  obtain ⟨_, h₄⟩ | ⟨_, h₄⟩ := fields_eq_ok_or_problem raw "remoteEventBindings" none <;>
  · rw [h₁, h₂, h₃, h₄]
    rfl

/-- A document itself may define members. The bindings in it are no part of their definitions. -/
lemma definedMembers_inObjects (raw : Fields) (location : Option String) (bindings : Bindings) :
    definedMembers (withoutStrayCode (raw.inObjects bindingKeys objectsOnly)) location
        bindings.objectsOnly
      = definedMembers raw location bindings := by
  have hmembers :
      ∀ key ∉ bindingKeys, (raw.inObjects bindingKeys objectsOnly).getD key = raw.getD key :=
    fun key h => getD_inObjects_of_not_mem h
  -- first the implementations, then the bindings, which no reader of members looks up here
  rw [definedMembers_objectsOnly]
  unfold definedMembers services
  rw [members_congr (hmembers "propertyDefinitions" (by decide)),
    members_congr (hmembers "eventDefinitions" (by decide)),
    members_congr (hmembers "subscriptions" (by decide)),
    fields_congr (hmembers "serviceDefinitions" (by decide)),
    fields_congr (hmembers "serviceImplementations" (by decide))]

lemma membersSource_of_shape (raw : Fields) :
    (∃ problems, Outcome.collected (fields raw "thingShape" none) = .ok (none, problems)
      ∧ Outcome.collected (fields (withoutStray raw .thing) "thingShape" none)
        = .ok (none, problems))
    ∨ ∃ shape shape', Outcome.collected (fields raw "thingShape" none) = .ok (some shape, [])
      ∧ Outcome.collected (fields (withoutStray raw .thing) "thingShape" none)
        = .ok (some shape', [])
      ∧ ∀ location bindings, definedMembers shape' location bindings.objectsOnly
        = definedMembers shape location bindings := by
  have hshape : fields (withoutStray raw .thing) "thingShape" none
      = Except.map withoutStrayCode (fields raw "thingShape" none) := by
    have hraw : withoutStray raw .thing
      = (raw.inObjects bindingKeys objectsOnly).inObjects ["thingShape"] withoutStrayCode := rfl
    rw [hraw, fields_inObjects (by decide) rfl,
      fields_congr (getD_inObjects_of_not_mem (by decide))]
  rw [hshape]
  obtain ⟨shape, h⟩ | ⟨p, h⟩ := fields_eq_ok_or_problem raw "thingShape" none
  · rw [h]
    exact .inr ⟨shape, _, rfl, rfl, definedMembers_objectsOnly shape⟩
  · rw [h]
    exact .inl ⟨[p], rfl, rfl⟩

/-- The part that defines the members is found in both documents or in none, and it defines the same
ones. -/
lemma membersSource_withoutStray (raw : Fields) (kind : EntityKind) :
    (∃ problems, membersSource raw kind = .ok (none, problems)
      ∧ membersSource (withoutStray raw kind) kind = .ok (none, problems))
    ∨ ∃ source source', membersSource raw kind = .ok (some source, [])
      ∧ membersSource (withoutStray raw kind) kind = .ok (some source', [])
      ∧ ∀ location bindings, definedMembers source' location bindings.objectsOnly
        = definedMembers source location bindings := by
  cases kind with
  | thing => exact membersSource_of_shape raw
  | thingTemplate => exact membersSource_of_shape raw
  | thingShape => exact .inr ⟨raw, _, rfl, rfl, definedMembers_inObjects raw⟩
  | dataShape => exact .inl ⟨[], rfl, rfl⟩
  | other => exact .inr ⟨raw, _, rfl, rfl, definedMembers_inObjects raw⟩

lemma entityMembers_withoutStray (raw : Fields) (kind : EntityKind) :
    entityMembers (withoutStray raw kind) kind = entityMembers raw kind := by
  unfold entityMembers
  rw [bindings_withoutStray]
  obtain ⟨problems, h, h'⟩ | ⟨source, source', h, h', hmembers⟩ :=
    membersSource_withoutStray raw kind
  · rw [h, h']
    cases bindings raw <;> rfl
  · -- both documents define the same members, and clashes are told by these
    rw [h, h']
    cases bindings raw with
    | error fault => rfl
    | ok read =>
      obtain ⟨found, problems⟩ := read
      cases found with
      | none => rfl
      | some found =>
        dsimp only [Except.map, bind, Except.bind, Option.map_some]
        rw [hmembers]

/-- A document comes to the same with `null` in the place of all bindings and implementations that
are no objects: to the same entity, or to the same problem. -/
theorem entity_withoutStray (raw : Fields) (kind : EntityKind) :
    entity (.object (withoutStray raw kind)) kind = entity (.object raw) kind := by
  have hrest : ∀ key, key ∉ memberKeys → (withoutStray raw kind).getD key = raw.getD key :=
    fun key h => getD_withoutStray h raw kind
  unfold entity
  dsimp only
  rw [text?_congr (hrest "name" (by decide))]
  cases text? raw "name" with
  | none => rfl
  | some name => exact namedEntity_congr hrest (entityMembers_withoutStray raw kind) name

/-- The document of a sensor with a property, and with something in the place of its remote binding.
-/
def sensorBoundTo (binding : Value) : Fields :=
  [("name", .text "Sensor"),
    ("propertyDefinitions", .object [("level", .object [("baseType", .text "NUMBER")])]),
    ("remotePropertyBindings", .object [("level", binding)])]

/-- A number in the place of the remote binding of a property is not reported, and the property has
none. -/
theorem strayBinding_unreported :
    (Value.object (sensorBoundTo (.number (.integer 5)))).IsKeyed
    ∧ ∃ sensor, entity (.object (sensorBoundTo (.number (.integer 5)))) .other = .ok sensor
      ∧ sensor.propertyDefinitions.map (fun p => (p.name, p.remoteBinding))
        = [("level", none)] := by
  refine ⟨?_, _, rfl, rfl⟩
  simpa [sensorBoundTo] using Value.IsKeyed.number

end Document

end EntityCompiler
