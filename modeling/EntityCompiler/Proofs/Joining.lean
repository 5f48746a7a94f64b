import EntityCompiler.Proofs.Readings
import Mathlib.Data.Option.Basic

/-!
# Members are joined by their names

The binding of a member and the code of a service stand in maps of their own, apart from the
definition of the member. A document that describes an entity has a member for each definition, in
order, and each member has what stands under its own name in these maps, and nothing that stands
under another one.

Main statement: `Document.entity_joins`. Two documents that differ in these maps under other names
only describe entities with the same member of that name.
-/

namespace EntityCompiler

open Document

/-- A property has the base type, the description and the aspects of its definition, and the two
bindings that are given for it. The options of a remote binding are all its entries but the name of
the source. -/
structure PropertyDefinition.JoinedFrom (definition remote bound : Value) (location : String)
    (property : PropertyDefinition) : Prop where
  base : fieldBase definition location
    = .ok ⟨property.baseType, property.description, property.aspects⟩
  remoteBinding : property.remoteBinding = remote.fields?.map fun entries =>
    ⟨text? entries "sourceName", entries.filter (·.1 != "sourceName")⟩
  localBinding : ∀ entries, bound = .object entries → ∃ thing source,
    text? entries "sourceThingName" = some thing ∧ text? entries "sourceName" = some source
      ∧ property.localBinding = some ⟨thing, source⟩
  notBound : bound.fields? = none → property.localBinding = none

/-- A service has the code and the remote binding that are given for it. -/
structure ServiceDefinition.JoinedFrom (implementation remote : Value)
    (service : ServiceDefinition) :
    Prop where
  code : ∀ entries, implementation = .object entries →
    Fields.getD entries "handlerName" = .text scriptHandler
      ∧ ∃ code, scriptCode? entries = some code ∧ service.code = some code
  notImplemented : implementation.fields? = none → service.code = none
  remoteBinding : ∀ entries, remote = .object entries → ∃ timeout,
    number? entries "timeout" (below "remoteServiceBindings" [service.name]) = .ok timeout
      ∧ service.remoteBinding
        = some ⟨text? entries "sourceName", flag entries "enableQueue", timeout⟩
  notBound : remote.fields? = none → service.remoteBinding = none

/-- An event has the data shape of its definition and the remote binding that is given for it. -/
structure EventDefinition.JoinedFrom (definition : Fields) (remote : Value)
    (event : EventDefinition) :
    Prop where
  dataShape : text? definition "dataShape" = some event.dataShape
  remoteBinding : event.remoteBinding = remote.fields?.map fun entries =>
    ⟨(text? entries "sourceName").getD event.name⟩

/-- A subscription has the event and the code of its definition. -/
structure SubscriptionDefinition.JoinedFrom (definition : Fields)
    (subscription : SubscriptionDefinition) : Prop where
  eventName : text? definition "eventName" = some subscription.eventName
  code : (definition.getD "serviceImplementation").fields?.bind scriptCode? = some subscription.code

namespace Document

open Outcome (failure Sound)

variable {raw : Fields} {kind : EntityKind}

/-! ## A document that describes an entity has its maps -/

lemma isMap_of_collected {key : String} {location : Option String} {found : Option Fields}
    (h : Outcome.collected (fields raw key location) = .ok (found, [])) :
    (raw.getD key).IsMap ∧ found = some (entriesUnder raw key) := by
  obtain ⟨entries, hentries, rfl⟩ := Outcome.collected_eq_ok_nil.mp h
  obtain ⟨hmap, rfl⟩ := isMap_of_fields_eq_ok hentries
  exact ⟨hmap, rfl⟩

lemma isMap_of_members {α : Type} {key : String} {location : Option String}
    {read : String → Value → String → Outcome α} {found : List α}
    (h : members raw key location read = .ok (found, [])) : (raw.getD key).IsMap := by
  unfold members at h
  rw [Outcome.bind_eq_ok] at h
  obtain ⟨⟨entries, problems⟩, hentries, h⟩ := h
  rw [Outcome.bind_eq_ok] at h
  obtain ⟨⟨all, others⟩, -, h⟩ := h
  obtain ⟨-, hproblems⟩ := Prod.mk.inj (Outcome.pure_eq_ok.mp h)
  obtain ⟨rfl, -⟩ := List.append_eq_nil_iff.mp hproblems
  exact (isMap_of_collected hentries).1

lemma isMap_of_services {location : Option String} {bound : Bindings}
    {found : List ServiceDefinition}
    (h : services raw location bound = .ok (found, [])) :
    (raw.getD "serviceDefinitions").IsMap ∧ (raw.getD "serviceImplementations").IsMap := by
  unfold services at h
  rw [Outcome.bind_eq_ok] at h
  obtain ⟨⟨definitions, problems⟩, hdefinitions, h⟩ := h
  rw [Outcome.bind_eq_ok] at h
  obtain ⟨⟨implementations, others⟩, himplementations, h⟩ := h
  dsimp only at h
  split at h
  · obtain ⟨-, rfl⟩ := Prod.mk.inj (Outcome.pure_eq_ok.mp h)
    have := (isMap_of_collected hdefinitions).2
    contradiction
  · obtain ⟨-, rfl⟩ := Prod.mk.inj (Outcome.pure_eq_ok.mp h)
    have := (isMap_of_collected himplementations).2
    contradiction
  · have hd := Outcome.collected_eq_ok_some hdefinitions
    have hi := Outcome.collected_eq_ok_some himplementations
    exact ⟨(isMap_of_fields_eq_ok hd.1).1, (isMap_of_fields_eq_ok hi.1).1⟩

lemma isMap_of_definedMembers {location : Option String} {bound : Bindings} {found : Members}
    (h : definedMembers raw location bound = .ok (found, [])) :
    ∀ key ∈ ["propertyDefinitions", "serviceDefinitions", "serviceImplementations",
      "eventDefinitions", "subscriptions"], (raw.getD key).IsMap := by
  unfold definedMembers at h
  rw [Outcome.bind_eq_ok] at h
  obtain ⟨⟨properties, problems₁⟩, h₁, h⟩ := h
  rw [Outcome.bind_eq_ok] at h
  obtain ⟨⟨services, problems₂⟩, h₂, h⟩ := h
  rw [Outcome.bind_eq_ok] at h
  obtain ⟨⟨events, problems₃⟩, h₃, h⟩ := h
  rw [Outcome.bind_eq_ok] at h
  obtain ⟨⟨subscriptions, problems₄⟩, h₄, h⟩ := h
  obtain ⟨-, hproblems⟩ := Prod.mk.inj (Outcome.pure_eq_ok.mp h)
  simp only [List.append_eq_nil_iff] at hproblems
  obtain ⟨⟨⟨rfl, rfl⟩, rfl⟩, rfl⟩ := hproblems
  simp only [List.forall_mem_cons]
  exact ⟨isMap_of_members h₁, (isMap_of_services h₂).1, (isMap_of_services h₂).2,
    isMap_of_members h₃,
    isMap_of_members h₄, by simp⟩

lemma isMap_of_bindings {bound : Option Bindings} (h : bindings raw = .ok (bound, [])) :
    bound = some (allBindings raw) ∧ ∀ key ∈ ["remotePropertyBindings", "propertyBindings",
      "remoteServiceBindings", "remoteEventBindings"], (raw.getD key).IsMap := by
  unfold bindings at h
  rw [Outcome.bind_eq_ok] at h
  obtain ⟨⟨remoteProperties, problems₁⟩, h₁, h⟩ := h
  rw [Outcome.bind_eq_ok] at h
  obtain ⟨⟨properties, problems₂⟩, h₂, h⟩ := h
  rw [Outcome.bind_eq_ok] at h
  obtain ⟨⟨remoteServices, problems₃⟩, h₃, h⟩ := h
  rw [Outcome.bind_eq_ok] at h
  obtain ⟨⟨remoteEvents, problems₄⟩, h₄, h⟩ := h
  obtain ⟨hbound, hproblems⟩ := Prod.mk.inj (Outcome.pure_eq_ok.mp h)
  simp only [List.append_eq_nil_iff] at hproblems
  obtain ⟨⟨⟨rfl, rfl⟩, rfl⟩, rfl⟩ := hproblems
  obtain ⟨hmap₁, rfl⟩ := isMap_of_collected h₁
  obtain ⟨hmap₂, rfl⟩ := isMap_of_collected h₂
  obtain ⟨hmap₃, rfl⟩ := isMap_of_collected h₃
  obtain ⟨hmap₄, rfl⟩ := isMap_of_collected h₄
  simp only [List.forall_mem_cons]
  exact ⟨hbound.symm, hmap₁, hmap₂, hmap₃, hmap₄, by simp⟩

lemma isMap_of_membersSource {source : Option Fields} (hkind : kind ≠ .dataShape)
    (h : membersSource raw kind = .ok (source, [])) :
    source = some (memberPart raw kind)
      ∧ ∀ key, membersKey? kind = some key → (raw.getD key).IsMap := by
  have hnested : Outcome.collected (fields raw "thingShape" none) = .ok (source, []) →
      source = some (entriesUnder raw "thingShape")
        ∧ ∀ key, some "thingShape" = some key → (raw.getD key).IsMap := by
    intro h
    obtain ⟨hmap, hsource⟩ := isMap_of_collected h
    exact ⟨hsource, by rintro key ⟨⟩; exact hmap⟩
  have htop : some raw = source →
      source = some raw ∧ ∀ key, (none : Option String) = some key → (raw.getD key).IsMap :=
    fun hsource => ⟨hsource.symm, by simp⟩
  cases kind with
  | thing => exact hnested h
  | thingTemplate => exact hnested h
  | thingShape => exact htop (Prod.mk.inj (Except.ok.inj h)).1
  | dataShape => contradiction
  | other => exact htop (Prod.mk.inj (Except.ok.inj h)).1

/-- If the members can be read without a problem, the maps that they are read from are there. -/
lemma hasMaps_of_entityMembers {found : Members} (hkind : kind ≠ .dataShape)
    (h : entityMembers raw kind = .ok (found, [])) : HasMaps raw kind := by
  unfold entityMembers at h
  rw [Outcome.bind_eq_ok] at h
  obtain ⟨⟨source, sourceProblems⟩, hsource, h⟩ := h
  rw [Outcome.bind_eq_ok] at h
  obtain ⟨⟨bound, bindingProblems⟩, hbound, h⟩ := h
  dsimp only at h
  split at h
  · rename_i part bindings
    rw [Outcome.bind_eq_ok] at h
    obtain ⟨⟨members, problems⟩, hmembers, h⟩ := h
    obtain ⟨-, hproblems⟩ := Prod.mk.inj (Outcome.pure_eq_ok.mp h)
    simp only [List.append_eq_nil_iff] at hproblems
    obtain ⟨⟨⟨rfl, rfl⟩, rfl⟩, -⟩ := hproblems
    obtain ⟨hpart, hshape⟩ := isMap_of_membersSource hkind hsource
    obtain rfl := Option.some.inj hpart
    exact {
      shape := hshape
      bindings := (isMap_of_bindings hbound).2
      definitions := isMap_of_definedMembers hmembers }
  · -- a part that is missing has left a problem
    rename_i hmissing
    obtain ⟨-, hproblems⟩ := Prod.mk.inj (Outcome.pure_eq_ok.mp h)
    obtain ⟨rfl, rfl⟩ := List.append_eq_nil_iff.mp hproblems
    exact absurd (isMap_of_bindings hbound).1
      (hmissing _ _ (isMap_of_membersSource hkind hsource).1)

/-! ## One member for each definition -/

/-- The members of an entity are what is read of the definitions in a document, one for each and in
order. -/
structure DescribesMembers (raw : Fields) (kind : EntityKind) (described : Entity) : Prop where
  properties : List.Forall₂ (fun entry p => readProperty raw kind entry = .ok p)
    (definitionsUnder raw kind "propertyDefinitions") described.propertyDefinitions
  services : List.Forall₂ (fun entry s => readService raw kind entry = .ok s)
    (definitionsUnder raw kind "serviceDefinitions") described.serviceDefinitions
  events : List.Forall₂ (fun entry e => readEvent raw kind entry = .ok e)
    (definitionsUnder raw kind "eventDefinitions") described.eventDefinitions
  subscriptions : List.Forall₂ (fun entry s => readSubscription kind entry = .ok s)
    (definitionsUnder raw kind "subscriptions") described.subscriptionDefinitions

/-- Without a problem, each item has its result. -/
lemma forall₂_filterMap {α β : Type} {P : α → β → Prop} {f : α → Outcome β} {xs : List α}
    (h : ∀ x ∈ xs, Sound (P x) (f x)) (hquiet : xs.flatMap (fun x => failure (f x)) = []) :
    List.Forall₂ (fun x y => f x = .ok y) xs (xs.filterMap fun x => (f x).toOption) := by
  have hgather := Outcome.gather_eq h
  rw [hquiet] at hgather
  exact Outcome.gather_eq_ok_nil.mp hgather

lemma Entity.eq_of_checked {entity checked : Entity} (h : entity.checked = .ok checked) :
    checked = entity := by
  unfold Entity.checked at h
  rw [Outcome.bind_eq_ok] at h
  obtain ⟨-, -, h⟩ := h
  rw [Outcome.bind_eq_ok] at h
  obtain ⟨-, -, h⟩ := h
  rw [Outcome.bind_eq_ok] at h
  obtain ⟨-, -, h⟩ := h
  exact (Outcome.pure_eq_ok.mp h).symm

lemma namedEntity_eq_ok {name : String} {described : Entity}
    (h : namedEntity name raw kind = .ok described) :
    ∃ found, entityMembers raw kind = .ok (found, [])
      ∧ described.propertyDefinitions = found.properties := by
  unfold namedEntity at h
  rw [Outcome.bind_eq_ok] at h
  obtain ⟨⟨members, problems⟩, hmembers, h⟩ := h
  rw [Outcome.bind_eq_ok] at h
  obtain ⟨⟨definitions, definitionProblems⟩, -, h⟩ := h
  rw [Outcome.bind_eq_ok] at h
  obtain ⟨⟨tables, tableProblems⟩, -, h⟩ := h
  rw [Outcome.bind_eq_ok] at h
  obtain ⟨⟨visibility, visibilityProblems⟩, -, h⟩ := h
  rw [Outcome.bind_eq_ok] at h
  obtain ⟨⟨permissions, permissionProblems⟩, -, h⟩ := h
  rw [Outcome.bind_eq_ok] at h
  obtain ⟨⟨aspects, aspectProblems⟩, -, h⟩ := h
  dsimp only at h
  split at h
  · obtain ⟨part, -, hchecked⟩ := Outcome.bind_eq_ok.mp h
    obtain rfl := Entity.eq_of_checked hchecked
    exact ⟨members, hmembers, rfl⟩
  · contradiction

lemma describesMembers_of_entity {described : Entity} (hkeyed : (Value.object raw).IsKeyed)
    (hkind : kind ≠ .dataShape) (h : entity (.object raw) kind = .ok described) :
    DescribesMembers raw kind described := by
  have hparts := Fields.isKeyed_of_object hkeyed
  have hdefinitions := fun key => (isKeyed_definitionsUnder hparts kind key).values
  unfold entity at h
  dsimp only at h
  split at h
  · rename_i name hname
    obtain ⟨found, hfound, -⟩ := namedEntity_eq_ok h
    rw [namedEntity_eq hparts (hasMaps_of_entityMembers hkind hfound) hkind name] at h
    split at h
    · rename_i hquiet
      obtain ⟨part, -, hchecked⟩ := Outcome.bind_eq_ok.mp h
      obtain rfl := Entity.eq_of_checked hchecked
      simp only [generalFailures, memberFailures, List.isEmpty_iff,
        List.append_eq_nil_iff] at hquiet
      obtain ⟨⟨⟨⟨⟨hproperties, hservices⟩, hevents⟩, hsubscriptions⟩, -⟩, -⟩ := hquiet
      exact {
        properties := forall₂_filterMap (fun entry hentry =>
          readProperty_sound (hdefinitions _ entry hentry)) hproperties
        services := forall₂_filterMap (fun entry hentry =>
          readService_sound (hdefinitions _ entry hentry)) hservices
        events := forall₂_filterMap (fun entry hentry =>
          readEvent_sound (hdefinitions _ entry hentry)) hevents
        subscriptions := forall₂_filterMap (fun entry hentry =>
          readSubscription_sound (hdefinitions _ entry hentry)) hsubscriptions }
    · contradiction
  · simp [Outcome.problem] at h

/-! ## What each member is joined from -/

lemma readNamed_eq_ok {α : Type} {location : String} {read : String → Value → String → Outcome α}
    {entry : String × Value} {a : α} (h : readNamed location read entry = .ok a) :
    read entry.1 entry.2 (below location [entry.1]) = .ok a := by
  unfold readNamed at h
  rw [Outcome.bind_eq_ok] at h
  obtain ⟨-, -, h⟩ := h
  exact h

lemma definition_eq_ok {value : Value} {location : String} {entries : Fields}
    (h : definition value location = .ok entries) : value.fields? = some entries := by
  unfold definition at h
  split at h
  · rw [← Except.ok.inj h]
    rfl
  · simp [Outcome.problem] at h

lemma joinedFrom_of_property {name location : String} {definition remote bound : Value}
    {p : PropertyDefinition} (h : property name definition remote bound location = .ok p) :
    p.name = name ∧ p.JoinedFrom definition remote bound location := by
  unfold property at h
  rw [Outcome.bind_eq_ok] at h
  obtain ⟨base, hbase, h⟩ := h
  rw [Outcome.bind_eq_ok] at h
  obtain ⟨binding, hbinding, h⟩ := h
  unfold PropertyDefinition.checked at h
  rw [Outcome.bind_eq_ok] at h
  obtain ⟨-, -, h⟩ := h
  obtain rfl := Outcome.pure_eq_ok.mp h
  refine ⟨rfl, hbase, rfl, ?_, ?_⟩
  · rintro entries rfl
    unfold localPropertyBinding at hbinding
    dsimp only at hbinding
    split at hbinding
    · rename_i thing source hthing hsource
      exact ⟨thing, source, hthing, hsource, (Except.ok.inj hbinding).symm⟩
    · simp [Outcome.problem] at hbinding
  · intro hnone
    unfold localPropertyBinding at hbinding
    split at hbinding
    · simp [Value.fields?] at hnone
    · exact (Except.ok.inj hbinding).symm

lemma scriptCode_eq_ok {implementation : Fields} {location code : String}
    (h : scriptCode implementation location = .ok code) :
    scriptCode? implementation = some code := by
  unfold scriptCode at h
  split at h
  · rename_i found hfound
    rw [hfound, Except.ok.inj h]
  · simp [Outcome.problem] at h

lemma serviceCode_eq_ok {name location : String} {entries : Fields} {code : Option String}
    (h : serviceCode name (.object entries) location = .ok code) :
    Fields.getD entries "handlerName" = .text scriptHandler
      ∧ ∃ text, scriptCode? entries = some text ∧ code = some text := by
  unfold serviceCode at h
  dsimp only at h
  split at h
  · rename_i hhandler
    obtain ⟨text, htext, rfl⟩ := Outcome.map_eq_ok.mp h
    refine ⟨?_, text, scriptCode_eq_ok htext, rfl⟩
    -- what is compared is the text of the handler, if it is one
    have hsome := eq_of_beq hhandler
    cases hvalue : Fields.getD entries "handlerName" with
    | text s =>
      rw [hvalue] at hsome
      rw [Option.some.inj hsome]
    | _ =>
      rw [hvalue] at hsome
      contradiction
  · simp [Outcome.problem] at h

lemma joinedFrom_of_service {name location place : String}
    {definition implementation remote : Value}
    {s : ServiceDefinition}
    (h : service name definition implementation remote location place = .ok s) :
    s.name = name ∧ s.JoinedFrom implementation remote := by
  unfold service at h
  rw [Outcome.bind_eq_ok] at h
  obtain ⟨raw, -, h⟩ := h
  rw [Outcome.bind_eq_ok] at h
  obtain ⟨⟨code, codeProblems⟩, hcode, h⟩ := h
  rw [Outcome.bind_eq_ok] at h
  obtain ⟨⟨result, resultProblems⟩, -, h⟩ := h
  rw [Outcome.bind_eq_ok] at h
  obtain ⟨⟨parameters, parameterProblems⟩, -, h⟩ := h
  rw [Outcome.bind_eq_ok] at h
  obtain ⟨⟨aspects, aspectProblems⟩, -, h⟩ := h
  rw [Outcome.bind_eq_ok] at h
  obtain ⟨⟨binding, bindingProblems⟩, hbinding, h⟩ := h
  -- a service is put together only where none of its five parts has left a problem
  dsimp only at h
  split at h
  · unfold ServiceDefinition.checked at h
    rw [Outcome.bind_eq_ok] at h
    obtain ⟨-, -, h⟩ := h
    obtain rfl := Outcome.pure_eq_ok.mp h
    have hcode := (Outcome.collected_eq_ok_some hcode).1
    have hbinding := (Outcome.collected_eq_ok_some hbinding).1
    refine ⟨rfl, ?_, ?_, ?_, ?_⟩
    · rintro entries rfl
      exact serviceCode_eq_ok hcode
    · intro hnone
      unfold serviceCode at hcode
      split at hcode
      · simp [Value.fields?] at hnone
      · exact (Except.ok.inj hcode).symm
    · rintro entries rfl
      obtain ⟨timeout, htimeout, rfl⟩ := Outcome.map_eq_ok.mp hbinding
      exact ⟨timeout, htimeout, rfl⟩
    · intro hnone
      unfold remoteServiceBinding at hbinding
      split at hbinding
      · simp [Value.fields?] at hnone
      · exact (Except.ok.inj hbinding).symm
  · contradiction

lemma joinedFrom_of_event {name location : String} {definition remote : Value} {e : EventDefinition}
    (h : event name definition remote location = .ok e) :
    e.name = name ∧ e.JoinedFrom (definition.fields?.getD []) remote := by
  unfold event at h
  rw [Outcome.bind_eq_ok] at h
  obtain ⟨raw, hraw, h⟩ := h
  have hfields := definition_eq_ok hraw
  split at h
  · simp [Outcome.problem] at h
  · rename_i dataShape hdataShape
    obtain rfl := Outcome.pure_eq_ok.mp h
    rw [hfields]
    exact ⟨rfl, hdataShape, rfl⟩

lemma joinedFrom_of_subscription {name location : String} {definition : Value}
    {s : SubscriptionDefinition} (h : subscription name definition location = .ok s) :
    s.name = name ∧ s.JoinedFrom (definition.fields?.getD []) := by
  unfold subscription at h
  rw [Outcome.bind_eq_ok] at h
  obtain ⟨raw, hraw, h⟩ := h
  have hfields := definition_eq_ok hraw
  split at h
  · simp [Outcome.problem] at h
  · rename_i eventName implementation hevent himplementation
    obtain ⟨code, hcode, h⟩ := Outcome.bind_eq_ok.mp h
    obtain rfl := Outcome.pure_eq_ok.mp h
    rw [hfields]
    exact ⟨rfl, hevent, by rw [Option.getD_some, himplementation]; exact scriptCode_eq_ok hcode⟩
  · simp [Outcome.problem] at h

section Names

variable {entry : String × Value}

lemma name_of_readProperty {p : PropertyDefinition} (h : readProperty raw kind entry = .ok p) :
    p.name = entry.1 :=
  (joinedFrom_of_property (readNamed_eq_ok h)).1

lemma name_of_readService {s : ServiceDefinition} (h : readService raw kind entry = .ok s) :
    s.name = entry.1 :=
  (joinedFrom_of_service (readNamed_eq_ok h)).1

lemma name_of_readEvent {e : EventDefinition} (h : readEvent raw kind entry = .ok e) :
    e.name = entry.1 :=
  (joinedFrom_of_event (readNamed_eq_ok h)).1

lemma name_of_readSubscription {s : SubscriptionDefinition}
    (h : readSubscription kind entry = .ok s) :
    s.name = entry.1 :=
  (joinedFrom_of_subscription (readNamed_eq_ok h)).1

end Names

/-! ## What is read under a name -/

/-- Two documents that have the same implementation and the same bindings under a name, or none. -/
structure JoinAlike (name : String) (kind : EntityKind) (raw raw' : Fields) : Prop where
  implementation : (definitionsUnder raw kind "serviceImplementations").getD name
    = (definitionsUnder raw' kind "serviceImplementations").getD name
  bindings : ∀ key ∈ ["remotePropertyBindings", "propertyBindings", "remoteServiceBindings",
    "remoteEventBindings"], (entriesUnder raw key).getD name = (entriesUnder raw' key).getD name

namespace JoinAlike

variable {name : String} {raw' : Fields}

lemma readProperty_eq (h : JoinAlike name kind raw raw') (value : Value) :
    readProperty raw kind (name, value) = readProperty raw' kind (name, value) := by
  simp only [readProperty, readNamed, allBindings, h.bindings "remotePropertyBindings" (by decide),
    h.bindings "propertyBindings" (by decide)]

lemma readService_eq (h : JoinAlike name kind raw raw') (value : Value) :
    readService raw kind (name, value) = readService raw' kind (name, value) := by
  simp only [readService, readNamed, allBindings, h.bindings "remoteServiceBindings" (by decide),
    h.implementation]

lemma readEvent_eq (h : JoinAlike name kind raw raw') (value : Value) :
    readEvent raw kind (name, value) = readEvent raw' kind (name, value) := by
  simp only [readEvent, readNamed, allBindings, h.bindings "remoteEventBindings" (by decide)]

end JoinAlike

/-! ## The member of a name -/

/-- Two documents that have the same under a name in all maps of definitions, implementations and
bindings. -/
structure AgreeOn (name : String) (kind : EntityKind) (raw raw' : Fields) : Prop where
  definitions : ∀ key ∈ ["propertyDefinitions", "serviceDefinitions", "serviceImplementations",
    "eventDefinitions", "subscriptions"],
    (definitionsUnder raw kind key).get? name = (definitionsUnder raw' kind key).get? name
  bindings : ∀ key ∈ ["remotePropertyBindings", "propertyBindings", "remoteServiceBindings",
    "remoteEventBindings"], (entriesUnder raw key).get? name = (entriesUnder raw' key).get? name

/-- What belongs to the items of a list, one by one, and has their names, is found where the items
are. -/
lemma find?_name_of_forall₂ {β : Type} {f : String × Value → Outcome β} {nameOf : β → String}
    {entries : Fields} {found : List β}
    (h : List.Forall₂ (fun entry y => f entry = .ok y) entries found)
    (hname : ∀ entry y, f entry = .ok y → nameOf y = entry.1) (name : String) :
    found.find? (nameOf · == name) = (entries.get? name).bind fun value =>
      (f (name, value)).toOption := by
  induction h with
  | nil => rfl
  | @cons entry y entries found hentry _ ih =>
    obtain ⟨key, value⟩ := entry
    have hy : nameOf y = key := hname _ y hentry
    rw [List.find?_cons, hy]
    unfold Fields.get? at ih ⊢
    rw [List.find?_cons]
    -- the first entry of the name has the first result that bears it
    by_cases hkey : key = name
    · subst hkey
      simp [hentry, Except.toOption]
    · rw [beq_false_of_ne hkey]
      exact ih

/-- The members of a name are the same in two entities. -/
structure SameMember (name : String) (described described' : Entity) : Prop where
  property : described.propertyDefinitions.find? (·.name == name)
    = described'.propertyDefinitions.find? (·.name == name)
  service : described.serviceDefinitions.find? (·.name == name)
    = described'.serviceDefinitions.find? (·.name == name)
  event : described.eventDefinitions.find? (·.name == name)
    = described'.eventDefinitions.find? (·.name == name)
  subscription : described.subscriptionDefinitions.find? (·.name == name)
    = described'.subscriptionDefinitions.find? (·.name == name)

section SameName

variable {name : String} {raw' : Fields}

lemma AgreeOn.joinAlike (h : AgreeOn name kind raw raw') : JoinAlike name kind raw raw' where
  implementation := congrArg (·.getD .null) (h.definitions "serviceImplementations" (by decide))
  bindings := fun key hkey => congrArg (·.getD .null) (h.bindings key hkey)

/-- The definition of a name is read with what stands under this name, so it is read alike where
that is the same. -/
lemma AgreeOn.sameMember {described described' : Entity} (h : AgreeOn name kind raw raw')
    (hmembers : DescribesMembers raw kind described)
    (hmembers' : DescribesMembers raw' kind described') :
    SameMember name described described' := by
  -- in both entities the member is looked up by its definition, and these are the same
  constructor
  · rw [find?_name_of_forall₂ hmembers.properties fun _ _ => name_of_readProperty,
      find?_name_of_forall₂ hmembers'.properties fun _ _ => name_of_readProperty,
      h.definitions "propertyDefinitions" (by decide)]
    simp only [h.joinAlike.readProperty_eq]
  · rw [find?_name_of_forall₂ hmembers.services fun _ _ => name_of_readService,
      find?_name_of_forall₂ hmembers'.services fun _ _ => name_of_readService,
      h.definitions "serviceDefinitions" (by decide)]
    simp only [h.joinAlike.readService_eq]
  · rw [find?_name_of_forall₂ hmembers.events fun _ _ => name_of_readEvent,
      find?_name_of_forall₂ hmembers'.events fun _ _ => name_of_readEvent,
      h.definitions "eventDefinitions" (by decide)]
    simp only [h.joinAlike.readEvent_eq]
  · rw [find?_name_of_forall₂ hmembers.subscriptions fun _ _ => name_of_readSubscription,
      find?_name_of_forall₂ hmembers'.subscriptions fun _ _ => name_of_readSubscription,
      h.definitions "subscriptions" (by decide)]

end SameName

/-- An entity that a document describes has a property, a service, an event or a subscription for
each definition, in order and with its name. Each has the bindings and the code that stand under its
own name. So if another document describes an entity, and has the same under a name in the maps of
definitions, implementations and bindings, then the members of this name are the same, whatever
stands under other names. -/
theorem entity_joins {described : Entity} (hkeyed : (Value.object raw).IsKeyed)
    (hkind : kind ≠ .dataShape)
    (h : entity (.object raw) kind = .ok described) :
    List.Forall₂ (fun entry p => p.name = entry.1
        ∧ p.JoinedFrom entry.2 ((allBindings raw).remoteProperties.getD entry.1)
          ((allBindings raw).properties.getD entry.1)
          (below (below (membersKey? kind) ["propertyDefinitions"]) [entry.1]))
      (definitionsUnder raw kind "propertyDefinitions") described.propertyDefinitions
    ∧ List.Forall₂ (fun entry s => s.name = entry.1
        ∧ s.JoinedFrom ((definitionsUnder raw kind "serviceImplementations").getD entry.1)
          ((allBindings raw).remoteServices.getD entry.1))
      (definitionsUnder raw kind "serviceDefinitions") described.serviceDefinitions
    ∧ List.Forall₂ (fun entry e => e.name = entry.1
        ∧ e.JoinedFrom (entry.2.fields?.getD []) ((allBindings raw).remoteEvents.getD entry.1))
      (definitionsUnder raw kind "eventDefinitions") described.eventDefinitions
    ∧ List.Forall₂ (fun entry s => s.name = entry.1 ∧ s.JoinedFrom (entry.2.fields?.getD []))
      (definitionsUnder raw kind "subscriptions") described.subscriptionDefinitions
    ∧ ∀ raw' described' name, (Value.object raw').IsKeyed →
      entity (.object raw') kind = .ok described' →
        AgreeOn name kind raw raw' → SameMember name described described' := by
  have hmembers := describesMembers_of_entity hkeyed hkind h
  refine ⟨?_, ?_, ?_, ?_, ?_⟩
  · exact hmembers.properties.imp fun _ _ hp => joinedFrom_of_property (readNamed_eq_ok hp)
  · exact hmembers.services.imp fun _ _ hs => joinedFrom_of_service (readNamed_eq_ok hs)
  · exact hmembers.events.imp fun _ _ he => joinedFrom_of_event (readNamed_eq_ok he)
  · exact hmembers.subscriptions.imp fun _ _ hs => joinedFrom_of_subscription (readNamed_eq_ok hs)
  · intro raw' described' name hkeyed' h' hagree
    exact hagree.sameMember hmembers (describesMembers_of_entity hkeyed' hkind h')

/-- The document of a sensor with two properties, the first of which is bound to the given source.
-/
def sensorParts (source : String) : Fields :=
  [("name", .text "Sensor"),
    ("remotePropertyBindings", .object [("unit", .object [("sourceName", .text source)]),
      ("level", .object [("pushType", .text "ALWAYS"), ("sourceName", .text "L1"),
        ("cacheTime", .null)])]),
    ("propertyDefinitions", .object [("unit", .object [("baseType", .text "STRING")]),
      ("level", .object [("baseType", .text "NUMBER")])])]

/-- The level has its own source and options, in their order, and it is the same property whatever
the unit is bound to. -/
theorem sensorParts_joins :
    (∀ source, (Value.object (sensorParts source)).IsKeyed) ∧ EntityKind.other ≠ .dataShape
    ∧ AgreeOn "level" .other (sensorParts "U1") (sensorParts "U2")
    ∧ ∃ described described', entity (.object (sensorParts "U1")) .other = .ok described
      ∧ entity (.object (sensorParts "U2")) .other = .ok described'
      ∧ SameMember "level" described described'
      ∧ (described.propertyDefinitions.find? (·.name == "level")).map (·.remoteBinding)
        = some (some ⟨some "L1", [("pushType", .text "ALWAYS"), ("cacheTime", .null)]⟩)
      ∧ described.propertyDefinitions.map (·.name) = ["unit", "level"] := by
  have hkeyed : ∀ source, (Value.object (sensorParts source)).IsKeyed := fun source => by
    simp [sensorParts, Value.IsKeyed.null]
  have hagree : AgreeOn "level" .other (sensorParts "U1") (sensorParts "U2") := by
    constructor
    · simp only [List.forall_mem_cons]
      exact ⟨rfl, rfl, rfl, rfl, rfl, by simp⟩
    · simp only [List.forall_mem_cons]
      exact ⟨rfl, rfl, rfl, rfl, by simp⟩
  obtain ⟨-, -, -, -, hsame⟩ := @entity_joins (sensorParts "U1") .other _ (hkeyed "U1")
    (by decide) rfl
  exact ⟨hkeyed, by decide, hagree, _, _, rfl, rfl, hsame _ _ _ (hkeyed "U2") rfl hagree, rfl, rfl⟩

end Document

end EntityCompiler
