import EntityCompiler.Compilation
import EntityCompiler.Proofs.LawfulEntity

/-!
# The names of members

Every member of a class has the name of the field, property, service, event or subscription that it
is declared for. The names within each of these groups differ, and the properties and the services
are a single group, but the groups are not held against each other. Main statement: the names of all
members differ exactly if no event has the name of a property or a service, and no subscription has
the name of any of these (`Compilation.memberNames_nodup_iff`).
-/

namespace EntityCompiler

/-- The names of the members of a class. -/
def ClassDeclaration.memberNames (d : ClassDeclaration) : List String :=
  d.members.map (·.name)

/-! ## The name of each member -/

section

variable {separator : Separator}

lemma PropertyDefinition.name_declaration {property : PropertyDefinition}
    {permission : Option RuntimePermission} {declaration : PropertyDeclaration}
    (h : property.declaration permission separator = .ok declaration) :
    declaration.name = property.name := by
  unfold PropertyDefinition.declaration at h
  rw [Outcome.bind_eq_ok] at h
  obtain ⟨field, -, h⟩ := h
  rw [Outcome.bind_eq_ok] at h
  obtain ⟨remote, -, h⟩ := h
  rw [PropertyDeclaration.checked_eq_ok h]
  rfl

lemma DataShapeField.name_declaration {field : DataShapeField} {declaration : PropertyDeclaration}
    (h : DataShapeField.declaration field separator = .ok declaration) :
    declaration.name = field.name := by
  unfold DataShapeField.declaration at h
  rw [Outcome.bind_eq_ok] at h
  obtain ⟨declared, -, h⟩ := h
  rw [PropertyDeclaration.checked_eq_ok h]
  rfl

lemma EventDefinition.name_declaration {event : EventDefinition} {declaration : PropertyDeclaration}
    (h : event.declaration separator = .ok declaration) : declaration.name = event.name := by
  unfold EventDefinition.declaration at h
  rw [Outcome.bind_eq_ok] at h
  obtain ⟨data, -, h⟩ := h
  rw [Outcome.bind_eq_ok] at h
  obtain ⟨comment, -, h⟩ := h
  rw [PropertyDeclaration.checked_eq_ok h]
  rfl

lemma ServiceDefinition.name_declaration {service : ServiceDefinition}
    {permission : Option RuntimePermission} {declaration : MethodDeclaration}
    (h : service.declaration permission separator = .ok declaration) :
    declaration.name = service.name := by
  unfold ServiceDefinition.declaration at h
  rw [Outcome.bind_eq_ok] at h
  obtain ⟨implementation, -, h⟩ := h
  rw [Outcome.bind_eq_ok] at h
  obtain ⟨parameters, -, h⟩ := h
  rw [Outcome.bind_eq_ok] at h
  obtain ⟨returnType, -, h⟩ := h
  rw [Outcome.bind_eq_ok] at h
  obtain ⟨comment, -, h⟩ := h
  rw [← Outcome.pure_eq_ok.mp h]

lemma SubscriptionDefinition.name_declaration {subscription : SubscriptionDefinition}
    {declaration : MethodDeclaration} (h : subscription.declaration separator = .ok declaration) :
    declaration.name = subscription.name := by
  unfold SubscriptionDefinition.declaration at h
  split at h
  · simp [Outcome.problem] at h
  · rw [Outcome.bind_eq_ok] at h
    obtain ⟨body, -, h⟩ := h
    rw [Outcome.bind_eq_ok] at h
    obtain ⟨parameters, -, h⟩ := h
    rw [Outcome.bind_eq_ok] at h
    obtain ⟨comment, -, h⟩ := h
    rw [← Outcome.pure_eq_ok.mp h]

namespace Entity.DeclaredFrom

variable {entity : Entity} {parts : DeclaredParts} {d : ClassDeclaration}

lemma names_fields (h : entity.DeclaredFrom separator parts d) :
    (parts.fields.map Member.property).map (·.name) = entity.fieldDefinitions.map (·.name) :=
  (List.map_map ..).trans
    (Outcome.map_eq_of_forall₂ h.fields fun _ _ => DataShapeField.name_declaration)

lemma names_properties (h : entity.DeclaredFrom separator parts d) :
    (parts.properties.map Member.property).map (·.name) = entity.propertyDefinitions.map (·.name) :=
  (List.map_map ..).trans
    (Outcome.map_eq_of_forall₂ h.properties fun _ _ => PropertyDefinition.name_declaration)

lemma names_services (h : entity.DeclaredFrom separator parts d) :
    (parts.services.map Member.method).map (·.name) = entity.serviceDefinitions.map (·.name) :=
  (List.map_map ..).trans
    (Outcome.map_eq_of_forall₂ h.services fun _ _ => ServiceDefinition.name_declaration)

lemma names_events (h : entity.DeclaredFrom separator parts d) :
    (parts.events.map Member.property).map (·.name) = entity.eventDefinitions.map (·.name) :=
  (List.map_map ..).trans
    (Outcome.map_eq_of_forall₂ h.events fun _ _ => EventDefinition.name_declaration)

lemma names_subscriptions (h : entity.DeclaredFrom separator parts d) :
    (parts.subscriptions.map Member.method).map (·.name)
      = entity.subscriptionDefinitions.map (·.name) :=
  (List.map_map ..).trans
    (Outcome.map_eq_of_forall₂ h.subscriptions fun _ _ => SubscriptionDefinition.name_declaration)

lemma memberNames (h : entity.DeclaredFrom separator parts d) :
    d.memberNames = entity.fieldDefinitions.map (·.name) ++ entity.locallyDefinedNames
      ++ entity.eventDefinitions.map (·.name) ++ entity.subscriptionDefinitions.map (·.name) := by
  rw [ClassDeclaration.memberNames, h.members]
  simp only [List.map_append (f := fun m : Member => m.name), h.names_fields, h.names_properties,
    h.names_services, h.names_events, h.names_subscriptions, Entity.locallyDefinedNames,
    List.append_assoc]

end Entity.DeclaredFrom

end

/-! ## Names that differ -/

/-- The names of all groups differ if they do in each group, the first group stands alone, and no
two of the others have a name in common. -/
private lemma nodup_groups_iff {fields own events subscriptions : List String}
    (hfields : fields.Nodup)
    (hown : own.Nodup) (hevents : events.Nodup) (hsubscriptions : subscriptions.Nodup)
    (halone : fields ≠ [] → own = [] ∧ events = [] ∧ subscriptions = []) :
    (fields ++ own ++ events ++ subscriptions).Nodup
      ↔ (∀ name ∈ events, name ∉ own) ∧ ∀ name ∈ subscriptions, name ∉ own ∧ name ∉ events := by
  by_cases hnone : fields = []
  · rw [hnone, List.nil_append, List.nodup_append', List.nodup_append']
    simp only [hown, hevents, hsubscriptions, true_and, List.disjoint_append_left]
    exact ⟨fun ⟨h, hown, hevents⟩ => ⟨fun name hname hmem => h hmem hname,
        fun name hname => ⟨fun hmem => hown hmem hname, fun hmem => hevents hmem hname⟩⟩,
      fun ⟨h, hothers⟩ => ⟨fun name hmem hname => h name hname hmem,
        fun name hmem hname => (hothers name hname).1 hmem,
        fun name hmem hname => (hothers name hname).2 hmem⟩⟩
  · obtain ⟨rfl, rfl, rfl⟩ := halone hnone
    simpa using hfields

/-- Only a data shape has fields, and it has nothing else. -/
lemma Entity.NamedApart.alone {entity : Entity} (h : entity.NamedApart) (hentity : entity.Lawful)
    (hfields : entity.fieldDefinitions.map (·.name) ≠ []) :
    entity.locallyDefinedNames = [] ∧ entity.eventDefinitions.map (·.name) = []
      ∧ entity.subscriptionDefinitions.map (·.name) = [] := by
  have hkind : entity.kind = .dataShape := by
    unfold fieldDefinitions at hfields
    unfold kind
    cases hpart : entity.part with
    | dataShape fields => rfl
    | _ => rw [hpart] at hfields; contradiction
  obtain ⟨hservices, hevents, hsubscriptions⟩ := hentity.withoutBehavior hkind
  rw [locallyDefinedNames, h.withoutProperties hkind, hservices, hevents, hsubscriptions]
  exact ⟨rfl, rfl, rfl⟩

namespace Compilation

variable {document : Value} {kind : EntityKind} {separator : Separator} {d : ClassDeclaration}

/-- A compiled class has a member for each field, property, service, event and subscription of its
entity, with the same name. The names of the fields differ, and so do those of the properties and
services taken together, those of the events and those of the subscriptions. The names of all
members differ exactly if no event has the name of a property or a service, and no subscription has
the name of any of these. -/
theorem memberNames_nodup_iff (hdocument : document.IsKeyed)
    (h : compile document kind separator = .ok d) :
    ∃ entity, Document.entity document kind = .ok entity
      ∧ d.memberNames = entity.fieldDefinitions.map (·.name) ++ entity.locallyDefinedNames
        ++ entity.eventDefinitions.map (·.name) ++ entity.subscriptionDefinitions.map (·.name)
      ∧ (entity.fieldDefinitions.map (·.name)).Nodup ∧ entity.locallyDefinedNames.Nodup
      ∧ (entity.eventDefinitions.map (·.name)).Nodup
      ∧ (entity.subscriptionDefinitions.map (·.name)).Nodup
      ∧ (d.memberNames.Nodup
        ↔ (∀ event ∈ entity.eventDefinitions, event.name ∉ entity.locallyDefinedNames)
          ∧ ∀ subscription ∈ entity.subscriptionDefinitions,
            subscription.name ∉ entity.locallyDefinedNames
            ∧ subscription.name ∉ entity.eventDefinitions.map (·.name)) := by
  obtain ⟨entity, hentity, hdeclared⟩ := Outcome.bind_eq_ok.mp h
  obtain ⟨hlawful, -, hnamed, -⟩ := (Document.entity_named_sound hdocument kind).post hentity
  obtain ⟨parts, hparts⟩ := Entity.declaration_eq_ok hdeclared
  refine ⟨entity, hentity, hparts.memberNames, hnamed.fields_nodup, hlawful.members_nodup,
    hnamed.events_nodup, hnamed.subscriptions_nodup, ?_⟩
  rw [hparts.memberNames,
    nodup_groups_iff hnamed.fields_nodup hlawful.members_nodup hnamed.events_nodup
      hnamed.subscriptions_nodup (hnamed.alone hlawful),
    List.forall_mem_map, List.forall_mem_map]

/-- A document with a property, an event with the given name and a remote service. -/
def tankDocument (event : String) : Value :=
  .object [("name", .text "Tank"),
    ("propertyDefinitions", .object [("level", .object [("baseType", .text "NUMBER")])]),
    ("serviceDefinitions", .object [("drain", .object [])]),
    ("remoteServiceBindings", .object [("drain", .object [])]),
    ("eventDefinitions", .object [(event, .object [("dataShape", .text "LevelEvent")])])]

lemma isKeyed_tankDocument (event : String) : (tankDocument event).IsKeyed := by
  simp [tankDocument]

/-- An event with the name of a property: two members of the class have this name. -/
theorem eventNamedAsProperty_clashes :
    ∃ d, compile (tankDocument "level") .other .default = .ok d
      ∧ d.memberNames = ["level", "drain", "level"] ∧ ¬d.memberNames.Nodup := by
  refine ⟨_, rfl, rfl, ?_⟩
  decide

/-- The members of the tank differ in their names, as no group has a name of another one. -/
theorem tankDocument_memberNames :
    (tankDocument "full").IsKeyed
    ∧ ∃ d, compile (tankDocument "full") .other .default = .ok d
      ∧ ∃ entity, Document.entity (tankDocument "full") .other = .ok entity
        ∧ entity.eventDefinitions.map (·.name) = ["full"]
        ∧ entity.locallyDefinedNames = ["level", "drain"] ∧ d.memberNames.Nodup := by
  obtain ⟨entity, hentity, -, -, -, -, -, hiff⟩ :=
    @memberNames_nodup_iff _ _ .default _ (isKeyed_tankDocument "full")
      (show compile (tankDocument "full") .other .default = .ok _ from rfl)
  obtain rfl := Except.ok.inj (hentity.symm.trans (show Document.entity _ _ = .ok _ from rfl))
  refine ⟨isKeyed_tankDocument "full", _, rfl, _, hentity, rfl, rfl, hiff.mpr ?_⟩
  decide

end Compilation

end EntityCompiler
