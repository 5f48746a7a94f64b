import EntityCompiler.Declaration.OfEntity
import EntityCompiler.Proofs.Outcome

/-!
# What a declared class is made of

`Entity.declaration` goes through the parts of an entity one after the other and collects the
problems on the way. `Entity.declaration_eq_ok` says once what a run that succeeds has done: each
part has been declared on its own, none of them is left out, and the class is put together from them
in a fixed order.
-/

namespace EntityCompiler

/-- The parts that the class of an entity is put together from. -/
structure DeclaredParts where
  fields : List PropertyDeclaration
  tables : List Decorator
  configuration : List Decorator
  properties : List PropertyDeclaration
  services : List MethodDeclaration
  events : List PropertyDeclaration
  subscriptions : List MethodDeclaration

namespace Entity

/-- The class `d` of an entity is put together from these parts. -/
structure DeclaredFrom (entity : Entity) (separator : Separator) (parts : DeclaredParts)
    (d : ClassDeclaration) : Prop where
  name : className separator entity.name = .ok d.name
  base : entity.base separator = .ok d.base
  fields : List.Forall₂ (fun f g => DataShapeField.declaration f separator = .ok g)
    entity.fieldDefinitions parts.fields
  tables : entity.tableDecorators separator = .ok parts.tables
  configuration : entity.configurationDecorators = .ok parts.configuration
  properties : List.Forall₂ (fun p q => PropertyDefinition.declaration p
    (PermissionIndex.get? entity.memberPermissions p.name) separator = .ok q)
    entity.propertyDefinitions parts.properties
  services : List.Forall₂ (fun s m => ServiceDefinition.declaration s
    (PermissionIndex.get? entity.memberPermissions s.name) separator = .ok m)
    entity.serviceDefinitions parts.services
  events : List.Forall₂ (fun e g => EventDefinition.declaration e separator = .ok g)
    entity.eventDefinitions parts.events
  subscriptions : List.Forall₂ (fun s m => SubscriptionDefinition.declaration s separator = .ok m)
    entity.subscriptionDefinitions parts.subscriptions
  decorators : d.decorators = .ofName "exportName" [.string entity.name]
    :: Decorator.flag "editable" entity.aspects.isEditableExtensionObject
    ++ entity.valueStreamDecorators ++ entity.definitionDecorators
    ++ entity.earlyPermissionDecorators
    ++ VisibilityPrincipal.decorators entity.visibilityPermissions false
    ++ parts.tables ++ parts.configuration ++ entity.latePermissionDecorators
  members : d.members = parts.fields.map Member.property ++ parts.properties.map Member.property
    ++ parts.services.map Member.method ++ parts.events.map Member.property
    ++ parts.subscriptions.map Member.method
  comment : DocComment.ofText? entity.description = .ok d.comment
  named : isIdentifier d.name.toList = true

/-- A class that is declared is put together from the declarations of all parts of its entity. -/
theorem declaration_eq_ok {entity : Entity} {separator : Separator} {d : ClassDeclaration}
    (h : entity.declaration separator = .ok d) :
    ∃ parts, entity.DeclaredFrom separator parts d := by
  unfold declaration at h
  rw [Outcome.bind_eq_ok] at h
  obtain ⟨name, hname, h⟩ := h
  split at h
  · simp [Outcome.problem] at h
  · rw [Outcome.bind_eq_ok] at h
    obtain ⟨⟨base, baseProblems⟩, hbase, h⟩ := h
    rw [Outcome.bind_eq_ok] at h
    obtain ⟨⟨fields, fieldProblems⟩, hfields, h⟩ := h
    rw [Outcome.bind_eq_ok] at h
    obtain ⟨tables, htables, h⟩ := h
    rw [Outcome.bind_eq_ok] at h
    obtain ⟨⟨configuration, configurationProblems⟩, hconfiguration, h⟩ := h
    rw [Outcome.bind_eq_ok] at h
    obtain ⟨⟨properties, propertyProblems⟩, hproperties, h⟩ := h
    rw [Outcome.bind_eq_ok] at h
    obtain ⟨⟨services, serviceProblems⟩, hservices, h⟩ := h
    rw [Outcome.bind_eq_ok] at h
    obtain ⟨events, hevents, h⟩ := h
    rw [Outcome.bind_eq_ok] at h
    obtain ⟨⟨subscriptions, subscriptionProblems⟩, hsubscriptions, h⟩ := h
    simp only at h
    split at h
    · -- no problem at all has been collected, so each part has its result
      rename_i hnone
      simp only [List.isEmpty_iff, List.append_eq_nil_iff] at hnone
      obtain ⟨⟨⟨⟨⟨rfl, rfl⟩, rfl⟩, rfl⟩, rfl⟩, rfl⟩ := hnone
      rw [Outcome.bind_eq_ok] at h
      obtain ⟨comment, hcomment, h⟩ := h
      rw [Outcome.collected_eq_ok_nil] at hbase hconfiguration
      obtain ⟨base, hbase, rfl⟩ := hbase
      obtain ⟨configuration, hconfiguration, rfl⟩ := hconfiguration
      unfold ClassDeclaration.checked at h
      rw [Outcome.bind_eq_ok] at h
      obtain ⟨⟨⟩, hnamed, h⟩ := h
      obtain rfl := Outcome.pure_eq_ok.mp h
      refine ⟨⟨fields, tables, configuration, properties, services, events, subscriptions⟩, ?_⟩
      exact {
        name := hname
        base := hbase
        fields := Outcome.gather_eq_ok_nil.mp hfields
        tables := htables
        configuration := hconfiguration
        properties := Outcome.gather_eq_ok_nil.mp hproperties
        services := Outcome.gather_eq_ok_nil.mp hservices
        events := Outcome.mapM_eq_ok.mp hevents
        subscriptions := Outcome.gather_eq_ok_nil.mp hsubscriptions
        decorators := rfl
        members := rfl
        comment := hcomment
        named := Outcome.require_eq_ok.mp hnamed }
    · simp at h

/-- Conversely, a class that is put together like this is what its entity is declared as. -/
theorem DeclaredFrom.declaration {entity : Entity} {separator : Separator} {parts : DeclaredParts}
    {d : ClassDeclaration} (h : entity.DeclaredFrom separator parts d) :
    entity.declaration separator = .ok d := by
  have hname : ¬d.name.isEmpty = true := by
    intro hempty
    have hnamed := h.named
    rw [String.isEmpty_iff.mp hempty] at hnamed
    contradiction
  have hbase : Outcome.collected (entity.base separator) = .ok (some d.base, []) :=
    Outcome.collected_eq_ok_nil.mpr ⟨_, h.base, rfl⟩
  have hconfiguration : Outcome.collected entity.configurationDecorators
      = .ok (some parts.configuration, []) :=
    Outcome.collected_eq_ok_nil.mpr ⟨_, h.configuration, rfl⟩
  unfold Entity.declaration
  rw [h.name]
  dsimp only [bind, Except.bind]
  rw [if_neg hname, hbase, Outcome.gather_eq_ok_nil.mpr h.fields, h.tables, hconfiguration,
    Outcome.gather_eq_ok_nil.mpr h.properties, Outcome.gather_eq_ok_nil.mpr h.services,
    Outcome.mapM_eq_ok.mpr h.events, Outcome.gather_eq_ok_nil.mpr h.subscriptions]
  dsimp only [List.append_nil, List.isEmpty_nil, if_true, Option.getD_some, Option.join_some]
  rw [h.comment]
  dsimp only
  unfold ClassDeclaration.checked
  rw [← h.decorators, ← h.members, Outcome.require, if_pos h.named]
  rfl

end Entity

end EntityCompiler
