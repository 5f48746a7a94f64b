import EntityCompiler.Proofs.Declared
import EntityCompiler.Proofs.LawfulDeclaration

/-!
# No member is lost and no failure is hidden

`Entity.declaration` threads the problems it meets through all parts of an entity. What it comes to
is told by the parts alone: `Entity.generatedMembers` lists what each member is declared as, on its
own, and `Entity.failures` the problems that the parts have, on their own. Main statement: without a
failure the class has a member for each part, in order, and with one it has none, but all failures
are reported, in order (`Entity.declaration_collects`).
-/

namespace EntityCompiler

namespace Outcome

variable {α β : Type}

/-- The problem that a computation has met, as a list. -/
def failure : Outcome α → List Problem
  | .error (.problem p) => [p]
  | _ => []

lemma failure_eq_nil_of_ok {x : Outcome α} {a : α} (h : x = .ok a) : x.failure = [] := by
  rw [h]
  rfl

lemma failure_bind {x : Outcome α} {f : α → Outcome β} (hx : x.failure = [])
    (hf : ∀ a, x = .ok a → (f a).failure = []) : (x >>= f).failure = [] := by
  cases x with
  | ok a => exact hf a rfl
  | error fault =>
    cases fault with
    | problem p => contradiction
    | broken contract => rfl

lemma failure_map {x : Outcome α} (f : α → β) (hx : x.failure = []) :
    failure (Except.map f x) = [] := by
  cases x with
  | ok a => rfl
  | error fault =>
    cases fault with
    | problem p => contradiction
    | broken contract => rfl

lemma failure_require (contract : Contract) (holds : Bool) :
    (require contract holds).failure = [] := by
  cases holds <;> rfl

lemma failure_mapM {f : α → Outcome β} {xs : List α} (h : ∀ x ∈ xs, (f x).failure = []) :
    (xs.mapM f).failure = [] := by
  induction xs with
  | nil => rfl
  | cons x xs ih =>
    rw [List.mapM_cons]
    refine failure_bind (h x List.mem_cons_self) fun y _ => ?_
    refine failure_bind (ih fun z hz => h z (List.mem_cons_of_mem x hz)) fun ys _ => ?_
    rfl

/-- A sound computation that has met no problem has a result. -/
lemma Sound.exists_ok {P : α → Prop} {x : Outcome α} (hx : Sound P x) (h : x.failure = []) :
    ∃ a, x = .ok a ∧ P a := by
  rcases hx.total with hok | ⟨p, rfl, -⟩
  · exact hok
  · contradiction

/-- The problem of a computation is collected, if it breaks no contract. -/
lemma Sound.collected_eq {P : α → Prop} {x : Outcome α} (hx : Sound P x) :
    Outcome.collected x = .ok (x.toOption, x.failure) := by
  rcases hx.total with ⟨a, rfl, -⟩ | ⟨p, rfl, -⟩
  · rfl
  · rfl

/-- The problems with the items of a list are gathered, one by one, if no contract is broken. -/
lemma gather_eq {P : α → β → Prop} {f : α → Outcome β} {xs : List α}
    (h : ∀ x ∈ xs, Sound (P x) (f x)) :
    gather f xs
      = .ok (xs.filterMap fun x => (f x).toOption, xs.flatMap fun x => (f x).failure) := by
  induction xs with
  | nil => rfl
  | cons x xs ih =>
    have hrest := ih fun y hy => h y (List.mem_cons_of_mem x hy)
    rw [gather, hrest, List.flatMap_cons, List.filterMap_cons]
    rcases (h x List.mem_cons_self).total with ⟨a, hx, -⟩ | ⟨p, hx, -⟩
    · rw [hx]
      rfl
    · rw [hx]
      rfl

end Outcome

open Outcome (failure)

/-! ## What no part of an entity has a problem with -/

lemma failure_className (separator : Separator) (name : String) :
    (className separator name).failure = [] :=
  Outcome.failure_bind (Outcome.failure_require _ _) fun _ _ => rfl

/-- A name in a type is no problem. -/
lemma TypeNode.failure_ofEntity (separator : Separator) (name : String) :
    (ofEntity separator name).failure = [] :=
  Outcome.failure_map _ (failure_className _ _)

lemma FieldAspects.failure_thingArguments (aspects : FieldAspects) (separator : Separator) :
    (aspects.thingArguments separator).failure = [] := by
  have hofEntity (name : String) :
      failure (Except.map ([·]) (TypeNode.ofEntity separator name)) = [] :=
    Outcome.failure_map _ (TypeNode.failure_ofEntity separator name)
  unfold thingArguments
  dsimp only
  -- with and without a template, the same is done about the shape
  split
  all_goals
    refine Outcome.failure_bind ?_ fun template _ => ?_
    · first
      | exact hofEntity _
      | rfl
    split
    · exact Outcome.failure_bind (hofEntity _) fun shape _ => rfl
    · rfl

lemma FieldAspects.failure_typeArguments (aspects : FieldAspects) (separator : Separator)
    (baseType : BaseType) : (aspects.typeArguments separator baseType).failure = [] := by
  unfold typeArguments
  split
  · split
    · exact Outcome.failure_map _ (TypeNode.failure_ofEntity _ _)
    · rfl
  · exact aspects.failure_thingArguments separator
  · exact aspects.failure_thingArguments separator
  · rfl

lemma TypeNode.failure_ofBaseType (baseType : BaseType) (aspects : FieldAspects)
    (separator : Separator) : (ofBaseType baseType (some aspects) separator).failure = [] := by
  unfold ofBaseType
  split
  · rfl
  · exact Outcome.failure_bind (aspects.failure_typeArguments separator baseType) fun _ _ => rfl

lemma DocComment.failure_ofText? (description : Option String) :
    (ofText? description).failure = [] := by
  unfold ofText?
  split
  · rfl
  · split
    · rfl
    · refine Outcome.failure_map _ ?_
      refine Outcome.failure_bind (Outcome.failure_require _ _) fun _ _ => ?_
      exact Outcome.failure_bind (Outcome.failure_require _ _) fun _ _ => rfl

lemma PropertyDeclaration.failure_checked (declaration : PropertyDeclaration) :
    declaration.checked.failure = [] := by
  obtain ⟨name, type, decorators, isReadonly, isDefinite, initializer, comment⟩ := declaration
  exact Outcome.failure_bind (Outcome.failure_require _ _) fun _ _ => rfl

variable {separator : Separator}

lemma EventDefinition.failure_declaration (event : EventDefinition) :
    (event.declaration separator).failure = [] := by
  refine Outcome.failure_bind (TypeNode.failure_ofEntity _ _) fun _ _ => ?_
  refine Outcome.failure_bind (DocComment.failure_ofText? _) fun _ _ => ?_
  exact PropertyDeclaration.failure_checked _

lemma ConfigurationTableDefinition.failure_declaration (definition : ConfigurationTableDefinition) :
    (definition.declaration separator).failure = [] := by
  refine Outcome.failure_bind (TypeNode.failure_ofEntity _ _) fun _ _ => ?_
  refine Outcome.failure_bind (DocComment.failure_ofText? _) fun _ _ => ?_
  exact PropertyDeclaration.failure_checked _

namespace Entity

lemma failure_tableDecorators (entity : Entity) :
    (entity.tableDecorators separator).failure = [] := by
  refine Outcome.failure_bind (Outcome.failure_mapM fun _ _ => ?_) fun _ _ => rfl
  exact ConfigurationTableDefinition.failure_declaration _

/-! ## The parts of an entity, each on its own -/

/-- What each property of an entity is declared as, with the permission on its name. -/
def declaredProperty (entity : Entity) (separator : Separator) (property : PropertyDefinition) :
    Outcome PropertyDeclaration :=
  property.declaration (PermissionIndex.get? entity.memberPermissions property.name) separator

/-- What each service of an entity is declared as, with the permission on its name. -/
def declaredService (entity : Entity) (separator : Separator) (service : ServiceDefinition) :
    Outcome MethodDeclaration :=
  service.declaration (PermissionIndex.get? entity.memberPermissions service.name) separator

/-- What the fields, properties, services, events and subscriptions of an entity are declared as,
each on its own and in this order. -/
def generatedMembers (entity : Entity) (separator : Separator) : List (Outcome Member) :=
  entity.fieldDefinitions.map (fun f => (DataShapeField.declaration f separator).map .property)
    ++ entity.propertyDefinitions.map (fun p => (entity.declaredProperty separator p).map .property)
    ++ entity.serviceDefinitions.map (fun s => (entity.declaredService separator s).map .method)
    ++ entity.eventDefinitions.map (fun e => (e.declaration separator).map .property)
    ++ entity.subscriptionDefinitions.map (fun s => (s.declaration separator).map .method)

/-- The problems with the base class, the fields, the rows of the configuration tables, the
properties, the services and the subscriptions of an entity, each on its own and in this order. -/
def failures (entity : Entity) (separator : Separator) : List Problem :=
  failure (entity.base separator)
    ++ entity.fieldDefinitions.flatMap (fun f => failure (DataShapeField.declaration f separator))
    ++ failure entity.configurationDecorators
    ++ entity.propertyDefinitions.flatMap (fun p => failure (entity.declaredProperty separator p))
    ++ entity.serviceDefinitions.flatMap (fun s => failure (entity.declaredService separator s))
    ++ entity.subscriptionDefinitions.flatMap (fun s => failure (s.declaration separator))

/-- Declarations that belong to the items of a list, one by one, are the members that these items
are declared as. -/
private lemma forall₂_map_of_forall₂ {α β : Type} {f : α → Outcome β}
    {wrap : β → Member} {xs : List α}
    {ys : List β} (h : List.Forall₂ (fun x y => f x = .ok y) xs ys) :
    List.Forall₂ (fun generated member => generated = .ok member)
      (xs.map fun x => Except.map wrap (f x)) (ys.map wrap) := by
  rw [List.forall₂_map_left_iff, List.forall₂_map_right_iff]
  exact h.imp fun x y hxy => by rw [hxy]; rfl

/-- The members of a class are what the parts of its entity are declared as. -/
lemma DeclaredFrom.generatedMembers {entity : Entity} {parts : DeclaredParts} {d : ClassDeclaration}
    (h : entity.DeclaredFrom separator parts d) :
    List.Forall₂ (fun generated member => generated = .ok member)
      (entity.generatedMembers separator)
      d.members := by
  rw [h.members]
  refine List.rel_append (List.rel_append (List.rel_append (List.rel_append ?_ ?_) ?_) ?_) ?_
  · exact forall₂_map_of_forall₂ h.fields
  · exact forall₂_map_of_forall₂ h.properties
  · exact forall₂_map_of_forall₂ h.services
  · exact forall₂_map_of_forall₂ h.events
  · exact forall₂_map_of_forall₂ h.subscriptions

/-- With a class name, an entity is declared as a class unless there is a failure. -/
lemma declaration_eq {entity : Entity} (hseparator : separator.Fits = true) {name : String}
    (hname : className separator entity.name = .ok name) (hnonempty : name ≠ "") :
    ∃ last : Outcome ClassDeclaration, failure last = []
      ∧ entity.declaration separator = if (entity.failures separator).isEmpty then last
        else .error
          (.problem (.dueTo none (.declaration entity.name) (entity.failures separator))) := by
  have hsome : ¬name.isEmpty = true := fun h => hnonempty (by simpa using h)
  -- the tables and the events have no problems, and those of all other parts are collected
  obtain ⟨tables, htables, -⟩ :=
    (entity.tableDecorators_sound hseparator).exists_ok entity.failure_tableDecorators
  obtain ⟨events, hevents, -⟩ :=
    (Outcome.Sound.mapM fun event _ => EventDefinition.declaration_sound hseparator event).exists_ok
      (Outcome.failure_mapM fun event (_ : event ∈ entity.eventDefinitions) =>
        event.failure_declaration)
  have hbase := (entity.base_sound hseparator).collected_eq
  have hfields := Outcome.gather_eq fun field (_ : field ∈ entity.fieldDefinitions) =>
    DataShapeField.declaration_sound hseparator field
  have hconfiguration := entity.configurationDecorators_sound.collected_eq
  have hproperties := Outcome.gather_eq fun property (_ : property ∈ entity.propertyDefinitions) =>
    PropertyDefinition.declaration_sound hseparator property
      (PermissionIndex.get? entity.memberPermissions property.name)
  have hservices := Outcome.gather_eq fun service (_ : service ∈ entity.serviceDefinitions) =>
    ServiceDefinition.declaration_sound hseparator service
      (PermissionIndex.get? entity.memberPermissions service.name)
  have hsubscriptions := Outcome.gather_eq fun subscription
      (_ : subscription ∈ entity.subscriptionDefinitions) =>
    SubscriptionDefinition.declaration_sound hseparator subscription
  unfold declaration
  rw [hname]
  simp only [bind, Except.bind]
  rw [if_neg hsome, hbase, hfields, htables, hconfiguration, hproperties, hservices, hevents,
    hsubscriptions]
  refine ⟨_, ?_, rfl⟩
  refine Outcome.failure_bind (DocComment.failure_ofText? _) fun _ _ => ?_
  exact Outcome.failure_bind (Outcome.failure_require _ _) fun _ _ => rfl

/-- With a class name, an entity is declared as a class exactly if there is no failure. The members
of the class are then what the fields, properties, services, events and subscriptions are declared
as, one for each and in order. Otherwise there is no class, but a problem with the entity, below
which stand all the failures, in order. -/
theorem declaration_collects {entity : Entity} (hseparator : separator.Fits = true) {name : String}
    (hname : className separator entity.name = .ok name) (hnonempty : name ≠ "") :
    (entity.failures separator = [] → ∃ d, entity.declaration separator = .ok d
      ∧ List.Forall₂ (fun generated member => generated = .ok member)
        (entity.generatedMembers separator)
        d.members)
    ∧ (entity.failures separator ≠ [] → entity.declaration separator
      = .error
        (.problem (.dueTo none (.declaration entity.name) (entity.failures separator)))) := by
  obtain ⟨last, hlast, hdeclaration⟩ := declaration_eq hseparator hname hnonempty
  constructor
  · intro hnone
    rw [hnone] at hdeclaration
    have hsound := entity.declaration_sound hseparator
    have hquiet : failure (entity.declaration separator) = [] := by
      rw [hdeclaration]
      exact hlast
    obtain ⟨d, hd, -⟩ := hsound.exists_ok hquiet
    obtain ⟨parts, hparts⟩ := declaration_eq_ok hd
    exact ⟨d, hd, hparts.generatedMembers⟩
  · intro hfailures
    rw [hdeclaration, if_neg (by simpa using hfailures)]

/-- A thing with a property, a remote service, an event and a subscription. -/
def valve (template : String) (default : Value) (enabled : Bool) : Entity where
  name := "Valve"
  description := none
  documentationContent := none
  projectName := none
  tags := []
  aspects := {}
  propertyDefinitions := [⟨⟨"level", .number, none, { defaultValue := default }⟩, none, none⟩]
  serviceDefinitions := [⟨"open", none, ⟨.nothing, {}⟩, [], false, true, false, none,
    some ⟨none, false, none⟩⟩]
  eventDefinitions := [⟨"opened", none, "ValveEvent", none⟩]
  subscriptionDefinitions := [⟨"onOpened", none, "opened", none, none, enabled, "me.level = 1;"⟩]
  configurationTableDefinitions := []
  configurationTables := []
  visibilityPermissions := []
  runtimePermissions := []
  part := .thing {
    enabled := true
    identifier := none
    published := false
    valueStream := none
    thingTemplate := template
    implementedShapes := [] }

/-- A valve without a template, with a list for a default value and with its subscription switched
off has three failures, and all of them are reported. Without a failure, the class has the four
members of the valve. -/
theorem valve_collects :
    Separator.default.Fits = true ∧ className .default "Valve" = .ok "Valve" ∧ "Valve" ≠ ""
    ∧ ((valve "" (.list []) false).failures .default).length = 3
    ∧ (valve "" (.list []) false).declaration .default
      = .error (.problem (.dueTo none (.declaration "Valve")
        ((valve "" (.list []) false).failures .default)))
    ∧ (valve "GenericThing" .null true).failures .default = []
    ∧ ∃ d, (valve "GenericThing" .null true).declaration .default = .ok d ∧ d.members.length = 4
      ∧ List.Forall₂ (fun generated member => generated = .ok member)
        ((valve "GenericThing" .null true).generatedMembers .default) d.members := by
  have hname : className .default "Valve" = .ok "Valve" := rfl
  have hnonempty : "Valve" ≠ "" := by decide
  have hnone : (valve "GenericThing" .null true).failures .default = [] :=
    List.isEmpty_iff.mp (by decide +kernel)
  have hfailures : (valve "" (.list []) false).failures .default ≠ [] := List.cons_ne_nil _ _
  obtain ⟨d, hd, hmembers⟩ :=
    (@declaration_collects .default (valve "GenericThing" .null true) rfl _ hname hnonempty).1 hnone
  refine ⟨rfl, hname, hnonempty, rfl, ?_, hnone, d, hd, hmembers.length_eq.symm, hmembers⟩
  exact (@declaration_collects .default (valve "" (.list []) false) rfl _ hname hnonempty).2
    hfailures

end Entity

end EntityCompiler
