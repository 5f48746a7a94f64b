import EntityCompiler.Compilation
import EntityCompiler.Proofs.ClassNames
import EntityCompiler.Proofs.LawfulEntity

/-!
# References to other entities

A declaration refers to other entities in its base class, in the types of its members and in the
types of its configuration tables. `ClassDeclaration.references` collects these references, knowing
nothing of how they were made, and `Entity.referencedNames` the names that the entity mentions at
the same places.

Main statement: each reference is the class name of the entity that is mentioned, which is the name
of the class that any entity of this name is compiled to (`Compilation.references_resolve`). It is
an identifier unless the class name is empty, and with a separator that is not empty, no class name
is.
-/

namespace EntityCompiler

/-! ## The references of a declaration -/

/-- The name of a type that has one. -/
def TypeNode.names : TypeNode → List String
  | reference name _ => [name]
  | _ => []

mutual

/-- The names that stand for the arguments of types in a type. -/
def TypeNode.references : TypeNode → List String
  | .reference _ arguments => TypeNode.argumentReferences arguments
  | .keyword _ => []
  | .literal members => PropertySignature.references members

/-- The names that stand for the arguments of a type, and for those of the types in them. -/
def TypeNode.argumentReferences : List TypeNode → List String
  | [] => []
  | type :: rest => type.names ++ type.references ++ TypeNode.argumentReferences rest

/-- The names that stand for the arguments of types in the members of an object type. -/
def PropertySignature.references : List PropertySignature → List String
  | [] => []
  | .mk _ type _ :: rest => type.references ++ PropertySignature.references rest

end

/-- The references in the type of a property. -/
def PropertyDeclaration.references : PropertyDeclaration → List String
  | mk _ type _ _ _ _ _ => type.references

/-- The references in the parameters and the result of a method. -/
def MethodDeclaration.references (method : MethodDeclaration) : List String :=
  method.parameters.flatMap (·.type.references) ++ method.returnType.references

/-- The references in a member. -/
def Member.references : Member → List String
  | property declaration => declaration.references
  | method declaration => declaration.references

namespace Expression

/-- The references in the members of a class without a name. -/
def memberReferences : Expression → List String
  | classOf members => members.flatMap PropertyDeclaration.references
  | _ => []

/-- The name that an expression consists of. -/
def identifiers : Expression → List String
  | name identifier => [identifier]
  | _ => []

/-- The names of a base class and of the shapes that are added to it. -/
def baseReferences : Expression → List String
  | call _ arguments => arguments.flatMap identifiers
  | base => base.identifiers

end Expression

/-- The references in the decorator for the configuration tables. -/
def Decorator.references (decorator : Decorator) : List String :=
  if decorator.name = "ConfigurationTables" then
    decorator.arguments.flatMap Expression.memberReferences
  else []

/-- All references of a declaration to other entities. Only things and thing templates have an
entity for their base. -/
def ClassDeclaration.references (d : ClassDeclaration) (kind : EntityKind) : List String :=
  (if kind = .thing ∨ kind = .thingTemplate then d.base.toList.flatMap Expression.baseReferences
    else [])
    ++ d.decorators.flatMap Decorator.references ++ d.members.flatMap Member.references

/-! ## The names that an entity mentions -/

/-- The names that the aspects of a field with the given base type mention. -/
def FieldAspects.referencedNames (aspects : FieldAspects) : BaseType → List String
  | .infotable => aspects.dataShape.toList
  | .thingName => aspects.thingTemplate.toList ++ aspects.thingShape.toList
  | .thingTemplateName => aspects.thingTemplate.toList ++ aspects.thingShape.toList
  | _ => []

/-- The names that a field mentions. -/
def FieldDefinition.referencedNames (field : FieldDefinition) : List String :=
  field.aspects.referencedNames field.baseType

/-- The names that the parameters and the result of a service mention. -/
def ServiceDefinition.referencedNames (service : ServiceDefinition) : List String :=
  service.parameters.flatMap FieldDefinition.referencedNames
    ++ service.resultType.aspects.referencedNames service.resultType.baseType

namespace Entity

/-- The template and the shapes that the base of an entity is made of. -/
def baseNames (entity : Entity) : List String :=
  match entity.part with
  | .thing part => part.thingTemplate :: part.implementedShapes
  | .thingTemplate part => part.thingTemplate :: part.implementedShapes
  | _ => []

/-- All names of other entities that an entity mentions. The data of an event that is subscribed to
is named after the event. -/
def referencedNames (entity : Entity) : List String :=
  entity.baseNames
    ++ entity.configurationTableDefinitions.map (·.dataShapeName)
    ++ entity.fieldDefinitions.flatMap FieldDefinition.referencedNames
    ++ entity.propertyDefinitions.flatMap (·.toFieldDefinition.referencedNames)
    ++ entity.serviceDefinitions.flatMap ServiceDefinition.referencedNames
    ++ entity.eventDefinitions.map (·.dataShape)
    ++ entity.subscriptionDefinitions.map (·.eventName ++ SubscriptionDefinition.dataShapeSuffix)

end Entity

/-! ## Types -/

/-- Is a reference the class name of an entity? -/
def RefersTo (separator : Separator) (name reference : String) : Prop :=
  className separator name = .ok reference

section

variable {separator : Separator}

/-- References that belong to names one by one, with a single name in each group. -/
private lemma forall₂_map_flatMap {α β γ δ : Type} {R : α → β → Prop} {S : γ → δ → Prop}
    {name : α → γ}
    {g : β → List δ} {xs : List α} {ys : List β} (h : List.Forall₂ R xs ys)
    (hR : ∀ x y, R x y → List.Forall₂ S [name x] (g y)) :
    List.Forall₂ S (xs.map name) (ys.flatMap g) := by
  rw [← List.flatMap_pure_eq_map]
  exact List.rel_flatMap h hR

lemma TypeNode.ofEntity_eq_ok {name : String} {type : TypeNode}
    (h : ofEntity separator name = .ok type) :
    ∃ reference, RefersTo separator name reference ∧ type = .reference reference [] := by
  obtain ⟨reference, hname, rfl⟩ := Outcome.map_eq_ok.mp h
  exact ⟨reference, hname, rfl⟩

/-- The argument made of a name that a field may mention. -/
lemma TypeNode.argumentReferences_ofEntity {name : String} {types : List TypeNode}
    (h : Except.map ([·]) (ofEntity separator name) = .ok types) :
    List.Forall₂ (RefersTo separator) [name] (argumentReferences types) := by
  obtain ⟨type, htype, rfl⟩ := Outcome.map_eq_ok.mp h
  obtain ⟨reference, hreference, rfl⟩ := ofEntity_eq_ok htype
  exact .cons hreference .nil

lemma TypeNode.argumentReferences_append (first second : List TypeNode) :
    argumentReferences (first ++ second) = argumentReferences first
      ++ argumentReferences second := by
  induction first with
  | nil => rfl
  | cons type rest ih =>
    rw [List.cons_append, argumentReferences, ih, argumentReferences, List.append_assoc,
      List.append_assoc,
      List.append_assoc]

namespace FieldAspects

lemma references_thingArguments {aspects : FieldAspects} {types : List TypeNode}
    (h : aspects.thingArguments separator = .ok types) :
    List.Forall₂ (RefersTo separator) (aspects.thingTemplate.toList ++ aspects.thingShape.toList)
      (TypeNode.argumentReferences types) := by
  unfold thingArguments at h
  cases htemplate : aspects.thingTemplate with
  | none =>
    cases hshape : aspects.thingShape with
    | none =>
      rw [htemplate, hshape] at h
      rw [← Except.ok.inj h]
      exact .nil
    | some shape =>
      -- any template will do here, and a keyword refers to nothing
      rw [htemplate, hshape] at h
      obtain ⟨any, hany, h⟩ := Outcome.bind_eq_ok.mp h
      obtain ⟨second, hsecond, h⟩ := Outcome.bind_eq_ok.mp h
      have hreferences := TypeNode.argumentReferences_ofEntity hsecond
      rw [← Outcome.pure_eq_ok.mp h, ← Except.ok.inj hany]
      exact hreferences
  | some template =>
    rw [htemplate] at h
    obtain ⟨first, hfirst, h⟩ := Outcome.bind_eq_ok.mp h
    have hreferences := TypeNode.argumentReferences_ofEntity hfirst
    cases hshape : aspects.thingShape with
    | none =>
      rw [hshape] at h
      rw [← Except.ok.inj h]
      simpa using hreferences
    | some shape =>
      rw [hshape] at h
      obtain ⟨second, hsecond, h⟩ := Outcome.bind_eq_ok.mp h
      rw [← Outcome.pure_eq_ok.mp h, TypeNode.argumentReferences_append]
      exact List.rel_append hreferences (TypeNode.argumentReferences_ofEntity hsecond)

lemma references_typeArguments {aspects : FieldAspects} {baseType : BaseType}
    {types : List TypeNode}
    (h : aspects.typeArguments separator baseType = .ok types) :
    List.Forall₂ (RefersTo separator) (aspects.referencedNames baseType)
      (TypeNode.argumentReferences types) := by
  unfold typeArguments at h
  split at h
  · split at h
    · rename_i hname
      rw [referencedNames, hname]
      exact TypeNode.argumentReferences_ofEntity h
    · rename_i hnone
      rw [referencedNames, hnone, ← Except.ok.inj h]
      exact .nil
  · exact references_thingArguments h
  · exact references_thingArguments h
  · rename_i hinfotable hthing htemplate
    rw [← Except.ok.inj h, referencedNames]
    · exact .nil
    · exact hinfotable
    · exact hthing
    · exact htemplate

end FieldAspects

/-- The references of a type are those to what the aspects mention. -/
lemma TypeNode.references_ofBaseType {aspects : FieldAspects} {baseType : BaseType}
    {type : TypeNode}
    (h : ofBaseType baseType (some aspects) separator = .ok type) :
    List.Forall₂ (RefersTo separator) (aspects.referencedNames baseType) type.references := by
  unfold ofBaseType at h
  split at h
  · rename_i hjson
    rw [hjson, ← Except.ok.inj h]
    exact .nil
  · rw [Outcome.bind_eq_ok] at h
    obtain ⟨arguments, harguments, h⟩ := h
    rw [← Outcome.pure_eq_ok.mp h]
    exact FieldAspects.references_typeArguments harguments

/-- A type without aspects refers to nothing. -/
lemma TypeNode.references_ofBaseType_none {baseType : BaseType} {type : TypeNode}
    (h : ofBaseType baseType none separator = .ok type) : type.references = [] := by
  unfold ofBaseType at h
  split at h
  · rw [← Except.ok.inj h]
    rfl
  · rw [← Outcome.pure_eq_ok.mp h]
    rfl

/-! ## Members -/

lemma FieldDefinition.references_declared {field : FieldDefinition} {declared : DeclaredField}
    (h : field.declared separator = .ok declared) :
    List.Forall₂ (RefersTo separator) field.referencedNames declared.type.references := by
  unfold FieldDefinition.declared at h
  rw [Outcome.bind_eq_ok] at h
  obtain ⟨initializer, -, h⟩ := h
  rw [Outcome.bind_eq_ok] at h
  obtain ⟨type, htype, h⟩ := h
  rw [Outcome.bind_eq_ok] at h
  obtain ⟨comment, -, h⟩ := h
  rw [← Outcome.pure_eq_ok.mp h]
  exact TypeNode.references_ofBaseType htype

lemma PropertyDefinition.references_declaration {property : PropertyDefinition}
    {permission : Option RuntimePermission} {declaration : PropertyDeclaration}
    (h : property.declaration permission separator = .ok declaration) :
    List.Forall₂ (RefersTo separator) property.toFieldDefinition.referencedNames
      declaration.references := by
  unfold PropertyDefinition.declaration at h
  rw [Outcome.bind_eq_ok] at h
  obtain ⟨field, hfield, h⟩ := h
  rw [Outcome.bind_eq_ok] at h
  obtain ⟨remote, -, h⟩ := h
  rw [PropertyDeclaration.checked_eq_ok h]
  exact FieldDefinition.references_declared hfield

lemma DataShapeField.references_declaration {field : DataShapeField}
    {declaration : PropertyDeclaration}
    (h : DataShapeField.declaration field separator = .ok declaration) :
    List.Forall₂ (RefersTo separator) (FieldDefinition.referencedNames field)
      declaration.references := by
  unfold DataShapeField.declaration at h
  rw [Outcome.bind_eq_ok] at h
  obtain ⟨declared, hdeclared, h⟩ := h
  rw [PropertyDeclaration.checked_eq_ok h]
  exact FieldDefinition.references_declared hdeclared

lemma EventDefinition.references_declaration {event : EventDefinition}
    {declaration : PropertyDeclaration}
    (h : event.declaration separator = .ok declaration) :
    List.Forall₂ (RefersTo separator) [event.dataShape] declaration.references := by
  unfold EventDefinition.declaration at h
  rw [Outcome.bind_eq_ok] at h
  obtain ⟨data, hdata, h⟩ := h
  rw [Outcome.bind_eq_ok] at h
  obtain ⟨comment, -, h⟩ := h
  rw [PropertyDeclaration.checked_eq_ok h]
  obtain ⟨reference, hreference, rfl⟩ := TypeNode.ofEntity_eq_ok hdata
  exact .cons hreference .nil

lemma ConfigurationTableDefinition.references_declaration
    {definition : ConfigurationTableDefinition}
    {declaration : PropertyDeclaration} (h : definition.declaration separator = .ok declaration) :
    List.Forall₂ (RefersTo separator) [definition.dataShapeName] declaration.references := by
  unfold ConfigurationTableDefinition.declaration at h
  rw [Outcome.bind_eq_ok] at h
  obtain ⟨rows, hrows, h⟩ := h
  rw [Outcome.bind_eq_ok] at h
  obtain ⟨comment, -, h⟩ := h
  rw [PropertyDeclaration.checked_eq_ok h]
  obtain ⟨reference, hreference, rfl⟩ := TypeNode.ofEntity_eq_ok hrows
  exact .cons hreference .nil

namespace ServiceDefinition

lemma references_elements {parameters : List ServiceParameter} {found : List BindingElement}
    {types : List PropertySignature} (h : elements separator parameters = .ok (found, types)) :
    List.Forall₂ (RefersTo separator) (parameters.flatMap FieldDefinition.referencedNames)
      (PropertySignature.references types) := by
  induction parameters generalizing found types with
  | nil =>
    obtain ⟨-, rfl⟩ := Prod.mk.inj (Except.ok.inj h)
    exact .nil
  | cons parameter rest ih =>
    rw [elements, Outcome.bind_eq_ok] at h
    obtain ⟨initializer, -, h⟩ := h
    rw [Outcome.bind_eq_ok] at h
    obtain ⟨type, htype, h⟩ := h
    rw [Outcome.bind_eq_ok] at h
    obtain ⟨⟨others, otherTypes⟩, hothers, h⟩ := h
    obtain ⟨-, rfl⟩ := Prod.mk.inj (Outcome.pure_eq_ok.mp h)
    exact List.rel_append (TypeNode.references_ofBaseType htype) (ih hothers)

lemma references_methodParameters {service : ServiceDefinition} {parameters : List Parameter}
    (h : service.methodParameters separator = .ok parameters) :
    List.Forall₂ (RefersTo separator) (service.parameters.flatMap FieldDefinition.referencedNames)
      (parameters.flatMap (·.type.references)) := by
  unfold methodParameters at h
  split at h
  · rename_i hnone
    rw [hnone, ← Except.ok.inj h]
    exact .nil
  · rw [Outcome.bind_eq_ok] at h
    obtain ⟨⟨elements, types⟩, helements, h⟩ := h
    rw [← Outcome.pure_eq_ok.mp h, List.flatMap_singleton]
    exact references_elements helements

lemma references_declaration {service : ServiceDefinition} {permission : Option RuntimePermission}
    {declaration : MethodDeclaration}
    (h : service.declaration permission separator = .ok declaration) :
    List.Forall₂ (RefersTo separator) service.referencedNames declaration.references := by
  unfold ServiceDefinition.declaration at h
  rw [Outcome.bind_eq_ok] at h
  obtain ⟨implementation, -, h⟩ := h
  rw [Outcome.bind_eq_ok] at h
  obtain ⟨parameters, hparameters, h⟩ := h
  rw [Outcome.bind_eq_ok] at h
  obtain ⟨returnType, hreturnType, h⟩ := h
  rw [Outcome.bind_eq_ok] at h
  obtain ⟨comment, -, h⟩ := h
  rw [← Outcome.pure_eq_ok.mp h]
  exact List.rel_append (references_methodParameters (Outcome.within_eq_ok.mp hparameters))
    (TypeNode.references_ofBaseType hreturnType)

end ServiceDefinition

namespace SubscriptionDefinition

lemma references_methodParameters {subscription : SubscriptionDefinition}
    {parameters : List Parameter}
    (h : subscription.methodParameters separator = .ok parameters) :
    List.Forall₂ (RefersTo separator) [subscription.eventName ++ dataShapeSuffix]
      (parameters.flatMap (·.type.references)) := by
  unfold methodParameters at h
  rw [Outcome.bind_eq_ok] at h
  obtain ⟨string, hstring, h⟩ := h
  rw [Outcome.bind_eq_ok] at h
  obtain ⟨data, hdata, h⟩ := h
  rw [Outcome.bind_eq_ok] at h
  obtain ⟨time, htime, h⟩ := h
  rw [← Outcome.pure_eq_ok.mp h]
  simp only [List.flatMap_cons, List.flatMap_nil, TypeNode.references_ofBaseType_none hstring,
    TypeNode.references_ofBaseType_none htime, List.nil_append, List.append_nil]
  exact TypeNode.references_ofBaseType hdata

lemma references_declaration {subscription : SubscriptionDefinition}
    {declaration : MethodDeclaration}
    (h : subscription.declaration separator = .ok declaration) :
    List.Forall₂ (RefersTo separator) [subscription.eventName ++ dataShapeSuffix]
      declaration.references := by
  unfold SubscriptionDefinition.declaration at h
  split at h
  · simp [Outcome.problem] at h
  · rw [Outcome.bind_eq_ok] at h
    obtain ⟨body, -, h⟩ := h
    rw [Outcome.bind_eq_ok] at h
    obtain ⟨parameters, hparameters, h⟩ := h
    rw [Outcome.bind_eq_ok] at h
    obtain ⟨comment, -, h⟩ := h
    rw [← Outcome.pure_eq_ok.mp h]
    -- a handler gives nothing back
    simpa [MethodDeclaration.references, TypeNode.references]
      using references_methodParameters hparameters

end SubscriptionDefinition

/-! ## The base class -/

/-- An entity that is named in an expression has a name, as nothing is left of the empty one. -/
lemma Expression.ofEntity_eq_ok {name : String} {expression : Expression}
    (h : ofEntity separator name = .ok expression) :
    ∃ reference, (name ≠ "" ∧ RefersTo separator name reference)
      ∧ expression = .name reference := by
  unfold ofEntity at h
  rw [Outcome.bind_eq_ok] at h
  obtain ⟨reference, hreference, h⟩ := h
  split at h
  · contradiction
  · rename_i hnonempty
    unfold nameOf at h
    rw [Outcome.bind_eq_ok] at h
    obtain ⟨-, -, h⟩ := h
    refine ⟨reference, ⟨?_, hreference⟩, (Outcome.pure_eq_ok.mp h).symm⟩
    rintro rfl
    exact hnonempty (by rw [← Except.ok.inj hreference]; rfl)

namespace Entity

/-- The references of a base class are there, each of them. -/
lemma references_composedBase {template : String} {shapes : List String} {base : Expression}
    (h : composedBase template shapes separator = .ok base) :
    List.Forall₂ (fun name reference => name ≠ "" ∧ RefersTo separator name reference)
      (template :: shapes) base.baseReferences := by
  unfold composedBase at h
  rw [Outcome.bind_eq_ok] at h
  obtain ⟨first, hfirst, h⟩ := h
  rw [Outcome.bind_eq_ok] at h
  obtain ⟨added, hadded, h⟩ := h
  obtain ⟨reference, hreference, rfl⟩ := Expression.ofEntity_eq_ok hfirst
  have hshapes : List.Forall₂ (fun name reference => name ≠ "" ∧ RefersTo separator name reference)
      shapes (added.flatMap Expression.identifiers) := by
    rw [← List.map_id shapes]
    refine forall₂_map_flatMap (Outcome.mapM_eq_ok.mp hadded) fun shape expression hexpression => ?_
    obtain ⟨reference, hreference, rfl⟩ := Expression.ofEntity_eq_ok hexpression
    exact .cons hreference .nil
  rw [← Outcome.pure_eq_ok.mp h]
  split
  · -- without shapes, the template alone is the base class
    rename_i hnone
    rw [List.isEmpty_iff.mp hnone] at hshapes
    exact .cons hreference hshapes
  · exact .cons hreference hshapes

lemma references_base {entity : Entity} {base : Option Expression}
    (h : entity.base separator = .ok base) :
    List.Forall₂ (fun name reference => name ≠ "" ∧ RefersTo separator name reference)
      entity.baseNames (if entity.kind = .thing ∨ entity.kind = .thingTemplate then
        base.toList.flatMap Expression.baseReferences else []) := by
  unfold Entity.base at h
  unfold baseNames kind
  split at h
  · rename_i part hpart
    obtain ⟨expression, hexpression, rfl⟩ := Outcome.map_eq_ok.mp h
    simpa [hpart] using references_composedBase hexpression
  · rename_i part hpart
    obtain ⟨expression, hexpression, rfl⟩ := Outcome.map_eq_ok.mp h
    simpa [hpart] using references_composedBase hexpression
  · rename_i hpart
    simp [hpart]
  · rename_i hpart
    simp [hpart]
  · rename_i hpart
    simp [hpart]

end Entity

/-! ## The configuration tables -/

lemma Decorator.references_ofName {name : String} (arguments : List Expression)
    (h : name ≠ "ConfigurationTables") : (ofName name arguments).references = [] := by
  rw [references, name_ofName, if_neg h]

lemma RuntimePermission.references_decorators (permission : RuntimePermission) (resource : String)
    (explicit forInstances : Bool) :
    ∀ decorator ∈ permission.decorators resource explicit forInstances,
    decorator.references = [] := by
  intro decorator hdecorator
  unfold decorators at hdecorator
  obtain ⟨permitted, -, hdecorator⟩ := List.mem_filterMap.mp hdecorator
  dsimp only at hdecorator
  split at hdecorator
  · rw [← Option.some.inj hdecorator]
    refine Decorator.references_ofName _ ?_
    cases permitted <;> cases forInstances <;> decide
  · contradiction

lemma PermissionIndex.references_classDecorators (index : PermissionIndex) (excluded : List String)
    (forInstances : Bool) :
    ∀ decorator ∈ classDecorators index excluded forInstances, decorator.references = [] := by
  intro decorator hdecorator
  obtain ⟨⟨resource, permission⟩, -, hdecorator⟩ := List.mem_flatMap.mp hdecorator
  dsimp only at hdecorator
  split at hdecorator
  · contradiction
  · exact permission.references_decorators _ _ _ decorator hdecorator

lemma VisibilityPrincipal.references_decorators (principals : List VisibilityPrincipal)
    (forInstances : Bool) :
    ∀ decorator ∈ decorators principals forInstances, decorator.references = [] := by
  intro decorator hdecorator
  unfold decorators at hdecorator
  split at hdecorator
  · contradiction
  · rw [List.mem_singleton.mp hdecorator]
    refine Decorator.references_ofName _ ?_
    cases forInstances <;> decide

namespace Entity

lemma references_valueStreamDecorators (entity : Entity) :
    ∀ decorator ∈ entity.valueStreamDecorators, decorator.references = [] := by
  have hname : ∀ s, (Decorator.ofName "valueStream" [.string s]).references = [] := fun s =>
    Decorator.references_ofName _ (by decide)
  unfold valueStreamDecorators
  split
  · exact Decorator.forall_mem_optional hname _
  · exact Decorator.forall_mem_optional hname _
  · simp

lemma references_definitionDecorators (entity : Entity) :
    ∀ decorator ∈ entity.definitionDecorators, decorator.references = [] := by
  unfold definitionDecorators
  split
  · simp only [List.cons_append, List.forall_mem_cons, List.forall_mem_append]
    refine ⟨Decorator.references_ofName _ (by decide), ?_, ?_⟩
    · exact Decorator.forall_mem_flag (Decorator.references_ofName _ (by decide)) _
    · exact Decorator.forall_mem_optional (fun _ => Decorator.references_ofName _ (by decide)) _
  · rw [List.forall_mem_cons]
    exact ⟨Decorator.references_ofName _ (by decide), VisibilityPrincipal.references_decorators _ _⟩
  · simp

lemma references_earlyPermissionDecorators (entity : Entity) :
    ∀ decorator ∈ entity.earlyPermissionDecorators, decorator.references = [] := by
  unfold earlyPermissionDecorators
  dsimp only
  split
  · exact PermissionIndex.references_classDecorators _ _ _
  · rw [List.forall_mem_append]
    exact ⟨PermissionIndex.references_classDecorators _ _ _,
      PermissionIndex.references_classDecorators _ _ _⟩
  · rw [List.forall_mem_append]
    exact ⟨PermissionIndex.references_classDecorators _ _ _,
      PermissionIndex.references_classDecorators _ _ _⟩
  · simp

lemma references_latePermissionDecorators (entity : Entity) :
    ∀ decorator ∈ entity.latePermissionDecorators, decorator.references = [] := by
  unfold latePermissionDecorators
  split
  · exact PermissionIndex.references_classDecorators _ _ _
  · exact PermissionIndex.references_classDecorators _ _ _
  · simp

lemma references_configurationDecorators {entity : Entity} {decorators : List Decorator}
    (h : entity.configurationDecorators = .ok decorators) :
    ∀ decorator ∈ decorators, decorator.references = [] := by
  unfold configurationDecorators at h
  split at h
  · rw [← Except.ok.inj h]
    simp
  · obtain ⟨rows, -, rfl⟩ := Outcome.map_eq_ok.mp h
    intro decorator hdecorator
    rw [List.mem_singleton.mp hdecorator]
    exact Decorator.references_ofName _ (by decide)

lemma references_tableDecorators {entity : Entity} {decorators : List Decorator}
    (h : entity.tableDecorators separator = .ok decorators) :
    List.Forall₂ (RefersTo separator) (entity.configurationTableDefinitions.map (·.dataShapeName))
      (decorators.flatMap Decorator.references) := by
  unfold tableDecorators at h
  rw [Outcome.bind_eq_ok] at h
  obtain ⟨tables, htables, h⟩ := h
  have hreferences : List.Forall₂ (RefersTo separator)
      (entity.configurationTableDefinitions.map (·.dataShapeName))
      (tables.flatMap PropertyDeclaration.references) :=
    forall₂_map_flatMap (Outcome.mapM_eq_ok.mp htables) fun _ _ =>
      ConfigurationTableDefinition.references_declaration
  rw [← Outcome.pure_eq_ok.mp h]
  split
  · rename_i hnone
    rwa [List.isEmpty_iff.mp hnone] at hreferences
  · simpa [Decorator.references, Expression.memberReferences] using hreferences

/-! ## The class -/

end Entity

lemma FieldAspects.NamesOthers.referencedNames_ne_empty {aspects : FieldAspects}
    {baseType : BaseType}
    (h : aspects.NamesOthers) : ∀ name ∈ aspects.referencedNames baseType, name ≠ "" := by
  have hthing : ∀ name ∈ aspects.thingTemplate.toList ++ aspects.thingShape.toList, name ≠ "" := by
    simpa [or_imp, forall_and] using ⟨h.thingTemplate, h.thingShape⟩
  unfold referencedNames
  split
  · simpa using h.dataShape
  · exact hthing
  · exact hthing
  · simp

lemma ServiceDefinition.NamesOthers.referencedNames_ne_empty {service : ServiceDefinition}
    (h : service.NamesOthers) : ∀ name ∈ service.referencedNames, name ≠ "" := by
  unfold referencedNames
  rw [List.forall_mem_append, List.forall_mem_flatMap]
  exact ⟨fun parameter hparameter => (h.parameters parameter hparameter).referencedNames_ne_empty,
    h.result.referencedNames_ne_empty⟩

namespace Entity.DeclaredFrom

variable {entity : Entity} {parts : DeclaredParts} {d : ClassDeclaration}

/-- Of the decorators of a class, only the one for the configuration tables has references. -/
lemma references_decorators (h : entity.DeclaredFrom separator parts d) :
    d.decorators.flatMap Decorator.references = parts.tables.flatMap Decorator.references := by
  have hnone :
      ∀ {decorators : List Decorator}, (∀ decorator ∈ decorators, decorator.references = []) →
      decorators.flatMap Decorator.references = [] := fun h => List.flatMap_eq_nil_iff.mpr h
  rw [h.decorators]
  simp only [List.flatMap_append, List.flatMap_cons]
  rw [Decorator.references_ofName _ (by decide), hnone entity.references_valueStreamDecorators,
    hnone (Decorator.forall_mem_flag (Decorator.references_ofName [] (by decide)) _),
    hnone entity.references_definitionDecorators, hnone entity.references_earlyPermissionDecorators,
    hnone (VisibilityPrincipal.references_decorators _ _),
    hnone (references_configurationDecorators h.configuration),
    hnone entity.references_latePermissionDecorators]
  simp

/-- The references of a class belong to the names that its entity mentions, one by one. -/
lemma references (h : entity.DeclaredFrom separator parts d) :
    List.Forall₂ (RefersTo separator) entity.referencedNames (d.references entity.kind) := by
  have hbase := ((List.forall₂_and_left _ _).mp (references_base h.base)).2
  have htables := references_tableDecorators h.tables
  have hfields := List.rel_flatMap h.fields fun _ _ => DataShapeField.references_declaration
  have hproperties := List.rel_flatMap h.properties fun _ _ =>
    PropertyDefinition.references_declaration
  have hservices := List.rel_flatMap h.services fun _ _ => ServiceDefinition.references_declaration
  have hevents := forall₂_map_flatMap h.events fun _ _ => EventDefinition.references_declaration
  have hsubscriptions := forall₂_map_flatMap h.subscriptions fun _ _ =>
    SubscriptionDefinition.references_declaration
  unfold referencedNames ClassDeclaration.references
  rw [h.references_decorators, h.members]
  simp only [List.flatMap_append, List.flatMap_map, ← List.append_assoc]
  refine List.rel_append (List.rel_append (List.rel_append (List.rel_append ?_ ?_) ?_) hevents)
    hsubscriptions
  · exact List.rel_append (List.rel_append hbase htables) hfields
  · exact hproperties
  · exact hservices

/-- An entity that is declared as a class names all entities it mentions. -/
lemma referencedNames_ne_empty (h : entity.DeclaredFrom separator parts d)
    (hothers : entity.NamesOthers) :
    ∀ name ∈ entity.referencedNames, name ≠ "" := by
  have hbase := ((List.forall₂_and_left _ _).mp (references_base h.base)).1
  unfold referencedNames
  simp only [List.forall_mem_append, List.forall_mem_map, List.forall_mem_flatMap]
  refine ⟨⟨⟨⟨⟨⟨hbase, hothers.tables⟩, ?_⟩, ?_⟩, ?_⟩, hothers.events⟩, ?_⟩
  · exact fun field hfield => (hothers.fields field hfield).referencedNames_ne_empty
  · exact fun property hproperty => (hothers.properties property hproperty).referencedNames_ne_empty
  · exact fun service hservice => (hothers.services service hservice).referencedNames_ne_empty
  · intro subscription _ hempty
    exact absurd (String.append_eq_empty_iff.mp hempty).2 (by decide)

end Entity.DeclaredFrom

end

/-- Can a class name be made of the name of an entity? The separator is not empty, or the name has a
character that can start an identifier. -/
def Separator.Names (separator : Separator) (name : String) : Prop :=
  separator.text ≠ "" ∨ ∃ c ∈ name.toList, Identifier.isStart c = true

namespace RefersTo

variable {separator : Separator} {name reference : String}

lemma ne_empty_iff (h : RefersTo separator name reference) (hname : name ≠ "") :
    reference ≠ "" ↔ separator.Names name := by
  unfold RefersTo className at h
  rw [Outcome.bind_eq_ok] at h
  obtain ⟨-, -, h⟩ := h
  have hnonempty : name.toList ≠ [] := by simpa using hname
  have hempty : ClassName.ofName separator.text.toList name.toList = []
      ↔ separator.text.toList = [] ∧ ∀ c ∈ name.toList, Identifier.isStart c = false :=
    ClassName.ofName_eq_nil_iff hnonempty
  rw [← Outcome.pure_eq_ok.mp h, Separator.Names, ← not_iff_not]
  simpa using hempty

/-- A reference is an identifier unless it is empty. -/
lemma isIdentifier_iff (h : RefersTo separator name reference)
    (hseparator : separator.Fits = true) :
    isIdentifier reference.toList = true ↔ reference ≠ "" := by
  have hfit := (className_sound hseparator name).post h
  constructor
  · rintro hidentifier rfl
    contradiction
  · intro hnonempty
    exact hfit.resolve_left (by simpa using hnonempty)

/-- A reference is the name of the class that an entity is compiled to, if it is one of that name.
-/
lemma eq_name_of_compile {document : Value} {kind : EntityKind} {entity : Entity}
    {d : ClassDeclaration}
    (h : RefersTo separator entity.name reference)
    (hentity : Document.entity document kind = .ok entity)
    (hd : Compilation.compile document kind separator = .ok d) :
    d.name = reference ∧ reference ≠ "" := by
  obtain ⟨_, hcompiled, hdeclared⟩ := Outcome.bind_eq_ok.mp hd
  obtain rfl := Except.ok.inj (hentity.symm.trans hcompiled)
  obtain ⟨_, hparts⟩ := Entity.declaration_eq_ok hdeclared
  obtain rfl := Except.ok.inj (hparts.name.symm.trans h)
  refine ⟨rfl, ?_⟩
  intro hempty
  have hnamed := hparts.named
  rw [hempty] at hnamed
  contradiction

end RefersTo

namespace Compilation

variable {document : Value} {kind : EntityKind} {separator : Separator} {d : ClassDeclaration}

/-- The references of a compiled class belong to the names that its entity mentions, one by one and
in order. Each is an identifier if a class name can be made of the name at all, and empty otherwise.
Whatever document describes an entity of this name, the class it is compiled to has the reference
for its name, and an entity of whose name no class name can be made is not compiled to any class. -/
theorem references_resolve (hdocument : document.IsKeyed) (hseparator : separator.Fits = true)
    (h : compile document kind separator = .ok d) :
    ∃ entity, Document.entity document kind = .ok entity
      ∧ List.Forall₂ (fun name reference =>
          className separator name = .ok reference
          ∧ (isIdentifier reference.toList = true ↔ separator.Names name)
          ∧ (¬separator.Names name → reference = "")
          ∧ ∀ other otherKind otherEntity c, Document.entity other otherKind = .ok otherEntity →
            otherEntity.name = name → compile other otherKind separator = .ok c →
            c.name = reference ∧ separator.Names name)
        entity.referencedNames (d.references kind) := by
  obtain ⟨entity, hentity, hdeclared⟩ := Outcome.bind_eq_ok.mp h
  obtain ⟨-, rfl, -, hothers⟩ := (Document.entity_named_sound hdocument kind).post hentity
  obtain ⟨parts, hparts⟩ := Entity.declaration_eq_ok hdeclared
  refine ⟨entity, hentity, ?_⟩
  have hnamed := (List.forall₂_and_left _ _).mpr
    ⟨hparts.referencedNames_ne_empty hothers, hparts.references⟩
  refine hnamed.imp fun name reference hname => ?_
  obtain ⟨hnonempty, hreference⟩ := hname
  have hnames := hreference.ne_empty_iff hnonempty
  refine ⟨hreference, (hreference.isIdentifier_iff hseparator).trans hnames, ?_, ?_⟩
  · rw [← hnames, not_not]
    exact id
  · rintro other otherKind otherEntity c hother rfl hcompiled
    rw [← hnames]
    exact hreference.eq_name_of_compile hother hcompiled

/-- A thing with a template, a shape, an event and an info table. -/
def boilerDocument (shape : String) : Value :=
  .object [("name", .text "Boiler"), ("thingTemplate", .text "Generic Thing"),
    ("implementedShapes", .list [.text "Heat Source"]),
    ("thingShape", .object [
      ("propertyDefinitions", .object [("log", .object [("baseType", .text "INFOTABLE"),
        ("aspects", .object [("dataShape", .text shape)])])]),
      ("eventDefinitions", .object [("hot", .object [("dataShape", .text "Hot!")])])])]

lemma isKeyed_boilerDocument (shape : String) : (boilerDocument shape).IsKeyed := by
  simp [boilerDocument]

/-- With an empty separator, nothing is left of a name that consists of digits: the info table has
rows of the type without a name, and no entity of this name is compiled. -/
theorem numberedShape_unresolved :
    ∃ d, compile (boilerDocument "123") .thing ⟨""⟩ = .ok d
      ∧ d.references .thing = ["GenericThing", "HeatSource", "", "Hot"]
      ∧ isIdentifier "".toList = false := by
  refine ⟨_, rfl, rfl, rfl⟩

/-- With the usual separator, each of the four references of the boiler is an identifier. -/
theorem boilerDocument_references :
    (boilerDocument "123").IsKeyed ∧ Separator.default.Fits = true
    ∧ ∃ d, compile (boilerDocument "123") .thing .default = .ok d
      ∧ d.references .thing = ["Generic_Thing", "Heat_Source", "_", "Hot_"]
      ∧ ∀ reference ∈ d.references .thing, isIdentifier reference.toList = true := by
  obtain ⟨entity, -, hreferences⟩ :=
    @references_resolve _ _ .default _ (isKeyed_boilerDocument "123") rfl
      (show compile (boilerDocument "123") .thing .default = .ok _ from rfl)
  refine ⟨isKeyed_boilerDocument "123", rfl, _, rfl, rfl, ?_⟩
  refine Outcome.forall_of_forall₂ hreferences fun name reference hname => ?_
  exact hname.2.1.mpr (.inl (by decide))

end Compilation

end EntityCompiler
