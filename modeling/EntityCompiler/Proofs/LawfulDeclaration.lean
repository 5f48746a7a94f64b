import EntityCompiler.Declaration.OfEntity
import EntityCompiler.Proofs.ClassNames
import EntityCompiler.Proofs.Comments
import EntityCompiler.Proofs.LawfulScript

/-!
# Declarations that keep their contracts

Every name in a lawful declaration is an identifier, every comment in it is closed at its end only,
no property in it is both definite and initialized, and its scripts are made of leaves and inner
nodes. With a separator that fits, declaring any entity breaks no contract: either the declaration
is lawful, or the problem is worded. The parts come first, from expressions up to classes.
-/

namespace EntityCompiler

/-! ## The contracts -/

mutual

/-- An expression in which every part keeps its contracts. -/
inductive Expression.Lawful : Expression → Prop
  | name {identifier : String} (h : isIdentifier identifier.toList = true) :
    Expression.Lawful (.name identifier)
  | string {value : String} : Expression.Lawful (.string value)
  | number {value : Number} : Expression.Lawful (.number value)
  | boolean {value : Bool} : Expression.Lawful (.boolean value)
  | null : Expression.Lawful .null
  | access {object : Expression} {property : String} (h : Expression.Lawful object) :
    Expression.Lawful (.access object property)
  | call {callee : Expression} {arguments : List Expression} (hcallee : Expression.Lawful callee)
    (harguments : ∀ argument ∈ arguments, Expression.Lawful argument) :
    Expression.Lawful (.call callee arguments)
  | object {properties : List PropertyAssignment}
    (h : ∀ property ∈ properties, PropertyAssignment.Lawful property) :
    Expression.Lawful (.object properties)
  | array {elements : List Expression} (h : ∀ element ∈ elements, Expression.Lawful element) :
    Expression.Lawful (.array elements)
  | classOf {members : List PropertyDeclaration}
    (h : ∀ member ∈ members, PropertyDeclaration.Lawful member) :
    Expression.Lawful (.classOf members)

/-- A property of an object whose value keeps its contracts. -/
inductive PropertyAssignment.Lawful : PropertyAssignment → Prop
  | mk {name : String} {value : Expression} (h : Expression.Lawful value) :
    PropertyAssignment.Lawful (.mk name value)

/-- A decorator that is a name or calls one. -/
inductive Decorator.Lawful : Decorator → Prop
  | name {identifier : String} (h : Expression.Lawful (.name identifier)) :
    Decorator.Lawful ⟨.name identifier⟩
  | call {identifier : String} {arguments : List Expression}
    (h : Expression.Lawful (.call (.name identifier) arguments)) :
    Decorator.Lawful ⟨.call (.name identifier) arguments⟩

/-- A property of a class that is not both definite and initialized. -/
inductive PropertyDeclaration.Lawful : PropertyDeclaration → Prop
  | mk {name : String} {type : TypeNode} {decorators : List Decorator}
    {isReadonly isDefinite : Bool} {initializer : Option Expression}
    {comment : Option DocComment}
    (hdecorators : ∀ decorator ∈ decorators, Decorator.Lawful decorator)
    (hinitializer : ∀ e, initializer = some e → Expression.Lawful e)
    (hdefinite : isDefinite = true → initializer = none)
    (hcomment : ∀ c, comment = some c → DocComment.Lawful c) :
    PropertyDeclaration.Lawful
      (.mk name type decorators isReadonly isDefinite initializer comment)

end

/-- An element of a parameter whose default value keeps its contracts. -/
def BindingElement.Lawful (element : BindingElement) : Prop :=
  ∀ e, element.initializer = some e → e.Lawful

/-- A parameter whose elements keep their contracts. -/
def Parameter.Lawful (parameter : Parameter) : Prop :=
  ∀ elements, parameter.name = .object elements → ∀ element ∈ elements, element.Lawful

/-- A method whose parts keep their contracts. -/
structure MethodDeclaration.Lawful (method : MethodDeclaration) : Prop where
  parameters : ∀ parameter ∈ method.parameters, parameter.Lawful
  body : method.body.Lawful
  decorators : ∀ decorator ∈ method.decorators, decorator.Lawful
  comment : ∀ c, method.comment = some c → c.Lawful

/-- A member that keeps its contracts. -/
def Member.Lawful : Member → Prop
  | .property declaration => declaration.Lawful
  | .method declaration => declaration.Lawful

/-- A class that is named by an identifier and whose parts keep their contracts. -/
structure ClassDeclaration.Lawful (declaration : ClassDeclaration) : Prop where
  named : isIdentifier declaration.name.toList = true
  members : ∀ member ∈ declaration.members, member.Lawful
  decorators : ∀ decorator ∈ declaration.decorators, decorator.Lawful
  base : ∀ e, declaration.base = some e → e.Lawful
  comment : ∀ c, declaration.comment = some c → c.Lawful

open Outcome (Sound AllWorded)

/-! ## Literals -/

namespace Expression

lemma literal_sound (value : Value) : (literal value).Sound Lawful := by
  unfold literal
  split
  · exact .boolean
  · split
    · exact .number
    · exact Sound.problem trivial
  · exact .string
  · exact Sound.problem trivial

mutual

theorem jsonLiteral_sound : ∀ value : Value, (jsonLiteral value).Sound Lawful
  | .null => .null
  | .bool _ => .boolean
  | .number n => by
    rw [jsonLiteral]
    · exact literal_sound (.number n)
    all_goals simp
  | .text _ => .string
  | .list items => by
    rw [jsonLiteral]
    exact (itemLiterals_sound 0 items).map fun _ h => .array h
  | .object entries => by
    rw [jsonLiteral]
    exact (entryLiterals_sound entries).map fun _ h => .object h

theorem entryLiterals_sound : ∀ entries : List (String × Value),
    (entryLiterals entries).Sound fun properties => ∀ property ∈ properties, property.Lawful
  | [] => Sound.ok (by simp)
  | (key, value) :: rest => by
    rw [entryLiterals]
    refine Sound.bind (Sound.within ?_ (jsonLiteral_sound value)) fun first hfirst => ?_
    · trivial
    refine (entryLiterals_sound rest).bind fun others hothers => ?_
    exact Sound.pure (List.forall_mem_cons.mpr ⟨.mk hfirst, hothers⟩)

theorem itemLiterals_sound : ∀ (index : Nat) (items : List Value),
    (itemLiterals index items).Sound fun elements => ∀ element ∈ elements, element.Lawful
  | _, [] => Sound.ok (by simp)
  | index, value :: rest => by
    rw [itemLiterals]
    refine Sound.bind (Sound.within ?_ (jsonLiteral_sound value)) fun first hfirst => ?_
    · trivial
    refine (itemLiterals_sound (index + 1) rest).bind fun others hothers => ?_
    exact Sound.pure (List.forall_mem_cons.mpr ⟨hfirst, hothers⟩)

end

end Expression

/-- The initial value of a field is a literal. -/
lemma FieldAspects.initializer_sound (aspects : FieldAspects) {cause : Cause}
    (hcause : cause.IsWorded) :
    (aspects.initializer cause).Sound fun initializer => ∀ e, initializer = some e → e.Lawful := by
  unfold initializer
  split
  · exact Sound.ok (by simp)
  · exact (Sound.within hcause (Expression.literal_sound _)).map (by simp)

/-! ## Decorators -/

namespace Decorator

lemma lawful_ofName {name : String} {arguments : List Expression}
    (hname : isIdentifier name.toList = true)
    (harguments : ∀ argument ∈ arguments, argument.Lawful) : (ofName name arguments).Lawful := by
  cases arguments with
  | nil => exact .name (.name hname)
  | cons first rest => exact .call (.call (.name hname) harguments)

lemma lawful_flag {name : String} (hname : isIdentifier name.toList = true) (isSet : Bool) :
    ∀ decorator ∈ flag name isSet, decorator.Lawful :=
  forall_mem_flag (lawful_ofName hname (by simp)) isSet

lemma lawful_optional {α : Type} {name : String} {argument : α → Expression}
    (hname : isIdentifier name.toList = true) (hargument : ∀ a, (argument a).Lawful)
    (x : Option α) : ∀ decorator ∈ optional name argument x, decorator.Lawful :=
  forall_mem_optional (fun a => lawful_ofName hname (by simpa using hargument a)) x

end Decorator

lemma PermissionEntry.lawful_reference (entry : PermissionEntry) : entry.reference.Lawful := by
  unfold reference
  cases entry.principalType with
  | user => exact .access (.name rfl)
  | group => exact .access (.name rfl)

namespace RuntimePermission

lemma lawful_kindArguments (permission : RuntimePermission) (permitted : Bool)
    (kind : PermissionKind) :
    ∀ argument ∈ permission.kindArguments permitted kind, argument.Lawful := by
  intro argument h
  unfold kindArguments at h
  split at h
  · contradiction
  · rcases List.mem_cons.mp h with rfl | h
    · exact .access (.name rfl)
    · obtain ⟨entry, -, rfl⟩ := List.mem_map.mp h
      exact entry.lawful_reference

lemma isIdentifier_decoratorName (permitted forInstances : Bool) :
    isIdentifier (decoratorName permitted forInstances).toList = true := by
  cases permitted <;> cases forInstances <;> rfl

lemma lawful_decorators (permission : RuntimePermission) (resourceName : String)
    (explicit forInstances : Bool) :
    ∀ decorator ∈ permission.decorators resourceName explicit forInstances,
      decorator.Lawful := by
  intro decorator h
  simp only [decorators, List.mem_filterMap] at h
  obtain ⟨permitted, -, h⟩ := h
  split at h
  · rw [← Option.some.inj h]
    refine Decorator.lawful_ofName (isIdentifier_decoratorName permitted forInstances) ?_
    intro argument hargument
    rcases List.mem_append.mp hargument with hargument | hargument
    · split at hargument
      · rw [List.mem_singleton.mp hargument]
        exact .string
      · contradiction
    · obtain ⟨kind, -, hargument⟩ := List.mem_flatMap.mp hargument
      exact permission.lawful_kindArguments permitted kind argument hargument
  · contradiction

end RuntimePermission

lemma PermissionIndex.lawful_classDecorators (index : PermissionIndex) (excluded : List String)
    (forInstances : Bool) :
    ∀ decorator ∈ classDecorators index excluded forInstances, decorator.Lawful := by
  intro decorator h
  obtain ⟨⟨resource, permission⟩, -, h⟩ := List.mem_flatMap.mp h
  dsimp only at h
  split at h
  · contradiction
  · exact permission.lawful_decorators _ _ _ decorator h

namespace VisibilityPrincipal

lemma lawful_reference (principal : VisibilityPrincipal) : principal.reference.Lawful := by
  have horganization : (Expression.access (.name "Organizations") principal.organization).Lawful :=
    .access (.name rfl)
  unfold reference
  dsimp only
  split
  · exact horganization
  · refine .call (.name rfl) ?_
    simp only [List.forall_mem_cons, List.not_mem_nil, false_implies, implies_true, and_true]
    exact ⟨horganization, .string⟩

lemma lawful_decorators (principals : List VisibilityPrincipal) (forInstances : Bool) :
    ∀ decorator ∈ decorators principals forInstances, decorator.Lawful := by
  intro d h
  unfold decorators at h
  split at h
  · contradiction
  · rw [List.mem_singleton.mp h]
    refine Decorator.lawful_ofName (by cases forInstances <;> rfl) ?_
    intro argument hargument
    obtain ⟨principal, -, rfl⟩ := List.mem_map.mp hargument
    exact principal.lawful_reference

end VisibilityPrincipal

/-! ## References and types -/

section

variable {separator : Separator} (hseparator : separator.Fits = true)

include hseparator

lemma TypeNode.ofEntity_sound (name : String) :
    (TypeNode.ofEntity separator name).Sound fun _ => True :=
  (className_sound hseparator name).map fun _ _ => trivial

lemma Expression.ofEntity_sound (name : String) :
    (Expression.ofEntity separator name).Sound Expression.Lawful := by
  refine (className_sound hseparator name).bind fun identifier hidentifier => ?_
  split
  · exact Sound.problem trivial
  · rename_i hne
    have hname : isIdentifier identifier.toList = true := by
      rcases hidentifier with hempty | hidentifier
      · exact absurd (by simpa using hempty) hne
      · exact hidentifier
    exact Sound.require_bind hname (.name hname)

lemma FieldAspects.thingArguments_sound (aspects : FieldAspects) :
    (aspects.thingArguments separator).Sound fun _ => True := by
  have hofEntity : ∀ name : String, Sound (fun _ => True)
      (Except.map ([·]) (TypeNode.ofEntity separator name)) :=
    fun name => (TypeNode.ofEntity_sound hseparator name).map fun _ _ => trivial
  unfold thingArguments
  dsimp only
  -- with and without a template, the same is done about the shape
  split
  all_goals
    refine Sound.bind (P := fun _ => True) ?_ fun template _ => ?_
    · first
      | exact hofEntity _
      | trivial
    split
    · exact (hofEntity _).bind fun _ _ => Sound.pure trivial
    · exact Sound.pure trivial

lemma FieldAspects.typeArguments_sound (aspects : FieldAspects) (baseType : BaseType) :
    (aspects.typeArguments separator baseType).Sound fun _ => True := by
  unfold typeArguments
  split
  · split
    · exact (TypeNode.ofEntity_sound hseparator _).map fun _ _ => trivial
    · trivial
  · exact aspects.thingArguments_sound hseparator
  · exact aspects.thingArguments_sound hseparator
  · trivial

lemma TypeNode.ofBaseType_sound (baseType : BaseType) (aspects : Option FieldAspects) :
    (TypeNode.ofBaseType baseType aspects separator).Sound fun _ => True := by
  unfold TypeNode.ofBaseType
  split
  · trivial
  · dsimp only
    split
    · exact Sound.pure trivial
    · refine (FieldAspects.typeArguments_sound hseparator _ _).bind fun _ _ => ?_
      exact Sound.pure trivial

end

/-! ## Properties -/

lemma FieldAspects.lawful_limitDecorators (aspects : FieldAspects) :
    ∀ decorator ∈ aspects.limitDecorators, decorator.Lawful := by
  intro decorator h
  simp only [limitDecorators, List.mem_append] at h
  rcases h with (h | h) | h
  · exact Decorator.lawful_optional rfl (fun _ => .number) _ decorator h
  · exact Decorator.lawful_optional rfl (fun _ => .number) _ decorator h
  · exact Decorator.lawful_optional rfl (fun _ => .string) _ decorator h

lemma FieldAspects.lawful_dataChangeDecorators (aspects : FieldAspects) :
    ∀ decorator ∈ aspects.dataChangeDecorators, decorator.Lawful := by
  intro decorator h
  unfold dataChangeDecorators at h
  split at h
  · contradiction
  · rw [List.mem_singleton.mp h]
    refine Decorator.lawful_ofName rfl (List.forall_mem_cons.mpr ⟨.string, ?_⟩)
    intro argument hargument
    obtain ⟨threshold, -, rfl⟩ := Option.map_eq_some_iff.mp (Option.mem_toList.mp hargument)
    exact .number

namespace PropertyDefinition

lemma lawful_localDecorators (property : PropertyDefinition) :
    ∀ decorator ∈ property.localDecorators, decorator.Lawful := by
  intro decorator h
  unfold localDecorators at h
  split at h
  · contradiction
  · rw [List.mem_singleton.mp h]
    refine Decorator.lawful_ofName rfl ?_
    intro argument hargument
    rcases List.mem_pair.mp hargument with rfl | rfl <;> exact .string

lemma remoteSettings_sound (property : PropertyDefinition) (options : Fields) :
    (property.remoteSettings options).Sound fun settings =>
      ∀ setting ∈ settings, setting.Lawful := by
  induction options with
  | nil => exact Sound.ok (by simp)
  | cons entry rest ih =>
    rw [remoteSettings]
    split
    · refine Sound.bind (Sound.within ?_ (Expression.literal_sound entry.2)) fun first hfirst => ?_
      · trivial
      refine ih.bind fun others hothers => ?_
      exact Sound.pure (List.forall_mem_cons.mpr ⟨.mk hfirst, hothers⟩)
    · exact ih

lemma remoteDecorators_sound (property : PropertyDefinition) :
    property.remoteDecorators.Sound fun decorators =>
      ∀ decorator ∈ decorators, decorator.Lawful := by
  unfold remoteDecorators
  split
  · refine (property.remoteSettings_sound _).bind fun settings hsettings => Sound.pure ?_
    intro decorator h
    rw [List.mem_singleton.mp h]
    refine Decorator.lawful_ofName rfl ?_
    intro argument hargument
    rcases List.mem_pair.mp hargument with rfl | rfl
    · exact .string
    · exact .object hsettings
  · exact Sound.ok (by simp)

end PropertyDefinition

/-- The decorators for the permission on a member, if there is one. -/
lemma lawful_permissionDecorators (permission : Option RuntimePermission) (name : String) :
    ∀ decorator : Decorator, decorator ∈ (match permission with
      | none => []
      | some permission => permission.decorators name false false) → decorator.Lawful := by
  cases permission with
  | none => simp
  | some permission => exact permission.lawful_decorators _ _ _

/-- A property that is definite exactly if it has no initial value passes the check. -/
lemma PropertyDeclaration.sound_checked {name : String} {type : TypeNode}
    {decorators : List Decorator} {isReadonly isDefinite : Bool} {initializer : Option Expression}
    {comment : Option DocComment} (hdecorators : ∀ decorator ∈ decorators, decorator.Lawful)
    (hinitializer : ∀ e, initializer = some e → e.Lawful)
    (hdefinite : isDefinite = true → initializer = none)
    (hcomment : ∀ c, comment = some c → c.Lawful) :
    (checked ⟨name, type, decorators, isReadonly, isDefinite, initializer, comment⟩).Sound
      PropertyDeclaration.Lawful := by
  refine Sound.require_bind ?_ (Sound.pure (.mk hdecorators hinitializer hdefinite hcomment))
  cases isDefinite with
  | false => rfl
  | true => rw [hdefinite rfl]; rfl

/-- What the declarations of all fields have keeps its contracts. -/
structure DeclaredField.Lawful (field : DeclaredField) : Prop where
  decorators : ∀ decorator ∈ field.decorators, decorator.Lawful
  initializer : ∀ e, field.initializer = some e → e.Lawful
  comment : ∀ c, field.comment = some c → c.Lawful

section

variable {separator : Separator} (hseparator : separator.Fits = true)

include hseparator

lemma FieldDefinition.declared_sound (field : FieldDefinition) :
    (field.declared separator).Sound DeclaredField.Lawful := by
  unfold declared
  refine Sound.bind (field.aspects.initializer_sound ?_) fun initializer hinitializer => ?_
  · trivial
  refine (TypeNode.ofBaseType_sound hseparator _ _).bind fun type _ => ?_
  refine (DocComment.ofText?_sound _).bind fun comment hcomment => ?_
  exact Sound.pure ⟨field.aspects.lawful_limitDecorators, hinitializer, hcomment⟩

lemma PropertyDefinition.declaration_sound (property : PropertyDefinition)
    (permission : Option RuntimePermission) :
    (property.declaration permission separator).Sound PropertyDeclaration.Lawful := by
  unfold declaration
  refine (FieldDefinition.declared_sound hseparator _).bind fun field hfield => ?_
  refine property.remoteDecorators_sound.bind fun remote hremote => ?_
  refine PropertyDeclaration.sound_checked ?_ hfield.initializer (by simp) hfield.comment
  simp only [List.forall_mem_append]
  exact ⟨⟨⟨⟨⟨⟨hfield.decorators, Decorator.lawful_flag rfl _⟩, Decorator.lawful_flag rfl _⟩,
    property.aspects.lawful_dataChangeDecorators⟩, hremote⟩, property.lawful_localDecorators⟩,
    lawful_permissionDecorators permission property.name⟩

lemma DataShapeField.declaration_sound (field : DataShapeField) :
    (DataShapeField.declaration field separator).Sound PropertyDeclaration.Lawful := by
  unfold DataShapeField.declaration
  refine (FieldDefinition.declared_sound hseparator _).bind fun declared hdeclared => ?_
  refine PropertyDeclaration.sound_checked ?_ hdeclared.initializer (by simp) hdeclared.comment
  exact List.forall_mem_append.mpr ⟨hdeclared.decorators, Decorator.lawful_flag rfl _⟩

lemma EventDefinition.declaration_sound (event : EventDefinition) :
    (event.declaration separator).Sound PropertyDeclaration.Lawful := by
  unfold declaration
  refine (TypeNode.ofEntity_sound hseparator _).bind fun data _ => ?_
  refine (DocComment.ofText?_sound _).bind fun comment hcomment => ?_
  exact PropertyDeclaration.sound_checked (Decorator.lawful_optional rfl (fun _ => .string) _)
    (by simp) (by simp) hcomment

lemma ConfigurationTableDefinition.declaration_sound (definition : ConfigurationTableDefinition) :
    (definition.declaration separator).Sound PropertyDeclaration.Lawful := by
  unfold declaration
  refine (TypeNode.ofEntity_sound hseparator _).bind fun rows _ => ?_
  refine (DocComment.ofText?_sound _).bind fun comment hcomment => ?_
  exact PropertyDeclaration.sound_checked (by simp) (by simp) (by simp) hcomment

end

/-! ## Methods -/

lemma ServiceDefinition.implementation_sound (service : ServiceDefinition) :
    service.implementation.Sound fun (remote, body) =>
      (∀ decorator ∈ remote, decorator.Lawful) ∧ body.Lawful := by
  have hoptions : ∀ (binding : RemoteServiceBinding), ∀ option ∈ remoteOptions binding,
      option.Lawful := by
    intro binding option h
    rcases List.mem_append.mp h with h | h
    · split at h
      · rw [List.mem_singleton.mp h]
        exact .mk .boolean
      · contradiction
    · split at h
      · contradiction
      · rw [List.mem_singleton.mp h]
        exact .mk .number
  unfold implementation
  split
  · refine Sound.ok ⟨?_, fun _ h => absurd h List.not_mem_nil⟩
    intro decorator h
    rw [List.mem_singleton.mp h]
    refine Decorator.lawful_ofName rfl ?_
    intro argument hargument
    rcases List.mem_pair.mp hargument with rfl | rfl
    · exact .string
    · exact .object (hoptions _)
  · split
    · exact Sound.problem trivial
    · refine Sound.map (Sound.within ?_ (Block.bodyOf_sound _ _)) fun body hbody => ?_
      · trivial
      · exact ⟨by simp, hbody⟩

section

variable {separator : Separator} (hseparator : separator.Fits = true)

include hseparator

lemma ServiceDefinition.elements_sound (parameters : List ServiceParameter) :
    (elements separator parameters).Sound fun (found, _) =>
      ∀ element ∈ found, element.Lawful := by
  induction parameters with
  | nil => exact Sound.ok (by simp)
  | cons parameter rest ih =>
    rw [elements]
    refine Sound.bind (parameter.aspects.initializer_sound ?_) fun initializer hinitializer => ?_
    · trivial
    refine (TypeNode.ofBaseType_sound hseparator _ _).bind fun type _ => ?_
    refine ih.bind_pair fun others types hothers => ?_
    exact Sound.pure (List.forall_mem_cons.mpr ⟨hinitializer, hothers⟩)

lemma ServiceDefinition.methodParameters_sound (service : ServiceDefinition) :
    (service.methodParameters separator).Sound fun parameters =>
      ∀ parameter ∈ parameters, parameter.Lawful := by
  unfold methodParameters
  split
  · exact Sound.ok (by simp)
  · refine (elements_sound hseparator _).bind_pair fun elements types helements => ?_
    refine Sound.pure fun parameter h => ?_
    rw [List.mem_singleton.mp h]
    intro found hfound
    rw [← ParameterName.object.inj hfound]
    exact helements

lemma ServiceDefinition.declaration_sound (service : ServiceDefinition)
    (permission : Option RuntimePermission) :
    (service.declaration permission separator).Sound MethodDeclaration.Lawful := by
  unfold declaration
  refine service.implementation_sound.bind_pair fun remote body hdone => ?_
  obtain ⟨hremote, hbody⟩ := hdone
  refine Sound.bind (Sound.within ?_ (service.methodParameters_sound hseparator))
    fun parameters hparameters => ?_
  · trivial
  refine (TypeNode.ofBaseType_sound hseparator _ _).bind fun type _ => ?_
  refine (DocComment.ofText?_sound _).bind fun comment hcomment => ?_
  refine Sound.pure ⟨hparameters, hbody, ?_, hcomment⟩
  simp only [List.forall_mem_append]
  exact ⟨⟨⟨Decorator.lawful_flag rfl _, Decorator.lawful_flag rfl _⟩, hremote⟩,
    lawful_permissionDecorators permission service.name⟩

lemma SubscriptionDefinition.methodParameters_sound (subscription : SubscriptionDefinition) :
    (subscription.methodParameters separator).Sound fun parameters =>
      ∀ parameter ∈ parameters, parameter.Lawful := by
  unfold methodParameters
  refine (TypeNode.ofBaseType_sound hseparator _ _).bind fun string _ => ?_
  refine (TypeNode.ofBaseType_sound hseparator _ _).bind fun data _ => ?_
  refine (TypeNode.ofBaseType_sound hseparator _ _).bind fun time _ => ?_
  refine Sound.pure fun parameter h => ?_
  -- none of the parameters of a handler is taken apart
  intro elements helements
  simp only [List.mem_cons, List.not_mem_nil, or_false] at h
  rcases h with rfl | rfl | rfl | rfl | rfl | rfl <;> contradiction

omit hseparator in
lemma SubscriptionDefinition.lawful_decorator (subscription : SubscriptionDefinition) :
    subscription.decorator.Lawful := by
  have hevent : ∀ argument ∈ Expression.string subscription.eventName
      :: (subscription.sourceProperty.map Expression.string).toList, argument.Lawful := by
    refine List.forall_mem_cons.mpr ⟨.string, fun argument h => ?_⟩
    obtain ⟨source, -, rfl⟩ := Option.map_eq_some_iff.mp (Option.mem_toList.mp h)
    exact .string
  unfold decorator
  dsimp only
  split
  · exact Decorator.lawful_ofName rfl (List.forall_mem_cons.mpr ⟨.string, hevent⟩)
  · exact Decorator.lawful_ofName rfl hevent

lemma SubscriptionDefinition.declaration_sound (subscription : SubscriptionDefinition) :
    (subscription.declaration separator).Sound MethodDeclaration.Lawful := by
  unfold declaration
  split
  · exact Sound.problem trivial
  · refine Sound.bind (Sound.within ?_ (Block.bodyOf_sound _ _)) fun body hbody => ?_
    · trivial
    refine (subscription.methodParameters_sound hseparator).bind fun parameters hparameters => ?_
    refine (DocComment.ofText?_sound _).bind fun comment hcomment => ?_
    refine Sound.pure ⟨hparameters, hbody, fun decorator h => ?_, hcomment⟩
    rw [List.mem_singleton.mp h]
    exact subscription.lawful_decorator

end

/-! ## Classes -/

lemma Member.lawful_properties {declarations : List PropertyDeclaration}
    (h : ∀ declaration ∈ declarations, declaration.Lawful) :
    ∀ member ∈ declarations.map Member.property, member.Lawful :=
  List.forall_mem_map.mpr h

lemma Member.lawful_methods {declarations : List MethodDeclaration}
    (h : ∀ declaration ∈ declarations, declaration.Lawful) :
    ∀ member ∈ declarations.map Member.method, member.Lawful :=
  List.forall_mem_map.mpr h

namespace Entity

lemma lawful_valueStreamDecorators (entity : Entity) :
    ∀ decorator ∈ entity.valueStreamDecorators, decorator.Lawful := by
  unfold valueStreamDecorators
  split
  · exact Decorator.lawful_optional rfl (fun _ => .string) _
  · exact Decorator.lawful_optional rfl (fun _ => .string) _
  · simp

lemma lawful_definitionDecorators (entity : Entity) :
    ∀ decorator ∈ entity.definitionDecorators, decorator.Lawful := by
  unfold definitionDecorators
  split
  · refine List.forall_mem_append.mpr ⟨List.forall_mem_cons.mpr
      ⟨Decorator.lawful_ofName rfl (by simp), Decorator.lawful_flag rfl _⟩, ?_⟩
    exact Decorator.lawful_optional rfl (fun _ => .number) _
  · exact List.forall_mem_cons.mpr ⟨Decorator.lawful_ofName rfl (by simp),
      VisibilityPrincipal.lawful_decorators _ _⟩
  · simp

lemma lawful_earlyPermissionDecorators (entity : Entity) :
    ∀ decorator ∈ entity.earlyPermissionDecorators, decorator.Lawful := by
  have hclass := PermissionIndex.lawful_classDecorators
  unfold earlyPermissionDecorators
  dsimp only
  split
  · exact hclass _ _ _
  · exact List.forall_mem_append.mpr ⟨hclass _ _ _, hclass _ _ _⟩
  · exact List.forall_mem_append.mpr ⟨hclass _ _ _, hclass _ _ _⟩
  · simp

lemma lawful_latePermissionDecorators (entity : Entity) :
    ∀ decorator ∈ entity.latePermissionDecorators, decorator.Lawful := by
  unfold latePermissionDecorators
  split
  · exact PermissionIndex.lawful_classDecorators _ _ _
  · exact PermissionIndex.lawful_classDecorators _ _ _
  · simp

lemma configurationDecorators_sound (entity : Entity) :
    entity.configurationDecorators.Sound fun decorators =>
      ∀ decorator ∈ decorators, decorator.Lawful := by
  unfold configurationDecorators
  split
  · exact Sound.ok (by simp)
  · refine Sound.map (Sound.within ?_ (Expression.jsonLiteral_sound _)) fun rows hrows => ?_
    · trivial
    · intro decorator h
      rw [List.mem_singleton.mp h]
      exact Decorator.lawful_ofName rfl (by simpa using hrows)

section

variable {separator : Separator} (hseparator : separator.Fits = true)

include hseparator

lemma composedBase_sound (template : String) (shapes : List String) :
    (composedBase template shapes separator).Sound Expression.Lawful := by
  unfold composedBase
  refine (Expression.ofEntity_sound hseparator _).bind fun base hbase => ?_
  refine (Sound.mapM fun shape _ => Expression.ofEntity_sound hseparator shape).bind
    fun added hadded => ?_
  split
  · exact Sound.pure hbase
  · exact Sound.pure (.call (.name rfl) (List.forall_mem_cons.mpr ⟨hbase, hadded⟩))

lemma base_sound (entity : Entity) :
    (entity.base separator).Sound fun base => ∀ e, base = some e → e.Lawful := by
  unfold base
  split
  · exact (composedBase_sound hseparator _ _).map (by simp)
  · exact (composedBase_sound hseparator _ _).map (by simp)
  · exact Sound.ok fun e he => Option.some.inj he ▸ .name rfl
  · exact Sound.ok fun e he => Option.some.inj he ▸ .name rfl
  · exact Sound.ok (by simp)

lemma tableDecorators_sound (entity : Entity) :
    (entity.tableDecorators separator).Sound fun decorators =>
      ∀ decorator ∈ decorators, decorator.Lawful := by
  unfold tableDecorators
  refine (Sound.mapM fun definition _ =>
    ConfigurationTableDefinition.declaration_sound hseparator definition).bind
      fun tables htables => Sound.pure ?_
  split
  · simp
  · intro decorator h
    rw [List.mem_singleton.mp h]
    exact Decorator.lawful_ofName rfl (by simpa using Expression.Lawful.classOf htables)

/-- The class of an entity is lawful and has the class name of the entity, or the problem with the
entity is worded. -/
theorem declaration_sound (entity : Entity) :
    (entity.declaration separator).Sound fun d =>
      d.Lawful ∧ className separator entity.name = .ok d.name := by
  unfold declaration
  refine (className_sound hseparator entity.name).with_eq.bind fun name h => ?_
  obtain ⟨hname, hclassName⟩ := h
  split
  · exact Sound.problem trivial
  dsimp only
  refine (entity.base_sound hseparator).collected.bind_pair fun base baseProblems hdone => ?_
  obtain ⟨h₁, hbase, -⟩ := hdone
  refine (Sound.gather fun field _ => DataShapeField.declaration_sound hseparator field).bind_pair
    fun fields fieldProblems hdone => ?_
  obtain ⟨h₂, _, -, hfields⟩ := hdone
  refine (entity.tableDecorators_sound hseparator).bind fun tables htables => ?_
  refine entity.configurationDecorators_sound.collected.bind_pair
    fun configuration configurationProblems hdone => ?_
  obtain ⟨h₃, hconfiguration, -⟩ := hdone
  refine (Sound.gather fun property _ =>
    PropertyDefinition.declaration_sound hseparator property _).bind_pair
    fun properties propertyProblems hdone => ?_
  obtain ⟨h₄, _, -, hproperties⟩ := hdone
  refine (Sound.gather fun service _ =>
    ServiceDefinition.declaration_sound hseparator service _).bind_pair
    fun services serviceProblems hdone => ?_
  obtain ⟨h₅, _, -, hservices⟩ := hdone
  refine (Sound.mapM fun event _ => EventDefinition.declaration_sound hseparator event).bind
    fun events hevents => ?_
  refine (Sound.gather fun subscription _ =>
    SubscriptionDefinition.declaration_sound hseparator subscription).bind_pair
    fun subscriptions subscriptionProblems hdone => ?_
  obtain ⟨h₆, _, -, hsubscriptions⟩ := hdone
  dsimp only
  split
  · refine (DocComment.ofText?_sound _).bind fun comment hcomment => ?_
    -- a class name that fits and is not empty is an identifier
    have hidentifier : isIdentifier name.toList = true := by
      rcases hname with hempty | hidentifier
      · exact absurd (by simpa using hempty) ‹¬ name.isEmpty = true›
      · exact hidentifier
    refine Sound.require_bind hidentifier (Sound.pure ⟨?_, hclassName⟩)
    refine ⟨hidentifier, ?_, ?_, ?_, hcomment⟩
    · have hall := @Outcome.forall_of_forall₂
      simp only [List.forall_mem_append]
      exact ⟨⟨⟨⟨Member.lawful_properties (hall hfields fun _ _ h => h),
        Member.lawful_properties (hall hproperties fun _ _ h => h)⟩,
        Member.lawful_methods (hall hservices fun _ _ h => h)⟩,
        Member.lawful_properties hevents⟩,
        Member.lawful_methods (hall hsubscriptions fun _ _ h => h)⟩
    · have hconfigured : ∀ decorator ∈ configuration.getD [], decorator.Lawful := by
        cases configuration with
        | none => simp
        | some decorators => exact hconfiguration decorators rfl
      simp only [List.forall_mem_append, List.forall_mem_cons]
      exact ⟨⟨⟨⟨⟨⟨⟨⟨Decorator.lawful_ofName rfl (by simpa using Expression.Lawful.string),
        Decorator.lawful_flag rfl _⟩, entity.lawful_valueStreamDecorators⟩,
        entity.lawful_definitionDecorators⟩, entity.lawful_earlyPermissionDecorators⟩,
        VisibilityPrincipal.lawful_decorators _ _⟩, htables⟩, hconfigured⟩,
        entity.lawful_latePermissionDecorators⟩
    · intro e he
      exact hbase (some e) (Option.join_eq_some_iff.mp he) e rfl
  · exact Sound.dueTo trivial (((((h₁.append h₂).append h₃).append h₄).append h₅).append h₆)

end

end Entity

end EntityCompiler
