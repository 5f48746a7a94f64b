import EntityCompiler.Compilation
import EntityCompiler.Proofs.Assembly
import EntityCompiler.Proofs.Placement
import EntityCompiler.Proofs.References

/-!
# The numbers of a declaration

A number that is infinite or not a number cannot be written as a literal. Two checks keep such
numbers out of a declaration. The limits of a field, the timeout of a service and the identifier of
a thing are checked when a document is read; default values, remote settings and configuration
tables are kept as they are, and checked when they become literals.

`ClassDeclaration.numbers` collects the numbers of a declaration, knowing nothing of how it was
made, and `Entity.numbers` those of an entity that have been read. Main statement: every number of a
compiled class is finite (`Compilation.compile_finite`).
-/

namespace EntityCompiler

/-! ## The numbers of a declaration -/

mutual

/-- The numbers in an expression. -/
def Expression.numbers : Expression → List Number
  | .name _ => []
  | .string _ => []
  | .number value => [value]
  | .boolean _ => []
  | .null => []
  | .access object _ => object.numbers
  | .call callee arguments => callee.numbers ++ Expression.allNumbers arguments
  | .object properties => PropertyAssignment.allNumbers properties
  | .array elements => Expression.allNumbers elements
  | .classOf members => PropertyDeclaration.allNumbers members

/-- The numbers in some expressions. -/
def Expression.allNumbers : List Expression → List Number
  | [] => []
  | expression :: rest => expression.numbers ++ Expression.allNumbers rest

/-- The numbers in an optional expression. -/
def Expression.numbers? : Option Expression → List Number
  | none => []
  | some expression => expression.numbers

/-- The numbers in a property of an object. -/
def PropertyAssignment.numbers : PropertyAssignment → List Number
  | .mk _ value => value.numbers

/-- The numbers in some properties of an object. -/
def PropertyAssignment.allNumbers : List PropertyAssignment → List Number
  | [] => []
  | property :: rest => property.numbers ++ PropertyAssignment.allNumbers rest

/-- The numbers in a decorator. -/
def Decorator.numbers : Decorator → List Number
  | .mk expression => expression.numbers

/-- The numbers in some decorators. -/
def Decorator.allNumbers : List Decorator → List Number
  | [] => []
  | decorator :: rest => decorator.numbers ++ Decorator.allNumbers rest

/-- The numbers in a property of a class. -/
def PropertyDeclaration.numbers : PropertyDeclaration → List Number
  | .mk _ _ decorators _ _ initializer _ =>
    Decorator.allNumbers decorators ++ Expression.numbers? initializer

/-- The numbers in some properties of a class. -/
def PropertyDeclaration.allNumbers : List PropertyDeclaration → List Number
  | [] => []
  | member :: rest => member.numbers ++ PropertyDeclaration.allNumbers rest

end

/-- The numbers in the name of a parameter, which may be an object with default values. -/
def ParameterName.numbers : ParameterName → List Number
  | plain _ => []
  | object elements => elements.flatMap fun element => Expression.numbers? element.initializer

/-- The numbers in a method. The numbers in its script are part of a text. -/
def MethodDeclaration.numbers (method : MethodDeclaration) : List Number :=
  method.parameters.flatMap (·.name.numbers) ++ Decorator.allNumbers method.decorators

/-- The numbers in a member of a class. -/
def Member.numbers : Member → List Number
  | property declaration => declaration.numbers
  | method declaration => declaration.numbers

/-- The numbers in a class. -/
def ClassDeclaration.numbers (d : ClassDeclaration) : List Number :=
  Decorator.allNumbers d.decorators ++ Expression.numbers? d.base
    ++ d.members.flatMap Member.numbers

lemma Expression.allNumbers_eq (expressions : List Expression) :
    allNumbers expressions = expressions.flatMap numbers := by
  induction expressions with
  | nil => rfl
  | cons expression rest ih => rw [allNumbers, ih, List.flatMap_cons]

lemma PropertyAssignment.allNumbers_eq (properties : List PropertyAssignment) :
    allNumbers properties = properties.flatMap numbers := by
  induction properties with
  | nil => rfl
  | cons property rest ih => rw [allNumbers, ih, List.flatMap_cons]

lemma Decorator.allNumbers_eq (decorators : List Decorator) :
    allNumbers decorators = decorators.flatMap numbers := by
  induction decorators with
  | nil => rfl
  | cons decorator rest ih => rw [allNumbers, ih, List.flatMap_cons]

lemma PropertyDeclaration.allNumbers_eq (members : List PropertyDeclaration) :
    allNumbers members = members.flatMap numbers := by
  induction members with
  | nil => rfl
  | cons member rest ih => rw [allNumbers, ih, List.flatMap_cons]

@[simp] lemma Decorator.numbers_ofName (name : String) (arguments : List Expression) :
    (ofName name arguments).numbers = Expression.allNumbers arguments := by
  cases arguments with
  | nil => rfl
  | cons first rest => rfl

/-! ## The numbers of an entity -/

/-- The limits of a field, and the threshold for changes. -/
def FieldAspects.numbers (aspects : FieldAspects) : List Number :=
  aspects.minimumValue.toList ++ aspects.maximumValue.toList ++ aspects.dataChangeThreshold.toList

/-- The timeout of a remote service. -/
def ServiceDefinition.numbers (service : ServiceDefinition) : List Number :=
  (service.remoteBinding.bind (·.timeout)).toList

/-- What only entities of one kind have numbers in: the identifier of a thing, the fields of a data
shape. -/
def EntityPart.numbers : EntityPart → List Number
  | .thing part => part.identifier.toList
  | .dataShape fields => fields.flatMap (·.aspects.numbers)
  | _ => []

/-- All numbers of an entity that have been read as such. -/
def Entity.numbers (entity : Entity) : List Number :=
  entity.propertyDefinitions.flatMap (·.aspects.numbers)
    ++ entity.serviceDefinitions.flatMap ServiceDefinition.numbers ++ entity.part.numbers

/-- No number of a list is infinite or not a number. -/
def AllFinite (numbers : List Number) : Prop :=
  ∀ n ∈ numbers, n.isFinite = true

namespace AllFinite

lemma nil : AllFinite [] := fun _ h => absurd h List.not_mem_nil

lemma append_iff {first second : List Number} :
    AllFinite (first ++ second) ↔ AllFinite first ∧ AllFinite second :=
  List.forall_mem_append

lemma flatMap_iff {α : Type} {xs : List α} {numbers : α → List Number} :
    AllFinite (xs.flatMap numbers) ↔ ∀ x ∈ xs, AllFinite (numbers x) :=
  List.forall_mem_flatMap

end AllFinite

/-! ## Literals -/

namespace Expression

/-- The literal of a number is finite, and no other literal has a number in it. -/
lemma literal_finite {value : Value} {expression : Expression}
    (h : literal value = .ok expression) :
    AllFinite expression.numbers := by
  unfold literal at h
  split at h
  · rw [← Except.ok.inj h]
    exact .nil
  · split at h
    · rename_i hfinite
      rw [← Except.ok.inj h]
      simpa [AllFinite, numbers] using hfinite
    · simp [Outcome.problem] at h
  · rw [← Except.ok.inj h]
    exact .nil
  · simp [Outcome.problem] at h

mutual

/-- Every number in the literal of a value has had a literal of its own. -/
theorem jsonLiteral_finite : ∀ (value : Value) (expression : Expression),
    jsonLiteral value = .ok expression → AllFinite expression.numbers
  | .null, expression, h => by
    rw [← Except.ok.inj h]
    exact .nil
  | .bool b, expression, h => @literal_finite (.bool b) expression h
  | .number n, expression, h => by
    rw [jsonLiteral] at h
    · exact literal_finite h
    all_goals simp
  | .text s, expression, h => @literal_finite (.text s) expression h
  | .list items, expression, h => by
    rw [jsonLiteral] at h
    obtain ⟨elements, helements, rfl⟩ := Outcome.map_eq_ok.mp h
    exact itemLiterals_finite 0 items elements helements
  | .object entries, expression, h => by
    rw [jsonLiteral] at h
    obtain ⟨properties, hproperties, rfl⟩ := Outcome.map_eq_ok.mp h
    exact entryLiterals_finite entries properties hproperties

theorem entryLiterals_finite :
    ∀ (entries : List (String × Value)) (properties : List PropertyAssignment),
    entryLiterals entries = .ok properties → AllFinite (PropertyAssignment.allNumbers properties)
  | [], properties, h => by
    rw [← Except.ok.inj h]
    exact .nil
  | (key, value) :: rest, properties, h => by
    rw [entryLiterals] at h
    obtain ⟨first, hfirst, h⟩ := Outcome.bind_eq_ok.mp h
    obtain ⟨others, hothers, h⟩ := Outcome.bind_eq_ok.mp h
    rw [← Outcome.pure_eq_ok.mp h]
    exact AllFinite.append_iff.mpr ⟨jsonLiteral_finite value first (Outcome.within_eq_ok.mp hfirst),
      entryLiterals_finite rest others hothers⟩

theorem itemLiterals_finite : ∀ (index : Nat) (items : List Value) (elements : List Expression),
    itemLiterals index items = .ok elements → AllFinite (allNumbers elements)
  | _, [], elements, h => by
    rw [← Except.ok.inj h]
    exact .nil
  | index, value :: rest, elements, h => by
    rw [itemLiterals] at h
    obtain ⟨first, hfirst, h⟩ := Outcome.bind_eq_ok.mp h
    obtain ⟨others, hothers, h⟩ := Outcome.bind_eq_ok.mp h
    rw [← Outcome.pure_eq_ok.mp h]
    exact AllFinite.append_iff.mpr ⟨jsonLiteral_finite value first (Outcome.within_eq_ok.mp hfirst),
      itemLiterals_finite (index + 1) rest others hothers⟩

end

end Expression

/-! ## Numbers that are read -/

namespace Document

variable {raw : Fields} {kind : EntityKind}

lemma number?_finite {key : String} {location : Option String} {found : Option Number}
    (h : number? raw key location = .ok found) : AllFinite found.toList := by
  unfold number? at h
  split at h
  · rw [← Except.ok.inj h]
    exact .nil
  · rw [← Except.ok.inj h]
    exact .nil
  · split at h
    · rename_i n hn
      rw [← Except.ok.inj h]
      simpa [AllFinite] using (Option.filter_eq_some_iff.mp hn).2
    · simp [Outcome.problem] at h

lemma aspects_finite {location : Option String} {read : FieldAspects}
    (h : aspects raw location = .ok read) : AllFinite read.numbers := by
  unfold aspects at h
  obtain ⟨entries, -, h⟩ := Outcome.bind_eq_ok.mp h
  obtain ⟨⟨minimum, problems₁⟩, hminimum, h⟩ := Outcome.bind_eq_ok.mp h
  obtain ⟨⟨maximum, problems₂⟩, hmaximum, h⟩ := Outcome.bind_eq_ok.mp h
  obtain ⟨⟨threshold, problems₃⟩, hthreshold, h⟩ := Outcome.bind_eq_ok.mp h
  dsimp only at h
  split at h
  · rename_i hnone
    simp only [List.isEmpty_iff, List.append_eq_nil_iff] at hnone
    obtain ⟨⟨rfl, rfl⟩, rfl⟩ := hnone
    obtain ⟨_, hread₁, rfl⟩ := Outcome.collected_eq_ok_nil.mp hminimum
    obtain ⟨_, hread₂, rfl⟩ := Outcome.collected_eq_ok_nil.mp hmaximum
    obtain ⟨_, hread₃, rfl⟩ := Outcome.collected_eq_ok_nil.mp hthreshold
    rw [← Outcome.pure_eq_ok.mp h]
    exact AllFinite.append_iff.mpr ⟨AllFinite.append_iff.mpr
      ⟨number?_finite hread₁, number?_finite hread₂⟩, number?_finite hread₃⟩
  · contradiction

lemma fieldBase_finite {value : Value} {location : String} {base : FieldBase}
    (h : fieldBase value location = .ok base) : AllFinite base.aspects.numbers := by
  unfold fieldBase at h
  obtain ⟨entries, -, h⟩ := Outcome.bind_eq_ok.mp h
  obtain ⟨⟨type, problems₁⟩, -, h⟩ := Outcome.bind_eq_ok.mp h
  obtain ⟨⟨read, problems₂⟩, hread, h⟩ := Outcome.bind_eq_ok.mp h
  dsimp only at h
  split at h
  · rw [← Outcome.pure_eq_ok.mp h]
    exact aspects_finite (Outcome.collected_eq_ok_some hread).1
  · contradiction

lemma field_finite {name location : String} {value : Value} {f : FieldDefinition}
    (h : field name value location = .ok f) : AllFinite f.aspects.numbers := by
  unfold field at h
  obtain ⟨base, hbase, h⟩ := Outcome.bind_eq_ok.mp h
  unfold FieldDefinition.checked at h
  obtain ⟨-, -, h⟩ := Outcome.bind_eq_ok.mp h
  rw [← Outcome.pure_eq_ok.mp h]
  exact fieldBase_finite hbase

lemma property_finite {name location : String} {definition remote bound : Value}
    {p : PropertyDefinition}
    (h : property name definition remote bound location = .ok p) : AllFinite p.aspects.numbers :=
  fieldBase_finite (joinedFrom_of_property h).2.base

lemma service_finite {name location place : String} {definition implementation remote : Value}
    {s : ServiceDefinition}
    (h : service name definition implementation remote location place = .ok s) :
    AllFinite s.numbers := by
  obtain ⟨-, hjoined⟩ := joinedFrom_of_service h
  unfold ServiceDefinition.numbers
  cases hremote : remote.fields? with
  | none =>
    rw [hjoined.notBound hremote]
    exact .nil
  | some entries =>
    -- only what is bound to a remote service has a timeout
    obtain rfl : remote = .object entries := by
      cases remote <;> simp_all [Value.fields?]
    obtain ⟨timeout, htimeout, hbinding⟩ := hjoined.remoteBinding entries rfl
    rw [hbinding]
    exact number?_finite htimeout

/-! ## Numbers of members -/

lemma members_finite {α : Type} {key : String} {location : Option String}
    {read : String → Value → String → Outcome α} {found : List α} {problems : List Problem}
    {numbers : α → List Number}
    (hread : ∀ name part inner a, read name part inner = .ok a → AllFinite (numbers a))
    (h : members raw key location read = .ok (found, problems)) :
    AllFinite (found.flatMap numbers) := by
  unfold members at h
  obtain ⟨⟨entries, problems₁⟩, -, h⟩ := Outcome.bind_eq_ok.mp h
  obtain ⟨⟨all, problems₂⟩, hall, h⟩ := Outcome.bind_eq_ok.mp h
  obtain ⟨rfl, -⟩ := Prod.mk.inj (Outcome.pure_eq_ok.mp h)
  refine AllFinite.flatMap_iff.mpr fun a ha => ?_
  obtain ⟨entry, -, hentry⟩ := Outcome.exists_of_gather hall a ha
  exact hread _ _ _ a (readNamed_eq_ok hentry)

lemma services_finite {location : Option String} {bound : Bindings} {found : List ServiceDefinition}
    {problems : List Problem} (h : services raw location bound = .ok (found, problems)) :
    AllFinite (found.flatMap ServiceDefinition.numbers) := by
  unfold services at h
  obtain ⟨⟨definitions, problems₁⟩, -, h⟩ := Outcome.bind_eq_ok.mp h
  obtain ⟨⟨implementations, problems₂⟩, -, h⟩ := Outcome.bind_eq_ok.mp h
  dsimp only at h
  split at h
  · obtain ⟨rfl, -⟩ := Prod.mk.inj (Outcome.pure_eq_ok.mp h)
    exact .nil
  · obtain ⟨rfl, -⟩ := Prod.mk.inj (Outcome.pure_eq_ok.mp h)
    exact .nil
  · rw [named_eq] at h
    refine AllFinite.flatMap_iff.mpr fun s hs => ?_
    obtain ⟨entry, -, hentry⟩ := Outcome.exists_of_gather h s hs
    exact service_finite (readNamed_eq_ok hentry)

lemma definedMembers_finite {location : Option String} {bound : Bindings} {members : Members}
    {problems : List Problem} (h : definedMembers raw location bound = .ok (members, problems)) :
    AllFinite (members.properties.flatMap (·.aspects.numbers))
      ∧ AllFinite (members.services.flatMap ServiceDefinition.numbers) := by
  unfold definedMembers at h
  obtain ⟨⟨properties, problems₁⟩, hproperties, h⟩ := Outcome.bind_eq_ok.mp h
  obtain ⟨⟨services, problems₂⟩, hservices, h⟩ := Outcome.bind_eq_ok.mp h
  obtain ⟨⟨events, problems₃⟩, -, h⟩ := Outcome.bind_eq_ok.mp h
  obtain ⟨⟨subscriptions, problems₄⟩, -, h⟩ := Outcome.bind_eq_ok.mp h
  obtain ⟨rfl, -⟩ := Prod.mk.inj (Outcome.pure_eq_ok.mp h)
  exact ⟨members_finite (fun _ _ _ _ => property_finite) hproperties, services_finite hservices⟩

lemma entityMembers_finite {members : Members} {problems : List Problem}
    (h : entityMembers raw kind = .ok (members, problems)) :
    AllFinite (members.properties.flatMap (·.aspects.numbers))
      ∧ AllFinite (members.services.flatMap ServiceDefinition.numbers) := by
  unfold entityMembers at h
  obtain ⟨⟨source, problems₁⟩, -, h⟩ := Outcome.bind_eq_ok.mp h
  obtain ⟨⟨bound, problems₂⟩, -, h⟩ := Outcome.bind_eq_ok.mp h
  dsimp only at h
  split at h
  · obtain ⟨⟨found, problems₃⟩, hfound, h⟩ := Outcome.bind_eq_ok.mp h
    obtain ⟨rfl, -⟩ := Prod.mk.inj (Outcome.pure_eq_ok.mp h)
    exact definedMembers_finite hfound
  · obtain ⟨rfl, -⟩ := Prod.mk.inj (Outcome.pure_eq_ok.mp h)
    exact ⟨.nil, .nil⟩

lemma entityPart_finite {part : EntityPart} (h : entityPart raw kind = .ok part) :
    AllFinite part.numbers := by
  cases kind with
  | thing =>
    rw [entityPart] at h
    split at h
    · simp [Outcome.problem] at h
    · obtain ⟨identifier, hidentifier, h⟩ := Outcome.bind_eq_ok.mp h
      rw [← Outcome.pure_eq_ok.mp h]
      exact number?_finite hidentifier
  | thingTemplate =>
    rw [entityPart] at h
    split at h
    · simp [Outcome.problem] at h
    · obtain ⟨visibility, -, h⟩ := Outcome.bind_eq_ok.mp h
      obtain ⟨permissions, -, h⟩ := Outcome.bind_eq_ok.mp h
      rw [← Outcome.pure_eq_ok.mp h]
      exact .nil
  | thingShape =>
    obtain ⟨permissions, -, rfl⟩ := Outcome.map_eq_ok.mp h
    exact .nil
  | dataShape =>
    obtain ⟨fields, hfields, rfl⟩ := Outcome.map_eq_ok.mp h
    exact AllFinite.flatMap_iff.mpr (Outcome.forall_of_forall₂ (fieldDefinitions_eq_ok.mp hfields).2
      fun _ _ hread => field_finite (readNamed_eq_ok hread))
  | other =>
    rw [← Except.ok.inj h]
    exact .nil

/-- All numbers of an entity that is read are finite. -/
lemma entity_finite {document : Value} {described : Entity}
    (h : entity document kind = .ok described) :
    AllFinite described.numbers := by
  cases document with
  | object raw =>
    have hassembled := entity_eq_ok_iff.mp h
    obtain ⟨hproperties, hservices⟩ := entityMembers_finite hassembled.members
    exact AllFinite.append_iff.mpr ⟨AllFinite.append_iff.mpr ⟨hproperties, hservices⟩,
      entityPart_finite hassembled.part⟩
  | _ => simp [entity, Outcome.problem] at h

end Document

/-! ## Decorators -/

namespace Decorator

lemma finite_append {first second : List Decorator} : AllFinite (allNumbers (first ++ second))
    ↔ AllFinite (allNumbers first) ∧ AllFinite (allNumbers second) := by
  rw [allNumbers_eq, List.flatMap_append, AllFinite.append_iff, allNumbers_eq, allNumbers_eq]

lemma finite_of_forall {decorators : List Decorator} (h : ∀ d ∈ decorators, AllFinite d.numbers) :
    AllFinite (allNumbers decorators) := by
  rw [allNumbers_eq]
  exact AllFinite.flatMap_iff.mpr h

lemma finite_ofName {name : String} {arguments : List Expression}
    (h : ∀ argument ∈ arguments, AllFinite argument.numbers) :
    AllFinite (ofName name arguments).numbers := by
  rw [numbers_ofName, Expression.allNumbers_eq]
  exact AllFinite.flatMap_iff.mpr h

lemma finite_single (name : String) {arguments : List Expression}
    (h : ∀ argument ∈ arguments, AllFinite argument.numbers) :
    AllFinite (allNumbers [ofName name arguments]) :=
  finite_of_forall (by simpa using @finite_ofName name _ h)

lemma finite_flag (name : String) (isSet : Bool) : AllFinite (allNumbers (flag name isSet)) :=
  finite_of_forall (forall_mem_flag (finite_ofName (by simp)) isSet)

lemma finite_text (name : String) {α : Type} (text : α → String) (x : Option α) :
    AllFinite (allNumbers (optional name (fun a => .string (text a)) x)) :=
  finite_of_forall
    (forall_mem_optional (fun _ => finite_ofName (by simp [Expression.numbers, AllFinite])) x)

lemma finite_number (name : String) {x : Option Number} (h : AllFinite x.toList) :
    AllFinite (allNumbers (optional name .number x)) := by
  cases x with
  | none => exact .nil
  | some n => exact finite_single name (by simpa [Expression.numbers] using h)

end Decorator

/-- A permission names its resource, kinds of permissions and principals. -/
lemma RuntimePermission.finite_decorators (permission : RuntimePermission) (resource : String)
    (explicit forInstances : Bool) :
    AllFinite (Decorator.allNumbers (permission.decorators resource explicit forInstances)) := by
  have hkind : ∀ permitted kind, ∀ argument ∈ permission.kindArguments permitted kind,
      argument.numbers = [] := by
    intro permitted kind
    unfold kindArguments
    split
    · simp
    · rw [List.forall_mem_cons, List.forall_mem_map]
      exact ⟨rfl, fun _ _ => rfl⟩
  have hresource : ∀ argument ∈ (if explicit && resource != wildcardResource then
      [Expression.string resource] else []), argument.numbers = [] := by
    split
    · simp [Expression.numbers]
    · simp
  refine Decorator.finite_of_forall fun d hd => ?_
  obtain ⟨permitted, -, hd⟩ := List.mem_filterMap.mp hd
  dsimp only at hd
  split at hd
  · rw [← Option.some.inj hd]
    refine Decorator.finite_ofName fun argument hargument => ?_
    have hnone : argument.numbers = [] := by
      rcases List.mem_append.mp hargument with hargument | hargument
      · exact hresource argument hargument
      · obtain ⟨kind, -, hargument⟩ := List.mem_flatMap.mp hargument
        exact hkind permitted kind argument hargument
    rw [hnone]
    exact .nil
  · contradiction

/-- The decorators for the permission that is attached to a member, if there is one. -/
lemma RuntimePermission.finite_optional (permission : Option RuntimePermission)
    (resource : String) :
    AllFinite (Decorator.allNumbers (match permission with
      | none => []
      | some permission => permission.decorators resource false false)) := by
  cases permission with
  | none => exact .nil
  | some permission => exact permission.finite_decorators _ _ _

lemma PermissionIndex.finite_classDecorators (index : PermissionIndex) (excluded : List String)
    (forInstances : Bool) :
    AllFinite (Decorator.allNumbers (classDecorators index excluded forInstances)) := by
  unfold classDecorators
  induction index with
  | nil => exact .nil
  | cons entry rest ih =>
    rw [List.flatMap_cons, Decorator.finite_append]
    refine ⟨?_, ih⟩
    dsimp only
    split
    · exact .nil
    · exact entry.2.finite_decorators _ _ _

lemma VisibilityPrincipal.finite_decorators (principals : List VisibilityPrincipal)
    (forInstances : Bool) :
    AllFinite (Decorator.allNumbers (decorators principals forInstances)) := by
  unfold decorators
  split
  · exact .nil
  · refine Decorator.finite_single _ ?_
    rw [List.forall_mem_map]
    intro principal _
    unfold reference
    dsimp only
    split <;> exact .nil

/-! ## Members -/

section

variable {separator : Separator}

namespace FieldAspects

variable {aspects : FieldAspects}

lemma finite_limitDecorators (h : AllFinite aspects.numbers) :
    AllFinite (Decorator.allNumbers aspects.limitDecorators) := by
  obtain ⟨hlimits, -⟩ := AllFinite.append_iff.mp h
  obtain ⟨hminimum, hmaximum⟩ := AllFinite.append_iff.mp hlimits
  exact Decorator.finite_append.mpr ⟨Decorator.finite_append.mpr
    ⟨Decorator.finite_number _ hminimum, Decorator.finite_number _ hmaximum⟩,
    Decorator.finite_text _ id _⟩

lemma finite_dataChangeDecorators (h : AllFinite aspects.numbers) :
    AllFinite (Decorator.allNumbers aspects.dataChangeDecorators) := by
  obtain ⟨-, hthreshold⟩ := AllFinite.append_iff.mp h
  unfold dataChangeDecorators
  split
  · exact .nil
  · refine Decorator.finite_single _ ?_
    rw [List.forall_mem_cons]
    refine ⟨.nil, ?_⟩
    cases hnumber : aspects.dataChangeThreshold with
    | none => simp
    | some n =>
      rw [hnumber] at hthreshold
      simpa [Expression.numbers] using hthreshold

lemma finite_initializer {cause : Cause} {initializer : Option Expression}
    (h : aspects.initializer cause = .ok initializer) :
    AllFinite (Expression.numbers? initializer) := by
  unfold FieldAspects.initializer at h
  split at h
  · rw [← Except.ok.inj h]
    exact .nil
  · obtain ⟨expression, hexpression, rfl⟩ := Outcome.map_eq_ok.mp h
    exact Expression.literal_finite (Outcome.within_eq_ok.mp hexpression)

end FieldAspects

lemma FieldDefinition.finite_declared {field : FieldDefinition} {declared : DeclaredField}
    (h : field.declared separator = .ok declared) :
    AllFinite (Expression.numbers? declared.initializer) := by
  unfold FieldDefinition.declared at h
  obtain ⟨initializer, hinitializer, h⟩ := Outcome.bind_eq_ok.mp h
  obtain ⟨type, -, h⟩ := Outcome.bind_eq_ok.mp h
  obtain ⟨comment, -, h⟩ := Outcome.bind_eq_ok.mp h
  rw [← Outcome.pure_eq_ok.mp h]
  exact FieldAspects.finite_initializer hinitializer

namespace PropertyDefinition

variable {property : PropertyDefinition}

/-- A setting is kept as it is until it becomes a literal. -/
lemma finite_remoteSettings {options : Fields} {settings : List PropertyAssignment}
    (h : property.remoteSettings options = .ok settings) :
    AllFinite (PropertyAssignment.allNumbers settings) := by
  induction options generalizing settings with
  | nil =>
    rw [← Except.ok.inj h]
    exact .nil
  | cons option rest ih =>
    obtain ⟨key, value⟩ := option
    rw [remoteSettings] at h
    split at h
    · obtain ⟨first, hfirst, h⟩ := Outcome.bind_eq_ok.mp h
      obtain ⟨others, hothers, h⟩ := Outcome.bind_eq_ok.mp h
      rw [← Outcome.pure_eq_ok.mp h]
      exact AllFinite.append_iff.mpr
        ⟨Expression.literal_finite (Outcome.within_eq_ok.mp hfirst), ih hothers⟩
    · exact ih h

lemma finite_remoteDecorators {decorators : List Decorator}
    (h : property.remoteDecorators = .ok decorators) :
    AllFinite (Decorator.allNumbers decorators) := by
  unfold remoteDecorators at h
  split at h
  · obtain ⟨settings, hsettings, h⟩ := Outcome.bind_eq_ok.mp h
    rw [← Outcome.pure_eq_ok.mp h]
    refine Decorator.finite_single _ ?_
    simp only [List.forall_mem_cons]
    exact ⟨.nil, finite_remoteSettings hsettings, by simp⟩
  · rw [← Except.ok.inj h]
    exact .nil

lemma finite_localDecorators (property : PropertyDefinition) :
    AllFinite (Decorator.allNumbers property.localDecorators) := by
  unfold localDecorators
  split
  · exact .nil
  · exact Decorator.finite_single _ (by simp [Expression.numbers, AllFinite])

lemma finite_declaration {permission : Option RuntimePermission} {declaration : PropertyDeclaration}
    (hread : AllFinite property.aspects.numbers)
    (h : property.declaration permission separator = .ok declaration) :
    AllFinite declaration.numbers := by
  unfold PropertyDefinition.declaration at h
  obtain ⟨field, hfield, h⟩ := Outcome.bind_eq_ok.mp h
  obtain ⟨remote, hremote, h⟩ := Outcome.bind_eq_ok.mp h
  rw [PropertyDeclaration.checked_eq_ok h]
  unfold PropertyDeclaration.numbers
  simp only [AllFinite.append_iff, Decorator.finite_append,
    FieldDefinition.declared_decorators hfield]
  exact ⟨⟨⟨⟨⟨⟨⟨FieldAspects.finite_limitDecorators hread, Decorator.finite_flag _ _⟩,
    Decorator.finite_flag _ _⟩, FieldAspects.finite_dataChangeDecorators hread⟩,
    finite_remoteDecorators hremote⟩, finite_localDecorators property⟩,
    RuntimePermission.finite_optional permission _⟩,
    FieldDefinition.finite_declared hfield⟩

end PropertyDefinition

lemma DataShapeField.finite_declaration {field : DataShapeField} {declaration : PropertyDeclaration}
    (hread : AllFinite field.aspects.numbers)
    (h : DataShapeField.declaration field separator = .ok declaration) :
    AllFinite declaration.numbers := by
  unfold DataShapeField.declaration at h
  obtain ⟨declared, hdeclared, h⟩ := Outcome.bind_eq_ok.mp h
  rw [PropertyDeclaration.checked_eq_ok h]
  unfold PropertyDeclaration.numbers
  simp only [AllFinite.append_iff, Decorator.finite_append,
    FieldDefinition.declared_decorators hdeclared]
  exact ⟨⟨FieldAspects.finite_limitDecorators hread, Decorator.finite_flag _ _⟩,
    FieldDefinition.finite_declared hdeclared⟩

lemma EventDefinition.finite_declaration {event : EventDefinition}
    {declaration : PropertyDeclaration}
    (h : event.declaration separator = .ok declaration) : AllFinite declaration.numbers := by
  unfold EventDefinition.declaration at h
  obtain ⟨data, -, h⟩ := Outcome.bind_eq_ok.mp h
  obtain ⟨comment, -, h⟩ := Outcome.bind_eq_ok.mp h
  rw [PropertyDeclaration.checked_eq_ok h]
  exact AllFinite.append_iff.mpr ⟨Decorator.finite_text _ _ _, .nil⟩

lemma ConfigurationTableDefinition.finite_declaration {definition : ConfigurationTableDefinition}
    {declaration : PropertyDeclaration} (h : definition.declaration separator = .ok declaration) :
    AllFinite declaration.numbers := by
  unfold ConfigurationTableDefinition.declaration at h
  obtain ⟨rows, -, h⟩ := Outcome.bind_eq_ok.mp h
  obtain ⟨comment, -, h⟩ := Outcome.bind_eq_ok.mp h
  rw [PropertyDeclaration.checked_eq_ok h]
  exact .nil

namespace ServiceDefinition

lemma finite_elements {parameters : List ServiceParameter} {found : List BindingElement}
    {types : List PropertySignature} (h : elements separator parameters = .ok (found, types)) :
    AllFinite (ParameterName.object found).numbers := by
  induction parameters generalizing found types with
  | nil =>
    obtain ⟨rfl, -⟩ := Prod.mk.inj (Except.ok.inj h)
    exact .nil
  | cons parameter rest ih =>
    rw [elements] at h
    obtain ⟨initializer, hinitializer, h⟩ := Outcome.bind_eq_ok.mp h
    obtain ⟨type, -, h⟩ := Outcome.bind_eq_ok.mp h
    obtain ⟨⟨others, otherTypes⟩, hothers, h⟩ := Outcome.bind_eq_ok.mp h
    obtain ⟨rfl, -⟩ := Prod.mk.inj (Outcome.pure_eq_ok.mp h)
    exact AllFinite.append_iff.mpr ⟨FieldAspects.finite_initializer hinitializer, ih hothers⟩

lemma finite_methodParameters {service : ServiceDefinition} {parameters : List Parameter}
    (h : service.methodParameters separator = .ok parameters) :
    AllFinite (parameters.flatMap (·.name.numbers)) := by
  unfold methodParameters at h
  split at h
  · rw [← Except.ok.inj h]
    exact .nil
  · obtain ⟨⟨elements, types⟩, helements, h⟩ := Outcome.bind_eq_ok.mp h
    rw [← Outcome.pure_eq_ok.mp h, List.flatMap_singleton]
    exact finite_elements helements

lemma finite_implementation {service : ServiceDefinition} {remote : List Decorator} {body : Block}
    (hread : AllFinite service.numbers) (h : service.implementation = .ok (remote, body)) :
    AllFinite (Decorator.allNumbers remote) := by
  unfold implementation at h
  split at h
  · rename_i binding hbinding
    unfold ServiceDefinition.numbers at hread
    rw [hbinding] at hread
    obtain ⟨rfl, -⟩ := Prod.mk.inj (Except.ok.inj h)
    refine Decorator.finite_single _ ?_
    simp only [List.forall_mem_cons]
    refine ⟨.nil, ?_, by simp⟩
    -- the timeout is the one option that is a number
    change AllFinite (PropertyAssignment.allNumbers (remoteOptions binding))
    rw [PropertyAssignment.allNumbers_eq, remoteOptions, List.flatMap_append, AllFinite.append_iff]
    constructor
    · split
      · exact .nil
      · exact .nil
    · split
      · exact .nil
      · rename_i timeout htimeout
        simp only [Option.bind_some, htimeout] at hread
        exact hread
  · split at h
    · simp [Outcome.problem] at h
    · obtain ⟨body, -, hbody⟩ := Outcome.map_eq_ok.mp h
      obtain ⟨rfl, -⟩ := Prod.mk.inj hbody
      exact .nil

lemma finite_declaration {service : ServiceDefinition} {permission : Option RuntimePermission}
    {declaration : MethodDeclaration} (hread : AllFinite service.numbers)
    (h : service.declaration permission separator = .ok declaration) :
    AllFinite declaration.numbers := by
  unfold ServiceDefinition.declaration at h
  obtain ⟨⟨remote, body⟩, himplementation, h⟩ := Outcome.bind_eq_ok.mp h
  obtain ⟨parameters, hparameters, h⟩ := Outcome.bind_eq_ok.mp h
  obtain ⟨returnType, -, h⟩ := Outcome.bind_eq_ok.mp h
  obtain ⟨comment, -, h⟩ := Outcome.bind_eq_ok.mp h
  rw [← Outcome.pure_eq_ok.mp h]
  unfold MethodDeclaration.numbers
  simp only [AllFinite.append_iff, Decorator.finite_append]
  exact ⟨finite_methodParameters (Outcome.within_eq_ok.mp hparameters),
    ⟨⟨Decorator.finite_flag _ _, Decorator.finite_flag _ _⟩,
      finite_implementation hread himplementation⟩,
    RuntimePermission.finite_optional permission _⟩

end ServiceDefinition

namespace SubscriptionDefinition

lemma finite_decorator (subscription : SubscriptionDefinition) :
    AllFinite subscription.decorator.numbers := by
  have hevent : ∀ argument ∈ Expression.string subscription.eventName
      :: (subscription.sourceProperty.map Expression.string).toList,
      AllFinite argument.numbers := by
    rw [List.forall_mem_cons]
    refine ⟨.nil, ?_⟩
    cases subscription.sourceProperty with
    | none => simp
    | some property => simp [Expression.numbers, AllFinite]
  unfold decorator
  dsimp only
  split
  · exact Decorator.finite_ofName (List.forall_mem_cons.mpr ⟨.nil, hevent⟩)
  · exact Decorator.finite_ofName hevent

lemma finite_declaration {subscription : SubscriptionDefinition} {declaration : MethodDeclaration}
    (h : subscription.declaration separator = .ok declaration) : AllFinite declaration.numbers := by
  unfold SubscriptionDefinition.declaration at h
  split at h
  · simp [Outcome.problem] at h
  · obtain ⟨body, -, h⟩ := Outcome.bind_eq_ok.mp h
    obtain ⟨parameters, hparameters, h⟩ := Outcome.bind_eq_ok.mp h
    obtain ⟨comment, -, h⟩ := Outcome.bind_eq_ok.mp h
    rw [← Outcome.pure_eq_ok.mp h]
    refine AllFinite.append_iff.mpr
      ⟨?_, Decorator.finite_of_forall (by simpa using subscription.finite_decorator)⟩
    -- no parameter of a handler is taken apart
    unfold methodParameters at hparameters
    obtain ⟨string, -, h⟩ := Outcome.bind_eq_ok.mp hparameters
    obtain ⟨data, -, h⟩ := Outcome.bind_eq_ok.mp h
    obtain ⟨time, -, h⟩ := Outcome.bind_eq_ok.mp h
    rw [← Outcome.pure_eq_ok.mp h]
    exact .nil

end SubscriptionDefinition

end

/-! ## The class -/

namespace Entity

variable {entity : Entity} {separator : Separator}

lemma finite_composedBase {template : String} {shapes : List String} {base : Expression}
    (h : composedBase template shapes separator = .ok base) : AllFinite base.numbers := by
  have hname : ∀ {name : String} {expression : Expression},
      Expression.ofEntity separator name = .ok expression → AllFinite expression.numbers := by
    intro name expression hexpression
    obtain ⟨reference, -, rfl⟩ := Expression.ofEntity_eq_ok hexpression
    exact .nil
  unfold composedBase at h
  obtain ⟨first, hfirst, h⟩ := Outcome.bind_eq_ok.mp h
  obtain ⟨added, hadded, h⟩ := Outcome.bind_eq_ok.mp h
  rw [← Outcome.pure_eq_ok.mp h]
  split
  · exact hname hfirst
  · refine AllFinite.append_iff.mpr ⟨.nil, AllFinite.append_iff.mpr ⟨hname hfirst, ?_⟩⟩
    rw [Expression.allNumbers_eq]
    exact AllFinite.flatMap_iff.mpr
      (Outcome.forall_of_forall₂ (Outcome.mapM_eq_ok.mp hadded) fun _ _ hshape => hname hshape)

lemma finite_base {base : Option Expression} (h : entity.base separator = .ok base) :
    AllFinite (Expression.numbers? base) := by
  unfold Entity.base at h
  split at h
  · obtain ⟨expression, hexpression, rfl⟩ := Outcome.map_eq_ok.mp h
    exact finite_composedBase hexpression
  · obtain ⟨expression, hexpression, rfl⟩ := Outcome.map_eq_ok.mp h
    exact finite_composedBase hexpression
  all_goals
    rw [← Except.ok.inj h]
    exact .nil

lemma finite_valueStreamDecorators (entity : Entity) :
    AllFinite (Decorator.allNumbers entity.valueStreamDecorators) := by
  unfold valueStreamDecorators
  split
  · exact Decorator.finite_text _ id _
  · exact Decorator.finite_text _ id _
  · exact .nil

lemma finite_definitionDecorators (h : AllFinite entity.part.numbers) :
    AllFinite (Decorator.allNumbers entity.definitionDecorators) := by
  unfold definitionDecorators
  split
  · rename_i part hpart
    rw [hpart] at h
    exact Decorator.finite_append.mpr ⟨Decorator.finite_append.mpr
      ⟨Decorator.finite_single _ (by simp), Decorator.finite_flag _ _⟩, Decorator.finite_number _ h⟩
  · exact Decorator.finite_append.mpr ⟨Decorator.finite_single _ (by simp),
      VisibilityPrincipal.finite_decorators _ _⟩
  · exact .nil

lemma finite_earlyPermissionDecorators (entity : Entity) :
    AllFinite (Decorator.allNumbers entity.earlyPermissionDecorators) := by
  unfold earlyPermissionDecorators
  dsimp only
  split
  · exact PermissionIndex.finite_classDecorators _ _ _
  · exact Decorator.finite_append.mpr ⟨PermissionIndex.finite_classDecorators _ _ _,
      PermissionIndex.finite_classDecorators _ _ _⟩
  · exact Decorator.finite_append.mpr ⟨PermissionIndex.finite_classDecorators _ _ _,
      PermissionIndex.finite_classDecorators _ _ _⟩
  · exact .nil

lemma finite_latePermissionDecorators (entity : Entity) :
    AllFinite (Decorator.allNumbers entity.latePermissionDecorators) := by
  unfold latePermissionDecorators
  split
  · exact PermissionIndex.finite_classDecorators _ _ _
  · exact PermissionIndex.finite_classDecorators _ _ _
  · exact .nil

lemma finite_tableDecorators {decorators : List Decorator}
    (h : entity.tableDecorators separator = .ok decorators) :
    AllFinite (Decorator.allNumbers decorators) := by
  unfold tableDecorators at h
  obtain ⟨tables, htables, h⟩ := Outcome.bind_eq_ok.mp h
  rw [← Outcome.pure_eq_ok.mp h]
  split
  · exact .nil
  · refine Decorator.finite_single _ ?_
    simp only [List.forall_mem_cons]
    refine ⟨?_, by simp⟩
    rw [Expression.numbers, PropertyDeclaration.allNumbers_eq]
    exact AllFinite.flatMap_iff.mpr (Outcome.forall_of_forall₂ (Outcome.mapM_eq_ok.mp htables)
      fun _ _ => ConfigurationTableDefinition.finite_declaration)

lemma finite_configurationDecorators {decorators : List Decorator}
    (h : entity.configurationDecorators = .ok decorators) :
    AllFinite (Decorator.allNumbers decorators) := by
  unfold configurationDecorators at h
  split at h
  · rw [← Except.ok.inj h]
    exact .nil
  · obtain ⟨rows, hrows, rfl⟩ := Outcome.map_eq_ok.mp h
    refine Decorator.finite_single _ ?_
    simp only [List.forall_mem_cons]
    exact ⟨Expression.jsonLiteral_finite _ rows (Outcome.within_eq_ok.mp hrows), by simp⟩

/-- A class has the numbers of its entity, and those of its literals. -/
lemma finite_declaration {d : ClassDeclaration} (hread : AllFinite entity.numbers)
    (h : entity.declaration separator = .ok d) : AllFinite d.numbers := by
  obtain ⟨parts, hparts⟩ := declaration_eq_ok h
  obtain ⟨hmembers, hpart⟩ := AllFinite.append_iff.mp hread
  obtain ⟨hproperties, hservices⟩ := AllFinite.append_iff.mp hmembers
  rw [AllFinite.flatMap_iff] at hproperties hservices
  have hfields : ∀ field ∈ entity.fieldDefinitions, AllFinite field.aspects.numbers := by
    unfold fieldDefinitions
    split
    · rename_i fields hfields
      rw [hfields] at hpart
      exact AllFinite.flatMap_iff.mp hpart
    · simp
  -- each member is declared from a definition the numbers of which have been read
  have hfields :=
    Outcome.forall_of_forall₂ ((List.forall₂_and_left _ _).mpr ⟨hfields, hparts.fields⟩)
    fun _ _ h => DataShapeField.finite_declaration h.1 h.2
  have hproperties := Outcome.forall_of_forall₂
    ((List.forall₂_and_left _ _).mpr ⟨hproperties, hparts.properties⟩)
    fun _ _ h => PropertyDefinition.finite_declaration h.1 h.2
  have hservices := Outcome.forall_of_forall₂
    ((List.forall₂_and_left _ _).mpr ⟨hservices, hparts.services⟩)
    fun _ _ h => ServiceDefinition.finite_declaration h.1 h.2
  have hevents := Outcome.forall_of_forall₂ hparts.events fun _ _ =>
    EventDefinition.finite_declaration
  have hsubscriptions := Outcome.forall_of_forall₂ hparts.subscriptions fun _ _ =>
    SubscriptionDefinition.finite_declaration
  unfold ClassDeclaration.numbers
  rw [hparts.decorators, hparts.members]
  simp only [AllFinite.append_iff, List.cons_append, List.flatMap_append, List.flatMap_map,
    AllFinite.flatMap_iff]
  refine ⟨⟨?_, finite_base hparts.base⟩, ⟨⟨⟨hfields, hproperties⟩, hservices⟩, hevents⟩,
    hsubscriptions⟩
  rw [Decorator.allNumbers, AllFinite.append_iff]
  simp only [Decorator.finite_append]
  exact ⟨Decorator.finite_ofName (by simp [Expression.numbers, AllFinite]),
    ⟨⟨⟨⟨⟨⟨Decorator.finite_flag _ _, entity.finite_valueStreamDecorators⟩,
      finite_definitionDecorators hpart⟩, entity.finite_earlyPermissionDecorators⟩,
      VisibilityPrincipal.finite_decorators _ _⟩, finite_tableDecorators hparts.tables⟩,
      finite_configurationDecorators hparts.configuration⟩, entity.finite_latePermissionDecorators⟩

end Entity

namespace Compilation

variable {document : Value} {kind : EntityKind} {separator : Separator} {d : ClassDeclaration}

/-- Every number of a compiled class, wherever it stands, is an integer or a finite double. The
document may have any numbers anywhere, as such or as texts. -/
theorem compile_finite (h : compile document kind separator = .ok d) :
    ∀ n ∈ d.numbers, n.isFinite = true := by
  obtain ⟨entity, hentity, hdeclared⟩ := Outcome.bind_eq_ok.mp h
  exact Entity.finite_declaration (Document.entity_finite hentity) hdeclared

/-- The document of a tank with a numeric property, a remote service and a configuration table, with
the given value for the limit, the default, the timeout and the cell of the table. -/
def tankOf (limit default timeout cell : Value) : Value :=
  .object [("name", .text "Tank"),
    ("propertyDefinitions", .object [("level", .object [("baseType", .text "NUMBER"),
      ("aspects", .object [("maximumValue", limit), ("defaultValue", default)])])]),
    ("serviceDefinitions", .object [("drain", .object [])]),
    ("remoteServiceBindings", .object [("drain", .object [("timeout", timeout)])]),
    ("configurationTables",
      .object [("rates", .object [("rows", .list [.object [("rate", cell)]])])])]

/-- The least positive double. -/
def leastDouble : Double := .finite ⟨false, 1, 0, by decide⟩

/-- The tank has its four numbers, two of which were given as texts. -/
theorem tankOf_finite :
    ∃ d,
      compile
        (tankOf (.text "12") (.number (.double leastDouble)) (.text "30")
          (.number (.integer 7)))
        .other .default = .ok d
      ∧ d.numbers = [.integer 7, .integer 12, .double leastDouble, .integer 30]
      ∧ ∀ n ∈ d.numbers, n.isFinite = true := by
  refine ⟨_, rfl, rfl, ?_⟩
  exact @compile_finite (tankOf (.text "12") (.number (.double leastDouble)) (.text "30")
    (.number (.integer 7))) .other .default _ rfl

/-- An infinity is kept out where numbers are read, and where literals are made of them. -/
example : (compile (tankOf .null .null (.text "-inf") .null) .other .default).isOk = false
    ∧ (compile (tankOf .null (.number (.double (.infinite true))) .null .null) .other .default).isOk
      = false :=
  ⟨rfl, rfl⟩

end Compilation

end EntityCompiler
