import EntityCompiler.Proofs.Failures
import EntityCompiler.Proofs.Placement
import EntityCompiler.Proofs.ValueLiterals

/-!
# Aspects of properties

A property is declared unless its default value, or a setting of the remote binding that it has as a
remote property, has no literal. Its declaration then shows each aspect that is present by a
decorator of its own, in a fixed order and with the values of the aspect
(`PropertyDefinition.declaration_shows`). Zero and the empty text are values like others.
-/

namespace EntityCompiler

open Outcome (failure_bind failure_eq_nil_of_ok)

/-! ## Values with a literal -/

/-- A truth value, a text, an integer or a finite double. -/
inductive Value.IsPrimitive : Value → Prop
  | bool (b : Bool) : IsPrimitive (.bool b)
  | text (s : String) : IsPrimitive (.text s)
  | integer (i : Int) : IsPrimitive (.number (.integer i))
  | double {d : Double} (h : d.isFinite = true) : IsPrimitive (.number (.double d))

namespace Expression

lemma literal_of_isPrimitive {v : Value} (h : v.IsPrimitive) :
    ∃ e, literal v = .ok e ∧ e.value? = some v := by
  cases h with
  | bool b => exact ⟨.boolean b, rfl, rfl⟩
  | text s => exact ⟨.string s, rfl, rfl⟩
  | integer i => exact ⟨.number (.integer i), rfl, rfl⟩
  | @double d h => exact ⟨.number (.double d), if_pos h, rfl⟩

lemma isPrimitive_of_literal {v : Value} {e : Expression} (h : literal v = .ok e) :
    v.IsPrimitive := by
  unfold literal at h
  split at h
  next b => exact .bool b
  next n =>
    cases n with
    | integer i => exact .integer i
    | double d =>
      split at h
      next hfinite => exact .double hfinite
      next => contradiction
  next s => exact .text s
  next => contradiction

lemma value?_of_literal {v : Value} {e : Expression} (h : literal v = .ok e) :
    e.value? = some v := by
  obtain ⟨other, hother, hvalue⟩ := literal_of_isPrimitive (isPrimitive_of_literal h)
  obtain rfl : e = other := Except.ok.inj (h.symm.trans hother)
  exact hvalue

end Expression

/-! ## What a declaration shows -/

/-- The settings among the options of a remote binding. -/
def RemotePropertyBinding.recognized (binding : RemotePropertyBinding) : Fields :=
  binding.options.filter fun option => settings.contains option.1

namespace PropertyDefinition

variable (property : PropertyDefinition)

/-- The remote binding of a remote property. -/
def boundRemotely? : Option RemotePropertyBinding :=
  if property.aspects.isRemote then property.remoteBinding else none

/-- A default value, or a setting of the remote binding of a remote property, is not primitive. -/
def HasForeignValue : Prop :=
  (property.aspects.defaultValue ≠ .null ∧ ¬ property.aspects.defaultValue.IsPrimitive)
    ∨ ∃ binding ∈ property.boundRemotely?, ∃ setting ∈ binding.recognized, ¬ setting.2.IsPrimitive

/-- An aspect with its values, if it is present. -/
def present (name : String) (values : Option (List Value)) : List (String × List Value) :=
  (values.map (name, ·)).toList

/-- The aspects that are present, in their order, each with the values that it has. -/
def presentAspects : List (String × List Value) :=
  present "minimumValue" (property.aspects.minimumValue.map fun n => [.number n])
    ++ present "maximumValue" (property.aspects.maximumValue.map fun n => [.number n])
    ++ present "unit" (property.aspects.units.map fun unit => [.text unit])
    ++ present "persistent" (if property.aspects.isPersistent then some [] else none)
    ++ present "logged" (if property.aspects.isLogged then some [] else none)
    ++ present "dataChangeType" (property.aspects.dataChangeType.map fun type =>
      .text type :: (property.aspects.dataChangeThreshold.map .number).toList)
    ++ present "remote" (property.boundRemotely?.map fun binding =>
      [.text (binding.sourceName.getD property.name), .object binding.recognized])
    ++ present "local" (property.localBinding.map fun binding =>
      [.text binding.sourceThingName, .text binding.sourceName])

end PropertyDefinition

/-- A decorator shows an aspect if it has the name of it and literals of its values as arguments. -/
def Decorator.Shows (aspect : String × List Value) (decorator : Decorator) : Prop :=
  ∃ arguments, decorator = .ofName aspect.1 arguments ∧ Expression.values? arguments = some aspect.2

namespace PropertyDeclaration

/-- Is a property assigned elsewhere? -/
def isDefinite : PropertyDeclaration → Bool
  | mk _ _ _ _ isDefinite _ _ => isDefinite

/-- The initial value of a property. -/
def initializer : PropertyDeclaration → Option Expression
  | mk _ _ _ _ _ initializer _ => initializer

end PropertyDeclaration

/-- A declaration shows the aspects of a property that are present, one by one, and then the
permission on it. Its initial value is the default value, and without one it is definite. -/
structure PropertyDefinition.IsShownBy (property : PropertyDefinition)
    (permission : Option RuntimePermission) (declaration : PropertyDeclaration) : Prop where
  decorators : ∃ shown, List.Forall₂ Decorator.Shows property.presentAspects shown
    ∧ declaration.decorators = shown
      ++ (permission.map (·.decorators property.name false false)).getD []
  initializer : (declaration.initializer = none ↔ property.aspects.defaultValue = .null)
    ∧ ∀ e ∈ declaration.initializer, e.value? = some property.aspects.defaultValue
  isDefinite : declaration.isDefinite = true ↔ declaration.initializer = none

/-! ## Decorators for aspects -/

namespace Decorator

open PropertyDefinition (present)

lemma shows_single {name : String} {arguments : List Expression} {values : List Value}
    (h : Expression.values? arguments = some values) :
    List.Forall₂ Shows (present name (some values)) [ofName name arguments] :=
  .cons ⟨arguments, rfl, h⟩ .nil

lemma shows_optional {α : Type} {name : String} {argument : α → Expression} {value : α → Value}
    (h : ∀ a, (argument a).value? = some (value a)) (x : Option α) :
    List.Forall₂ Shows (present name (x.map fun a => [value a])) (optional name argument x) := by
  cases x with
  | none => exact .nil
  | some a =>
    apply shows_single
    rw [Expression.values?, h a]
    rfl

lemma shows_flag {name : String} (isSet : Bool) :
    List.Forall₂ Shows (present name (if isSet then some [] else none)) (flag name isSet) := by
  cases isSet with
  | false => exact .nil
  | true => exact shows_single rfl

end Decorator

lemma FieldAspects.shows_limitDecorators (aspects : FieldAspects) :
    List.Forall₂ Decorator.Shows
      (PropertyDefinition.present "minimumValue" (aspects.minimumValue.map fun n => [.number n])
        ++ PropertyDefinition.present "maximumValue" (aspects.maximumValue.map fun n => [.number n])
        ++ PropertyDefinition.present "unit" (aspects.units.map fun unit => [.text unit]))
      aspects.limitDecorators := by
  refine List.rel_append (List.rel_append ?_ ?_) ?_
  · exact Decorator.shows_optional (fun _ => rfl) aspects.minimumValue
  · exact Decorator.shows_optional (fun _ => rfl) aspects.maximumValue
  · exact Decorator.shows_optional (fun _ => rfl) aspects.units

lemma FieldAspects.shows_dataChangeDecorators (aspects : FieldAspects) :
    List.Forall₂ Decorator.Shows (PropertyDefinition.present "dataChangeType"
      (aspects.dataChangeType.map fun type =>
        .text type :: (aspects.dataChangeThreshold.map .number).toList))
          aspects.dataChangeDecorators := by
  unfold dataChangeDecorators
  cases aspects.dataChangeType with
  | none => exact .nil
  | some type =>
    apply Decorator.shows_single
    cases aspects.dataChangeThreshold <;> rfl

namespace PropertyDefinition

variable {property : PropertyDefinition}

lemma shows_localDecorators (property : PropertyDefinition) :
    List.Forall₂ Decorator.Shows (present "local" (property.localBinding.map fun binding =>
      [.text binding.sourceThingName, .text binding.sourceName])) property.localDecorators := by
  unfold localDecorators
  cases property.localBinding with
  | none => exact .nil
  | some binding => exact Decorator.shows_single rfl

/-! ## Remote bindings -/

/-- The settings of a remote binding are declared in their order, if each of them has a literal. -/
lemma remoteSettings_eq_ok (property : PropertyDefinition) {options : Fields}
    (h : ∀ option ∈ options, RemotePropertyBinding.settings.contains option.1 = true →
      option.2.IsPrimitive) :
    ∃ declared, property.remoteSettings options = .ok declared
      ∧ PropertyAssignment.entries? declared
        = some (options.filter fun option => RemotePropertyBinding.settings.contains option.1) := by
  induction options with
  | nil => exact ⟨[], rfl, rfl⟩
  | cons option options ih =>
    obtain ⟨key, v⟩ := option
    rw [List.forall_mem_cons] at h
    obtain ⟨others, hothers, hentries⟩ := ih h.2
    rw [remoteSettings, List.filter_cons]
    cases hkey : RemotePropertyBinding.settings.contains key with
    | false => exact ⟨others, hothers, hentries⟩
    | true =>
      obtain ⟨first, hfirst, hvalue⟩ := Expression.literal_of_isPrimitive (h.1 hkey)
      refine ⟨⟨key, first⟩ :: others, ?_, ?_⟩
      · rw [if_pos rfl, hfirst, hothers]
        rfl
      · rw [if_pos rfl, PropertyAssignment.entries?, hvalue, hentries]
        rfl

lemma isPrimitive_of_remoteSettings {options : Fields} {declared : List PropertyAssignment}
    (h : property.remoteSettings options = .ok declared) :
    ∀ option ∈ options, RemotePropertyBinding.settings.contains option.1 = true →
      option.2.IsPrimitive := by
  induction options generalizing declared with
  | nil => simp
  | cons option options ih =>
    obtain ⟨key, v⟩ := option
    rw [remoteSettings] at h
    rw [List.forall_mem_cons]
    split at h
    next =>
      obtain ⟨first, hfirst, h⟩ := Outcome.bind_eq_ok.mp h
      obtain ⟨others, hothers, -⟩ := Outcome.bind_eq_ok.mp h
      exact ⟨fun _ => Expression.isPrimitive_of_literal
        (Outcome.within_eq_ok.mp hfirst), ih hothers⟩
    next hkey => exact ⟨fun hsetting => absurd hsetting hkey, ih h⟩

/-- The decorator of a remote property is that for its binding. -/
lemma remoteDecorators_eq (property : PropertyDefinition) :
    property.remoteDecorators = match property.boundRemotely? with
      | none => .ok []
      | some binding => (property.remoteSettings binding.options).map fun declared =>
        [.ofName "remote" [.string (binding.sourceName.getD property.name), .object declared]] := by
  unfold remoteDecorators boundRemotely?
  cases property.aspects.isRemote with
  | false => rfl
  | true =>
    cases property.remoteBinding with
    | none => rfl
    | some binding => cases property.remoteSettings binding.options <;> rfl

lemma exists_remoteDecorators (property : PropertyDefinition)
    (h : ∀ binding ∈ property.boundRemotely?, ∀ setting ∈ binding.recognized,
      setting.2.IsPrimitive) :
    ∃ decorators, property.remoteDecorators = .ok decorators := by
  rw [remoteDecorators_eq]
  cases hbinding : property.boundRemotely? with
  | none => exact ⟨[], rfl⟩
  | some binding =>
    obtain ⟨declared, hdeclared, -⟩ :=
      property.remoteSettings_eq_ok (List.forall_mem_filter.mp (h binding hbinding))
    exact ⟨_, Outcome.map_eq_ok.mpr ⟨declared, hdeclared, rfl⟩⟩

/-- The decorator of a remote property shows the source and the settings of its binding. -/
lemma shows_remoteDecorators {decorators : List Decorator}
    (h : property.remoteDecorators = .ok decorators) :
    (∀ binding ∈ property.boundRemotely?, ∀ setting ∈ binding.recognized, setting.2.IsPrimitive)
      ∧ List.Forall₂ Decorator.Shows (present "remote" (property.boundRemotely?.map fun binding =>
        [.text (binding.sourceName.getD property.name), .object binding.recognized]))
          decorators := by
  rw [remoteDecorators_eq] at h
  cases hbinding : property.boundRemotely? with
  | none =>
    rw [hbinding] at h
    obtain rfl := Except.ok.inj h
    exact ⟨by simp, .nil⟩
  | some binding =>
    rw [hbinding] at h
    obtain ⟨declared, hdeclared, rfl⟩ := Outcome.map_eq_ok.mp h
    have hprimitive := isPrimitive_of_remoteSettings hdeclared
    obtain ⟨others, hothers, hentries⟩ := property.remoteSettings_eq_ok hprimitive
    obtain rfl : declared = others := Except.ok.inj (hdeclared.symm.trans hothers)
    refine ⟨?_, Decorator.shows_single ?_⟩
    · intro other hother
      obtain rfl : binding = other := Option.some.inj hother
      exact List.forall_mem_filter.mpr hprimitive
    · rw [Expression.values?, Expression.values?, Expression.value?, Expression.value?, hentries]
      rfl

end PropertyDefinition

/-! ## Initial values -/

namespace FieldAspects

variable {aspects : FieldAspects} {cause : Cause}

/-- A field has an initial value exactly if it has a default value, which is then the literal of it.
-/
lemma initializer_eq_ok {initializer : Option Expression} :
    aspects.initializer cause = .ok initializer
      ↔ (initializer = none ↔ aspects.defaultValue = .null)
      ∧ ∀ e, initializer = some e → Expression.literal aspects.defaultValue = .ok e := by
  unfold FieldAspects.initializer
  split
  next hnull => cases initializer <;> simp [hnull]
  next hdefault =>
    rw [Outcome.map_eq_ok]
    constructor
    · rintro ⟨e, he, rfl⟩
      refine ⟨by simpa using hdefault, ?_⟩
      rintro found ⟨⟩
      exact Outcome.within_eq_ok.mp he
    · rintro ⟨hnull, hliteral⟩
      obtain ⟨e, rfl⟩ := Option.ne_none_iff_exists'.mp (mt hnull.mp hdefault)
      exact ⟨e, Outcome.within_eq_ok.mpr (hliteral e rfl), rfl⟩

/-- A primitive default value is no problem. -/
lemma failure_initializer (h : aspects.defaultValue ≠ .null → aspects.defaultValue.IsPrimitive) :
    (aspects.initializer cause).failure = [] := by
  unfold FieldAspects.initializer
  split
  next => rfl
  next hdefault =>
    obtain ⟨e, he, -⟩ := Expression.literal_of_isPrimitive (h hdefault)
    rw [he]
    rfl

end FieldAspects

/-! ## Declarations -/

namespace FieldDefinition

variable {separator : Separator} {field : FieldDefinition}

lemma declared_initializer {declared : DeclaredField}
    (h : field.declared separator = .ok declared) :
    field.aspects.initializer (.fieldDefault field.name) = .ok declared.initializer := by
  obtain ⟨initializer, hinitializer, h⟩ := Outcome.bind_eq_ok.mp h
  obtain ⟨type, -, h⟩ := Outcome.bind_eq_ok.mp h
  obtain ⟨comment, -, h⟩ := Outcome.bind_eq_ok.mp h
  rw [← Outcome.pure_eq_ok.mp h]
  exact hinitializer

/-- Only a default value can be a problem with a field. -/
lemma failure_declared (separator : Separator)
    (h : field.aspects.defaultValue ≠ .null → field.aspects.defaultValue.IsPrimitive) :
    (field.declared separator).failure = [] := by
  refine failure_bind (FieldAspects.failure_initializer h) fun initializer _ => ?_
  refine failure_bind (TypeNode.failure_ofBaseType _ _ _) fun type _ => ?_
  exact failure_bind (DocComment.failure_ofText? _) fun comment _ => rfl

end FieldDefinition

namespace PropertyDefinition

variable {separator : Separator}

/-- Only a foreign value can be a problem with a property. -/
lemma failure_declaration {property : PropertyDefinition} (permission : Option RuntimePermission)
    (h : ¬ property.HasForeignValue) :
    (property.declaration permission separator).failure = [] := by
  simp only [HasForeignValue, not_or, not_and, not_not, not_exists] at h
  obtain ⟨hdefault, hremote⟩ := h
  obtain ⟨remote, hok⟩ := property.exists_remoteDecorators hremote
  refine failure_bind (FieldDefinition.failure_declared separator hdefault) fun field _ => ?_
  refine failure_bind (failure_eq_nil_of_ok hok) fun _ _ => ?_
  exact PropertyDeclaration.failure_checked _

/-- A property with a declaration has no foreign value, and all of its aspects are shown. -/
lemma isShownBy_of_declaration {property : PropertyDefinition}
    {permission : Option RuntimePermission}
    {declaration : PropertyDeclaration}
    (h : property.declaration permission separator = .ok declaration) :
    ¬ property.HasForeignValue ∧ property.IsShownBy permission declaration := by
  obtain ⟨field, hfield, h⟩ := Outcome.bind_eq_ok.mp h
  obtain ⟨remote, hremote, h⟩ := Outcome.bind_eq_ok.mp h
  rw [PropertyDeclaration.checked_eq_ok h]
  obtain ⟨hsettings, hbound⟩ := shows_remoteDecorators hremote
  obtain ⟨hnull, hliteral⟩ :=
    FieldAspects.initializer_eq_ok.mp (FieldDefinition.declared_initializer hfield)
  constructor
  · rintro (⟨hdefault, hforeign⟩ | ⟨binding, hbinding, setting, hsetting, hforeign⟩)
    · obtain ⟨e, he⟩ := Option.ne_none_iff_exists'.mp (mt hnull.mp hdefault)
      exact hforeign (Expression.isPrimitive_of_literal (hliteral e he))
    · exact hforeign (hsettings binding hbinding setting hsetting)
  · have hshown : List.Forall₂ Decorator.Shows property.presentAspects
        (field.decorators ++ Decorator.flag "persistent" property.aspects.isPersistent
          ++ Decorator.flag "logged" property.aspects.isLogged
          ++ property.aspects.dataChangeDecorators ++ remote ++ property.localDecorators) := by
      rw [FieldDefinition.declared_decorators hfield]
      apply List.rel_append _ property.shows_localDecorators
      apply List.rel_append _ hbound
      apply List.rel_append _ property.aspects.shows_dataChangeDecorators
      apply List.rel_append _ (Decorator.shows_flag _)
      exact List.rel_append property.aspects.shows_limitDecorators (Decorator.shows_flag _)
    exact {
      decorators := ⟨_, hshown, by cases permission <;> rfl⟩
      initializer := ⟨hnull, fun e he => Expression.value?_of_literal (hliteral e he)⟩
      isDefinite := Option.isNone_iff_eq_none }

/-- A property has a declaration unless a value of it is foreign, and the declaration shows just the
aspects that are present. -/
theorem declaration_shows (property : PropertyDefinition) (permission : Option RuntimePermission)
    (hseparator : separator.Fits = true) :
    ((∃ p, property.declaration permission separator = .error (.problem p))
      ↔ property.HasForeignValue)
    ∧ (¬ property.HasForeignValue → ∃ d, property.declaration permission separator = .ok d
      ∧ property.IsShownBy permission d) := by
  have hsound := PropertyDefinition.declaration_sound hseparator property permission
  have hnative (h : ¬ property.HasForeignValue) :
      ∃ d, property.declaration permission separator = .ok d ∧ property.IsShownBy permission d := by
    obtain ⟨d, hd, -⟩ := hsound.exists_ok (failure_declaration permission h)
    exact ⟨d, hd, (isShownBy_of_declaration hd).2⟩
  refine ⟨⟨?_, ?_⟩, hnative⟩
  · rintro ⟨p, hp⟩
    by_contra h
    obtain ⟨d, hd, -⟩ := hnative h
    rw [hd] at hp
    contradiction
  · intro hforeign
    rcases hsound.total with ⟨d, hd, -⟩ | ⟨p, hp, -⟩
    · exact absurd hforeign (isShownBy_of_declaration hd).1
    · exact ⟨p, hp⟩

/-- A property with a remote and a local binding whose other aspects are zero or empty. -/
def pressure (cacheTime : Value) : PropertyDefinition where
  name := "pressure"
  baseType := .number
  description := some ""
  aspects := {
    defaultValue := .number (.integer 0)
    minimumValue := some (.integer 0)
    units := some ""
    isLogged := true
    isRemote := true
    dataChangeType := some ""
    dataChangeThreshold := some (.integer 0) }
  remoteBinding :=
    some ⟨none, [("foldType", .text ""), ("tunnel", .null), ("cacheTime", cacheTime)]⟩
  localBinding := some ⟨"Boiler", ""⟩

/-- Nothing that is zero or empty is taken for absent, and nothing but a setting can be foreign. -/
theorem pressure_shows :
    Separator.default.Fits = true
    ∧ (∃ p, (pressure .null).declaration (some (Entity.readersOf "pressure")) .default
      = .error (.problem p))
    ∧ (pressure (.bool false)).presentAspects = [("minimumValue", [.number (.integer 0)]),
      ("unit", [.text ""]), ("logged", []), ("dataChangeType", [.text "", .number (.integer 0)]),
      ("remote", [.text "pressure", .object [("foldType", .text ""), ("cacheTime", .bool false)]]),
      ("local", [.text "Boiler", .text ""])]
    ∧ ∃ d, (pressure (.bool false)).declaration (some (Entity.readersOf "pressure"))
      .default = .ok d
      ∧ (pressure (.bool false)).IsShownBy (some (Entity.readersOf "pressure")) d := by
  have hforeign : (pressure .null).HasForeignValue := by
    have hmem :
        ("cacheTime", .null) ∈ [("foldType", .text ""), ("cacheTime", Value.null)] := by simp
    exact .inr ⟨_, rfl, _, hmem, fun h => nomatch h⟩
  have hnative : ¬ (pressure (.bool false)).HasForeignValue := by
    rintro (⟨-, hdefault⟩ | ⟨binding, hbinding, setting, hsetting, h⟩)
    · exact hdefault (.integer 0)
    · obtain rfl := Option.some.inj hbinding
      change setting ∈ [("foldType", .text ""), ("cacheTime", .bool false)] at hsetting
      rcases List.mem_pair.mp hsetting with rfl | rfl
      · exact h (.text "")
      · exact h (.bool false)
  refine ⟨rfl, ?_, rfl, ?_⟩
  · exact (declaration_shows (pressure .null) _ rfl).1.mpr hforeign
  · exact (declaration_shows (pressure (.bool false)) _ rfl).2 hnative

end PropertyDefinition

end EntityCompiler
