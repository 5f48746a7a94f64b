import EntityCompiler.Proofs.Absence.Entity
import EntityCompiler.Proofs.Declared
import EntityCompiler.Proofs.Joining
import EntityCompiler.Proofs.Totality

/-!
# Null stands for absent

Leaving out `null` entries of the objects that are read by fixed keys, at any depth, does not change
what a document is compiled to, nor whether it is compiled at all. There is one exception: the
settings in the remote binding of a remote property are declared as they are given, and there is no
literal for `null`. A document with such a setting is never compiled, and leaving the setting out
may mend it.

Main statement: `Compilation.compile_thins`.
-/

namespace EntityCompiler

open Outcome (Agrees)

/-! ## Settings of remote bindings -/

namespace PropertyDefinition

variable {property property' : PropertyDefinition}

/-- A remote property with `null` for a setting of its binding. -/
def HasNullSetting (property : PropertyDefinition) : Prop :=
  property.aspects.isRemote = true ∧ ∃ binding, property.remoteBinding = some binding
    ∧ ∃ setting ∈ RemotePropertyBinding.settings, (setting, Value.null) ∈ binding.options

/-- An option that is `null` and no setting may be left out. -/
lemma remoteSettings_of_thinned {options options' : Fields} (hname : property.name = property'.name)
    (h : Fields.Thinned (fun _ => Eq) options options')
    (hnone : ∀ setting ∈ RemotePropertyBinding.settings, (setting, Value.null) ∉ options) :
    property.remoteSettings options = property'.remoteSettings options' := by
  induction h with
  | nil => rfl
  | @keep key v v' options options' hv _ ih =>
    subst hv
    have hrest := ih fun setting hsetting h => hnone setting hsetting (List.mem_cons_of_mem _ h)
    unfold remoteSettings
    rw [hrest, hname]
  | @drop key options options' _ ih =>
    have hrest := ih fun setting hsetting h => hnone setting hsetting (List.mem_cons_of_mem _ h)
    -- the entry that is left out is no setting, and only settings are declared
    have hkey : RemotePropertyBinding.settings.contains key = false := by
      by_contra hkey
      rw [Bool.not_eq_false, List.contains_iff_mem] at hkey
      exact hnone key hkey List.mem_cons_self
    rw [remoteSettings, hkey]
    exact hrest

lemma remoteDecorators_of_thins (h : property.Thins property') (hnone : ¬property.HasNullSetting) :
    property.remoteDecorators = property'.remoteDecorators := by
  have hname : property.name = property'.name := by rw [h.field]
  have hbinding := h.remoteBinding
  unfold remoteDecorators
  rw [← h.field]
  cases hremote : property.aspects.isRemote with
  | false => rfl
  | true =>
    cases hfound : property.remoteBinding with
    | none =>
      rw [hfound] at hbinding
      generalize property'.remoteBinding = found at hbinding ⊢
      cases hbinding
      rfl
    | some binding =>
      rw [hfound] at hbinding
      generalize property'.remoteBinding = found at hbinding ⊢
      obtain hbinding | _ := hbinding
      have hsettings :=
        remoteSettings_of_thinned hname hbinding.options fun setting hsetting hnull =>
        hnone ⟨hremote, binding, hfound, setting, hsetting, hnull⟩
      dsimp only
      rw [hsettings, hbinding.sourceName, hname]

/-- A property is declared alike without the `null` options of its remote binding, if none is a
setting. -/
lemma declaration_of_thins (h : property.Thins property') (hnone : ¬property.HasNullSetting)
    (permission : Option RuntimePermission) (separator : Separator) :
    property.declaration permission separator = property'.declaration permission separator := by
  have hname : property.name = property'.name := by rw [h.field]
  have hlocal : property.localDecorators = property'.localDecorators := by
    unfold localDecorators
    rw [h.localBinding]
  unfold declaration
  rw [remoteDecorators_of_thins h hnone, hlocal, ← h.field]

/-- There is no literal for `null`, so a setting that is `null` can not be declared. -/
lemma remoteSettings_ne_ok {options : Fields} {setting : String}
    (hsetting : setting ∈ RemotePropertyBinding.settings) (hnull : (setting, Value.null) ∈ options)
    (settings : List PropertyAssignment) : property.remoteSettings options ≠ .ok settings := by
  intro h
  induction options generalizing settings with
  | nil => contradiction
  | cons option options ih =>
    obtain ⟨key, v⟩ := option
    rw [remoteSettings] at h
    rcases List.mem_cons.mp hnull with heq | hrest
    · obtain ⟨rfl, rfl⟩ := Prod.mk.inj heq
      rw [if_pos (List.contains_iff_mem.mpr hsetting)] at h
      obtain ⟨literal, hliteral, -⟩ := Outcome.bind_eq_ok.mp h
      have hnever := Outcome.within_eq_ok.mp hliteral
      simp [Expression.literal, Outcome.problem] at hnever
    · split at h
      · obtain ⟨literal, -, h⟩ := Outcome.bind_eq_ok.mp h
        obtain ⟨others, hothers, -⟩ := Outcome.bind_eq_ok.mp h
        exact ih hrest others hothers
      · exact ih hrest settings h

lemma declaration_ne_ok (h : property.HasNullSetting) (permission : Option RuntimePermission)
    (separator : Separator) (declared : PropertyDeclaration) :
    property.declaration permission separator ≠ .ok declared := by
  intro hdeclared
  obtain ⟨hremote, binding, hbinding, setting, hsetting, hnull⟩ := h
  obtain ⟨field, -, hdeclared⟩ := Outcome.bind_eq_ok.mp hdeclared
  obtain ⟨decorators, hdecorators, -⟩ := Outcome.bind_eq_ok.mp hdeclared
  unfold remoteDecorators at hdecorators
  rw [hremote, hbinding] at hdecorators
  obtain ⟨settings, hsettings, -⟩ := Outcome.bind_eq_ok.mp hdecorators
  exact remoteSettings_ne_ok hsetting hnull settings hsettings

end PropertyDefinition

/-! ## Entities with null settings -/

/-- What belongs to the items of a list, one by one, has its place in the other list. -/
lemma exists_mem_of_forall₂ {α β : Type} {R : α → β → Prop} {xs : List α} {ys : List β} {x : α}
    (h : List.Forall₂ R xs ys) (hx : x ∈ xs) : ∃ y ∈ ys, R x y := by
  induction h with
  | nil => contradiction
  | @cons head y _ _ hxy _ ih =>
    rcases List.mem_cons.mp hx with rfl | hx
    · exact ⟨y, List.mem_cons_self, hxy⟩
    · obtain ⟨y, hy, hxy⟩ := ih hx
      exact ⟨y, List.mem_cons_of_mem _ hy, hxy⟩

namespace Entity

variable {entity entity' : Entity}

/-- An entity with a remote property that has `null` for a setting of its binding. -/
def HasNullSetting (entity : Entity) : Prop :=
  ∃ property ∈ entity.propertyDefinitions, property.HasNullSetting

lemma declaration_of_thins (h : entity.Thins entity') (hnone : ¬entity.HasNullSetting)
    (separator : Separator) : entity.declaration separator = entity'.declaration separator := by
  have hproperties : Outcome.gather (fun p => PropertyDefinition.declaration p
        (PermissionIndex.get? entity.memberPermissions p.name) separator) entity.propertyDefinitions
      = Outcome.gather (fun p => PropertyDefinition.declaration p
        (PermissionIndex.get? entity.memberPermissions p.name) separator)
          entity'.propertyDefinitions := by
    have hdeclared : ∀ p ∈ entity.propertyDefinitions, ¬p.HasNullSetting :=
      fun p hp h => hnone ⟨p, hp, h⟩
    have hthins := h.properties
    refine Outcome.gather_congr ?_
    -- both sides have the permissions of the first entity, so the induction is on the properties
    -- alone
    generalize entity.propertyDefinitions = properties at hdeclared hthins
    generalize entity'.propertyDefinitions = properties' at hthins
    induction hthins with
    | nil => exact .nil
    | @cons p p' _ _ hp _ ih =>
      refine .cons ?_ (ih fun p hp => hdeclared p (List.mem_cons_of_mem _ hp))
      have hname : p.name = p'.name := by rw [hp.field]
      rw [hname]
      exact PropertyDefinition.declaration_of_thins hp (hdeclared p List.mem_cons_self) _ _
  have hnames := h.locallyDefinedNames
  have hearly : entity'.earlyPermissionDecorators = entity.earlyPermissionDecorators := by
    unfold earlyPermissionDecorators
    rw [hnames, h.same]
    rfl
  have hlate : entity'.latePermissionDecorators = entity.latePermissionDecorators := by
    unfold latePermissionDecorators
    rw [hnames, h.same]
  unfold declaration
  rw [hearly, hlate, h.same]
  simp only [hproperties]
  rfl

lemma declaration_ne_ok (h : entity.HasNullSetting) (separator : Separator) (d : ClassDeclaration) :
    entity.declaration separator ≠ .ok d := by
  intro hdeclared
  obtain ⟨property, hproperty, hnull⟩ := h
  obtain ⟨parts, hparts⟩ := declaration_eq_ok hdeclared
  obtain ⟨declared, -, hdeclared⟩ := exists_mem_of_forall₂ hparts.properties hproperty
  exact property.declaration_ne_ok hnull _ separator declared hdeclared

end Entity

/-! ## Documents with null settings -/

namespace Document

variable {raw : Fields} {kind : EntityKind}

/-- A document that defines a remote property and has `null` for a setting in its remote binding. -/
def HasNullSetting (raw : Fields) (kind : EntityKind) : Prop :=
  kind ≠ .dataShape ∧ ∃ entry ∈ definitionsUnder raw kind "propertyDefinitions",
    flag (entriesUnder (entry.2.fields?.getD []) "aspects") "isRemote" = true
    ∧ ∃ setting ∈ RemotePropertyBinding.settings,
      (setting, Value.null) ∈ entriesUnder (entriesUnder raw "remotePropertyBindings") entry.1

lemma isRemote_of_aspects {location : Option String} {read : FieldAspects}
    (h : aspects raw location = .ok read) :
    read.isRemote = flag (entriesUnder raw "aspects") "isRemote" := by
  obtain ⟨found, hfound, h⟩ := Outcome.bind_eq_ok.mp h
  obtain ⟨⟨minimum, problems₁⟩, -, h⟩ := Outcome.bind_eq_ok.mp h
  obtain ⟨⟨maximum, problems₂⟩, -, h⟩ := Outcome.bind_eq_ok.mp h
  obtain ⟨⟨threshold, problems₃⟩, -, h⟩ := Outcome.bind_eq_ok.mp h
  dsimp only at h
  split at h
  · rw [← Outcome.pure_eq_ok.mp h, ← (isMap_of_fields_eq_ok hfound).2]
  · contradiction

lemma isRemote_of_fieldBase {definition : Value} {location : String} {base : FieldBase}
    (h : fieldBase definition location = .ok base) : base.aspects.isRemote
      = flag (entriesUnder (definition.fields?.getD []) "aspects") "isRemote" := by
  obtain ⟨entries, hentries, h⟩ := Outcome.bind_eq_ok.mp h
  obtain ⟨⟨type, typeProblems⟩, -, h⟩ := Outcome.bind_eq_ok.mp h
  obtain ⟨⟨read, aspectProblems⟩, hread, h⟩ := Outcome.bind_eq_ok.mp h
  rw [definition_eq_ok hentries]
  dsimp only at h
  split at h
  · rw [← Outcome.pure_eq_ok.mp h]
    exact isRemote_of_aspects (Outcome.collected_eq_ok_some hread).1
  · contradiction

/-- A property has a null setting exactly if it is remote by its definition and there is one in its
binding. -/
lemma hasNullSetting_of_readProperty {entry : String × Value} {p : PropertyDefinition}
    (h : readProperty raw kind entry = .ok p) : p.HasNullSetting
      ↔ flag (entriesUnder (entry.2.fields?.getD []) "aspects") "isRemote" = true
        ∧ ∃ setting ∈ RemotePropertyBinding.settings,
          (setting, Value.null)
            ∈ entriesUnder (entriesUnder raw "remotePropertyBindings") entry.1 := by
  obtain ⟨-, hjoined⟩ := joinedFrom_of_property (readNamed_eq_ok h)
  have hremote := isRemote_of_fieldBase hjoined.base
  dsimp only at hremote
  -- of the entries of a binding only the name of the source is no option, and it is no setting
  have hkept :
      ∀ setting ∈ RemotePropertyBinding.settings, (setting != "sourceName") = true := by decide
  have hbinding : entriesUnder (entriesUnder raw "remotePropertyBindings") entry.1
      = (((allBindings raw).remoteProperties.getD entry.1).fields?).getD [] := rfl
  unfold PropertyDefinition.HasNullSetting
  rw [hremote, hjoined.remoteBinding, hbinding]
  refine and_congr_right fun _ => ?_
  cases ((allBindings raw).remoteProperties.getD entry.1).fields? with
  | none => simp
  | some entries =>
    constructor
    · rintro ⟨binding, hfound, setting, hsetting, hnull⟩
      obtain rfl := Option.some.inj hfound
      exact ⟨setting, hsetting, (List.mem_filter.mp hnull).1⟩
    · rintro ⟨setting, hsetting, hnull⟩
      exact ⟨_, rfl, setting, hsetting, List.mem_filter.mpr ⟨hnull, hkept setting hsetting⟩⟩

lemma propertyDefinitions_of_dataShape {described : Entity}
    (h : entity (.object raw) .dataShape = .ok described) : described.propertyDefinitions = [] := by
  unfold entity at h
  dsimp only at h
  split at h
  · obtain ⟨found, hfound, hproperties⟩ := namedEntity_eq_ok h
    -- without a part that defines members there are none
    obtain ⟨_, hsource, hfound⟩ := Outcome.bind_eq_ok.mp hfound
    obtain rfl := Except.ok.inj hsource
    obtain ⟨⟨bound, problems⟩, -, hfound⟩ := Outcome.bind_eq_ok.mp hfound
    rw [hproperties, ← (Prod.mk.inj (Outcome.pure_eq_ok.mp hfound)).1]
  · contradiction

lemma hasNullSetting_iff {described : Entity} (hkeyed : (Value.object raw).IsKeyed)
    (h : entity (.object raw) kind = .ok described) :
    described.HasNullSetting ↔ HasNullSetting raw kind := by
  by_cases hkind : kind = .dataShape
  · subst hkind
    refine iff_of_false ?_ fun h => h.1 rfl
    rintro ⟨p, hp, -⟩
    rw [propertyDefinitions_of_dataShape h] at hp
    contradiction
  · have hmembers := (describesMembers_of_entity hkeyed hkind h).properties
    constructor
    · rintro ⟨p, hp, hnull⟩
      obtain ⟨entry, hentry, hread⟩ := exists_mem_of_forall₂ hmembers.flip hp
      exact ⟨hkind, entry, hentry, (hasNullSetting_of_readProperty hread).mp hnull⟩
    · rintro ⟨-, entry, hentry, hnull⟩
      obtain ⟨p, hp, hread⟩ := exists_mem_of_forall₂ hmembers hentry
      exact ⟨p, hp, (hasNullSetting_of_readProperty hread).mpr hnull⟩

end Document

namespace Compilation

/-- Of two documents let the second one leave out `null` entries of objects that are read by fixed
keys. If no remote property has `null` for a setting of its binding in the first one, both are
compiled to the same declaration, or both have a problem. Otherwise the first one has a problem. -/
theorem compile_thins {document sparser : Value} {kind : EntityKind} {separator : Separator}
    (hkeyed : document.IsKeyed) (hfits : separator.Fits = true)
    (h : Schema.document.Thins document sparser) :
    (¬Document.HasNullSetting (document.fields?.getD []) kind →
      (∃ d, compile document kind separator = .ok d ∧ compile sparser kind separator = .ok d)
      ∨ ∃ p q, compile document kind separator = .error (.problem p)
        ∧ compile sparser kind separator = .error (.problem q))
    ∧ (Document.HasNullSetting (document.fields?.getD []) kind →
      ∃ p, compile document kind separator = .error (.problem p)) := by
  have hsound := compile_sound hkeyed hfits kind
  have hread := Document.entity_agree ⟨hkeyed, h⟩ kind
  have hsettings : ∀ described, Document.entity document kind = .ok described →
      (described.HasNullSetting ↔ Document.HasNullSetting (document.fields?.getD []) kind) := by
    intro described hdescribed
    cases document with
    | object raw => exact Document.hasNullSetting_iff hkeyed hdescribed
    | _ => contradiction
  constructor
  · intro hnone
    have hagree : Agrees Eq (compile document kind separator) (compile sparser kind separator) := by
      obtain ⟨described, described', hdescribed, hdescribed', hthins⟩ | ⟨p, q, hp, hq⟩
        | ⟨c, hc, hc'⟩ :=
        hread.cases
      · have hquiet := mt (hsettings described hdescribed).mp hnone
        unfold compile
        rw [hdescribed, hdescribed']
        exact Agrees.ok_bind (Agrees.of_eq (Entity.declaration_of_thins hthins hquiet separator))
      · unfold compile
        rw [hp, hq]
        trivial
      · unfold compile
        rw [hc, hc']
        exact rfl
    obtain ⟨d, _, hd, hd', rfl⟩ | ⟨p, q, hp, hq⟩ | ⟨c, hc, -⟩ := hagree.cases
    · exact .inl ⟨d, hd, hd'⟩
    · exact .inr ⟨p, q, hp, hq⟩
    · rw [hc] at hsound
      contradiction
  · intro hnull
    rcases hsound.total with ⟨d, hd, -⟩ | ⟨p, hp, -⟩
    · obtain ⟨described, hdescribed, hdeclared⟩ := Outcome.bind_eq_ok.mp hd
      exact absurd hdeclared
        (described.declaration_ne_ok ((hsettings _ hdescribed).mpr hnull) separator d)
    · exact ⟨p, hp⟩

/-- The document of a sensor with a remote property. There is `null` under some more keys of the
document, of the aspects of the property and of its remote binding. -/
def sensorWithNull (keys aspectKeys bindingKeys : List String) : Value :=
  .object (keys.map (·, .null) ++ [("name", .text "Sensor"),
    ("propertyDefinitions", .object [("level", .object [("baseType", .text "NUMBER"),
      ("aspects", .object (aspectKeys.map (·, .null) ++ [("isRemote", .bool true)]))])]),
    ("remotePropertyBindings", .object [("level",
      .object (bindingKeys.map (·, .null) ++ [("cacheTime", .text "5")]))])])

lemma sensorWithNull_thins (keys aspectKeys bindingKeys : List String) :
    Schema.document.Thins (sensorWithNull keys aspectKeys bindingKeys)
      (sensorWithNull [] [] []) := by
  have hflat : ∀ (keys : List String) (raw : Fields),
      Schema.flat.Thins (.object (keys.map (·, .null) ++ raw)) (.object raw) :=
    fun keys raw => Schema.thins_record_iff.mpr
      ((Fields.Thinned.refl (fun _ => Schema.thins_refl _) raw).nulls keys)
  have hproperty : Schema.field.Thins
      (.object [("baseType", .text "NUMBER"),
        ("aspects", .object (aspectKeys.map (·, .null) ++ [("isRemote", .bool true)]))])
      (.object [("baseType", .text "NUMBER"), ("aspects", .object [("isRemote", .bool true)])]) :=
    Schema.thins_record_iff.mpr (.keep (Schema.thins_refl _ _) (.keep (hflat aspectKeys _) .nil))
  refine Schema.thins_record_iff.mpr (Fields.Thinned.nulls ?_ keys)
  refine .keep (Schema.thins_refl _ _) (.keep ?_ (.keep ?_ .nil))
  · exact Schema.thins_map_iff.mpr (.cons ⟨rfl, hproperty⟩ .nil)
  · exact Schema.thins_map_iff.mpr (.cons ⟨rfl, hflat bindingKeys _⟩ .nil)

/-- With `null` for its description, its units and the source of its binding, the sensor is compiled
as it is without these entries. With `null` for the timeout of its binding, it is not compiled at
all. -/
theorem sensorWithNull_compile :
    (sensorWithNull ["description"] ["units"] ["sourceName"]).IsKeyed
      ∧ Separator.default.Fits = true
    ∧ Schema.document.Thins (sensorWithNull ["description"] ["units"] ["sourceName"])
      (sensorWithNull [] [] [])
    ∧ (∃ d, compile (sensorWithNull ["description"] ["units"] ["sourceName"]) .other
      .default = .ok d
      ∧ compile (sensorWithNull [] [] []) .other .default = .ok d)
    ∧ ∃ p, compile (sensorWithNull [] [] ["timeout"]) .other .default = .error (.problem p) := by
  have hfits : Separator.default.Fits = true := rfl
  have hsource : (sensorWithNull ["description"] ["units"] ["sourceName"]).IsKeyed := by
    simp [sensorWithNull, Value.IsKeyed.null, Value.IsKeyed.bool]
  have htimeout : (sensorWithNull [] [] ["timeout"]).IsKeyed := by
    simp [sensorWithNull, Value.IsKeyed.null, Value.IsKeyed.bool]
  have hquiet : ¬Document.HasNullSetting
      ((sensorWithNull ["description"] ["units"] ["sourceName"]).fields?.getD []) .other := by
    rintro ⟨-, entry, hentry, -, setting, hsetting, hnull⟩
    obtain rfl := List.mem_singleton.mp hentry
    rcases List.mem_cons.mp hnull with heq | hrest
    · rw [(Prod.mk.inj heq).1] at hsetting
      exact absurd hsetting (by decide)
    · exact absurd (List.mem_singleton.mp hrest) (by simp)
  have hnull :
      Document.HasNullSetting ((sensorWithNull [] [] ["timeout"]).fields?.getD []) .other :=
    ⟨by decide, _, List.mem_singleton.mpr rfl, rfl, "timeout", by decide, List.mem_cons_self⟩
  refine ⟨hsource, hfits, sensorWithNull_thins _ _ _, ?_, ?_⟩
  · rcases (compile_thins hsource hfits (sensorWithNull_thins _ _ _)).1 hquiet with hcompiled
      | ⟨p, q, hp, hq⟩
    · exact hcompiled
    · have hcompiled : (compile (sensorWithNull ["description"] ["units"] ["sourceName"]) .other
        .default).isOk = true := rfl
      rw [hp] at hcompiled
      contradiction
  · exact (compile_thins htimeout hfits (sensorWithNull_thins _ _ _)).2 hnull

/-- With `null` for the kind of changes that are pushed, the sensor is not compiled, and without
this entry it is. -/
theorem nullPushType_uncompiled :
    (sensorWithNull [] [] ["pushType"]).IsKeyed
    ∧ Schema.document.Thins (sensorWithNull [] [] ["pushType"]) (sensorWithNull [] [] [])
    ∧ (∃ p, compile (sensorWithNull [] [] ["pushType"]) .other .default = .error (.problem p))
    ∧ ∃ d, compile (sensorWithNull [] [] []) .other .default = .ok d := by
  refine ⟨?_, sensorWithNull_thins _ _ _, ⟨_, rfl⟩, _, rfl⟩
  simp [sensorWithNull, Value.IsKeyed.null, Value.IsKeyed.bool]

end Compilation

end EntityCompiler
