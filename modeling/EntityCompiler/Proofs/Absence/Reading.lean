import EntityCompiler.Document.Entity
import EntityCompiler.Proofs.Absence.Schema

/-!
# Reading the parts of a document with less in it

One lemma for each reader: where two parts are alike for the schema of what is read, the reader
comes to the same. Where a problem shows a part as a whole, it may be another one, and the readings
only agree. A remote binding keeps its options as they are given, with `null` for those that are, so
two properties may differ in these (`PropertyDefinition.Thins`).
-/

namespace EntityCompiler

/-- Two bindings to the same source, the second of which leaves some `null` options out. -/
structure RemotePropertyBinding.Thins (binding binding' : RemotePropertyBinding) : Prop where
  sourceName : binding.sourceName = binding'.sourceName
  options : Fields.Thinned (fun _ => Eq) binding.options binding'.options

/-- Two properties that differ at most in `null` options of their remote bindings. -/
structure PropertyDefinition.Thins (p p' : PropertyDefinition) : Prop where
  field : p.toFieldDefinition = p'.toFieldDefinition
  localBinding : p.localBinding = p'.localBinding
  remoteBinding : Option.Rel RemotePropertyBinding.Thins p.remoteBinding p'.remoteBinding

namespace Document

open Outcome (Agrees AlikeProblems)
open Schema (Alike)

variable {raw raw' : Fields} {v v' : Value}

/-! ## Reading under a key -/

lemma text?_ext (h : ∀ key, raw.getD key = raw'.getD key) : text? raw = text? raw' :=
  funext fun key => text?_congr (h key)

lemma flag_ext (h : ∀ key, raw.getD key = raw'.getD key) : flag raw = flag raw' :=
  funext fun key => flag_congr (h key)

lemma number?_ext (h : ∀ key, raw.getD key = raw'.getD key) : number? raw = number? raw' :=
  funext fun key => funext fun location => number?_congr (h key) location

lemma flat_ext (h : Schema.flat.Alike (.object raw) (.object raw')) (key : String) :
    raw.getD key = raw'.getD key :=
  (h.part key).eq

/-- Under a key that is read as an object stand two like objects, or the same problem. -/
lemma fields_alike {s : Schema} {key : String} (h : s.Alike (raw.getD key) (raw'.getD key))
    (hs : s.IsObject) (location : Option String) :
    (∃ found found', fields raw key location = .ok found ∧ fields raw' key location = .ok found'
      ∧ s.Alike (.object found) (.object found'))
    ∨ ∃ p, fields raw key location = .error (.problem p)
      ∧ fields raw' key location = .error (.problem p) := by
  unfold fields
  obtain ⟨found, found', h₁, h₂⟩ | ⟨h₁, h₂⟩ := h.object_cases hs
  · rw [h₁, h₂] at h ⊢
    exact .inl ⟨found, found', rfl, rfl, h⟩
  · rw [← h₁]
    cases hvalue : raw.getD key with
    | null => exact .inl ⟨[], [], rfl, rfl, by simp, Schema.thins_refl _ _⟩
    | object entries =>
      rw [hvalue] at h₂
      contradiction
    | _ => exact .inr ⟨_, rfl, rfl⟩

lemma fields_agree {s : Schema} {key : String} (h : s.Alike (raw.getD key) (raw'.getD key))
    (hs : s.IsObject) (location : Option String) :
    Agrees (fun found found' => s.Alike (.object found) (.object found'))
      (fields raw key location) (fields raw' key location) := by
  obtain ⟨found, found', h₁, h₂, hfound⟩ | ⟨p, h₁, h₂⟩ := fields_alike h hs location
  · rw [h₁, h₂]
    exact hfound
  · rw [h₁, h₂]
    trivial

lemma items_of_list {s : Schema} {key : String}
    (h : (Schema.list s).Alike (raw.getD key) (raw'.getD key)) (location : Option String) :
    (∃ found found', items raw key location = .ok found ∧ items raw' key location = .ok found'
      ∧ List.Forall₂ s.Alike found found')
    ∨ ∃ p, items raw key location = .error (.problem p)
      ∧ items raw' key location = .error (.problem p) := by
  unfold items
  obtain ⟨found, found', h₁, h₂, hfound⟩ | ⟨h₁, h₂⟩ := h.list_cases
  · rw [h₁, h₂]
    exact .inl ⟨found, found', rfl, rfl, hfound⟩
  · rw [← h₁]
    cases hvalue : raw.getD key with
    | null => exact .inl ⟨[], [], rfl, rfl, .nil⟩
    | list found =>
      rw [hvalue] at h₂
      contradiction
    | _ => exact .inr ⟨_, rfl, rfl⟩

/-- Parts of one kind are read alike, one by one. -/
lemma named_agree {α : Type} {R : α → α → Prop} {s : Schema}
    {read read' : String → Value → String → Outcome α}
    (h : (Schema.map s).Alike (.object raw) (.object raw'))
    (hread : ∀ name v v' inner, s.Alike v v' → Agrees R (read name v inner) (read' name v' inner))
    (location : String) :
    Agrees (fun found found' => List.Forall₂ R found.1 found'.1 ∧ AlikeProblems found.2 found'.2)
      (named raw location read) (named raw' location read') := by
  refine Agrees.gather (h.entries.imp fun entry entry' hentry => ?_)
  obtain ⟨name, v⟩ := entry
  obtain ⟨name', v'⟩ := entry'
  obtain ⟨rfl, hv⟩ := hentry
  exact (Agrees.refl _).bind fun _ _ _ => hread name v v' _ hv

lemma members_agree {α : Type} {R : α → α → Prop} {s : Schema} {key : String}
    {read read' : String → Value → String → Outcome α}
    (h : (Schema.map s).Alike (raw.getD key) (raw'.getD key))
    (hread : ∀ name v v' inner, s.Alike v v' → Agrees R (read name v inner) (read' name v' inner))
    (location : Option String) :
    Agrees (fun found found' => List.Forall₂ R found.1 found'.1 ∧ AlikeProblems found.2 found'.2)
      (members raw key location read) (members raw' key location read') := by
  unfold members
  obtain ⟨found, found', h₁, h₂, hfound⟩ | ⟨p, h₁, h₂⟩ := fields_alike h trivial location
  · rw [h₁, h₂]
    refine (named_agree hfound hread _).bind fun all all' hall => ?_
    exact ⟨hall.1, (AlikeProblems.refl []).append hall.2⟩
  · rw [h₁, h₂]
    exact ⟨.nil, .refl _⟩

/-! ## Fields and properties -/

lemma aspects_alike (h : Schema.flat.Alike (raw.getD "aspects") (raw'.getD "aspects"))
    (location : Option String) : aspects raw location = aspects raw' location := by
  unfold aspects
  obtain ⟨found, found', h₁, h₂, hfound⟩ | ⟨p, h₁, h₂⟩ := fields_alike h trivial location
  · have hsame := flat_ext hfound
    rw [h₁, h₂]
    simp only [text?_ext hsame, flag_ext hsame, number?_ext hsame, hsame, bind, Except.bind]
  · rw [h₁, h₂]

lemma fieldBase_alike (h : Schema.field.Alike v v') : fieldBase v = fieldBase v' := by
  obtain ⟨raw, raw', rfl, rfl⟩ | ⟨rfl, -⟩ := h.object_cases trivial
  · funext location
    simp only [fieldBase, definition, baseType, (h.part "baseType").eq,
      aspects_alike (h.part "aspects"),
      text?_congr (h.part "description").eq, bind, Except.bind]
  · rfl

lemma field_alike (h : Schema.field.Alike v v') (name : String) : field name v = field name v' := by
  unfold field
  rw [fieldBase_alike h]

lemma localPropertyBinding_agree (h : Schema.flat.Alike v v') (name : String) :
    Agrees Eq (localPropertyBinding name v) (localPropertyBinding name v') := by
  obtain ⟨raw, raw', rfl, rfl⟩ | ⟨rfl, -⟩ := h.object_cases trivial
  · -- the problem with a binding shows it as a whole, so it may be another one
    unfold localPropertyBinding
    dsimp only
    rw [text?_ext (flat_ext h)]
    cases text? raw' "sourceThingName" with
    | none => trivial
    | some thing =>
      cases text? raw' "sourceName" with
      | none => trivial
      | some source => exact Agrees.refl _
  · exact Agrees.refl _

lemma remotePropertyBinding_alike (h : Schema.flat.Alike v v') :
    Option.Rel RemotePropertyBinding.Thins (remotePropertyBinding v)
      (remotePropertyBinding v') := by
  obtain ⟨raw, raw', rfl, rfl⟩ | ⟨rfl, hnone⟩ := h.object_cases trivial
  · exact .some ⟨text?_congr (flat_ext h "sourceName"), h.thinned.filter (· != "sourceName")⟩
  · unfold remotePropertyBinding
    rw [hnone]
    exact .none

variable {remote remote' bound bound' : Value}

lemma property_agree (h : Schema.field.Alike v v') (hremote : Schema.flat.Alike remote remote')
    (hbound : Schema.flat.Alike bound bound') (name location : String) :
    Agrees PropertyDefinition.Thins (property name v remote bound location)
      (property name v' remote' bound' location) := by
  unfold property
  rw [fieldBase_alike h]
  refine (Agrees.refl _).bind fun base base' hbase => ?_
  subst hbase
  refine (localPropertyBinding_agree hbound name).bind fun binding binding' hbinding => ?_
  subst hbinding
  exact (Agrees.refl (Outcome.require .fieldNamed _)).bind fun _ _ _ =>
    ⟨rfl, rfl, remotePropertyBinding_alike hremote⟩

/-! ## Services, events and subscriptions -/

lemma scriptCode?_alike (h : Schema.implementation.Alike (.object raw) (.object raw')) :
    scriptCode? raw = scriptCode? raw' := by
  unfold scriptCode?
  -- the code stands in a row of a table of the tables, so there are three objects and a list to
  -- pass
  have htables := h.part "configurationTables"
  obtain ⟨tables, tables', h₁, h₂⟩ | ⟨h₁, h₂⟩ := htables.object_cases trivial
  · rw [h₁, h₂] at htables ⊢
    have hscript := htables.part scriptHandler
    obtain ⟨script, script', h₁, h₂⟩ | ⟨h₁, h₂⟩ := hscript.object_cases trivial
    · simp only [Value.fields?, Option.bind_eq_bind, Option.bind_some, h₁, h₂]
      rw [h₁, h₂] at hscript
      obtain ⟨rows, rows', h₁, h₂, hrows⟩ | ⟨h₁, h₂⟩ := (hscript.part "rows").list_cases
      · rw [h₁, h₂]
        cases hrows with
        | nil => rfl
        | cons hrow _ =>
          obtain ⟨row, row', rfl, rfl⟩ | ⟨rfl, -⟩ := hrow.object_cases trivial
          · exact congrArg Value.text? (flat_ext hrow "code")
          · rfl
      · rw [h₁]
    · simp only [Value.fields?, Option.bind_eq_bind, Option.bind_some, h₁]
  · rw [h₁]

lemma serviceCode_alike (h : Schema.implementation.Alike v v') (name location : String) :
    serviceCode name v location = serviceCode name v' location := by
  obtain ⟨raw, raw', rfl, rfl⟩ | ⟨rfl, -⟩ := h.object_cases trivial
  · simp only [serviceCode, scriptCode, (h.part "handlerName").eq, scriptCode?_alike h]
  · rfl

lemma resultType_alike (h : Schema.field.Alike (raw.getD "resultType") (raw'.getD "resultType"))
    (location : String) : resultType raw location = resultType raw' location := by
  unfold resultType
  obtain ⟨found, found', h₁, h₂⟩ | ⟨h₁, h₂⟩ := h.object_cases trivial
  · rw [h₁, h₂] at h ⊢
    dsimp only
    rw [fieldBase_alike h]
  · rw [h₁]

lemma remoteServiceBinding_alike (h : Schema.flat.Alike v v') (name : String) :
    remoteServiceBinding name v = remoteServiceBinding name v' := by
  obtain ⟨raw, raw', rfl, rfl⟩ | ⟨rfl, -⟩ := h.object_cases trivial
  · have hsame := flat_ext h
    simp only [remoteServiceBinding, text?_ext hsame, flag_ext hsame, number?_ext hsame]
  · rfl

lemma service_agree (h : Schema.service.Alike v v')
    (hbound : Schema.implementation.Alike bound bound')
    (hremote : Schema.flat.Alike remote remote') (name location place : String) :
    Agrees Eq (service name v bound remote location place)
      (service name v' bound' remote' location place) := by
  unfold service
  rw [serviceCode_alike hbound, remoteServiceBinding_alike hremote]
  obtain ⟨raw, raw', rfl, rfl⟩ | ⟨rfl, -⟩ := h.object_cases trivial
  · have hresult := Agrees.of_eq
      (congrArg Outcome.collected (resultType_alike (h.part "resultType") location))
    -- of the problems with parameters it is known only whether there are any
    have hparameters := (members_agree (h.part "parameterDefinitions") (fun name _ _ inner hv =>
      Agrees.of_eq (congrFun (field_alike hv name) inner)) location).of_forall₂_eq
    have haspects := (fields_agree (h.part "aspects") trivial location).collected
    refine Agrees.ok_bind ((Agrees.refl _).bind fun (code, codeProblems) _ hcode => hcode ▸ ?_)
    refine hresult.bind fun (result, resultProblems) _ hresult => hresult ▸ ?_
    refine hparameters.bind fun (parameters, parameterProblems) (parameters', parameterProblems')
      ⟨hparameters, hproblems⟩ => ?_
    refine haspects.bind
      fun (aspects, aspectProblems) (aspects', aspectProblems') ⟨haspects, _⟩ => ?_
    refine (Agrees.refl _).bind fun (binding, bindingProblems) _ hbinding => hbinding ▸ ?_
    obtain rfl : parameters = parameters' := hparameters
    obtain ⟨rfl, rfl⟩ | ⟨p, problems, q, problems', rfl, rfl⟩ := AlikeProblems.cases hproblems
    · -- without a problem with a parameter, any other part that is missing gives the service up
      dsimp only at haspects ⊢
      rcases code with _ | code
      · trivial
      rcases result with _ | result
      · trivial
      rcases binding with _ | binding
      · rcases haspects with haspects | _ <;> trivial
      rcases haspects with haspects | _
      · dsimp only
        rw [text?_congr (h.part "description").eq, flag_congr (h.part "isAllowOverride").eq,
          flag_congr (h.part "isOverriden").eq, flag_congr (h.part "isOverridden").eq,
          flag_congr (flat_ext haspects "isAsync")]
        exact Agrees.refl _
      · trivial
    · rcases code with _ | code <;> rcases result with _ | result <;>
        rcases binding with _ | binding <;>
        rcases haspects with haspects | _ <;> trivial
  · exact Agrees.refl _

lemma subscription_alike (h : Schema.subscription.Alike v v') (name location : String) :
    subscription name v location = subscription name v' location := by
  obtain ⟨raw, raw', rfl, rfl⟩ | ⟨rfl, -⟩ := h.object_cases trivial
  · have himplementation := h.part "serviceImplementation"
    simp only [subscription, definition, text?_congr (h.part "eventName").eq,
      text?_congr (h.part "description").eq, text?_congr (h.part "source").eq,
      text?_congr (h.part "sourceProperty").eq, flag_congr (h.part "enabled").eq, bind, Except.bind]
    obtain ⟨found, found', h₁, h₂⟩ | ⟨h₁, h₂⟩ := himplementation.object_cases trivial
    · rw [h₁, h₂] at himplementation ⊢
      cases text? raw' "eventName" with
      | none => rfl
      | some event => simp only [scriptCode, scriptCode?_alike himplementation]
    · rw [h₁]
  · rfl

lemma event_alike (h : Schema.flat.Alike v v') (hremote : Schema.flat.Alike remote remote')
    (name location : String) : event name v remote location = event name v' remote' location := by
  have hbinding : remoteEventBinding name remote = remoteEventBinding name remote' := by
    unfold remoteEventBinding
    obtain ⟨raw, raw', rfl, rfl⟩ | ⟨rfl, -⟩ := hremote.object_cases trivial
    · simp only [Value.fields?, Option.map_some, text?_ext (flat_ext hremote)]
    · rfl
  obtain ⟨raw, raw', rfl, rfl⟩ | ⟨rfl, -⟩ := h.object_cases trivial
  · simp only [event, definition, text?_ext (flat_ext h), hbinding, bind, Except.bind]
  · simp only [event, hbinding]

end Document

end EntityCompiler
