import EntityCompiler.Declaration.Permission
import EntityCompiler.Proofs.LawfulEntity
import EntityCompiler.Proofs.Scanned

/-!
# Reading visibility permissions

Who can see an entity survives the way from the document to the decorator. A list of visibility
permissions is read exactly if each of its items states an organization or a unit of one, and the
decorator names them all, one by one: the type and the whole name of each can be read off its
argument (`Document.visibilityPermissions_readable`). The name of a unit is taken apart at its first
colon and put together again there, however many colons follow.
-/

namespace EntityCompiler

/-! ## Splitting a text at a character -/

namespace Text

variable {c : Char} {cs before after : List Char}

lemma splitAt?_append_cons (h : c ∉ before) (after : List Char) :
    splitAt? [c] (before ++ c :: after) = some (before, after) := by
  induction before with
  | nil => simp [splitAt?]
  | cons d before ih =>
    rw [List.mem_cons, not_or] at h
    rw [List.cons_append, splitAt?, if_neg (by simpa using h.1), ih h.2]
    rfl

/-- The first part of a text that is split at a character is free of it. -/
lemma not_mem_of_splitAt? (h : splitAt? [c] cs = some (before, after)) : c ∉ before := by
  induction cs generalizing before after with
  | nil => simp [splitAt?] at h
  | cons d cs ih =>
    rw [splitAt?] at h
    split at h
    next =>
      obtain ⟨rfl, -⟩ := Prod.mk.inj (Option.some.inj h)
      exact List.not_mem_nil
    next hd =>
      obtain ⟨⟨inner, behind⟩, hinner, h⟩ := Option.map_eq_some_iff.mp h
      obtain ⟨rfl, -⟩ := Prod.mk.inj h
      have hne : c ≠ d := by simpa using hd
      rw [List.mem_cons, not_or]
      exact ⟨hne, ih hinner⟩

lemma splitAt?_singleton :
    splitAt? [c] cs = some (before, after) ↔ c ∉ before ∧ cs = before ++ c :: after := by
  constructor
  · intro h
    have hsplits := splitAt?_splits h
    rw [List.append_assoc, List.singleton_append] at hsplits
    exact ⟨not_mem_of_splitAt? h, hsplits.symm⟩
  · rintro ⟨hbefore, rfl⟩
    exact splitAt?_append_cons hbefore after

end Text

/-! ## Reading an argument -/

/-- The principal that an argument of a decorator refers to: its type, and its whole name. -/
def Expression.principal? : Expression → Option (VisibilityType × String)
  | access (name "Organizations") organization => some (.organization, organization)
  | call (name "Unit") [access (name "Organizations") organization, string unit] =>
    some (.organizationalUnit, organization ++ ":" ++ unit)
  | _ => none

lemma Value.fields?_eq_some {v : Value} {entries : Fields} :
    v.fields? = some entries ↔ v = .object entries := by
  cases v <;> simp [fields?]

lemma Value.text?_eq_some {v : Value} {s : String} : v.text? = some s ↔ v = .text s := by
  cases v <;> simp [text?]

/-- A principal is left as it is when it is checked. -/
lemma VisibilityPrincipal.checked_eq_ok {principal found : VisibilityPrincipal}
    (h : principal.checked = .ok found) : principal = found := by
  obtain ⟨-, -, h⟩ := Outcome.bind_eq_ok.mp h
  exact Outcome.pure_eq_ok.mp h

namespace Document

/-! ## What an item states -/

/-- A name with a colon, and something in front of the first colon and behind it. -/
def NamesUnit (name : String) : Prop :=
  ∃ organization unit, organization ≠ [] ∧ unit ≠ [] ∧ ':' ∉ organization
    ∧ name.toList = organization ++ ':' :: unit

/-- The item states a principal: an object with a type and a name that is not empty, and that names
a unit if the type is that of one. -/
structure StatesPrincipal (item : Value) (type : VisibilityType) (name : String) : Prop where
  stated : ∃ entries : Fields, item = .object entries ∧ entries.getD "type" = .text type.label
    ∧ entries.getD "name" ≠ .null ∧ (entries.getD "name").plain = name
  named : name ≠ ""
  names_unit : type = .organizationalUnit → NamesUnit name

lemma text?_eq_some_iff {raw : Fields} {key name : String} : text? raw key = some name
    ↔ (raw.getD key ≠ .null ∧ (raw.getD key).plain = name) ∧ name ≠ "" := by
  constructor
  · intro h
    refine ⟨?_, text?_ne_empty h⟩
    unfold text? at h
    split at h
    next => contradiction
    next hthere =>
      split at h
      next => contradiction
      next => exact ⟨hthere, Option.some.inj h⟩
  · rintro ⟨⟨hthere, rfl⟩, hne⟩
    unfold text?
    split
    next hnull => exact absurd hnull hthere
    next => exact if_neg (by simpa using hne)

/-- A type of visibility is stated by its label. -/
lemma bind_ofLabel?_eq_some_iff {v : Value} {type : VisibilityType} :
    v.text?.bind VisibilityType.ofLabel? = some type ↔ v = .text type.label := by
  constructor
  · intro h
    obtain ⟨label, hv, hlabel⟩ := Option.bind_eq_some_iff.mp h
    unfold VisibilityType.ofLabel? at hlabel
    have hfound := List.find?_some hlabel
    rw [Value.text?_eq_some.mp hv, eq_of_beq hfound]
  · rintro rfl
    cases type <;> rfl

/-- A name that falls into an organization and a unit is made of the two, with a colon between them.
-/
lemma unitOf?_eq_some {name organization unit : String}
    (h : unitOf? name = some (organization, unit)) :
    NamesUnit name ∧ organization ++ ":" ++ unit = name := by
  obtain ⟨⟨before, after⟩, hsplit, h⟩ := Option.bind_eq_some_iff.mp h
  obtain ⟨hbefore, hname⟩ := Text.splitAt?_singleton.mp hsplit
  dsimp only at h
  split at h
  next => contradiction
  next hfull =>
    obtain ⟨rfl, rfl⟩ := Prod.mk.inj (Option.some.inj h)
    rw [Bool.or_eq_true, List.isEmpty_iff, List.isEmpty_iff, not_or] at hfull
    refine ⟨⟨before, after, hfull.1, hfull.2, hbefore, hname⟩, ?_⟩
    rw [← String.toList_inj, hname]
    simp

lemma NamesUnit.exists_unitOf? {name : String} (h : NamesUnit name) :
    ∃ organization unit, unitOf? name = some (organization, unit) := by
  obtain ⟨organization, unit, horganization, hunit, hcolon, hname⟩ := h
  refine ⟨String.ofList organization, String.ofList unit, ?_⟩
  unfold unitOf?
  rw [hname, Text.splitAt?_append_cons hcolon]
  simp [horganization, hunit]

/-! ## Reading an item -/

/-- From an item that is read, the principal that it states can be found again in the reference. -/
lemma visibilityPrincipal_eq_ok {item : Value} {location : String} {principal : VisibilityPrincipal}
    (h : visibilityPrincipal item location = .ok principal) :
    ∃ type name, StatesPrincipal item type name
      ∧ principal.reference.principal? = some (type, name) := by
  unfold visibilityPrincipal at h
  split at h
  next => contradiction
  next entries hentries =>
    obtain rfl := Value.fields?_eq_some.mp hentries
    dsimp only at h
    -- an item that is read has a name and a type, and the name is that of a unit if the type asks
    -- for one
    split at h
    next => contradiction
    next name hname htype =>
      obtain ⟨hstated, hnamed⟩ := text?_eq_some_iff.mp hname
      have hlabel := bind_ofLabel?_eq_some_iff.mp htype
      rw [← VisibilityPrincipal.checked_eq_ok h]
      exact ⟨.organization, name, ⟨⟨entries, rfl, hlabel, hstated⟩, hnamed, nofun⟩, rfl⟩
    next name hname htype =>
      obtain ⟨hstated, hnamed⟩ := text?_eq_some_iff.mp hname
      have hlabel := bind_ofLabel?_eq_some_iff.mp htype
      split at h
      next organization unit hunit =>
        obtain ⟨hnames, rfl⟩ := unitOf?_eq_some hunit
        rw [← VisibilityPrincipal.checked_eq_ok h]
        exact ⟨.organizationalUnit, _, ⟨⟨entries, rfl, hlabel, hstated⟩, hnamed, fun _ => hnames⟩,
          rfl⟩
      next => contradiction
    next => contradiction

lemma StatesPrincipal.exists_ok {item : Value} {type : VisibilityType} {name : String}
    (h : StatesPrincipal item type name) (location : String) :
    ∃ principal, visibilityPrincipal item location = .ok principal := by
  obtain ⟨entries, rfl, htype, hname⟩ := h.stated
  have htext : text? entries "name" = some name := text?_eq_some_iff.mpr ⟨hname, h.named⟩
  have hlabel := bind_ofLabel?_eq_some_iff.mpr htype
  unfold visibilityPrincipal
  dsimp only [Value.fields?]
  rw [htext, hlabel]
  cases type with
  | organization => exact ⟨_, rfl⟩
  | organizationalUnit =>
    obtain ⟨organization, unit, hunit⟩ := (h.names_unit rfl).exists_unitOf?
    dsimp only
    rw [hunit]
    exact ⟨_, rfl⟩

/-! ## Reading a list -/

lemma visibilityPermissions_eq_ok_iff {raw container : Fields} {key : String} {items : List Value}
    (hcontainer : raw.getD key = .object container)
    (hitems : container.getD "Visibility" = .list items) {principals : List VisibilityPrincipal} :
    visibilityPermissions raw key = .ok principals
      ↔ List.Forall₂ (fun item principal =>
        visibilityPrincipal item.1 (below key ["Visibility", toString item.2]) = .ok principal)
        items.zipIdx principals := by
  have hread : visibilityPermissions raw key = Outcome.gather (fun item =>
      visibilityPrincipal item.1 (below key ["Visibility", toString item.2])) items.zipIdx
      >>= fun found => if found.2.isEmpty then pure found.1
        else .error (.problem (.dueTo key .visibility found.2)) := by
    unfold visibilityPermissions fields Document.items
    rw [hcontainer]
    dsimp only [bind, Except.bind]
    rw [hitems]
  rw [← Outcome.gather_eq_ok_nil, hread, Outcome.bind_eq_ok]
  constructor
  · rintro ⟨⟨found, problems⟩, hfound, h⟩
    dsimp only at h
    split at h
    next hempty => rw [hfound, List.isEmpty_iff.mp hempty, Outcome.pure_eq_ok.mp h]
    next => contradiction
  · intro h
    exact ⟨_, h, rfl⟩

/-- Each item of a list that is read states a principal, which can be found again in the reference.
-/
lemma forall₂_statesPrincipal {items : List Value} {principals : List VisibilityPrincipal}
    {place : Value × Nat → String}
    (h : List.Forall₂
      (fun item principal => visibilityPrincipal item.1 (place item) = .ok principal)
      items.zipIdx principals) :
    List.Forall₂ (fun item principal => ∃ type name, StatesPrincipal item type name
      ∧ principal.reference.principal? = some (type, name)) items principals := by
  have hstated := h.imp fun _ _ => visibilityPrincipal_eq_ok
  rwa [← List.zipIdx_map_fst 0 items, List.forall₂_map_left_iff]

/-- A list of visibility permissions is read exactly if every item of it states a principal: an
organization by a name that is not empty, or a unit by a name with a colon and something on either
side of the first one. The decorator for those that are read has one argument for each item, in
their order, from which the type and the whole name that the item states can be read back. -/
theorem visibilityPermissions_readable {raw container : Fields} {key : String} {items : List Value}
    (hcontainer : raw.getD key = .object container)
    (hitems : container.getD "Visibility" = .list items) :
    ((∃ principals, visibilityPermissions raw key = .ok principals)
        ↔ ∀ item ∈ items, ∃ type name, StatesPrincipal item type name)
      ∧ ∀ principals, visibilityPermissions raw key = .ok principals → ∀ forInstances,
        List.Forall₂ (fun item argument => ∃ type name, StatesPrincipal item type name
          ∧ argument.principal? = some (type, name))
          items (VisibilityPrincipal.decorator principals forInstances).arguments := by
  have hiff (principals : List VisibilityPrincipal) :=
    @visibilityPermissions_eq_ok_iff _ _ _ _ hcontainer hitems principals
  refine ⟨⟨?_, ?_⟩, ?_⟩
  · rintro ⟨principals, h⟩
    have hstated := (forall₂_statesPrincipal ((hiff principals).mp h)).flip
    refine Outcome.forall_of_forall₂ hstated fun _ item hitem => ?_
    obtain ⟨type, name, hitem, -⟩ := hitem
    exact ⟨type, name, hitem⟩
  · intro h
    have hread : ∀ item ∈ items.zipIdx, ∃ principal,
        visibilityPrincipal item.1 (below key ["Visibility", toString item.2]) = .ok principal := by
      intro item hitem
      obtain ⟨type, name, hstated⟩ := h item.1 (List.fst_mem_of_mem_zipIdx hitem)
      exact hstated.exists_ok _
    obtain ⟨principals, hprincipals⟩ := Outcome.exists_forall₂ hread
    exact ⟨principals, (hiff principals).mpr hprincipals⟩
  · intro principals h forInstances
    rw [VisibilityPrincipal.decorator, Decorator.arguments_ofName, List.forall₂_map_right_iff]
    exact forall₂_statesPrincipal ((hiff principals).mp h)

/-- An organization, and a unit of it whose own name has a colon in it. -/
def plantVisibility : List Value :=
  [.object [("name", .text "ACME"), ("type", .text "Organization")],
    .object [("name", .text "ACME:Plant:North"), ("type", .text "OrganizationalUnit")]]

/-- The unit is found again by its whole name, since only its first colon parts it from its
organization. -/
theorem plantVisibility_readable :
    let raw : Fields := [("visibilityPermissions", .object [("Visibility", .list plantVisibility)])]
    raw.getD "visibilityPermissions" = .object [("Visibility", .list plantVisibility)]
      ∧ Fields.getD [("Visibility", .list plantVisibility)] "Visibility" = .list plantVisibility
      ∧ ((∃ principals, visibilityPermissions raw "visibilityPermissions" = .ok principals)
        ↔ ∀ item ∈ plantVisibility, ∃ type name, StatesPrincipal item type name)
      ∧ ∃ principals, visibilityPermissions raw "visibilityPermissions" = .ok principals
        ∧ (VisibilityPrincipal.decorator principals true).arguments.map Expression.principal?
          = [some (.organization, "ACME"), some (.organizationalUnit, "ACME:Plant:North")]
        ∧ List.Forall₂ (fun item argument => ∃ type name, StatesPrincipal item type name
          ∧ argument.principal? = some (type, name))
          plantVisibility (VisibilityPrincipal.decorator principals true).arguments := by
  intro raw
  have hread := @visibilityPermissions_readable raw _ "visibilityPermissions"
    plantVisibility rfl rfl
  exact ⟨rfl, rfl, hread.1, _, rfl, rfl, hread.2 _ rfl true⟩

end Document

end EntityCompiler
