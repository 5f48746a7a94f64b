import EntityCompiler.Document.Behavior
import EntityCompiler.Entity.Permission
import EntityCompiler.Proofs.Agreement
import EntityCompiler.Proofs.Keyed

/-!
# Documents with less in them

A schema says how a part of a document is read: as it is, as an object with fixed keys, as an object
that has parts of one kind under names of their own, or as a list. `Schema.Thins` relates a document
to one in which `null` entries of objects with fixed keys are left out, at any depth. Nothing else
may differ: a `null` under a name of its own or in a list stays where it is.

`Schema.Alike` adds that the keys of every object are different. Then both documents have like parts
under every key (`Schema.Alike.part`), and what is read of them by a key is alike.
-/

namespace EntityCompiler

/-- The entries of an object and those of another one, which leaves some `null` entries out and has
related values otherwise. -/
inductive Fields.Thinned (R : String → Value → Value → Prop) : Fields → Fields → Prop
  | nil : Thinned R [] []
  | keep {key : String} {value value' : Value} {raw raw' : Fields} (hvalue : R key value value')
    (hrest : Thinned R raw raw') : Thinned R ((key, value) :: raw) ((key, value') :: raw')
  | drop {key : String} {raw raw' : Fields} (hrest : Thinned R raw raw') :
    Thinned R ((key, .null) :: raw) raw'

/-- How a part of a document is read. -/
inductive Schema where
  /-- As it is. -/
  | verbatim
  /-- As an object, by fixed keys. -/
  | record (parts : String → Schema)
  /-- As an object with parts of one kind, under names of their own. -/
  | map (part : Schema)
  /-- As a list of items of one kind. -/
  | list (item : Schema)

namespace Schema

/-- The second value is the first one, with some `null` entries of objects that are read by fixed
keys left out. -/
def Thins : Schema → Value → Value → Prop
  | verbatim => Eq
  | record parts => fun v v' => match v, v' with
    | .object raw, .object raw' => Fields.Thinned (fun key => (parts key).Thins) raw raw'
    | v, v' => v = v'
  | map part => fun v v' => match v, v' with
    | .object raw, .object raw' =>
      List.Forall₂ (fun entry entry' => entry.1 = entry'.1 ∧ part.Thins entry.2 entry'.2) raw raw'
    | v, v' => v = v'
  | list item => fun v v' => match v, v' with
    | .list items, .list items' => List.Forall₂ item.Thins items items'
    | v, v' => v = v'

/-- Is a part read as an object? -/
def IsObject : Schema → Prop
  | record _ => True
  | map _ => True
  | _ => False

/-! ## The schema of documents -/

/-- An object with the given parts, and others that are read as they are. -/
def ofParts (parts : List (String × Schema)) : Schema :=
  record fun key => ((parts.find? (·.1 == key)).map (·.2)).getD verbatim

/-- An object whose parts are read as they are. -/
def flat : Schema := ofParts []

/-- A property, a parameter, a field of a data shape or a result type. -/
def field : Schema := ofParts [("aspects", flat)]

/-- An implementation, with its code in a row of the table of a script. -/
def implementation : Schema :=
  ofParts [("configurationTables",
    ofParts [(Document.scriptHandler, ofParts [("rows", list flat)])])]

/-- The definition of a service. -/
def service : Schema :=
  ofParts [("resultType", field), ("parameterDefinitions", map field), ("aspects", flat)]

/-- The definition of a subscription. -/
def subscription : Schema := ofParts [("serviceImplementation", implementation)]

/-- The parts in which members are defined. -/
def memberParts : List (String × Schema) :=
  [("propertyDefinitions", map field), ("serviceDefinitions", map service),
    ("serviceImplementations", map implementation), ("eventDefinitions", map flat),
    ("subscriptions", map subscription)]

/-- The permissions on a resource. -/
def permission : Schema := ofParts (PermissionKind.all.map fun kind => (kind.label, list flat))

/-- A list of permissions. -/
def runtimePermissions : Schema := ofParts [("permissions", list permission)]

/-- A list of principals. -/
def visibilityPermissions : Schema := ofParts [("Visibility", list flat)]

/-- The document of an entity. -/
def document : Schema :=
  ofParts
    (memberParts ++ [("thingShape", ofParts memberParts), ("aspects", flat), ("tags", list flat),
    ("remotePropertyBindings", map flat), ("propertyBindings", map flat),
    ("remoteServiceBindings", map flat), ("remoteEventBindings", map flat),
    ("configurationTableDefinitions", map flat), ("configurationTables", map flat),
    ("visibilityPermissions", visibilityPermissions),
    ("instanceVisibilityPermissions", visibilityPermissions),
    ("runTimePermissions", runtimePermissions), ("instanceRunTimePermissions", runtimePermissions),
    ("fieldDefinitions", map field)])

end Schema

/-! ## Objects with less in them -/

namespace Fields.Thinned

variable {R : String → Value → Value → Prop} {raw raw' : Fields}

lemma refl (hR : ∀ key v, R key v v) (raw : Fields) : Thinned R raw raw := by
  induction raw with
  | nil => exact .nil
  | cons entry raw ih => exact .keep (hR entry.1 entry.2) ih

lemma nulls (h : Thinned R raw raw') (keys : List String) :
    Thinned R (keys.map (·, .null) ++ raw) raw' := by
  induction keys with
  | nil => exact h
  | cons key keys ih => exact .drop ih

lemma mono {S : String → Value → Value → Prop} (h : Thinned R raw raw')
    (hRS : ∀ key v v', R key v v' → S key v v') : Thinned S raw raw' := by
  induction h with
  | nil => exact .nil
  | keep hvalue _ ih => exact .keep (hRS _ _ _ hvalue) ih
  | drop _ ih => exact .drop ih

lemma keys_subset (h : Thinned R raw raw') {key : String} (hkey : key ∈ raw'.map (·.1)) :
    key ∈ raw.map (·.1) := by
  induction h with
  | nil => exact hkey
  | keep _ _ ih =>
    rcases List.mem_cons.mp hkey with rfl | hkey
    · exact List.mem_cons_self
    · exact List.mem_cons_of_mem _ (ih hkey)
  | drop _ ih => exact List.mem_cons_of_mem _ (ih hkey)

/-- A key that is left out stood for `null`, and no other entry has it. -/
lemma getD (h : Thinned R raw raw') (hkeys : (raw.map (·.1)).Nodup) {key : String}
    (hnull : R key .null .null) : R key (raw.getD key) (raw'.getD key) := by
  unfold Fields.getD get?
  induction h with
  | nil => exact hnull
  | @keep name value value' raw raw' hvalue _ ih =>
    rw [List.find?_cons, List.find?_cons]
    by_cases h : name = key
    · subst h
      simpa using hvalue
    · rw [beq_false_of_ne h]
      exact ih (List.nodup_cons.mp hkeys).2
  | @drop name raw raw' hrest ih =>
    rw [List.map_cons, List.nodup_cons] at hkeys
    rw [List.find?_cons]
    by_cases h : name = key
    · subst h
      -- the first object has the name just once, for the dropped entry, so the second one lacks it
      have habsent : raw'.find? (·.1 == name) = none := by
        rw [List.find?_eq_none]
        intro entry hentry hname
        have hkey := hrest.keys_subset (List.mem_map.mpr ⟨entry, hentry, rfl⟩)
        rw [eq_of_beq hname] at hkey
        exact hkeys.1 hkey
      rw [habsent]
      simpa using hnull
    · rw [beq_false_of_ne h]
      exact ih hkeys.2

lemma filter (h : Thinned R raw raw') (keep : String → Bool) :
    Thinned R (raw.filter (keep ·.1)) (raw'.filter (keep ·.1)) := by
  induction h with
  | nil => exact .nil
  | @keep key _ _ _ _ hvalue _ ih =>
    by_cases h : keep key = true
    · simpa [h] using Thinned.keep hvalue ih
    · simpa [h] using ih
  | @drop key _ _ _ ih =>
    by_cases h : keep key = true
    · simpa [h] using Thinned.drop ih
    · simpa [h] using ih

end Fields.Thinned

namespace Schema

section Unfolding

variable {parts : String → Schema} {part item : Schema} {raw raw' : Fields}
    {items items' : List Value}

lemma thins_record_iff : (record parts).Thins (.object raw) (.object raw')
    ↔ Fields.Thinned (fun key => (parts key).Thins) raw raw' := by
  rw [Thins]

lemma thins_map_iff : (map part).Thins (.object raw) (.object raw')
    ↔ List.Forall₂ (fun entry entry' => entry.1 = entry'.1 ∧ part.Thins entry.2 entry'.2)
      raw raw' := by
  rw [Thins]

lemma thins_list_iff :
    (list item).Thins (.list items) (.list items') ↔ List.Forall₂ item.Thins items items' := by
  rw [Thins]

end Unfolding

/-- Nothing has to be left out. -/
lemma thins_refl (s : Schema) (v : Value) : s.Thins v v := by
  induction s generalizing v with
  | verbatim => rw [Thins]
  | record parts ih =>
    cases v with
    | object raw => exact thins_record_iff.mpr (.refl ih raw)
    | _ => rw [Thins]
  | map part ih =>
    cases v with
    | object raw => exact thins_map_iff.mpr (List.forall₂_same.mpr fun entry _ => ⟨rfl, ih entry.2⟩)
    | _ => rw [Thins]
  | list item ih =>
    cases v with
    | list items => exact thins_list_iff.mpr (List.forall₂_same.mpr fun v _ => ih v)
    | _ => rw [Thins]

/-- A value in which the keys of every object are different, and one with less in it. -/
structure Alike (s : Schema) (v v' : Value) : Prop where
  keyed : v.IsKeyed
  thins : s.Thins v v'

namespace Alike

variable {s : Schema} {v v' : Value} {raw raw' : Fields}

lemma eq (h : verbatim.Alike v v') : v = v' := by
  have hthins := h.thins
  rwa [Thins] at hthins

/-- Two like objects have like parts under every key. -/
lemma part {parts : String → Schema} (h : (record parts).Alike (.object raw) (.object raw'))
    (key : String) : (parts key).Alike (raw.getD key) (raw'.getD key) := by
  have hkeyed := Fields.isKeyed_of_object h.keyed
  exact ⟨hkeyed.getD key, (thins_record_iff.mp h.thins).getD hkeyed.keys_nodup (thins_refl _ _)⟩

/-- Of two like objects whose parts are read as they are, one leaves `null` entries of the other
out. -/
lemma thinned (h : flat.Alike (.object raw) (.object raw')) :
    Fields.Thinned (fun _ => Eq) raw raw' :=
  (thins_record_iff.mp h.thins).mono fun key v v' hv => by
    have hverbatim : verbatim.Thins v v' := hv
    rwa [Thins] at hverbatim

/-- What is read as an object is one in both cases, or is the same. -/
lemma object_cases (h : s.Alike v v') (hs : s.IsObject) :
    (∃ raw raw', v = .object raw ∧ v' = .object raw') ∨ (v = v' ∧ v.fields? = none) := by
  have heq :
      v = v' → (∃ raw raw', v = .object raw ∧ v' = .object raw') ∨ (v = v' ∧ v.fields? = none) := by
    rintro rfl
    cases v with
    | object raw => exact .inl ⟨raw, raw, rfl, rfl⟩
    | _ => exact .inr ⟨rfl, rfl⟩
  -- unless both values are objects, the schema asks for equal ones
  have hthins := h.thins
  cases s with
  | verbatim => contradiction
  | list item => contradiction
  | record parts =>
    rw [Thins] at hthins
    split at hthins
    · exact .inl ⟨_, _, rfl, rfl⟩
    · exact heq hthins
  | map part =>
    rw [Thins] at hthins
    split at hthins
    · exact .inl ⟨_, _, rfl, rfl⟩
    · exact heq hthins

/-- What is read as a list is one in both cases, or is the same. -/
lemma list_cases {s : Schema} (h : (list s).Alike v v') :
    (∃ items items', v = .list items ∧ v' = .list items' ∧ List.Forall₂ s.Alike items items')
    ∨ (v = v' ∧ v.items? = none) := by
  have hitems : ∀ {items items'}, (list s).Alike (.list items) (.list items') →
      List.Forall₂ s.Alike items items' := by
    intro items items' h
    have hkeyed := Value.isKeyed_list_iff.mp h.keyed
    have hthins := thins_list_iff.mp h.thins
    -- the induction is on the items, with their keys as its hypothesis
    clear h
    induction hthins with
    | nil => exact .nil
    | cons hitem _ ih =>
      refine .cons ⟨hkeyed _ List.mem_cons_self, hitem⟩ (ih fun v h => ?_)
      exact hkeyed v (List.mem_cons_of_mem _ h)
  have hthins := h.thins
  rw [Thins] at hthins
  split at hthins
  · rename_i items items'
    exact .inl ⟨items, items', rfl, rfl, hitems h⟩
  · subst hthins
    cases v with
    | list items => exact .inl ⟨items, items, rfl, rfl, hitems h⟩
    | _ => exact .inr ⟨rfl, rfl⟩

/-- Two like objects that have parts of one kind have like parts under the same names. -/
lemma entries {s : Schema} (h : (map s).Alike (.object raw) (.object raw')) :
    List.Forall₂ (fun entry entry' => entry.1 = entry'.1 ∧ s.Alike entry.2 entry'.2) raw raw' := by
  have hkeyed := (Fields.isKeyed_of_object h.keyed).values
  have hthins := thins_map_iff.mp h.thins
  clear h
  induction hthins with
  | nil => exact .nil
  | cons hentry _ ih =>
    refine .cons ⟨hentry.1, hkeyed _ List.mem_cons_self, hentry.2⟩ (ih fun entry h => ?_)
    exact hkeyed entry (List.mem_cons_of_mem _ h)

/-- What is looked up by a name of its own is alike, too. -/
lemma entry {s : Schema} (h : (map s).Alike (.object raw) (.object raw')) (name : String) :
    s.Alike (raw.getD name) (raw'.getD name) := by
  have hentries := h.entries
  clear h
  unfold Fields.getD Fields.get?
  induction hentries with
  | nil => exact ⟨.null, s.thins_refl _⟩
  | @cons found found' raw raw' hfound _ ih =>
    rw [List.find?_cons, List.find?_cons, ← hfound.1]
    by_cases h : found.1 = name
    · subst h
      simpa using hfound.2
    · rw [beq_false_of_ne h]
      exact ih

end Alike

end Schema

end EntityCompiler
