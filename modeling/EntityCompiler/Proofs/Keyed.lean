import EntityCompiler.Document.Access
import EntityCompiler.Proofs.Outcome

/-!
# Documents whose keys differ

In a document the keys of every object are different. What is under a key of such a document is such
a document again, and the parts of an object can be told apart by their names: the names of what is
read from them differ, too.
-/

namespace EntityCompiler

/-- A value in which the keys of every object are different. -/
inductive Value.IsKeyed : Value → Prop
  | null : IsKeyed .null
  | bool {b : Bool} : IsKeyed (.bool b)
  | number {n : Number} : IsKeyed (.number n)
  | text {s : String} : IsKeyed (.text s)
  | list {items : List Value} (hitems : ∀ v ∈ items, IsKeyed v) : IsKeyed (.list items)
  | object {entries : List (String × Value)} (hkeys : (entries.map (·.1)).Nodup)
    (hentries : ∀ entry ∈ entries, IsKeyed entry.2) : IsKeyed (.object entries)

namespace Value

@[simp] lemma isKeyed_text (s : String) : (text s).IsKeyed := .text

@[simp] lemma isKeyed_list_iff {items : List Value} :
    (list items).IsKeyed ↔ ∀ v ∈ items, v.IsKeyed := by
  constructor
  · intro h
    cases h with
    | list hitems => exact hitems
  · exact .list

@[simp] lemma isKeyed_object_iff {entries : List (String × Value)} :
    (object entries).IsKeyed
      ↔ (entries.map (·.1)).Nodup ∧ ∀ entry ∈ entries, entry.2.IsKeyed := by
  constructor
  · intro h
    cases h with
    | object hkeys hentries => exact ⟨hkeys, hentries⟩
  · intro h
    exact .object h.1 h.2

end Value

/-- The entries of an object in which all keys are different. -/
structure Fields.IsKeyed (entries : Fields) : Prop where
  keys_nodup : (entries.map (·.1)).Nodup
  values : ∀ entry ∈ entries, entry.2.IsKeyed

namespace Fields

lemma IsKeyed.nil : IsKeyed [] := ⟨List.nodup_nil, fun _ h => absurd h List.not_mem_nil⟩

lemma isKeyed_of_object {entries : Fields} (h : (Value.object entries).IsKeyed) :
    entries.IsKeyed := by
  obtain ⟨hkeys, hentries⟩ := Value.isKeyed_object_iff.mp h
  exact ⟨hkeys, hentries⟩

/-- What stands under a key is there, or `null` stands for it. -/
lemma IsKeyed.getD {entries : Fields} (h : entries.IsKeyed) (key : String) :
    (entries.getD key).IsKeyed := by
  unfold Fields.getD get?
  cases hfound : entries.find? (·.1 == key) with
  | none => exact .null
  | some entry => exact h.values entry (List.mem_of_find?_eq_some hfound)

end Fields

namespace Document

open Outcome (Sound AllWorded)

variable {raw : Fields}

/-! ## Reading a part -/

lemma fields_sound (h : raw.IsKeyed) (key : String) (location : Option String) :
    (fields raw key location).Sound Fields.IsKeyed := by
  have hpart := h.getD key
  unfold fields
  split
  · exact Fields.IsKeyed.nil
  · rename_i entries hentries
    rw [hentries] at hpart
    exact Fields.isKeyed_of_object hpart
  · exact Sound.problem trivial

lemma items_sound (key : String) (location : Option String) :
    (items raw key location).Sound fun _ => True := by
  unfold items
  split
  · trivial
  · trivial
  · exact Sound.problem trivial

lemma number?_sound (key : String) (location : Option String) :
    (number? raw key location).Sound fun _ => True := by
  unfold number?
  split
  · trivial
  · trivial
  · split
    · trivial
    · exact Sound.problem trivial

lemma baseType_sound (location : Option String) : (baseType raw location).Sound fun _ => True := by
  unfold baseType
  dsimp only
  split
  · trivial
  · exact Sound.problem trivial

lemma checkName_sound (name location : String) :
    (checkName name location).Sound fun _ => name ≠ "" := by
  unfold checkName
  split
  · exact Sound.problem trivial
  · rename_i hname
    exact fun h => hname (by rw [h]; rfl)

lemma definition_sound {value : Value} (h : value.IsKeyed) (location : String) :
    (definition value location).Sound Fields.IsKeyed := by
  unfold definition
  split
  · exact Fields.isKeyed_of_object h
  · exact Sound.problem trivial

/-! ## Reading the parts of an object by their names -/

variable {α : Type} {read : String → Value → String → Outcome α} {g : α → String}
  {P : α → Prop}

/-- The names of what is read belong to different parts of the object. -/
lemma named_sound (h : raw.IsKeyed) (location : String)
    (hread : ∀ name part inner, name ≠ "" → part.IsKeyed →
      (read name part inner).Sound fun a => g a = name ∧ P a) :
    (named raw location read).Sound fun (found, problems) =>
      AllWorded problems ∧ (found.map g).Nodup ∧ ∀ a ∈ found, P a := by
  have hparts : ∀ entry ∈ raw, (do
      checkName entry.1 location
      read entry.1 entry.2 (below location [entry.1])).Sound
        fun a => g a = entry.1 ∧ P a := by
    intro entry hentry
    refine (checkName_sound entry.1 location).bind fun _ hname => ?_
    exact hread entry.1 entry.2 _ hname (h.values entry hentry)
  refine (Sound.gather hparts).mono ?_
  intro gathered hgathered
  obtain ⟨found, problems⟩ := gathered
  obtain ⟨hproblems, kept, hkept, hfound⟩ := hgathered
  -- what was read is named by the keys of its parts, and these are some of the keys of the object
  have hnames : found.map g = kept.map (·.1) :=
    Outcome.map_eq_of_forall₂ hfound fun _ _ hread => hread.1
  refine ⟨hproblems, ?_, Outcome.forall_of_forall₂ hfound fun _ _ hread => hread.2⟩
  rw [hnames]
  exact (hkept.map _).nodup h.keys_nodup

lemma members_sound (h : raw.IsKeyed) (key : String) (location : Option String)
    (hread : ∀ name part inner, name ≠ "" → part.IsKeyed →
      (read name part inner).Sound fun a => g a = name ∧ P a) :
    (members raw key location read).Sound fun (found, problems) =>
      AllWorded problems ∧ (found.map g).Nodup ∧ ∀ a ∈ found, P a := by
  unfold members
  refine (fields_sound h key location).collected.bind_pair fun parts problems hread => ?_
  obtain ⟨hproblems, hparts, -⟩ := hread
  have hkeyed : (parts.getD []).IsKeyed := by
    cases parts with
    | none => exact Fields.IsKeyed.nil
    | some parts => exact hparts parts rfl
  refine (named_sound hkeyed (below location [key]) hread).bind_pair fun found others hread => ?_
  obtain ⟨hothers, hfound⟩ := hread
  exact ⟨hproblems.append hothers, hfound⟩

end Document

end EntityCompiler
