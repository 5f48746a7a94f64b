import EntityCompiler.Identifier
import EntityCompiler.Proofs.Outcome
import Mathlib.Data.List.TakeWhile

/-!
# Class names

With a separator that fits, what the name of an entity is turned into is empty or an identifier: all
its characters can stand in an identifier, and the first one can start it. So a class name never
breaks its contract, although it can be empty.
-/

namespace EntityCompiler

lemma Identifier.isPart_of_isStart {c : Char} (h : isStart c = true) : isPart c = true := by
  unfold isPart
  rw [h, Bool.true_or]

namespace ClassName

/-- A text that is empty or an identifier. -/
def IsFit (cs : List Char) : Prop :=
  cs = [] ∨ isIdentifier cs = true

lemma IsFit.all_isPart {cs : List Char} (h : IsFit cs) : cs.all Identifier.isPart = true := by
  rcases h with rfl | h
  · rfl
  · cases cs with
    | nil => rfl
    | cons c cs =>
      rw [isIdentifier, Bool.and_eq_true] at h
      rw [List.all_cons, Identifier.isPart_of_isStart h.1, h.2, Bool.and_self]

/-- Two texts that fit do so one after the other. -/
lemma IsFit.append {first second : List Char} (h : IsFit first) (hsecond : IsFit second) :
    IsFit (first ++ second) := by
  rcases h with rfl | h
  · exact hsecond
  · cases first with
    | nil => contradiction
    | cons c cs =>
      rw [isIdentifier, Bool.and_eq_true] at h
      right
      rw [List.cons_append, isIdentifier, h.1, List.all_append, h.2, hsecond.all_isPart]
      rfl

variable {separator : List Char}

lemma all_isPart_fill (h : separator.all Identifier.isPart = true) (inRun : Bool)
    (cs : List Char) : (fill separator inRun cs).all Identifier.isPart = true := by
  induction cs generalizing inRun with
  | nil => rfl
  | cons c cs ih =>
    rw [fill]
    -- a character is kept if it can be part of an identifier; of a run of others, only the first
    -- one leaves a separator
    split
    · rename_i hc
      rw [List.all_cons, hc, ih, Bool.and_self]
    · split
      · exact ih true
      · rw [List.all_append, h, ih, Bool.and_self]

/-- What starts with a character that can start an identifier is an identifier once it is filled. -/
lemma isFit_fill (h : separator.all Identifier.isPart = true) {cs : List Char}
    (hstart : ∀ c ∈ cs.head?, Identifier.isStart c = true) : IsFit (fill separator false cs) := by
  cases cs with
  | nil => exact .inl rfl
  | cons c cs =>
    have hc := hstart c rfl
    right
    rw [fill, if_pos (Identifier.isPart_of_isStart hc), isIdentifier, hc,
      all_isPart_fill h false cs, Bool.and_self]

/-- What is kept of a name starts with a character that can start an identifier. -/
lemma head_dropWhile_isStart (name : List Char) :
    ∀ c ∈ (name.dropWhile (!Identifier.isStart ·)).head?, Identifier.isStart c = true := by
  intro c hc
  have hdropped := List.head?_dropWhile_not (!Identifier.isStart ·) name
  rw [Option.mem_def.mp hc] at hdropped
  simpa using hdropped

lemma isFit_ofName (h : IsFit separator) (name : List Char) : IsFit (ofName separator name) := by
  have hfilled := isFit_fill h.all_isPart (head_dropWhile_isStart name)
  unfold ofName
  dsimp only
  split
  · exact h.append hfilled
  · exact hfilled

lemma fill_eq_nil_iff {cs : List Char} (hstart : ∀ c ∈ cs.head?, Identifier.isStart c = true) :
    fill separator false cs = [] ↔ cs = [] := by
  cases cs with
  | nil => simp [fill]
  | cons c cs =>
    rw [fill, if_pos (Identifier.isPart_of_isStart (hstart c rfl))]
    exact ⟨fun h => absurd h (List.cons_ne_nil _ _), fun h => absurd h (List.cons_ne_nil _ _)⟩

/-- Nothing is left of a name exactly if it has nothing that could start an identifier, and the
separator puts nothing in its place. -/
lemma ofName_eq_nil_iff {name : List Char} (hname : name ≠ []) :
    ofName separator name = [] ↔ separator = [] ∧ ∀ c ∈ name, Identifier.isStart c = false := by
  have hkept : name.dropWhile (!Identifier.isStart ·) = []
      ↔ ∀ c ∈ name, Identifier.isStart c = false := by
    simp [List.dropWhile_eq_nil_iff]
  have hfilled : fill separator false (name.dropWhile (!Identifier.isStart ·)) = []
      ↔ name.dropWhile (!Identifier.isStart ·) = [] := fill_eq_nil_iff (head_dropWhile_isStart name)
  unfold ofName
  dsimp only
  split
  · rw [List.append_eq_nil_iff, hfilled, hkept]
  · -- the name starts like an identifier
    rename_i hall
    rw [hfilled, hkept]
    refine ⟨fun hnone => ?_, fun h => h.2⟩
    rw [hkept.mpr hnone] at hall
    exact absurd (List.length_pos_iff.mpr hname) hall

end ClassName

lemma Separator.isFit {separator : Separator} (h : separator.Fits = true) :
    ClassName.IsFit separator.text.toList := by
  rw [Fits, Bool.or_eq_true] at h
  rcases h with h | h
  · exact .inl (by simpa using h)
  · exact .inr h

open Outcome (Sound)

/-- A class name is there for every entity, if the separator fits. -/
lemma className_sound {separator : Separator} (h : separator.Fits = true) (name : String) :
    (className separator name).Sound fun identifier => ClassName.IsFit identifier.toList := by
  have hfit := ClassName.isFit_ofName (Separator.isFit h) name.toList
  refine Sound.require_bind ?_ ?_
  · rcases hfit with hempty | hidentifier
    · rw [hempty]
      rfl
    · rw [hidentifier, Bool.or_true]
  · rw [← String.toList_ofList (l := ClassName.ofName separator.text.toList name.toList)] at hfit
    exact hfit

end EntityCompiler
