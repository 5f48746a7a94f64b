import EntityCompiler.Text.Basic
import Mathlib.Data.List.Infix
import Mathlib.Tactic.Lemma

/-!
# Places in a text

A place counts the bytes in front of it, a text is a list of characters. `Text.IsBetween` says which
text stands between two places; such a text is cut out as it is (`Text.slice?_of_isBetween`), and
two texts of which one ends where the other one starts are one text (`Text.IsBetween.append`).
-/

namespace EntityCompiler.Text

@[simp]
lemma size_nil : size [] = 0 := rfl

@[simp]
lemma size_cons (c : Char) (cs : List Char) : size (c :: cs) = c.utf8Size + size cs := rfl

@[simp]
lemma size_append (cs others : List Char) : size (cs ++ others) = size cs + size others := by
  induction cs with
  | nil => rw [List.nil_append, size_nil, Nat.zero_add]
  | cons c cs ih => rw [List.cons_append, size_cons, size_cons, ih, Nat.add_assoc]

@[simp]
lemma size_eq_zero_iff {cs : List Char} : size cs = 0 ↔ cs = [] := by
  cases cs with
  | nil => simp
  | cons c cs =>
    have hpos := c.utf8Size_pos
    simp only [size_cons, reduceCtorEq, iff_false]
    omega

lemma length_le_size (cs : List Char) : cs.length ≤ size cs := by
  induction cs with
  | nil => rfl
  | cons c cs ih =>
    have hpos := c.utf8Size_pos
    rw [List.length_cons, size_cons]
    omega

/-- Two starts of a text that are equally wide are the same. -/
lemma eq_of_size_eq {cs before other : List Char} (hbefore : before <+: cs) (hother : other <+: cs)
    (hsize : size before = size other) : before = other := by
  rcases List.prefix_or_prefix_of_prefix hbefore hother with ⟨more, rfl⟩ | ⟨more, rfl⟩
  all_goals
    rw [size_append] at hsize
    have hmore : more = [] := size_eq_zero_iff.mp (by omega)
    rw [hmore, List.append_nil]

/-! ## Splitting a text at a place -/

lemma splitAtPlace?_append (before behind : List Char) :
    splitAtPlace? (size before) (before ++ behind) = some (before, behind) := by
  induction before with
  | nil => cases behind <;> simp [splitAtPlace?]
  | cons c before ih =>
    have hpos := c.utf8Size_pos
    rw [List.cons_append, splitAtPlace?, size_cons, if_neg (by omega), if_pos (by omega),
      Nat.add_sub_cancel_left, ih]
    rfl

/-! ## The text between two places -/

/-- `IsBetween cs start stop text`: in `cs`, the text stands from the one place to the other. -/
def IsBetween (cs : List Char) (start stop : Nat) (text : List Char) : Prop :=
  ∃ before behind, cs = before ++ text ++ behind ∧ start = size before ∧ stop = start + size text

/-- `IsPlace cs place`: the place is between two characters, at the start or at the end of the text.
-/
def IsPlace (cs : List Char) (place : Nat) : Prop :=
  IsBetween cs place place []

lemma slice?_of_isBetween {cs text : List Char} {start stop : Nat}
    (h : IsBetween cs start stop text) : slice? cs start stop = some text := by
  obtain ⟨before, behind, rfl, rfl, rfl⟩ := h
  unfold slice?
  split
  · rename_i hstop
    have hempty : text = [] := size_eq_zero_iff.mp (by omega)
    rw [hempty]
  · rw [List.append_assoc, splitAtPlace?_append, Nat.add_sub_cancel_left]
    simp [splitAtPlace?_append]

namespace IsBetween

variable {cs text other : List Char} {start mid stop : Nat}

lemma le (h : IsBetween cs start stop text) : start ≤ stop := by
  obtain ⟨-, -, -, -, rfl⟩ := h
  exact Nat.le_add_right _ _

/-- One text stands between two places. -/
lemma unique (h : IsBetween cs start stop text) (hother : IsBetween cs start stop other) :
    text = other :=
  Option.some.inj ((slice?_of_isBetween h).symm.trans (slice?_of_isBetween hother))

lemma append (h : IsBetween cs start mid text) (hother : IsBetween cs mid stop other) :
    IsBetween cs start stop (text ++ other) := by
  obtain ⟨before, behind, hcs, rfl, rfl⟩ := h
  obtain ⟨before', behind', hcs', hmid, rfl⟩ := hother
  -- the two starts of the text are equally wide
  have hsame : before ++ text = before' := by
    refine eq_of_size_eq ⟨behind, hcs.symm⟩ ⟨other ++ behind', ?_⟩ (by rw [size_append, hmid])
    rw [hcs', List.append_assoc]
  refine ⟨before, behind', ?_, rfl, ?_⟩
  · rw [hcs', ← hsame]
    simp
  · rw [size_append, Nat.add_assoc]

/-- The place where one part of a text ends and the other one starts. -/
lemma split (h : IsBetween cs start stop (text ++ other)) :
    IsBetween cs start (start + size text) text ∧ IsBetween cs (start + size text) stop other := by
  obtain ⟨before, behind, rfl, rfl, rfl⟩ := h
  refine ⟨⟨before, other ++ behind, by simp, rfl, rfl⟩,
    ⟨before ++ text, behind, by simp, by simp, ?_⟩⟩
  rw [size_append, Nat.add_assoc]

/-- A text that reaches from the start to the end is all of it. -/
lemma eq_of_size (h : IsBetween cs 0 (size cs) text) : text = cs :=
  h.unique ⟨[], [], by simp, rfl, by simp⟩

/-- A text stands in a longer one where it stood. -/
lemma append_right (h : IsBetween cs start stop text) (more : List Char) :
    IsBetween (cs ++ more) start stop text := by
  obtain ⟨before, behind, rfl, hstart, hstop⟩ := h
  exact ⟨before, behind ++ more, by simp, hstart, hstop⟩

lemma isPlace_start (h : IsBetween cs start stop text) : IsPlace cs start := by
  obtain ⟨before, behind, rfl, rfl, -⟩ := h
  exact ⟨before, text ++ behind, by simp, rfl, rfl⟩

lemma isPlace_stop (h : IsBetween cs start stop text) : IsPlace cs stop := by
  obtain ⟨before, behind, rfl, rfl, rfl⟩ := h
  exact ⟨before ++ text, behind, by simp, by simp, rfl⟩

end IsBetween

end EntityCompiler.Text
