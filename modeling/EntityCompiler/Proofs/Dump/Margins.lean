import EntityCompiler.Text.Basic
import EntityCompiler.Text.Lines
import Mathlib.Data.List.Basic

/-!
# Margins of tidy texts

A tidy text is made of lines that are not blank and are separated by line feeds alone. In front of
the lines of such a text a margin can be put in one way only, so both forms of indenting come down
to one function on characters, `shift`, which adds up when texts are nested.
-/

namespace EntityCompiler.Text

/-! ## Tidy texts -/

/-- A text without a character that breaks a line. -/
def Unbroken (cs : List Char) : Prop :=
  ∀ c ∈ cs, isBreak c = false

instance (cs : List Char) : Decidable (Unbroken cs) :=
  decidableOnText cs (isBreak · = false)

/-- A line that is not blank. -/
structure IsRow (cs : List Char) : Prop where
  unbroken : Unbroken cs
  visible : ∃ c ∈ cs, isBlank c = false

instance (cs : List Char) : Decidable (IsRow cs) :=
  have : Decidable (∃ c ∈ cs, isBlank c = false) := List.decidableBEx (isBlank · = false) cs
  decidable_of_iff (Unbroken cs ∧ ∃ c ∈ cs, isBlank c = false)
    ⟨fun h => ⟨h.1, h.2⟩, fun h => ⟨h.unbroken, h.visible⟩⟩

/-- Lines that are not blank, separated by line feeds. -/
inductive Tidy : List Char → Prop
  | row {cs : List Char} : IsRow cs → Tidy cs
  | rows {cs rest : List Char} : IsRow cs → Tidy rest → Tidy (cs ++ '\n' :: rest)

section

variable {cs ds : List Char}

lemma Unbroken.append (hcs : Unbroken cs) (hds : Unbroken ds) : Unbroken (cs ++ ds) := by
  intro c hc
  exact (List.mem_append.mp hc).elim (hcs c) (hds c)

lemma Unbroken.tail {c : Char} (h : Unbroken (c :: cs)) : Unbroken cs :=
  fun d hd => h d (List.mem_cons_of_mem _ hd)

lemma Unbroken.newline_not_mem (h : Unbroken cs) : '\n' ∉ cs := by
  intro hmem
  have := h '\n' hmem
  contradiction

lemma IsRow.ne_nil (h : IsRow cs) : cs ≠ [] := by
  obtain ⟨c, hc, -⟩ := h.visible
  exact List.ne_nil_of_mem hc

lemma IsRow.append (hcs : IsRow cs) (hds : Unbroken ds) : IsRow (cs ++ ds) := by
  obtain ⟨c, hc, hvisible⟩ := hcs.visible
  exact ⟨hcs.unbroken.append hds, c, List.mem_append_left _ hc, hvisible⟩

lemma IsRow.prepend (hcs : Unbroken cs) (hds : IsRow ds) : IsRow (cs ++ ds) := by
  obtain ⟨c, hc, hvisible⟩ := hds.visible
  exact ⟨hcs.append hds.unbroken, c, List.mem_append_right _ hc, hvisible⟩

lemma Tidy.append (hcs : Tidy cs) (hds : Unbroken ds) : Tidy (cs ++ ds) := by
  induction hcs with
  | row hrow => exact .row (hrow.append hds)
  | rows hrow _ ih =>
    rw [List.append_assoc]
    exact .rows hrow ih

lemma Tidy.prepend (hcs : Unbroken cs) (hds : Tidy ds) : Tidy (cs ++ ds) := by
  cases hds with
  | row hrow => exact .row (.prepend hcs hrow)
  | rows hrow hrest =>
    rw [← List.append_assoc]
    exact .rows (.prepend hcs hrow) hrest

lemma Tidy.newline (hcs : Tidy cs) (hds : Tidy ds) : Tidy (cs ++ '\n' :: ds) := by
  induction hcs with
  | row hrow => exact .rows hrow hds
  | rows hrow _ ih =>
    rw [List.append_assoc]
    exact .rows hrow ih

end

/-! ## Shifting -/

/-- A text whose lines after the first start with `margin`. -/
def shift (margin : List Char) : List Char → List Char
  | [] => []
  | c :: cs => if c = '\n' then '\n' :: margin ++ shift margin cs else c :: shift margin cs

variable {margin : List Char}

@[simp]
lemma shift_nil (margin : List Char) : shift margin [] = [] := rfl

lemma shift_append (margin cs ds : List Char) :
    shift margin (cs ++ ds) = shift margin cs ++ shift margin ds := by
  induction cs with
  | nil => rfl
  | cons c cs ih =>
    rw [List.cons_append, shift, shift, ih]
    split <;> simp

@[simp]
lemma shift_cons_of_ne {c : Char} (hc : c ≠ '\n') (margin cs : List Char) :
    shift margin (c :: cs) = c :: shift margin cs := by
  rw [shift, if_neg hc]

@[simp]
lemma shift_newline (margin cs : List Char) :
    shift margin ('\n' :: cs) = '\n' :: margin ++ shift margin cs := by
  rw [shift, if_pos rfl]

lemma shift_of_not_mem {cs : List Char} (h : '\n' ∉ cs) : shift margin cs = cs := by
  induction cs with
  | nil => rfl
  | cons c cs ih =>
    rw [List.mem_cons, not_or] at h
    rw [shift_cons_of_ne (Ne.symm h.1), ih h.2]

/-- Margins add up. -/
lemma shift_shift {inner : List Char} (hinner : '\n' ∉ inner) (margin cs : List Char) :
    shift margin (shift inner cs) = shift (margin ++ inner) cs := by
  induction cs with
  | nil => rfl
  | cons c cs ih =>
    rw [shift]
    split
    next hc =>
      subst hc
      rw [shift_newline, List.cons_append, shift_newline, shift_append, shift_of_not_mem hinner, ih]
      simp
    next hc => rw [shift_cons_of_ne hc, shift_cons_of_ne hc, ih]

/-! ## The lines of a tidy text -/

lemma lines_cons {c : Char} (hc : isBreak c = false) (rest : List Char) :
    lines (c :: rest) = match lines rest with
      | [] => [⟨[c], []⟩]
      | l :: ls => l.cons c :: ls := by
  have hreturn : ∀ tail, c = '\r' → rest = '\n' :: tail → False := by
    rintro tail rfl
    contradiction
  refine (lines.eq_3 c rest hreturn).trans (if_neg ?_)
  simp [hc]

lemma lines_newline (rest : List Char) : lines ('\n' :: rest) = ⟨[], ['\n']⟩ :: lines rest := by
  rw [lines, if_pos (by decide)]
  rintro tail heq
  contradiction

lemma lines_row {cs : List Char} (hne : cs ≠ []) (h : Unbroken cs) : lines cs = [⟨cs, []⟩] := by
  induction cs with
  | nil => contradiction
  | cons c cs ih =>
    rw [lines_cons (h c List.mem_cons_self)]
    cases cs with
    | nil => rfl
    | cons d ds =>
      rw [ih (List.cons_ne_nil _ _) h.tail]
      rfl

lemma lines_row_newline {cs : List Char} (h : Unbroken cs) (rest : List Char) :
    lines (cs ++ '\n' :: rest) = ⟨cs, ['\n']⟩ :: lines rest := by
  induction cs with
  | nil => exact lines_newline rest
  | cons c cs ih =>
    rw [List.cons_append, lines_cons (h c List.mem_cons_self), ih h.tail]
    rfl

lemma IsRow.allBlank_eq {cs : List Char} (h : IsRow cs) (ending : List Char) :
    allBlank (cs ++ ending) = false := by
  obtain ⟨c, hc, hvisible⟩ := h.visible
  rw [allBlank, List.all_eq_false]
  exact ⟨c, List.mem_append_left _ hc, by simp [hvisible]⟩

/-- Every line of a tidy text gets the margin. -/
theorem Tidy.indent_eq {cs : List Char} (h : Tidy cs) (margin : List Char) :
    indent margin cs = margin ++ shift margin cs := by
  induction h with
  | row hrow =>
    have hvisible := hrow.allBlank_eq []
    rw [List.append_nil] at hvisible
    rw [shift_of_not_mem hrow.unbroken.newline_not_mem, indent,
      lines_row hrow.ne_nil hrow.unbroken]
    simp [Line.whole, hvisible]
  | @rows cs rest hrow _ ih =>
    have hvisible := hrow.allBlank_eq ['\n']
    rw [indent] at ih
    rw [shift_append, shift_newline, shift_of_not_mem hrow.unbroken.newline_not_mem, indent,
      lines_row_newline hrow.unbroken, List.flatMap_cons, ih]
    simp [Line.whole, hvisible]

/-- A tidy text starts with a line that is not empty. -/
lemma Tidy.lines_eq_cons {cs : List Char} (h : Tidy cs) :
    ∃ first others, lines cs = first :: others ∧ first.content ≠ [] := by
  cases h with
  | row hrow => exact ⟨_, _, lines_row hrow.ne_nil hrow.unbroken, hrow.ne_nil⟩
  | rows hrow _ => exact ⟨_, _, lines_row_newline hrow.unbroken _, hrow.ne_nil⟩

lemma joined_append_cons (between first second : List Char) (others : List (List Char)) :
    joined between ((first ++ second) :: others) = first ++ joined between (second :: others) := by
  cases others with
  | nil => rfl
  | cons other others => simp [joined]

/-- Every line of a tidy text but the first gets the margin. -/
theorem Tidy.indentTail_eq {cs : List Char} (h : Tidy cs) (margin : List Char) :
    indentTail margin cs = shift margin cs := by
  induction h with
  | row hrow =>
    rw [shift_of_not_mem hrow.unbroken.newline_not_mem, indentTail,
      lines_row hrow.ne_nil hrow.unbroken]
    rfl
  | rows hrow hrest ih =>
    -- the first line of the rest is the first of those that get the margin
    obtain ⟨first, others, hlines, hne⟩ := hrest.lines_eq_cons
    rw [indentTail, hlines] at ih
    rw [shift_append, shift_newline, shift_of_not_mem hrow.unbroken.newline_not_mem, indentTail,
      lines_row_newline hrow.unbroken, hlines, ← ih]
    simp [joined, hne, joined_append_cons]

end EntityCompiler.Text
