import EntityCompiler.Text.Lines
import Mathlib.Data.List.Basic

/-!
# Lines and their ends

A text is its lines one after the other, and no line is empty, its break included. Indenting puts
margins in front of lines, so it leaves the end of a text alone.
-/

namespace EntityCompiler.Text

/-- A text that does not end with a line feed. -/
def EndsInLine (cs : List Char) : Prop :=
  cs.getLast? ≠ some '\n'

lemma EndsInLine.append {first second : List Char} (hfirst : EndsInLine first)
    (hsecond : EndsInLine second) : EndsInLine (first ++ second) := by
  unfold EndsInLine at *
  rw [List.getLast?_append]
  cases h : second.getLast? with
  | none => simpa using hfirst
  | some c => rwa [h] at hsecond

/-- A text that goes on to something that is not empty ends as that does. -/
lemma EndsInLine.append_of_ne_nil {first second : List Char} (hne : second ≠ [])
    (hsecond : EndsInLine second) : EndsInLine (first ++ second) := by
  unfold EndsInLine at *
  rwa [List.getLast?_append_of_ne_nil _ hne]

lemma EndsInLine.of_not_mem {cs : List Char} (h : '\n' ∉ cs) : EndsInLine cs := by
  intro hlast
  exact h (List.mem_of_getLast? hlast)

lemma Line.whole_cons (c : Char) (l : Line) : (l.cons c).whole = c :: l.whole := rfl

lemma flatMap_whole_lines (cs : List Char) : (lines cs).flatMap Line.whole = cs := by
  induction cs using lines.induct with
  | case1 => rfl
  | case2 rest ih =>
    rw [lines, List.flatMap_cons, ih]
    rfl
  | case3 c rest hpair hbreak ih =>
    rw [lines, if_pos hbreak, List.flatMap_cons, ih]
    · rfl
    · exact hpair
  | case4 c rest hpair hbreak hnone ih =>
    rw [lines, if_neg hbreak, hnone]
    · rw [hnone] at ih
      rw [← ih]
      rfl
    · exact hpair
  | case5 c rest hpair hbreak l ls hsome ih =>
    rw [lines, if_neg hbreak, hsome]
    · rw [hsome, List.flatMap_cons] at ih
      rw [List.flatMap_cons, Line.whole_cons, List.cons_append, ih]
    · exact hpair

lemma whole_ne_nil_of_mem_lines {cs : List Char} {l : Line} (h : l ∈ lines cs) :
    l.whole ≠ [] := by
  induction cs using lines.induct generalizing l with
  | case1 => contradiction
  | case2 rest ih =>
    rw [lines] at h
    rcases List.mem_cons.mp h with rfl | h
    · exact List.cons_ne_nil _ _
    · exact ih h
  | case3 c rest hpair hbreak ih =>
    rw [lines, if_pos hbreak] at h
    · rcases List.mem_cons.mp h with rfl | h
      · exact List.cons_ne_nil _ _
      · exact ih h
    · exact hpair
  | case4 c rest hpair hbreak hnone ih =>
    rw [lines, if_neg hbreak, hnone] at h
    · rw [List.mem_singleton.mp h]
      exact List.cons_ne_nil _ _
    · exact hpair
  | case5 c rest hpair hbreak first others hsome ih =>
    rw [lines, if_neg hbreak, hsome] at h
    · rcases List.mem_cons.mp h with rfl | h
      · exact List.cons_ne_nil _ _
      · exact ih (by rw [hsome]; exact List.mem_cons_of_mem _ h)
    · exact hpair

/-- A text ends in the same way after it is indented. -/
lemma getLast?_indent (margin cs : List Char) : (indent margin cs).getLast? = cs.getLast? := by
  have hlines : ∀ ls : List Line, (∀ l ∈ ls, l.whole ≠ []) →
      (ls.flatMap fun l => if allBlank l.whole then l.whole else margin ++ l.whole).getLast?
        = (ls.flatMap Line.whole).getLast? := by
    intro ls h
    induction ls with
    | nil => rfl
    | cons l ls ih =>
      rw [List.flatMap_cons, List.flatMap_cons, List.getLast?_append, List.getLast?_append,
        ih fun other hother => h other (List.mem_cons_of_mem _ hother)]
      split
      · rfl
      · -- a margin is put in front of a line that is not empty, and does not reach its end
        rw [List.getLast?_append_of_ne_nil _ (h l List.mem_cons_self)]
  have hall := hlines (lines cs) fun _ => whole_ne_nil_of_mem_lines
  rwa [flatMap_whole_lines] at hall

lemma indent_ne_nil {margin cs : List Char} (h : cs ≠ []) : indent margin cs ≠ [] := by
  intro hnil
  have hlast := getLast?_indent margin cs
  rw [hnil, List.getLast?_nil, eq_comm, List.getLast?_eq_none_iff] at hlast
  exact h hlast

lemma joined_ne_nil {between first : List Char} {others : List (List Char)} (h : first ≠ []) :
    joined between (first :: others) ≠ [] := by
  cases others with
  | nil => exact h
  | cons second others => simp [joined, h]

/-- Pieces that are not empty and do not end with a line feed make such a text when they are
joined. -/
lemma EndsInLine.joined {between : List Char} {pieces : List (List Char)}
    (h : ∀ piece ∈ pieces, piece ≠ [] ∧ EndsInLine piece) :
    EndsInLine (joined between pieces) := by
  induction pieces with
  | nil => simp [EndsInLine, Text.joined]
  | cons first others ih =>
    have hothers : ∀ piece ∈ others, piece ≠ [] ∧ EndsInLine piece := fun piece hpiece =>
      h piece (List.mem_cons_of_mem _ hpiece)
    cases others with
    | nil => exact (h first List.mem_cons_self).2
    | cons second others =>
      rw [Text.joined]
      exact (ih hothers).append_of_ne_nil
        (joined_ne_nil (hothers second List.mem_cons_self).1)

end EntityCompiler.Text
