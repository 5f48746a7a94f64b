import EntityCompiler.Proofs.Dump.Margins
import EntityCompiler.Proofs.Indentation

/-!
# Texts changed line by line

What becomes of the lines of a text if each of them is changed on its own. `AreLines` says which
lists of lines are the lines of a text. A change that leaves the breaks alone and adds none keeps
such a list one (`KeepsBreaks.areLines_map_iff`), so the lines of the changed text are the changed
lines. Indenting a text is such a change (`lines_indent`).
-/

namespace EntityCompiler.Text

/-- The lines put together to a text. -/
def textOf (ls : List Line) : List Char :=
  ls.flatMap Line.whole

/-- A break, which is not cut short by the text behind it: a line feed belongs to the carriage
return in front of it. -/
def Breaks (ending rest : List Char) : Prop :=
  ending = ['\r', '\n'] ∨ ∃ c, ending = [c] ∧ isBreak c = true ∧ (c = '\r' → rest.head? ≠ some '\n')

/-- The lines of some text. Only the last one may lack a break, and then it is not empty. -/
inductive AreLines : List Line → Prop
  | nil : AreLines []
  | last {content : List Char} (hne : content ≠ []) (h : Unbroken content) :
      AreLines [⟨content, []⟩]
  | cons {content ending : List Char} {ls : List Line} (h : Unbroken content)
    (hending : Breaks ending (textOf ls)) (hls : AreLines ls) : AreLines (⟨content, ending⟩ :: ls)

section

variable {ls : List Line} {ending rest rest' : List Char}

@[simp]
lemma textOf_nil : textOf [] = [] := rfl

@[simp]
lemma textOf_cons (l : Line) (ls : List Line) : textOf (l :: ls) = l.whole ++ textOf ls := rfl

@[simp]
lemma textOf_lines (cs : List Char) : textOf (lines cs) = cs :=
  flatMap_whole_lines cs

lemma Breaks.lines_eq (h : Breaks ending rest) :
    lines (ending ++ rest) = ⟨[], ending⟩ :: lines rest := by
  rcases h with rfl | ⟨c, rfl, hbreak, hreturn⟩
  · rfl
  · refine (lines.eq_3 c rest ?_).trans (if_pos hbreak)
    rintro tail rfl rfl
    exact hreturn rfl rfl

/-- A line ends at the first break. -/
lemma Breaks.lines_append (h : Breaks ending rest) {content : List Char}
    (hcontent : Unbroken content) :
    lines (content ++ (ending ++ rest)) = ⟨content, ending⟩ :: lines rest := by
  induction content with
  | nil => exact h.lines_eq
  | cons c content ih =>
    rw [List.cons_append, lines_cons (hcontent c List.mem_cons_self), ih hcontent.tail]
    rfl

lemma breaks_congr (h : rest.head? = some '\n' ↔ rest'.head? = some '\n') :
    Breaks ending rest ↔ Breaks ending rest' := by
  unfold Breaks
  rw [Ne, Ne, h]

lemma Breaks.ne_nil (h : Breaks ending rest) : ending ≠ [] := by
  rcases h with rfl | ⟨c, rfl, -⟩ <;> exact List.cons_ne_nil _ _

lemma Breaks.isBreak (h : Breaks ending rest) : ∀ c ∈ ending, isBreak c = true := by
  rcases h with rfl | ⟨c, rfl, hbreak, -⟩
  · exact List.forall_mem_cons.mpr ⟨rfl, List.forall_mem_singleton.mpr rfl⟩
  · simpa using hbreak

/-- The lines of a text are found again in it. -/
lemma AreLines.lines_eq (h : AreLines ls) : lines (textOf ls) = ls := by
  induction h with
  | nil => rfl
  | last hne h =>
    rw [textOf_cons, Line.whole, List.append_nil, textOf_nil, List.append_nil]
    exact lines_row hne h
  | cons h hending _ ih =>
    rw [textOf_cons, Line.whole, List.append_assoc, hending.lines_append h, ih]

lemma AreLines.cons_char (c : Char) (hc : isBreak c = false) {l : Line} (h : AreLines (l :: ls)) :
    AreLines (l.cons c :: ls) := by
  have hcons : ∀ content, Unbroken content → Unbroken (c :: content) :=
    fun content hcontent => List.forall_mem_cons.mpr ⟨hc, hcontent⟩
  cases h with
  | last _ h => exact .last (List.cons_ne_nil _ _) (hcons _ h)
  | cons h hending hls => exact .cons (hcons _ h) hending hls

lemma areLines_lines (cs : List Char) : AreLines (lines cs) := by
  induction cs using lines.induct with
  | case1 => exact .nil
  | case2 rest ih =>
    rw [lines]
    exact .cons (by simp [Unbroken]) (.inl rfl) ih
  | case3 c rest hpair hbreak ih =>
    rw [lines, if_pos hbreak]
    · refine .cons (by simp [Unbroken]) (.inr ⟨c, rfl, hbreak, ?_⟩) ih
      rintro rfl hhead
      rw [textOf_lines] at hhead
      obtain ⟨tail, rfl⟩ := List.head?_eq_some_iff.mp hhead
      exact hpair tail rfl rfl
    · exact hpair
  | case4 c rest hpair hbreak hnone ih =>
    rw [lines, if_neg hbreak, hnone]
    · exact .last (List.cons_ne_nil _ _) (by simpa [Unbroken] using hbreak)
    · exact hpair
  | case5 c rest hpair hbreak l ls hsome ih =>
    -- the character joins the first line of the rest
    rw [lines, if_neg hbreak, hsome]
    · rw [hsome] at ih
      exact ih.cons_char c (by simpa using hbreak)
    · exact hpair

lemma areLines_cons_iff {l : Line} : AreLines (l :: ls) ↔ Unbroken l.content
    ∧ (l.content ≠ [] ∧ l.ending = [] ∧ ls = [] ∨ Breaks l.ending (textOf ls) ∧ AreLines ls) := by
  constructor
  · intro h
    cases h with
    | last hne h => exact ⟨h, .inl ⟨hne, rfl, rfl⟩⟩
    | cons h hending hls => exact ⟨h, .inr ⟨hending, hls⟩⟩
  · obtain ⟨content, ending⟩ := l
    rintro ⟨h, ⟨hne, rfl, rfl⟩ | ⟨hending, hls⟩⟩
    · exact .last hne h
    · exact .cons h hending hls

/-- A text starts with a line feed exactly if its first line is an empty one that ends so. -/
lemma AreLines.head?_textOf {l : Line} (h : AreLines (l :: ls)) :
    (textOf (l :: ls)).head? = some '\n' ↔ l.content = [] ∧ l.ending.head? = some '\n' := by
  obtain ⟨hcontent, hend⟩ := areLines_cons_iff.mp h
  obtain ⟨content, ending⟩ := l
  cases content with
  | nil =>
    have hne : ending ≠ [] := by
      rcases hend with ⟨hne, -⟩ | ⟨hending, -⟩
      · contradiction
      · exact hending.ne_nil
    simp [Line.whole, List.head?_append_of_ne_nil _ hne]
  | cons c content =>
    have hc : c ≠ '\n' := by
      rintro rfl
      exact absurd (hcontent '\n' List.mem_cons_self) (by decide)
    simp [Line.whole, hc]

end

/-! ## What lines hold -/

/-- What the lines of a text hold. -/
def contents (cs : List Char) : List (List Char) :=
  (lines cs).map (·.content)

lemma newline_not_mem_contents (cs : List Char) : ∀ content ∈ contents cs, '\n' ∉ content := by
  have hlines : ∀ {ls : List Line}, AreLines ls → ∀ l ∈ ls, '\n' ∉ l.content := by
    intro ls h
    induction h with
    | nil => simp
    | last _ h => simpa using h.newline_not_mem
    | cons h _ _ ih => exact List.forall_mem_cons.mpr ⟨h.newline_not_mem, ih⟩
  exact List.forall_mem_map.mpr (hlines (areLines_lines cs))

/-! ## Changing lines -/

/-- A change of lines that leaves their breaks alone and adds none. It neither fills an empty line
that ends with a break nor makes a line empty. -/
structure KeepsBreaks (f : Line → Line) : Prop where
  ending : ∀ l, (f l).ending = l.ending
  unbroken : ∀ l, Unbroken (f l).content ↔ Unbroken l.content
  empty : ∀ l, (∀ c ∈ l.ending, isBreak c = true) → ((f l).content = [] ↔ l.content = [])

variable {f : Line → Line} {ls : List Line}

/-- A text starts with a line feed after its lines are changed exactly if it did before. -/
lemma KeepsBreaks.head?_textOf_map (hf : KeepsBreaks f) (h : AreLines ls)
    (hmap : AreLines (ls.map f)) :
    (textOf (ls.map f)).head? = some '\n' ↔ (textOf ls).head? = some '\n' := by
  cases ls with
  | nil => rfl
  | cons l ls =>
    rw [List.map_cons] at hmap ⊢
    rw [hmap.head?_textOf, h.head?_textOf, hf.ending]
    refine and_congr_left fun hending => hf.empty l ?_
    rcases (areLines_cons_iff.mp h).2 with ⟨-, hnone, -⟩ | ⟨hbreaks, -⟩
    · rw [hnone] at hending
      contradiction
    · exact hbreaks.isBreak

/-- The changed lines of a text are the lines of a text, and only those. -/
theorem KeepsBreaks.areLines_map_iff (hf : KeepsBreaks f) : AreLines (ls.map f) ↔ AreLines ls := by
  induction ls with
  | nil => rfl
  | cons l ls ih =>
    rw [List.map_cons, areLines_cons_iff, areLines_cons_iff, hf.ending, hf.unbroken,
      List.map_eq_nil_iff]
    refine and_congr_right fun _ => or_congr ?_ ?_
    · refine and_congr_left fun hnone => not_congr (hf.empty l ?_)
      rw [hnone.1]
      exact fun c hc => absurd hc List.not_mem_nil
    · -- the break of the line depends on the text behind it only through a line feed at its start
      rw [ih]
      exact and_congr_left fun h => breaks_congr (hf.head?_textOf_map h (ih.mpr h))

/-- The same holds if the first line is left as it is. -/
theorem KeepsBreaks.areLines_cons_map_iff (hf : KeepsBreaks f) {l : Line} :
    AreLines (l :: ls.map f) ↔ AreLines (l :: ls) := by
  rw [areLines_cons_iff, areLines_cons_iff, List.map_eq_nil_iff, hf.areLines_map_iff]
  refine and_congr_right fun _ => or_congr Iff.rfl ?_
  exact and_congr_left fun h => breaks_congr (hf.head?_textOf_map h (hf.areLines_map_iff.mpr h))

/-- The lines of a text whose lines are changed. -/
lemma KeepsBreaks.lines_textOf_map (hf : KeepsBreaks f) (cs : List Char) :
    lines (textOf ((lines cs).map f)) = (lines cs).map f :=
  (hf.areLines_map_iff.mpr (areLines_lines cs)).lines_eq

/-! ## Indenting lines -/

/-- The line behind a margin, unless it is blank. -/
def Line.indented (margin : List Char) (l : Line) : Line :=
  if allBlank l.whole then l else { l with content := margin ++ l.content }

variable {margin : List Char}

lemma isBlank_of_isBreak {c : Char} (h : isBreak c = true) : isBlank c = true := by
  simp only [isBreak, isBlank, Bool.or_eq_true, Bool.and_eq_true, decide_eq_true_eq,
    beq_iff_eq] at h ⊢
  omega

lemma keepsBreaks_indented (hmargin : Unbroken margin) : KeepsBreaks (Line.indented margin) where
  ending l := by
    unfold Line.indented
    split <;> rfl
  unbroken l := by
    unfold Line.indented
    split
    next => rfl
    next => exact List.forall_mem_append.trans (and_iff_right hmargin)
  empty l hending := by
    unfold Line.indented
    split
    next => rfl
    next hvisible =>
      have hne : l.content ≠ [] := by
        intro hnone
        refine hvisible (List.all_eq_true.mpr fun c hc => isBlank_of_isBreak (hending c ?_))
        rwa [Line.whole, hnone] at hc
      simp [hne]

lemma indent_eq (margin cs : List Char) :
    indent margin cs = textOf ((lines cs).map (Line.indented margin)) := by
  rw [indent, textOf, List.flatMap_map]
  congr 1
  funext l
  unfold Line.indented
  split <;> simp [Line.whole]

/-- The lines of an indented text are the lines of the text, each behind the margin unless it is
blank. -/
theorem lines_indent (hmargin : Unbroken margin) (cs : List Char) :
    lines (indent margin cs) = (lines cs).map (Line.indented margin) := by
  rw [indent_eq, (keepsBreaks_indented hmargin).lines_textOf_map]

end EntityCompiler.Text
