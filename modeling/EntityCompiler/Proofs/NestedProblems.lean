import EntityCompiler.Problem.Basic
import EntityCompiler.Proofs.Dump.Numerals
import EntityCompiler.Proofs.LineByLine

/-!
# The layout of nested problems

A problem is laid out line by line: one line for its headline and one for each problem below it, in
order, indented by two spaces for each level (`Problem.message_rows`). Every headline must fit on a
line and show there. Then how the problems are nested can be read off the margins.
-/

namespace EntityCompiler

open Text (IsRow Tidy Unbroken joined lines contents indent shift)

/-! ## Rows of a text -/

namespace Text

variable {margin : List Char} {rows : List (List Char)}

lemma joined_cons_of_ne_nil (between row : List Char) (hne : rows ≠ []) :
    joined between (row :: rows) = row ++ between ++ joined between rows := by
  cases rows with
  | nil => contradiction
  | cons next rows => rfl

lemma joined_append_of_ne_nil (between : List Char) {first second : List (List Char)}
    (hfirst : first ≠ [])
    (hsecond : second ≠ []) :
    joined between (first ++ second)
      = joined between first ++ between ++ joined between second := by
  induction first with
  | nil => contradiction
  | cons row first ih =>
    rw [List.cons_append, joined_cons_of_ne_nil between row (by simp [hsecond])]
    by_cases hnil : first = []
    · rw [hnil]
      rfl
    · rw [ih hnil, joined_cons_of_ne_nil between row hnil]
      simp

/-- Rows one below the other make a tidy text. -/
lemma tidy_joined (hrows : ∀ row ∈ rows, IsRow row) (hne : rows ≠ []) :
    Tidy (joined ['\n'] rows) := by
  induction rows with
  | nil => contradiction
  | cons row rows ih =>
    rw [List.forall_mem_cons] at hrows
    by_cases hnil : rows = []
    · rw [hnil]
      exact .row hrows.1
    · rw [joined_cons_of_ne_nil _ _ hnil, List.append_assoc]
      exact .rows hrows.1 (ih hrows.2 hnil)

/-- The lines of such a text are the rows. -/
lemma contents_joined (hrows : ∀ row ∈ rows, IsRow row) : contents (joined ['\n'] rows) = rows := by
  induction rows with
  | nil => rfl
  | cons row rows ih =>
    rw [List.forall_mem_cons] at hrows
    by_cases hnil : rows = []
    · rw [hnil, contents, joined, lines_row hrows.1.ne_nil hrows.1.unbroken]
      rfl
    · rw [joined_cons_of_ne_nil _ _ hnil, List.append_assoc, contents, List.singleton_append,
        lines_row_newline hrows.1.unbroken, List.map_cons, ← contents, ih hrows.2]

lemma shift_joined (hrows : ∀ row ∈ rows, IsRow row) (hne : rows ≠ []) :
    margin ++ shift margin (joined ['\n'] rows) = joined ['\n'] (rows.map (margin ++ ·)) := by
  induction rows with
  | nil => contradiction
  | cons row rows ih =>
    rw [List.forall_mem_cons] at hrows
    have hrow : shift margin row = row := shift_of_not_mem hrows.1.unbroken.newline_not_mem
    by_cases hnil : rows = []
    · rw [hnil, joined, hrow]
      rfl
    · rw [joined_cons_of_ne_nil _ _ hnil, List.map_cons, joined_cons_of_ne_nil _ _
        (by simpa using hnil),
        ← ih hrows.2 hnil, shift_append, shift_append, hrow]
      simp

/-- Each row of a text gets the margin when it is indented. -/
theorem indent_joined (hrows : ∀ row ∈ rows, IsRow row) (hne : rows ≠ []) (margin : List Char) :
    indent margin (joined ['\n'] rows) = joined ['\n'] (rows.map (margin ++ ·)) := by
  rw [(tidy_joined hrows hne).indent_eq, shift_joined hrows hne]

end Text

/-! ## Rows -/

/-- A headline with the level that it is nested at. -/
structure Row where
  level : Nat
  headline : List Char

namespace Row

/-- The line of a headline. -/
def line (row : Row) : List Char :=
  List.replicate (2 * row.level) ' ' ++ row.headline

/-- A headline that does not start with a blank. -/
def IsFlush (row : Row) : Prop :=
  ∀ c ∈ row.headline.head?, Text.isBlank c = false

instance (row : Row) : Decidable row.IsFlush :=
  decidable_of_iff (row.headline.head?.all (!Text.isBlank ·) = true)
    (by simp [IsFlush, Option.all_eq_true])

end Row

namespace Problem

mutual

/-- The headlines of a problem and of all problems below it, in order, with their levels. -/
def rows (level : Nat) : Problem → List Row
  | mk location cause none => [⟨level, headline location cause⟩]
  | mk location cause (some ps) => ⟨level, headline location cause⟩ :: rowsOfAll (level + 1) ps

/-- The headlines of some problems and of all problems below them, in order, with their levels. -/
def rowsOfAll (level : Nat) : List Problem → List Row
  | [] => []
  | p :: ps => p.rows level ++ rowsOfAll level ps

end

mutual

/-- The number of problems: one, and those below it. -/
def count : Problem → Nat
  | mk _ _ none => 1
  | mk _ _ (some ps) => 1 + countAll ps

/-- The number of problems in a list and below them. -/
def countAll : List Problem → Nat
  | [] => 0
  | p :: ps => p.count + countAll ps

end

mutual

lemma length_rows (level : Nat) (p : Problem) : (p.rows level).length = p.count := by
  match p with
  | mk location cause none => rfl
  | mk location cause (some ps) =>
    rw [rows, count, List.length_cons, length_rowsOfAll (level + 1) ps, Nat.add_comm]

lemma length_rowsOfAll (level : Nat) (ps : List Problem) :
    (rowsOfAll level ps).length = countAll ps := by
  match ps with
  | [] => rfl
  | p :: ps =>
    rw [rowsOfAll, countAll, List.length_append, length_rows level p, length_rowsOfAll level ps]

end

mutual

/-- The rows of a problem that is nested one level deeper. -/
lemma rows_succ (level : Nat) (p : Problem) :
    p.rows (level + 1) = (p.rows level).map fun row => ⟨row.level + 1, row.headline⟩ := by
  match p with
  | mk location cause none => rfl
  | mk location cause (some ps) => rw [rows, rows, List.map_cons, rowsOfAll_succ (level + 1) ps]

lemma rowsOfAll_succ (level : Nat) (ps : List Problem) :
    rowsOfAll (level + 1) ps = (rowsOfAll level ps).map fun row =>
      ⟨row.level + 1, row.headline⟩ := by
  match ps with
  | [] => rfl
  | p :: ps =>
    rw [rowsOfAll, rowsOfAll, List.map_append, rows_succ level p, rowsOfAll_succ level ps]

end

lemma rows_ne_nil (level : Nat) (p : Problem) : p.rows level ≠ [] := by
  match p with
  | mk location cause none => exact List.cons_ne_nil _ _
  | mk location cause (some ps) => exact List.cons_ne_nil _ _

lemma rowsOfAll_ne_nil (level : Nat) {ps : List Problem} (h : ps ≠ []) :
    rowsOfAll level ps ≠ [] := by
  obtain ⟨p, rest, rfl⟩ := List.exists_cons_of_ne_nil h
  rw [rowsOfAll]
  exact List.append_ne_nil_of_left_ne_nil (rows_ne_nil level p) _

/-! ## The text of a problem -/

lemma isRow_line {row : Row} (h : IsRow row.headline) : IsRow row.line := by
  have hmargin : Unbroken (List.replicate (2 * row.level) ' ') := by
    intro c hc
    rw [List.eq_of_mem_replicate hc]
    rfl
  exact .prepend hmargin h

/-- The text of a problem, when its rows are what it is made of, is put one level deeper by
indenting it. -/
lemma indent_layout {p : Problem} (h : ∀ row ∈ p.rows 0, IsRow row.headline)
    (hlayout : p.layout = joined ['\n'] ((p.rows 0).map Row.line)) :
    indent [' ', ' '] p.layout = joined ['\n'] ((p.rows 1).map Row.line) := by
  have hrows : ∀ line ∈ (p.rows 0).map Row.line, IsRow line :=
    List.forall_mem_map.mpr fun row hrow => isRow_line (h row hrow)
  rw [hlayout, Text.indent_joined hrows (by simpa using rows_ne_nil 0 p), rows_succ, List.map_map,
    List.map_map]
  rfl

mutual

lemma layout_eq {p : Problem} (h : ∀ row ∈ p.rows 0, IsRow row.headline) :
    p.layout = joined ['\n'] ((p.rows 0).map Row.line) := by
  match p with
  | mk location cause none => rfl
  | mk location cause (some []) => rfl
  | mk location cause (some (p :: ps)) =>
    rw [rows, List.forall_mem_cons] at h
    have hne := rowsOfAll_ne_nil 1 (List.cons_ne_nil p ps)
    rw [layout, joined_layoutAll h.2, rows, List.map_cons,
      Text.joined_cons_of_ne_nil _ _ (by simpa using hne), List.append_assoc]
    rfl

lemma joined_layoutAll {ps : List Problem} (h : ∀ row ∈ rowsOfAll 1 ps, IsRow row.headline) :
    joined ['\n'] (layoutAll ps) = joined ['\n'] ((rowsOfAll 1 ps).map Row.line) := by
  match ps with
  | [] => rfl
  | p :: ps =>
    -- the text of a problem below another one is that of the problem by itself, one level deeper
    rw [rowsOfAll, List.forall_mem_append, rows_succ, List.forall_mem_map] at h
    have hfirst := indent_layout h.1 (layout_eq h.1)
    have hrest := joined_layoutAll h.2
    rw [layoutAll, rowsOfAll, hfirst, List.map_append]
    by_cases hnil : ps = []
    · rw [hnil]
      simp [layoutAll, rowsOfAll, joined]
    · have hne : layoutAll ps ≠ [] := by
        obtain ⟨q, rest, rfl⟩ := List.exists_cons_of_ne_nil hnil
        exact List.cons_ne_nil _ _
      rw [Text.joined_cons_of_ne_nil _ _ hne, hrest, Text.joined_append_of_ne_nil]
      · simpa using rows_ne_nil 1 p
      · simpa using rowsOfAll_ne_nil 1 hnil

end

end Problem

/-! ## Reading the nesting -/

/-- Headlines with the headlines below them. -/
inductive Headings where
  | mk (headline : List Char) (below : List Headings)

namespace Problem

mutual

/-- How the headlines of a problem and of those below it are nested. -/
def headings : Problem → Headings
  | mk location cause none => ⟨headline location cause, []⟩
  | mk location cause (some ps) => ⟨headline location cause, headingsOfAll ps⟩

/-- How the headlines of some problems and of those below them are nested. -/
def headingsOfAll : List Problem → List Headings
  | [] => []
  | p :: ps => p.headings :: headingsOfAll ps

end

end Problem

/-- The row that a line shows: two spaces in front of the headline stand for a level. -/
def Row.ofLine (line : List Char) : Row :=
  ⟨(line.takeWhile (· == ' ')).length / 2, line.dropWhile (· == ' ')⟩

namespace Headings

/-- The headings in some rows, with their levels. A row has below it those behind it that are on
deeper levels. -/
def ofRows : List Row → List (Nat × Headings)
  | [] => []
  | row :: rows =>
    (row.level, ⟨row.headline, ((ofRows rows).takeWhile (row.level < ·.1)).map (·.2)⟩)
      :: (ofRows rows).dropWhile (row.level < ·.1)

/-- The headings that the lines of a text show, if there is one on top. -/
def ofText? (text : List Char) : Option Headings :=
  match ofRows ((contents text).map Row.ofLine) with
  | [(_, top)] => some top
  | _ => none

end Headings

namespace Problem

open Headings (ofRows)

/-- Rows that do not start on a deeper level. -/
def StartsBy (level : Nat) (rows : List Row) : Prop :=
  ∀ first ∈ (ofRows rows).head?, first.1 ≤ level

lemma StartsBy.succ {level : Nat} {rows : List Row} (h : StartsBy level rows) :
    StartsBy (level + 1) rows :=
  fun first hfirst => Nat.le_succ_of_le (h first hfirst)

/-- A row has below it what is read from the rows behind it, up to the first one that is not on a
deeper level. -/
lemma ofRows_cons {level : Nat} {headline : List Char} {rows : List Row} {inner : List Headings}
    {rest : List Row} (hrest : StartsBy level rest)
    (hrows : ofRows rows = inner.map (level + 1, ·) ++ ofRows rest) :
    ofRows (⟨level, headline⟩ :: rows) = (level, ⟨headline, inner⟩) :: ofRows rest := by
  have hinner : ∀ entry ∈ inner.map (level + 1, ·), decide (level < entry.1) = true :=
    List.forall_mem_map.mpr fun _ _ => by simp
  have hbehind : ∀ entry ∈ (ofRows rest).head?, decide (level < entry.1) = false :=
    fun entry hentry => decide_eq_false (Nat.not_lt.mpr (hrest entry hentry))
  obtain ⟨htake, hdrop⟩ := Text.span_append hinner hbehind
  rw [ofRows, hrows, htake, hdrop, List.map_map]
  simp [Function.comp_def]

mutual

/-- The rows of a problem are read as its headings, whatever rows follow that are not below it. -/
lemma ofRows_rows {level : Nat} (p : Problem) {rest : List Row} (hrest : StartsBy level rest) :
    ofRows (p.rows level ++ rest) = (level, p.headings) :: ofRows rest := by
  match p with
  | mk location cause none => exact ofRows_cons hrest rfl
  | mk location cause (some ps) => exact ofRows_cons hrest (ofRows_rowsOfAll ps hrest.succ)

lemma ofRows_rowsOfAll {level : Nat} (ps : List Problem) {rest : List Row}
    (hrest : StartsBy level rest) :
    ofRows (rowsOfAll level ps ++ rest) = (headingsOfAll ps).map (level, ·) ++ ofRows rest := by
  match ps with
  | [] => rfl
  | p :: ps =>
    have hothers := ofRows_rowsOfAll ps hrest
    -- behind a problem its next sibling starts on the same level, or what follows the siblings
    have hstart : StartsBy level (rowsOfAll level ps ++ rest) := by
      unfold StartsBy
      rw [hothers]
      cases ps with
      | nil => exact hrest
      | cons q ps => simp [headingsOfAll]
    rw [rowsOfAll, List.append_assoc, ofRows_rows p hstart, hothers]
    rfl

end

/-- A line shows its row if the headline does not start with a blank. -/
lemma ofLine_line {row : Row} (h : row.IsFlush) : Row.ofLine row.line = row := by
  have hmargin : ∀ c ∈ List.replicate (2 * row.level) ' ', (c == ' ') = true :=
    fun c hc => beq_iff_eq.mpr (List.eq_of_mem_replicate hc)
  have hheadline : ∀ c ∈ row.headline.head?, (c == ' ') = false := by
    intro c hc
    refine beq_false_of_ne ?_
    rintro rfl
    exact absurd (h ' ' hc) (by decide)
  obtain ⟨htake, hdrop⟩ := Text.span_append hmargin hheadline
  rw [Row.ofLine, Row.line, htake, hdrop, List.length_replicate,
    Nat.mul_div_cancel_left _ (by decide)]

/-- A problem all of whose headlines, and of those below it, fit on a line and show there is laid
out with one line for each of them, in order, indented by two spaces for each level, and no line
feed at the end. If no headline starts with a blank, the nesting of the problems can be read off the
text again. -/
theorem message_rows {p : Problem} (h : ∀ row ∈ p.rows 0, IsRow row.headline) :
    p.message.toList = joined ['\n'] ((p.rows 0).map Row.line)
      ∧ contents p.message.toList = (p.rows 0).map Row.line
      ∧ (lines p.message.toList).length = p.count
      ∧ p.message.toList.getLast? ≠ some '\n'
      ∧ ((∀ row ∈ p.rows 0, row.IsFlush) → Headings.ofText? p.message.toList
        = some p.headings) := by
  have hrows : ∀ line ∈ (p.rows 0).map Row.line, IsRow line :=
    List.forall_mem_map.mpr fun row hrow => isRow_line (h row hrow)
  have htext : p.message.toList = joined ['\n'] ((p.rows 0).map Row.line) := by
    rw [message, String.toList_ofList, layout_eq h]
  have hcontents : contents p.message.toList = (p.rows 0).map Row.line := by
    rw [htext, Text.contents_joined hrows]
  refine ⟨htext, hcontents, ?_, ?_, ?_⟩
  · have hlength := congrArg List.length hcontents
    rwa [contents, List.length_map, List.length_map, length_rows] at hlength
  · rw [htext]
    exact Text.EndsInLine.joined fun line hline =>
      ⟨(hrows line hline).ne_nil, .of_not_mem (hrows line hline).unbroken.newline_not_mem⟩
  · intro hflush
    have hend : StartsBy 0 [] := by simp [StartsBy, ofRows]
    have hread := ofRows_rows p hend
    have hlines : ((p.rows 0).map Row.line).map Row.ofLine = p.rows 0 := by
      have hrow : (p.rows 0).map (Row.ofLine ∘ Row.line) = (p.rows 0).map id :=
        List.map_congr_left fun row hrow => ofLine_line (hflush row hrow)
      rw [List.map_map, hrow, List.map_id]
    rw [List.append_nil] at hread
    rw [Headings.ofText?, hcontents, hlines, hread]
    rfl

/-- A problem with two others below it, and one more below the first of them. -/
def threeLevels : Problem :=
  dueTo none (.stated "a")
    [dueTo (some "b") (.stated "c") [plain none (.stated "d * e")], plain none (.stated "f")]

/-- It has four lines, from which its nesting is read. -/
theorem threeLevels_rows :
    (∀ row ∈ threeLevels.rows 0, IsRow row.headline)
      ∧ contents threeLevels.message.toList
        = ["a".toList, "  In b: c".toList, "    d * e".toList, "  f".toList]
      ∧ (lines threeLevels.message.toList).length = 4
      ∧ threeLevels.message.toList.getLast? ≠ some '\n'
      ∧ Headings.ofText? threeLevels.message.toList
        = some ⟨"a".toList, [⟨"In b: c".toList, [⟨"d * e".toList, []⟩]⟩, ⟨"f".toList, []⟩]⟩ := by
  have hfits : ∀ row ∈ threeLevels.rows 0, IsRow row.headline := by decide
  have hflush : ∀ row ∈ threeLevels.rows 0, row.IsFlush := by decide
  obtain ⟨-, hcontents, hlength, hlast, hread⟩ := message_rows hfits
  exact ⟨hfits, hcontents, hlength, hlast, hread hflush⟩

end Problem

end EntityCompiler
