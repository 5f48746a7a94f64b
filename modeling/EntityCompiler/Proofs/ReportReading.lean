import EntityCompiler.Proofs.LineByLine
import EntityCompiler.Proofs.Wording
import Mathlib.Data.List.SplitBy

/-!
# Reading reports

What a report says can be read off it. Below the headline the bullets show where each failure
starts, and a failure is found again behind its bullet by taking the margins of its further lines
off, unless its first line is blank (`Report.render_readable`): a blank line gets no margin, so the
bullet takes the place of two characters of the failure itself.
-/

namespace EntityCompiler

/-! ## Hanging texts -/

namespace Text

/-- A text whose lines after the first one stand behind a margin, unless they are blank. -/
def hanging (margin cs : List Char) : List Char :=
  match lines cs with
  | [] => []
  | l :: ls => textOf (l :: ls.map (Line.indented margin))

/-- The line without its margin; a blank line has none. -/
def Line.unindented? (margin : List Char) (l : Line) : Option Line :=
  if allBlank l.whole then some l
  else (margin.isPrefixOf? l.content).map fun content => { l with content }

/-- A text whose lines after the first one are freed of the margin, if they all have it. -/
def unhung? (margin cs : List Char) : Option (List Char) :=
  match lines cs with
  | [] => some []
  | l :: ls => (ls.mapM (Line.unindented? margin)).map fun inner => textOf (l :: inner)

variable {margin : List Char}

/-- A margin that is blank can be taken off a line exactly as it is put there. -/
lemma unindented?_eq_some_iff (hblank : allBlank margin = true) {l inner : Line} :
    l.unindented? margin = some inner ↔ inner.indented margin = l := by
  have hwhole (content ending : List Char) :
      allBlank (Line.whole ⟨margin ++ content, ending⟩)
        = allBlank (Line.whole ⟨content, ending⟩) := by
    unfold Line.whole
    rw [List.append_assoc, allBlank, List.all_append, ← allBlank, hblank, Bool.true_and, allBlank]
  obtain ⟨content, ending⟩ := l
  obtain ⟨content', ending'⟩ := inner
  unfold Line.unindented? Line.indented
  constructor
  · intro h
    split at h
    next hb =>
      rw [← Option.some.inj h, if_pos hb]
    next hv =>
      obtain ⟨behind, hbehind, hinner⟩ := Option.map_eq_some_iff.mp h
      obtain ⟨rfl, rfl⟩ := Line.mk.inj hinner
      obtain rfl := List.isPrefixOf?_eq_some_iff_append_eq.mp hbehind
      rw [hwhole] at hv
      rw [if_neg hv]
  · intro h
    split at h
    next hb => rw [← h, if_pos hb]
    next hv =>
      obtain ⟨rfl, rfl⟩ := Line.mk.inj h
      rw [if_neg (by rwa [hwhole])]
      dsimp only
      rw [List.isPrefixOf?_eq_some_iff_append_eq.mpr rfl]
      rfl

lemma mapM_unindented?_eq_some_iff (hblank : allBlank margin = true) {ls inner : List Line} :
    ls.mapM (Line.unindented? margin) = some inner ↔ inner.map (Line.indented margin) = ls := by
  induction ls generalizing inner with
  | nil =>
    rw [List.mapM_nil, List.map_eq_nil_iff, Option.pure_def, Option.some.injEq, eq_comm]
  | cons l ls ih =>
    simp only [List.mapM_cons, Option.bind_eq_bind, Option.bind_eq_some_iff, Option.pure_def,
      Option.some.injEq, unindented?_eq_some_iff hblank, ih, List.map_eq_cons_iff]
    constructor
    · rintro ⟨first, hfirst, others, hothers, rfl⟩
      exact ⟨first, others, rfl, hfirst, hothers⟩
    · rintro ⟨first, others, rfl, hfirst, hothers⟩
      exact ⟨first, hfirst, others, hothers, rfl⟩

/-- A text is read out of the hanging form of it, and out of nothing else. -/
theorem unhung?_eq_some_iff (hmargin : Unbroken margin) (hblank : allBlank margin = true)
    {cs text : List Char} : unhung? margin cs = some text ↔ hanging margin text = cs := by
  have hkeeps := keepsBreaks_indented hmargin
  constructor
  · intro h
    unfold unhung? at h
    unfold hanging
    split at h
    next hcs =>
      rw [← Option.some.inj h, lines, ← textOf_lines cs, hcs, textOf_nil]
    next l ls hcs =>
      obtain ⟨inner, hinner, rfl⟩ := Option.map_eq_some_iff.mp h
      rw [mapM_unindented?_eq_some_iff hblank] at hinner
      -- the lines of the text are those that are left without their margins
      have hlines : AreLines (l :: inner) := by
        rw [← hkeeps.areLines_cons_map_iff, hinner, ← hcs]
        exact areLines_lines cs
      rw [hlines.lines_eq]
      dsimp only
      rw [hinner, ← hcs, textOf_lines]
  · rintro rfl
    unfold hanging
    have hlines := areLines_lines text
    split
    next htext =>
      rw [unhung?, lines, ← textOf_lines text, htext, textOf_nil]
    next l ls htext =>
      rw [htext, ← hkeeps.areLines_cons_map_iff] at hlines
      rw [unhung?, hlines.lines_eq]
      dsimp only
      rw [(mapM_unindented?_eq_some_iff hblank).mpr rfl, Option.map_some, ← htext, textOf_lines]

end Text

namespace Report

open Text (hanging unhung? unhung?_eq_some_iff isBreak allBlank lines indent Line)

/-! ## Reading a failure -/

/-- The failure that a bullet point tells about: the text behind the bullet, without the line feed
at the end and without the margins of the further lines. -/
def readItem? (block : List Char) : Option (List Char) := do
  let text ← ['*', ' '].isPrefixOf? block
  if text.getLast? = some '\n' then unhung? [' ', ' '] text.dropLast else none

/-- A text whose first line is not blank. -/
def StartsVisibly (cs : List Char) : Prop :=
  ∃ l ls, lines cs = l :: ls ∧ allBlank l.whole = false

lemma readItem?_item_eq_some_iff {cs text : List Char} :
    readItem? (item cs) = some text ↔ hanging [' ', ' '] text = (indent [' ', ' '] cs).drop 2 := by
  have hbullet : ['*', ' '].isPrefixOf? (item cs)
      = some ((indent [' ', ' '] cs).drop 2 ++ ['\n']) :=
    List.isPrefixOf?_eq_some_iff_append_eq.mpr (by rw [item, List.append_assoc])
  unfold readItem?
  rw [hbullet, Option.bind_eq_bind, Option.bind_some, List.getLast?_concat, if_pos rfl,
    List.dropLast_concat]
  exact unhung?_eq_some_iff (by decide) (by decide)

/-- The bullet takes the place of the first margin exactly if the first line has one. -/
lemma hanging_eq_drop_indent_iff {cs : List Char} (hne : cs ≠ []) :
    hanging [' ', ' '] cs = (indent [' ', ' '] cs).drop 2 ↔ StartsVisibly cs := by
  rw [Text.indent_eq, StartsVisibly, hanging]
  cases hcs : lines cs with
  | nil =>
    rw [← Text.textOf_lines cs, hcs] at hne
    contradiction
  | cons l ls =>
    have hfirst : (∃ first rest, l :: ls = first :: rest ∧ allBlank first.whole = false)
        ↔ allBlank l.whole = false := by
      simp
    rw [hfirst]
    dsimp only
    rw [List.map_cons, Text.textOf_cons, Text.textOf_cons, Line.indented]
    split
    next hblank =>
      -- nothing stands in front of a blank line that could be left out
      rw [hblank]
      refine iff_of_false (fun heq => ?_) (by simp)
      have hlength := congrArg List.length heq
      have hpos :=
        List.length_pos_iff.mpr (Text.whole_ne_nil_of_mem_lines (hcs ▸ List.mem_cons_self))
      rw [List.length_drop, List.length_append] at hlength
      omega
    next hvisible =>
      exact iff_of_true rfl (by simpa using hvisible)

/-- Behind its bullet a failure is found again exactly if its first line is not blank. -/
theorem readItem?_item_iff {cs : List Char} (h : itemFits cs = true) :
    readItem? (item cs) = some cs ↔ StartsVisibly cs := by
  obtain ⟨⟨c, rest, rfl, -⟩, -⟩ := itemFits_iff.mp h
  exact readItem?_item_eq_some_iff.trans (hanging_eq_drop_indent_iff (List.cons_ne_nil c rest))

/-! ## Telling the failures apart -/

/-- Do two characters in a row stand in the same bullet point? A bullet at the start of a line opens
the next one. -/
def goesOn (a b : Char) : Bool :=
  !(isBreak a && b == '*')

/-- The bullet points of a report, below its headline. -/
def blocks (text : List Char) : List (List Char) :=
  text.splitBy goesOn

lemma goesOn_of_not_isBreak {a : Char} (h : isBreak a = false) (b : Char) : goesOn a b = true := by
  rw [goesOn, h]
  rfl

lemma goesOn_of_ne {b : Char} (h : b ≠ '*') (a : Char) : goesOn a b = true := by
  rw [goesOn, beq_false_of_ne h, Bool.and_false]
  rfl

/-- No bullet stands within a line behind a break of it. -/
lemma isChain_whole_of_mem {ls : List Line} (h : Text.AreLines ls) :
    ∀ l ∈ ls, l.whole.IsChain fun a b => goesOn a b = true := by
  have hwhole {content ending : List Char} (hcontent : Text.Unbroken content)
      (hending : ending.IsChain fun a b => goesOn a b = true) :
      (Line.whole ⟨content, ending⟩).IsChain fun a b => goesOn a b = true := by
    induction content with
    | nil => exact hending
    | cons c content ih =>
      refine List.isChain_cons.mpr ⟨?_, ih hcontent.tail⟩
      exact fun b _ => goesOn_of_not_isBreak (hcontent c List.mem_cons_self) b
  induction h with
  | nil => simp
  | last _ h => simpa using hwhole h .nil
  | cons h hending _ ih =>
    refine List.forall_mem_cons.mpr ⟨hwhole h ?_, ih⟩
    rcases hending with rfl | ⟨c, rfl, -⟩
    · decide
    · exact .singleton _

lemma head?_indented_ne (l : Line) : (l.indented [' ', ' ']).whole.head? ≠ some '*' := by
  unfold Line.indented
  split
  next hblank =>
    intro hhead
    have hmem := List.mem_of_head? hhead
    have := List.all_eq_true.mp hblank '*' hmem
    contradiction
  next => simp [Line.whole]

/-- A text is one block if no bullet stands at the start of its lines. -/
lemma isChain_of_forall_lines {cs : List Char} (h : ∀ l ∈ lines cs, l.whole.head? ≠ some '*') :
    cs.IsChain fun a b => goesOn a b = true := by
  have hlines : [] ∉ (lines cs).map Line.whole := by
    intro hmem
    obtain ⟨l, hl, hnil⟩ := List.mem_map.mp hmem
    exact Text.whole_ne_nil_of_mem_lines hl hnil
  -- two characters in a row stand in one line, or the second one starts a line
  rw [← Text.flatMap_whole_lines cs, List.flatMap_def, List.isChain_flatten hlines]
  constructor
  · exact List.forall_mem_map.mpr (isChain_whole_of_mem (Text.areLines_lines cs))
  · refine List.Pairwise.isChain (List.pairwise_of_forall_mem_list ?_)
    intro first _ second hsecond a _ b hb
    obtain ⟨l, hl, rfl⟩ := List.mem_map.mp hsecond
    refine goesOn_of_ne ?_ a
    rintro rfl
    exact h l hl hb

/-- A bullet point is one block. -/
lemma isChain_item (cs : List Char) : (item cs).IsChain fun a b => goesOn a b = true := by
  have hindented : (indent [' ', ' '] cs).IsChain fun a b => goesOn a b = true := by
    refine isChain_of_forall_lines ?_
    rw [Text.lines_indent (by decide)]
    exact List.forall_mem_map.mpr fun l _ => head?_indented_ne l
  have hbullet : ['*', ' '].IsChain fun a b => goesOn a b = true := by decide
  refine (hbullet.append (hindented.drop 2) ?_).append (.singleton '\n') ?_
  · intro a ha b _
    obtain rfl : ' ' = a := by simpa using ha
    exact goesOn_of_not_isBreak rfl b
  · intro a _ b hb
    obtain rfl : '\n' = b := by simpa using hb
    exact goesOn_of_ne (by decide) a

/-- The bullet points of a report are found again, whatever failures it tells about. -/
theorem blocks_flatMap_item (failures : List (List Char)) :
    blocks (failures.flatMap item) = failures.map item := by
  have hne : [] ∉ failures.map item := by simp [item]
  rw [blocks, List.flatMap_def]
  refine List.splitBy_flatten hne (List.forall_mem_map.mpr fun cs _ => isChain_item cs) ?_
  refine List.Pairwise.isChain (List.pairwise_of_forall_mem_list ?_)
  -- where two bullet points meet, a line feed stands in front of a bullet
  intro first hfirst second hsecond
  obtain ⟨cs, -, rfl⟩ := List.mem_map.mp hfirst
  obtain ⟨ds, -, rfl⟩ := List.mem_map.mp hsecond
  have hbreak : isBreak '\n' = true := rfl
  exact ⟨by simp [item], by simp [item], by simp [item, goesOn, hbreak]⟩

/-- A report is its headline with a colon and one bullet point for each failure, in their order, and
the bullet points can be told apart. Behind its bullet a failure is found again exactly if its first
line is not blank. -/
theorem render_readable {headline : String} {failures : List String}
    (hheadline : headlineFits headline.toList = true)
    (hfailures : ∀ f ∈ failures, itemFits f.toList = true) :
    ∃ report below, render headline failures = .ok report
      ∧ report.toList = headline.toList ++ ':' :: '\n' :: below
      ∧ blocks below = failures.map (item ·.toList)
      ∧ ∀ f ∈ failures, readItem? (item f.toList) = some f.toList ↔ StartsVisibly f.toList := by
  have hall : (failures.all fun f => itemFits f.toList) = true := List.all_eq_true.mpr hfailures
  have hrender : render headline failures
      = .ok (headline ++ ":\n" ++ String.ofList (failures.flatMap (item ·.toList))) := by
    rw [render, hheadline, hall]
    rfl
  refine ⟨_, failures.flatMap (item ·.toList), hrender, by simp, ?_, ?_⟩
  · have hblocks := blocks_flatMap_item (failures.map String.toList)
    rwa [List.flatMap_map, List.map_map] at hblocks
  · intro f hf
    exact readItem?_item_iff (hfailures f hf)

/-- Failures with blank lines, breaks of several kinds, and a star at the start of a line. -/
def spacedFailures : List String := ["In a:\r\n\n  * b\n\t \x0b* c", "  d\re"]

/-- Both failures are found again. -/
theorem spacedFailures_readable :
    headlineFits "Failed".toList = true ∧ (∀ f ∈ spacedFailures, itemFits f.toList = true)
      ∧ ∃ report below, render "Failed" spacedFailures = .ok report
        ∧ report.toList = "Failed".toList ++ ':' :: '\n' :: below
        ∧ blocks below = spacedFailures.map (item ·.toList)
        ∧ ∀ f ∈ spacedFailures, readItem? (item f.toList) = some f.toList := by
  have hheadline : headlineFits "Failed".toList = true := by decide
  have hfailures : ∀ f ∈ spacedFailures, itemFits f.toList = true := by decide
  have hvisible : ∀ f ∈ spacedFailures, StartsVisibly f.toList :=
    List.forall_mem_cons.mpr ⟨⟨_, _, rfl, rfl⟩, List.forall_mem_singleton.mpr ⟨_, _, rfl, rfl⟩⟩
  obtain ⟨report, below, hrender, hreport, hblocks, hread⟩ := render_readable hheadline hfailures
  exact ⟨hheadline, hfailures, report, below, hrender, hreport, hblocks,
    fun f hf => (hread f hf).mpr (hvisible f hf)⟩

/-- A failure whose first line is blank. -/
def blankStart : String := " \nfoo"

/-- Its report is that of another failure, and from it the other one is read. -/
theorem blankStart_lost :
    headlineFits "Failed".toList = true ∧ itemFits blankStart.toList = true
      ∧ itemFits "  foo".toList = true
      ∧ render "Failed" [blankStart] = .ok "Failed:\n*   foo\n"
      ∧ render "Failed" ["  foo"] = .ok "Failed:\n*   foo\n"
      ∧ readItem? (item blankStart.toList) = some "  foo".toList
      ∧ readItem? (item blankStart.toList) ≠ some blankStart.toList := by
  refine ⟨by decide, by decide, by decide, rfl, rfl, ?_, ?_⟩
  · rfl
  · decide

end Report

end EntityCompiler
