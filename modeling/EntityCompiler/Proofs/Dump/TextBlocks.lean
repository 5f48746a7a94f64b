import EntityCompiler.Outline
import EntityCompiler.Proofs.Dump.Quotes
import EntityCompiler.Proofs.LineByLine

/-!
# Dumps of texts

When two texts have the same dump. A quoted text can be read back, but a text that is shown line by
line cannot: of each line only what it holds is shown, so neither the kind of its break can be told
nor whether the last line has one (`Outline.dump_text_eq_iff`).
-/

namespace EntityCompiler

/-! ## Doubled backslashes -/

namespace Text

/-- A text with every backslash doubled. -/
def doubled (cs : List Char) : List Char :=
  cs.flatMap fun c => if c == '\x5c' then [c, c] else [c]

/-- A line with every backslash in it doubled. -/
def Line.doubled (l : Line) : Line :=
  { l with content := Text.doubled l.content }

lemma doubled_cons (c : Char) (cs : List Char) :
    doubled (c :: cs) = (if c == '\x5c' then [c, c] else [c]) ++ doubled cs := rfl

lemma doubled_append (cs ds : List Char) : doubled (cs ++ ds) = doubled cs ++ doubled ds :=
  List.flatMap_append

lemma mem_doubled {c : Char} {cs : List Char} : c ∈ doubled cs ↔ c ∈ cs := by
  unfold doubled
  rw [List.mem_flatMap]
  constructor
  · rintro ⟨d, hd, hc⟩
    split at hc <;> simp_all
  · intro hc
    refine ⟨c, hc, ?_⟩
    split <;> simp

lemma doubled_eq_self {cs : List Char} (h : '\x5c' ∉ cs) : doubled cs = cs := by
  induction cs with
  | nil => rfl
  | cons c cs ih =>
    rw [List.mem_cons, not_or] at h
    rw [doubled_cons, if_neg (by simpa using Ne.symm h.1), ih h.2, List.singleton_append]

lemma head?_doubled (cs : List Char) : (doubled cs).head? = cs.head? := by
  cases cs with
  | nil => rfl
  | cons c cs =>
    rw [doubled_cons]
    split <;> rfl

lemma doubled_injective : Function.Injective doubled := by
  intro cs ds h
  -- both texts start alike, and what is left when the start is cut off is doubled again
  have hhead := congrArg List.head? h
  rw [head?_doubled, head?_doubled] at hhead
  induction cs generalizing ds with
  | nil => exact (List.head?_eq_none_iff.mp hhead.symm).symm
  | cons c cs ih =>
    obtain ⟨rest, rfl⟩ := List.head?_eq_some_iff.mp hhead.symm
    rw [doubled_cons, doubled_cons, List.append_cancel_left_eq] at h
    have htail := congrArg List.head? h
    rw [head?_doubled, head?_doubled] at htail
    rw [ih h htail]

lemma keepsBreaks_doubled : KeepsBreaks Line.doubled where
  ending _ := rfl
  unbroken l := by
    unfold Unbroken Line.doubled
    simp only [mem_doubled]
  empty l _ := by
    unfold Line.doubled
    simp only [List.eq_nil_iff_forall_not_mem, mem_doubled]

/-- The lines of a text with its backslashes doubled. -/
lemma lines_doubled (cs : List Char) : lines (doubled cs) = (lines cs).map Line.doubled := by
  have htext :
      ∀ {ls : List Line}, AreLines ls → doubled (textOf ls) = textOf (ls.map Line.doubled) := by
    intro ls h
    induction h with
    | nil => rfl
    | last => simp [Line.doubled, Line.whole]
    | cons _ hending _ ih =>
      have hnone : '\x5c' ∉ _ := fun hmem => absurd (hending.isBreak _ hmem) (by decide)
      rw [List.map_cons, textOf_cons, textOf_cons, doubled_append, ih, Line.whole, doubled_append,
        doubled_eq_self hnone]
      rfl
  rw [← keepsBreaks_doubled.lines_textOf_map, ← htext (areLines_lines cs), textOf_lines]

/-! ## Texts shown line by line -/

lemma joined_eq_intercalate (between : List Char) (pieces : List (List Char)) :
    joined between pieces = between.intercalate pieces := by
  induction pieces with
  | nil => rfl
  | cons piece pieces ih =>
    cases pieces with
    | nil => simp [joined]
    | cons next pieces => rw [joined, ih, List.intercalate_cons_cons]

/-- Lines that are joined by line feeds are found again, if there are any. -/
lemma joined_newline_injective {first second : List (List Char)}
    (hfirst : ∀ content ∈ first, '\n' ∉ content) (hsecond : ∀ content ∈ second, '\n' ∉ content)
    (hne : first ≠ []) (hne' : second ≠ []) (h : joined ['\n'] first = joined ['\n'] second) :
    first = second := by
  rw [joined_eq_intercalate, joined_eq_intercalate] at h
  have hsplit := congrArg (List.splitOn '\n') h
  rwa [List.splitOn_intercalate _ hfirst hne, List.splitOn_intercalate _ hsecond hne'] at hsplit

end Text

open Text (contents doubled quotedChars)

namespace Outline

/-- A text that is shown line by line, in terms of what its lines hold. -/
lemma blockText_eq (cs : List Char) : blockText cs = "textwrap.dedent(\"\"\"\\\n".toList
    ++ Text.joined ['\n'] ((contents cs).map fun content => margin ++ doubled content)
    ++ "\"\"\")".toList := by
  have hlines := congrArg (List.map fun l => margin ++ l.content) (Text.lines_doubled cs)
  rw [List.map_map] at hlines
  rw [contents, List.map_map]
  change _ ++ Text.joined ['\n'] ((Text.lines (doubled cs)).map fun l => margin ++ l.content) ++ _
    = _
  rw [hlines]
  rfl

lemma contents_ne_nil {cs : List Char} (h : isBlockText cs = true) : contents cs ≠ [] := by
  intro hnone
  rw [contents, List.map_eq_nil_iff] at hnone
  rw [← Text.textOf_lines cs, hnone] at h
  contradiction

/-- What the lines of a text hold can be read off its block. -/
lemma contents_eq_of_blockText_eq {cs ds : List Char} (hcs : isBlockText cs = true)
    (hds : isBlockText ds = true) (h : blockText cs = blockText ds) :
    contents cs = contents ds := by
  have hinjective : Function.Injective fun content => margin ++ doubled content :=
    (List.append_right_injective margin).comp Text.doubled_injective
  have hlines (text : List Char) :
      ∀ line ∈ (contents text).map fun content => margin ++ doubled content, '\n' ∉ line := by
    refine List.forall_mem_map.mpr fun content hcontent => ?_
    rw [List.mem_append, not_or, Text.mem_doubled]
    exact ⟨by decide, Text.newline_not_mem_contents text content hcontent⟩
  rw [blockText_eq, blockText_eq, List.append_cancel_right_eq, List.append_cancel_left_eq] at h
  refine List.map_injective_iff.mpr hinjective
    (Text.joined_newline_injective (hlines cs) (hlines ds) ?_ ?_ h)
  · simpa using contents_ne_nil hcs
  · simpa using contents_ne_nil hds

/-- A block starts with a letter, and a quoted text with a quote. -/
lemma blockText_ne_quotedChars (cs ds : List Char) : blockText cs ≠ quotedChars ds := by
  intro h
  have hhead : 't' = Text.quoteFor ds := List.head_eq_of_cons_eq h
  rcases Text.quoteFor_cases ds with hquote | hquote
  all_goals
    rw [hquote] at hhead
    contradiction

/-- Texts that are shown line by line have the same dump if their lines hold the same. -/
lemma dump_text_eq_of_contents {s t : String} (hs : isBlockText s.toList = true)
    (ht : isBlockText t.toList = true) (h : contents s.toList = contents t.toList) :
    dump (text s) = dump (text t) := by
  rw [dump, dump, render, render, renderText, renderText, if_pos hs, if_pos ht, blockText_eq,
    blockText_eq, h]

/-- Two texts have the same dump only if they are the same, or if both are shown line by line and
their lines hold the same. -/
theorem dump_text_eq_iff (s t : String) : dump (text s) = dump (text t)
    ↔ s = t ∨ isBlockText s.toList = true ∧ isBlockText t.toList = true
      ∧ contents s.toList = contents t.toList := by
  constructor
  · intro h
    rw [dump, dump, String.ofList_inj, render, render, renderText, renderText] at h
    split at h
    next hs =>
      split at h
      next ht => exact .inr ⟨hs, ht, contents_eq_of_blockText_eq hs ht h⟩
      next => exact absurd h (blockText_ne_quotedChars _ _)
    next =>
      split at h
      next => exact absurd h.symm (blockText_ne_quotedChars _ _)
      next =>
        have hquoted := congrArg (· ++ []) h
        exact .inl (String.toList_inj.mp (Text.quotedChars_prefix hquoted).1)
  · rintro (rfl | ⟨hs, ht, hcontents⟩)
    · rfl
    · exact dump_text_eq_of_contents hs ht hcontents

/-- A line feed at the end is not shown, and a vertical tab is shown as a line feed. -/
theorem unequalBlocks_same_dump :
    "a\nb\n" ≠ "a\nb" ∧ dump (text "a\nb\n") = dump (text "a\nb")
      ∧ "a\nb\x0bc" ≠ "a\nb\nc" ∧ dump (text "a\nb\x0bc") = dump (text "a\nb\nc") := by
  refine ⟨by decide, ?_, by decide, ?_⟩
  · exact dump_text_eq_of_contents (by decide) (by decide) (by decide)
  · exact dump_text_eq_of_contents (by decide) (by decide) (by decide)

end Outline

end EntityCompiler
