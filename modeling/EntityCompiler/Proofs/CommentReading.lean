import EntityCompiler.Proofs.Comments

/-!
# Reading documentation comments

What a description says can be read off its comment. Between the line that opens the comment and the
one that closes it stand the lines of the description, each behind a margin, with a backslash in
every end of a comment (`DocComment.ofText?_readable`). Taking the backslashes out again gives back
any description that had none there itself.
-/

namespace EntityCompiler

/-! ## Replacing a part of a text -/

namespace Text

/-- A text with `new` in the place of each occurrence of `old`, from its front to its end. -/
def replaced (old new : List Char) : List Char → List Char
  | [] => []
  | c :: cs =>
    if old.isPrefixOf (c :: cs) then new ++ replaced old new (cs.drop (old.length - 1))
    else c :: replaced old new cs
termination_by text => text.length
decreasing_by
  · simp only [List.length_drop, List.length_cons]
    omega
  · simp

variable {old new : List Char}

lemma replaced_append (hold : old ≠ []) (rest : List Char) :
    replaced old new (old ++ rest) = new ++ replaced old new rest := by
  obtain ⟨c, cs, rfl⟩ := List.exists_cons_of_ne_nil hold
  have hprefix : (c :: cs).isPrefixOf (c :: (cs ++ rest)) = true :=
    List.isPrefixOf_iff_prefix.mpr ⟨rest, rfl⟩
  rw [List.cons_append, replaced, if_pos hprefix, List.length_cons, Nat.add_sub_cancel,
    List.drop_left]

lemma replaced_cons {c : Char} {cs : List Char} (h : ¬ old <+: c :: cs) :
    replaced old new (c :: cs) = c :: replaced old new cs := by
  rw [replaced, if_neg]
  rw [List.isPrefixOf_iff_prefix]
  exact h

end Text

namespace DocComment

/-- The end of a comment, taken apart by a backslash. -/
def broken : List Char := ['*', '\x5c', '/']

/-- A text is escaped by taking every end of a comment in it apart. -/
lemma escape_eq (cs : List Char) : escape cs = Text.replaced closing broken cs := by
  induction cs using escape.induct with
  | case1 rest ih =>
    have hreplaced : Text.replaced closing broken (closing ++ rest)
        = broken ++ Text.replaced closing broken rest := Text.replaced_append (by decide) rest
    rw [escape, ih]
    exact hreplaced.symm
  | case2 c rest hc ih =>
    have hnone : ¬ closing <+: c :: rest := by
      rintro ⟨behind, heq⟩
      obtain ⟨rfl, rfl⟩ := List.cons.inj heq
      exact hc behind rfl rfl
    rw [Text.replaced_cons hnone, ← ih, escape]
    exact hc
  | case3 => rw [escape, Text.replaced]

/-- No end of a comment that is taken apart comes about by escaping, except for those that are put
there. -/
lemma not_broken_prefix_escape {c : Char} {rest : List Char} (h : ¬ broken <:+: c :: rest) :
    ¬ broken <+: c :: escape rest := by
  rintro ⟨behind, heq⟩
  obtain ⟨rfl, hrest⟩ := List.cons.inj heq
  -- a backslash is in the text itself, and so is the slash behind it
  cases rest with
  | nil => contradiction
  | cons d rest =>
    have hd := head?_escape (d :: rest)
    rw [← hrest] at hd
    obtain rfl : '\x5c' = d := Option.some.inj hd
    rw [escape] at hrest
    · obtain ⟨-, hrest⟩ := List.cons.inj hrest
      cases rest with
      | nil => contradiction
      | cons e rest =>
        have he := head?_escape (e :: rest)
        rw [← hrest] at he
        obtain rfl : '/' = e := Option.some.inj he
        exact h (List.infix_iff_prefix_suffix.mpr ⟨_, ⟨rest, rfl⟩, List.suffix_refl _⟩)
    · simp

/-- Escaping is undone by putting the ends of comments together again, in a text that has none
apart. -/
lemma replaced_escape {cs : List Char} (h : ¬ broken <:+: cs) :
    Text.replaced broken closing (escape cs) = cs := by
  induction cs using escape.induct with
  | case1 rest ih =>
    have hrest : ¬ broken <:+: rest := fun hinside =>
      h (hinside.trans (List.suffix_append closing rest).isInfix)
    have hreplaced : Text.replaced broken closing (broken ++ escape rest)
        = closing ++ Text.replaced broken closing (escape rest) :=
      Text.replaced_append (by decide) (escape rest)
    rw [ih hrest] at hreplaced
    rw [escape]
    exact hreplaced
  | case2 c rest hc ih =>
    have hrest : ¬ broken <:+: rest := fun hinside =>
      h (hinside.trans (List.suffix_cons c rest).isInfix)
    have hnone := not_broken_prefix_escape h
    rw [escape]
    · rw [Text.replaced_cons hnone, ih hrest]
    · exact hc
  | case3 => rw [escape, Text.replaced]

/-! ## The lines of a comment -/

/-- What stands in front of each line of a description. -/
def margin : List Char := [' ', '*', ' ']

/-- What a comment says: the lines between its first and its last one, without their margins. -/
def content? (comment : DocComment) : Option (List Char) :=
  match comment.text.toList.splitOn '\n' with
  | [] => none
  | first :: others =>
    if first = opening ∧ others.getLast? = some (' ' :: closing) then
      (others.dropLast.mapM (margin.isPrefixOf? ·)).map (['\n'].intercalate ·)
    else none

/-- The lines of the comment for a description. -/
def linesOf (description : List Char) : List (List Char) :=
  ((escape description).splitOn '\n').map (margin ++ ·)

lemma flatMap_placed_of_not_mem {line : List Char} (h : '\n' ∉ line) :
    line.flatMap placed = line := by
  induction line with
  | nil => rfl
  | cons c cs ih =>
    rw [List.mem_cons, not_or] at h
    rw [List.flatMap_cons, placed_of_ne (Ne.symm h.1), ih h.2, List.singleton_append]

/-- Lines that are placed have their margins. -/
lemma margin_append_placed {lines : List (List Char)} (h : ∀ line ∈ lines, '\n' ∉ line)
    (hne : lines ≠ []) : margin ++ (['\n'].intercalate lines).flatMap placed
      = ['\n'].intercalate (lines.map (margin ++ ·)) := by
  induction lines with
  | nil => contradiction
  | cons line lines ih =>
    rw [List.forall_mem_cons] at h
    cases lines with
    | nil => simp [flatMap_placed_of_not_mem h.1]
    | cons next lines =>
      have hrest := ih h.2 (List.cons_ne_nil next lines)
      rw [List.intercalate_cons_cons, List.map_cons, List.map_cons, List.intercalate_cons_cons,
        ← List.map_cons, ← hrest]
      simp only [List.flatMap_append, List.flatMap_singleton, flatMap_placed_of_not_mem h.1,
        placed_newline, List.append_assoc]
      rfl

lemma newline_not_mem_splitOn (cs : List Char) : ∀ line ∈ cs.splitOn '\n', '\n' ∉ line := by
  induction cs with
  | nil => simp
  | cons c cs ih =>
    rw [List.splitOn_cons_eq_if_modifyHead]
    split
    next => exact List.forall_mem_cons.mpr ⟨List.not_mem_nil, ih⟩
    next hc =>
      cases hlines : cs.splitOn '\n' with
      | nil => simp
      | cons line lines =>
        rw [hlines, List.forall_mem_cons] at ih
        refine List.forall_mem_cons.mpr ⟨?_, ih.2⟩
        rw [List.mem_cons, not_or]
        exact ⟨fun heq => hc (beq_iff_eq.mpr heq.symm), ih.1⟩

/-- A comment in its lines. -/
lemma splitOn_charsOf (description : List Char) : (charsOf description).splitOn '\n'
    = opening :: (linesOf description ++ [' ' :: closing]) := by
  have hlines := newline_not_mem_splitOn (escape description)
  have hplaced := margin_append_placed hlines (List.splitOn_ne_nil _ _)
  rw [List.intercalate_splitOn] at hplaced
  have hcontent :
      (margin ++ (escape description).flatMap placed).splitOn '\n' = linesOf description := by
    rw [hplaced]
    apply List.splitOn_intercalate
    · intro line hline
      obtain ⟨inner, hinner, rfl⟩ := List.mem_map.mp hline
      rw [List.mem_append, not_or]
      exact ⟨by decide, hlines inner hinner⟩
    · simp
  have hchars : charsOf description
      = opening
        ++ '\n' :: (margin ++ (escape description).flatMap placed ++ '\n' :: ' ' :: closing) := by
    rw [charsOf_eq, innerOf]
    simp [lineStart, margin]
  rw [hchars, List.splitOn_append_cons_self, List.splitOn_append_cons_self, hcontent]
  rfl

/-- From the comment for a description its escaped text is read. -/
lemma content?_charsOf (description : List Char) :
    content? ⟨String.ofList (charsOf description)⟩ = some (escape description) := by
  have hmargin :
      (margin.isPrefixOf? ·) ∘ (margin ++ ·) = (pure : List Char → Option (List Char)) := by
    funext line
    exact List.isPrefixOf?_eq_some_iff_append_eq.mpr rfl
  have hread : (linesOf description).mapM (margin.isPrefixOf? ·)
      = some ((escape description).splitOn '\n') := by
    rw [linesOf, List.mapM_map, hmargin, List.mapM_pure, List.map_id']
    rfl
  unfold content?
  rw [String.toList_ofList, splitOn_charsOf]
  dsimp only
  rw [if_pos ⟨rfl, List.getLast?_concat⟩, List.dropLast_concat, hread, Option.map_some,
    List.intercalate_splitOn]

/-- The end of a comment occurs nowhere but at its end. -/
lemma eq_nil_of_charsOf_eq {description before after : List Char}
    (h : charsOf description = before ++ closing ++ after) : after = [] := by
  by_contra hafter
  have hchain : (opening ++ innerOf description ++ ['*']).IsChain StaysOpen := by
    refine .append (.append ?_ (isChain_innerOf description) ?_) (.singleton _) ?_
    · simp [opening, StaysOpen]
    · intro x _ y hy hclose
      rw [hclose.2] at hy
      simp [innerOf, lineStart] at hy
    · intro x _ y hy hclose
      rw [hclose.2] at hy
      simp at hy
  apply not_closing_infix_of_isChain hchain
  -- without the last character, the comment would still hold an end
  obtain ⟨inner, last, rfl⟩ := List.eq_nil_or_concat after |>.resolve_left hafter
  have hwhole : opening ++ innerOf description ++ ['*'] ++ ['/']
      = before ++ closing ++ inner ++ [last] := by
    rw [List.concat_eq_append, ← List.append_assoc, charsOf_eq] at h
    rw [List.append_assoc _ ['*'] ['/'], ← h]
    rfl
  have hfront := congrArg List.dropLast hwhole
  rw [List.dropLast_concat, List.dropLast_concat] at hfront
  exact ⟨before, inner, hfront.symm⟩

/-- The comment for a description passes the check, which leaves it as it is. -/
lemma checked_charsOf (description : String) :
    checked ⟨String.ofList (charsOf description.toList)⟩
      = .ok ⟨String.ofList (charsOf description.toList)⟩ := by
  obtain ⟨comment, hcomment, -⟩ := ofText_eq_ok description
  unfold ofText at hcomment
  have hsame := hcomment
  unfold checked at hsame
  obtain ⟨-, -, hsame⟩ := Outcome.bind_eq_ok.mp hsame
  obtain ⟨-, -, hsame⟩ := Outcome.bind_eq_ok.mp hsame
  rw [hcomment, Outcome.pure_eq_ok.mp hsame]

lemma ofText?_eq {text : String} (htext : text ≠ "") :
    ofText? (some text) = .ok (some ⟨String.ofList (charsOf text.toList)⟩) := by
  have hsome : text.isEmpty = false := by simpa using htext
  show (if text.isEmpty then .ok none else (ofText text).map some) = _
  rw [hsome, ofText, checked_charsOf]
  rfl

/-- A description that is not empty has a comment, which keeps its contracts and is closed at its
end and nowhere else. Its lines, without the first and the last one and without their margins, are
those of the description, in which each end of a comment is taken apart. So the description is found
again if it has no such part itself. -/
theorem ofText?_readable {text : String} (htext : text ≠ "") :
    ∃ comment, ofText? (some text) = .ok (some comment)
      ∧ checked comment = .ok comment
      ∧ (∀ before after, comment.text.toList = before ++ closing ++ after → after = [])
      ∧ comment.content? = some (Text.replaced closing broken text.toList)
      ∧ (¬ broken <:+: text.toList →
        Text.replaced broken closing (Text.replaced closing broken text.toList) = text.toList) := by
  refine ⟨_, ofText?_eq htext, checked_charsOf text, ?_, ?_, ?_⟩
  · intro before after h
    rw [String.toList_ofList] at h
    exact eq_nil_of_charsOf_eq h
  · rw [content?_charsOf, escape_eq]
  · intro hnone
    rw [← escape_eq]
    exact replaced_escape hnone

/-- A description with ends of comments next to stars, slashes and line breaks. -/
def starredText : String := "**//\n/x*/\r\n\n*"

/-- Its comment has each end taken apart, and the lines start anew at line feeds only. -/
theorem starredText_readable :
    starredText ≠ "" ∧ ¬ broken <:+: starredText.toList
      ∧ ∃ comment, ofText? (some starredText) = .ok (some comment)
        ∧ comment.text.toList = "/**\n * **\\//\n * /x*\\/\r\n * \n * *\n */".toList
        ∧ comment.content? = some (Text.replaced closing broken starredText.toList)
        ∧ Text.replaced broken closing (Text.replaced closing broken starredText.toList)
          = starredText.toList := by
  have hne : starredText ≠ "" := by decide
  have hnone : ¬ broken <:+: starredText.toList := by
    rw [← Text.occurs_iff]
    decide
  obtain ⟨comment, hcomment, -, -, hcontent, hundone⟩ := ofText?_readable hne
  refine ⟨hne, hnone, comment, hcomment, ?_, hcontent, hundone hnone⟩
  rw [ofText?_eq hne] at hcomment
  rw [← Option.some.inj (Except.ok.inj hcomment), String.toList_ofList]
  rfl

end DocComment

end EntityCompiler
