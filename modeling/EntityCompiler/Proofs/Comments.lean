import EntityCompiler.Declaration.Comment
import EntityCompiler.Proofs.Outcome
import Mathlib.Data.List.Chain

/-!
# Documentation comments

Whatever a description says, its comment is closed at the end and nowhere before. An asterisk and a
slash behind it are two neighbours, so the argument is about neighbours only: the escape puts a
backslash between any two that would close the comment, and the start of a line brings none
together.
-/

namespace EntityCompiler

lemma Text.occurs_iff {pattern text : List Char} :
    occurs pattern text = true ↔ pattern <:+: text := by
  unfold occurs
  induction text with
  | nil =>
    rw [splitAt?, List.infix_nil, ← List.isEmpty_iff]
    cases pattern.isEmpty <;> simp
  | cons c cs ih =>
    rw [splitAt?, List.infix_cons_iff, ← ih, ← List.isPrefixOf_iff_prefix]
    cases pattern.isPrefixOf (c :: cs) <;> simp

namespace DocComment

/-- A comment that is closed at its end, and only there. -/
def Lawful (comment : DocComment) : Prop :=
  ∃ inner, comment.text.toList = opening ++ inner ++ closing ∧ ¬ closing <:+: inner

/-- Neighbours that do not close a comment. -/
def StaysOpen (a b : Char) : Prop := ¬ (a = '*' ∧ b = '/')

lemma not_closing_infix_of_isChain {cs : List Char} (h : cs.IsChain StaysOpen) :
    ¬ closing <:+: cs := by
  intro hinfix
  have hclosing : closing.IsChain StaysOpen := h.infix hinfix
  exact List.isChain_pair.mp hclosing ⟨rfl, rfl⟩

lemma head?_escape (cs : List Char) : (escape cs).head? = cs.head? := by
  fun_cases escape cs <;> rfl

/-- No two neighbours in an escaped text close a comment. -/
lemma isChain_escape (cs : List Char) : (escape cs).IsChain StaysOpen := by
  induction cs using escape.induct with
  | case1 rest ih =>
    rw [escape]
    refine .cons_cons ?_ (.cons_cons ?_ (ih.cons fun c _ => ?_))
    · exact fun h => absurd h.2 (by decide)
    · exact fun h => absurd h.1 (by decide)
    · exact fun h => absurd h.1 (by decide)
  | case2 c rest hc ih =>
    -- an asterisk in front of a slash is the case before, so no slash follows an asterisk here
    rw [escape]
    · refine ih.cons fun d hd h => ?_
      rw [head?_escape] at hd
      obtain ⟨rfl, rfl⟩ := h
      cases rest with
      | nil => contradiction
      | cons first rest =>
        obtain rfl := Option.some.inj hd
        exact hc rest rfl rfl
    · exact hc
  | case3 => exact .nil

/-- A character of a description as it stands in a comment. -/
def placed (c : Char) : List Char :=
  if c == '\n' then lineStart else [c]

lemma placed_newline : placed '\n' = lineStart := rfl

lemma placed_of_ne {c : Char} (h : c ≠ '\n') : placed c = [c] := by
  rw [placed, if_neg (by simpa using h)]

lemma isChain_placed (c : Char) : (placed c).IsChain StaysOpen := by
  by_cases h : c = '\n'
  · rw [h, placed_newline]
    simp [lineStart, StaysOpen]
  · rw [placed_of_ne h]
    exact .singleton c

/-- Placing two neighbours one after the other brings no new ones together that close a comment. -/
lemma staysOpen_placed {a b : Char} (h : StaysOpen a b) :
    ∀ x ∈ (placed a).getLast?, ∀ y ∈ (placed b).head?, StaysOpen x y := by
  intro x hx y hy hclose
  obtain ⟨rfl, rfl⟩ := hclose
  -- the start of a line ends with a blank and starts with a line feed
  by_cases ha : a = '\n'
  · rw [ha, placed_newline] at hx
    simp [lineStart] at hx
  · by_cases hb : b = '\n'
    · rw [hb, placed_newline] at hy
      simp [lineStart] at hy
    · rw [placed_of_ne ha] at hx
      rw [placed_of_ne hb] at hy
      exact h ⟨by simpa using hx, by simpa using hy⟩

lemma isChain_flatMap_placed {cs : List Char} (h : cs.IsChain StaysOpen) :
    (cs.flatMap placed).IsChain StaysOpen := by
  have hne : ∀ c, placed c ≠ [] := by
    intro c
    unfold placed
    split
    · simp [lineStart]
    · simp
  rw [List.flatMap_def, List.isChain_flatten]
  · refine ⟨?_, ?_⟩
    · intro l hl
      obtain ⟨c, -, rfl⟩ := List.mem_map.mp hl
      exact isChain_placed c
    · rw [List.isChain_map]
      exact h.imp fun _ _ => staysOpen_placed
  · intro hmem
    obtain ⟨c, -, hc⟩ := List.mem_map.mp hmem
    exact hne c hc

/-- What stands between the delimiters of the comment for a description. -/
def innerOf (description : List Char) : List Char :=
  lineStart ++ (escape description).flatMap placed ++ ['\n', ' ']

lemma charsOf_eq (description : List Char) :
    charsOf description = opening ++ innerOf description ++ closing := by
  unfold charsOf innerOf
  simp only [List.append_assoc, List.cons_append, List.nil_append]
  rfl

lemma isChain_innerOf (description : List Char) : (innerOf description).IsChain StaysOpen := by
  have hplaced := isChain_flatMap_placed (isChain_escape description)
  refine .append (.append ?_ hplaced ?_) ?_ ?_
  · simp [lineStart, StaysOpen]
  · intro x hx y _ hclose
    rw [hclose.1] at hx
    simp [lineStart] at hx
  · simp [StaysOpen]
  · intro x _ y hy hclose
    rw [hclose.2] at hy
    simp at hy

lemma not_closing_infix_innerOf (description : List Char) :
    ¬ closing <:+: innerOf description :=
  not_closing_infix_of_isChain (isChain_innerOf description)

open Outcome (Sound)

/-- What stands between the delimiters of a comment is what the check of the comment looks at. -/
lemma take_drop_delimited (inner : List Char) :
    ((opening ++ inner ++ closing).take ((opening ++ inner ++ closing).length - 2)).drop 3
      = inner := by
  have hlength : (opening ++ inner ++ closing).length - 2 = (opening ++ inner).length := by
    rw [List.length_append]
    rfl
  rw [hlength, List.take_left]
  rfl

/-- Every description has a comment, which is closed at its end only. -/
lemma ofText_eq_ok (description : String) :
    ∃ comment, ofText description = .ok comment ∧ comment.Lawful := by
  have hchars := charsOf_eq description.toList
  have hinner := not_closing_infix_innerOf description.toList
  generalize innerOf description.toList = inner at hchars hinner
  refine ⟨⟨String.ofList (opening ++ inner ++ closing)⟩, ?_, inner, String.toList_ofList, hinner⟩
  have hdelimited : (opening.isPrefixOf (opening ++ inner ++ closing)
      && closing.isSuffixOf (opening ++ inner ++ closing)) = true := by
    rw [Bool.and_eq_true, List.isPrefixOf_iff_prefix, List.isSuffixOf_iff_suffix]
    refine ⟨?_, List.suffix_append _ _⟩
    rw [List.append_assoc]
    exact List.prefix_append _ _
  have hopen : (!Text.occurs closing inner) = true := by
    rw [Bool.not_eq_true', ← Bool.not_eq_true, Text.occurs_iff]
    exact hinner
  unfold ofText checked
  rw [hchars]
  dsimp only
  rw [String.toList_ofList, take_drop_delimited, hdelimited, hopen]
  rfl

lemma ofText?_sound (description : Option String) :
    (ofText? description).Sound fun comment => ∀ c, comment = some c → c.Lawful := by
  unfold ofText?
  split
  · exact Sound.ok (by simp)
  · rename_i text
    obtain ⟨comment, hcomment, hlawful⟩ := ofText_eq_ok text
    rw [hcomment]
    split
    · exact Sound.ok (by simp)
    · exact Sound.ok (by simpa using hlawful)

end DocComment

end EntityCompiler
