import EntityCompiler.Script.Lexeme
import Mathlib.Tactic.Lemma

/-!
# Scanned tokens

Whatever token is asked for, a scan takes a first part off the text and leaves the rest as it is:
the two put together are the text. So nothing is lost where a script is cut into tokens. And the
first part is never empty, so reading on token by token comes to an end.
-/

namespace EntityCompiler

/-- A scan that only cuts texts in two. -/
def Scan.Splits (scan : List Char → Scanned) : Prop :=
  ∀ ⦃cs taken rest⦄, scan cs = some (taken, rest) → taken ++ rest = cs

lemma Text.splitAt?_splits {pattern cs before after : List Char}
    (h : splitAt? pattern cs = some (before, after)) : before ++ pattern ++ after = cs := by
  induction cs generalizing before with
  | nil =>
    rw [splitAt?] at h
    split at h
    · rename_i hempty
      simp_all [List.isEmpty_iff]
    · contradiction
  | cons c cs ih =>
    rw [splitAt?] at h
    split at h
    · rename_i hprefix
      obtain ⟨rfl, rfl⟩ := Prod.mk.inj (Option.some.inj h)
      obtain ⟨behind, hbehind⟩ := List.isPrefixOf_iff_prefix.mp hprefix
      rw [← hbehind, List.drop_left, List.nil_append]
    · obtain ⟨⟨inner, behind⟩, hinner, h⟩ := Option.map_eq_some_iff.mp h
      obtain ⟨rfl, rfl⟩ := Prod.mk.inj h
      rw [List.cons_append, List.cons_append, ih hinner]

namespace Scan

/-! ## Scans put together -/

lemma Splits.run (stop : Char → Bool) : Splits (run stop) := by
  intro cs taken rest h
  rw [Scan.run] at h
  split at h
  · contradiction
  · obtain ⟨rfl, rfl⟩ := Prod.mk.inj (Option.some.inj h)
    exact List.takeWhile_append_dropWhile

lemma Splits.literally (expected : List Char) : Splits (literally expected) := by
  intro cs taken rest h
  rw [Scan.literally] at h
  split at h
  · rename_i hprefix
    obtain ⟨rfl, rfl⟩ := Prod.mk.inj (Option.some.inj h)
    obtain ⟨behind, rfl⟩ := List.isPrefixOf_iff_prefix.mp hprefix
    rw [List.drop_left]
  · contradiction

lemma Splits.extend {second : List Char → Scanned} (hsecond : Splits second)
    (first : List Char × List Char) :
    (extend first second).1 ++ (extend first second).2 = first.1 ++ first.2 := by
  unfold Scan.extend
  split
  · rename_i more rest hmore
    rw [List.append_assoc, hsecond hmore]
  · rfl

/-! ## Words -/

lemma Splits.wordEscape : Splits wordEscape := by
  intro cs taken rest h
  unfold Scan.wordEscape at h
  split at h
  · rename_i behind
    dsimp only at h
    split at h
    · rename_i _ after hafter
      split at h
      · contradiction
      · obtain ⟨rfl, rfl⟩ := Prod.mk.inj (Option.some.inj h)
        have hsplit := List.takeWhile_append_dropWhile
          (p := fun c => (Value.hexValue? c).isSome) (l := behind)
        rw [hafter] at hsplit
        simp only [List.cons_append, List.append_assoc, List.nil_append, hsplit]
    · contradiction
  · split at h
    · obtain ⟨rfl, rfl⟩ := Prod.mk.inj (Option.some.inj h)
      rfl
    · contradiction
  · contradiction

lemma wordTail_splits (bound cs : List Char) :
    (wordTail bound cs).1 ++ (wordTail bound cs).2 = cs := by
  induction bound generalizing cs with
  | nil => rfl
  | cons _ bound ih =>
    cases cs with
    | nil => rfl
    | cons c rest =>
      rw [wordTail]
      split
      · exact congrArg (c :: ·) (ih rest)
      · split
        · rename_i escape behind hescape
          dsimp only
          rw [List.append_assoc, ih behind, Splits.wordEscape hescape]
        · rfl

lemma Splits.word : Splits word := by
  intro cs taken rest h
  unfold Scan.word at h
  split at h
  · contradiction
  · rename_i c behind
    split at h
    · obtain ⟨rfl, rfl⟩ := Prod.mk.inj (Option.some.inj h)
      exact congrArg (c :: ·) (wordTail_splits behind behind)
    · obtain ⟨⟨escape, behind⟩, hescape, h⟩ := Option.map_eq_some_iff.mp h
      obtain ⟨rfl, rfl⟩ := Prod.mk.inj h
      rw [List.append_assoc, wordTail_splits, Splits.wordEscape hescape]

/-! ## Punctuation -/

lemma Splits.mark (expected : List Char) : Splits (mark expected) := by
  intro cs taken rest h
  rw [Scan.mark] at h
  split at h
  · rename_i hmark
    refine Splits.literally expected ?_
    rw [Scan.literally, if_pos (Bool.and_eq_true_iff.mp hmark).1]
    exact h
  · contradiction

lemma Splits.optionalChain : Splits optionalChain := by
  intro cs taken rest h
  unfold Scan.optionalChain at h
  split at h
  · split at h
    · contradiction
    · obtain ⟨rfl, rfl⟩ := Prod.mk.inj (Option.some.inj h)
      rfl
  · contradiction

lemma Splits.questionMark : Splits questionMark := by
  intro cs taken rest h
  unfold Scan.questionMark at h
  split at h
  · contradiction
  · split at h
    · obtain ⟨rfl, rfl⟩ := Prod.mk.inj (Option.some.inj h)
      rfl
    · contradiction
  · obtain ⟨rfl, rfl⟩ := Prod.mk.inj (Option.some.inj h)
    rfl
  · contradiction

lemma Splits.access : Splits access := by
  intro cs taken rest h
  have hblank : cs.takeWhile isScriptBlank ++ cs.dropWhile isScriptBlank = cs :=
    List.takeWhile_append_dropWhile
  unfold Scan.access at h
  dsimp only at h
  split at h
  · rename_i hcs
    obtain ⟨rfl, rfl⟩ := Prod.mk.inj (Option.some.inj h)
    rw [List.append_assoc, List.singleton_append, ← hcs, hblank]
  · rename_i hcs
    split at h
    · contradiction
    · obtain ⟨rfl, rfl⟩ := Prod.mk.inj (Option.some.inj h)
      rw [List.append_assoc, List.singleton_append, ← hcs, hblank]
  · rename_i hcs
    split at h
    · contradiction
    · obtain ⟨rfl, rfl⟩ := Prod.mk.inj (Option.some.inj h)
      rw [List.append_assoc, List.cons_append, List.singleton_append, ← hcs, hblank]
  · contradiction

/-! ## Numbers -/

lemma digitTail_splits (isDigit : Char → Bool) (cs : List Char) :
    (digitTail isDigit cs).1 ++ (digitTail isDigit cs).2 = cs := by
  fun_induction digitTail isDigit cs with
  | case1 c rest hdigit more behind hmore ih => rw [hmore] at ih; simp [ih]
  | case2 c rest hdigit => rfl
  | case3 c rest hother hdigit more behind hmore ih => rw [hmore] at ih; simp [ih]
  | case4 c rest hother hdigit => rfl
  | case5 => rfl

lemma Splits.digits (isDigit : Char → Bool) : Splits (digits isDigit) := by
  intro cs taken rest h
  unfold Scan.digits at h
  split at h
  · contradiction
  · rename_i c behind
    split at h
    · obtain ⟨rfl, rfl⟩ := Prod.mk.inj (Option.some.inj h)
      exact congrArg (c :: ·) (digitTail_splits isDigit behind)
    · contradiction

lemma Splits.exponent : Splits exponent := by
  intro cs taken rest h
  unfold Scan.exponent at h
  split at h
  · split at h
    · split at h
      · split at h
        all_goals
          obtain ⟨⟨ds, behind⟩, hdigits, h⟩ := Option.map_eq_some_iff.mp h
          obtain ⟨rfl, rfl⟩ := Prod.mk.inj h
          simp [← Splits.digits _ hdigits]
      · contradiction
    · contradiction
  · contradiction

lemma Splits.basedDigits : Splits basedDigits := by
  intro cs taken rest h
  unfold Scan.basedDigits at h
  split at h
  · obtain ⟨isDigit, -, h⟩ := Option.bind_eq_some_iff.mp h
    obtain ⟨⟨ds, behind⟩, hdigits, h⟩ := Option.map_eq_some_iff.mp h
    obtain ⟨rfl, rfl⟩ := Prod.mk.inj h
    simp [← Splits.digits isDigit hdigits]
  · contradiction

lemma Splits.bigSuffix : Splits bigSuffix :=
  Splits.literally ['n']

lemma Splits.number : Splits number := by
  intro cs taken rest h
  unfold Scan.number at h
  split at h
  · rename_i based hbased
    rw [← Splits.basedDigits hbased, ← Splits.bigSuffix.extend based, Option.some.inj h]
  · split at h
    · obtain ⟨⟨ds, behind⟩, hdigits, h⟩ := Option.map_eq_some_iff.mp h
      dsimp only at h
      have hsplit := Splits.exponent.extend ('.' :: ds, behind)
      rw [h, List.cons_append, Splits.digits _ hdigits] at hsplit
      exact hsplit
    · obtain ⟨⟨ds, behind⟩, hdigits, h⟩ := Option.map_eq_some_iff.mp h
      rw [← Splits.digits _ hdigits]
      dsimp only at h
      split at h
      · split at h
        · rename_i fraction
          have hsplit := Splits.exponent.extend
            (Scan.extend (ds ++ ['.'], fraction) (Scan.digits Char.isDigit))
          rw [h, (Splits.digits _).extend] at hsplit
          simpa using hsplit
        · split at h
          · rename_i hexponent
            obtain ⟨rfl, rfl⟩ := Prod.mk.inj h
            rw [List.append_assoc, Splits.exponent hexponent]
          · have hsplit := Splits.bigSuffix.extend (ds, behind)
            rwa [h] at hsplit
      · have hsplit := Splits.bigSuffix.extend (ds, behind)
        rwa [h] at hsplit

/-! ## Texts, templates and regular expressions -/

lemma Splits.textPart (quote : Char) : Splits (textPart quote) :=
  Splits.run _

lemma Splits.escape : Splits escape := by
  intro cs taken rest h
  unfold Scan.escape at h
  split at h
  · split at h
    · split at h
      · split at h
        · obtain ⟨rfl, rfl⟩ := Prod.mk.inj (Option.some.inj h)
          rfl
        · contradiction
      · contradiction
    · split at h
      · exact Splits.wordEscape h
      · split at h
        · rename_i c behind _ _ _
          obtain ⟨rfl, rfl⟩ := Prod.mk.inj (Option.some.inj h)
          have hprefix : (behind.take 2).takeWhile isOctal <+: behind :=
            (List.takeWhile_prefix _).trans (List.take_prefix 2 behind)
          obtain ⟨after, hafter⟩ := hprefix
          have hdrop := @List.drop_left _ ((behind.take 2).takeWhile isOctal) after
          rw [hafter] at hdrop
          rw [hdrop, List.cons_append, List.cons_append, hafter]
        · split at h
          · split at h
            all_goals
              obtain ⟨rfl, rfl⟩ := Prod.mk.inj (Option.some.inj h)
              rfl
          · obtain ⟨rfl, rfl⟩ := Prod.mk.inj (Option.some.inj h)
            rfl
  · contradiction

lemma templateChars_splits (cs : List Char) :
    (templateChars cs).1 ++ (templateChars cs).2 = cs := by
  fun_induction templateChars cs with
  | case1 => rfl
  | case2 rest => rfl
  | case3 c rest hother hend => rfl
  | case4 c rest hother hend more behind hmore ih => rw [hmore] at ih; simp [ih]

lemma Splits.templatePart : Splits templatePart := by
  intro cs taken rest h
  have hsplit := templateChars_splits cs
  rw [Scan.templatePart] at h
  dsimp only at h
  split at h
  · contradiction
  · obtain ⟨rfl, rfl⟩ := Prod.mk.inj (Option.some.inj h)
    exact hsplit

lemma patternChars_splits (inClass : Bool) : Splits (patternChars inClass) := by
  intro cs taken rest h
  fun_induction patternChars inClass cs generalizing taken rest with
  | case1 => contradiction
  | case2 => contradiction
  | case3 => contradiction
  | case4 inClass c behind hbreak ih =>
    obtain ⟨⟨more, after⟩, hmore, h⟩ := Option.map_eq_some_iff.mp h
    obtain ⟨rfl, rfl⟩ := Prod.mk.inj h
    rw [List.cons_append, List.cons_append, ih hmore]
  | case5 behind =>
    obtain ⟨rfl, rfl⟩ := Prod.mk.inj (Option.some.inj h)
    rfl
  | case6 _ c behind =>
    rename_i ih
    obtain ⟨⟨more, after⟩, hmore, h⟩ := Option.map_eq_some_iff.mp h
    obtain ⟨rfl, rfl⟩ := Prod.mk.inj h
    rw [List.cons_append, ih hmore]

lemma Splits.regexPattern : Splits regexPattern := by
  intro cs taken rest h
  obtain ⟨⟨pattern, behind⟩, hpattern, h⟩ := Option.bind_eq_some_iff.mp h
  dsimp only at h
  split at h
  · contradiction
  · obtain ⟨rfl, rfl⟩ := Prod.mk.inj (Option.some.inj h)
    exact patternChars_splits false hpattern

lemma Splits.regexFlags : Splits regexFlags :=
  Splits.run _

end Scan

/-- Every scan splits the text into the token and the rest. -/
theorem Lexeme.scan_splits (lexeme : Lexeme) : Scan.Splits lexeme.scan := by
  intro cs taken rest h
  cases lexeme with
  | keyword text =>
    rw [scan] at h
    split at h
    · rename_i hword
      split at h
      · contradiction
      · obtain ⟨rfl, rfl⟩ := Prod.mk.inj (Option.some.inj h)
        exact Scan.Splits.literally _ hword
    · contradiction
  | mark text => exact Scan.Splits.mark _ h
  | exactly text => exact Scan.Splits.literally _ h
  | name kind except =>
    obtain ⟨⟨word, behind⟩, hword, h⟩ := Option.bind_eq_some_iff.mp h
    dsimp only at h
    split at h
    · contradiction
    · obtain ⟨rfl, rfl⟩ := Prod.mk.inj (Option.some.inj h)
      exact Scan.Splits.word hword
  | anyWord kind => exact Scan.Splits.word h
  | number => exact Scan.Splits.number h
  | textPart quote => exact Scan.Splits.textPart quote h
  | escape => exact Scan.Splits.escape h
  | templatePart => exact Scan.Splits.templatePart h
  | regexPattern => exact Scan.Splits.regexPattern h
  | regexFlags => exact Scan.Splits.regexFlags h
  | optionalChain => exact Scan.Splits.optionalChain h
  | questionMark => exact Scan.Splits.questionMark h
  | access => exact Scan.Splits.access h

/-! ## No token is empty -/

/-- A scan that takes a character at least. -/
def Scan.Takes (scan : List Char → Scanned) : Prop :=
  ∀ ⦃cs taken rest⦄, scan cs = some (taken, rest) → taken ≠ []

namespace Scan

lemma Takes.run (stop : Char → Bool) : Takes (run stop) := by
  intro cs taken rest h
  rw [Scan.run] at h
  split at h
  · contradiction
  · rename_i hempty
    obtain ⟨rfl, rfl⟩ := Prod.mk.inj (Option.some.inj h)
    rwa [List.isEmpty_iff] at hempty

lemma Takes.literally {expected : List Char} (hne : expected ≠ []) :
    Takes (literally expected) := by
  intro cs taken rest h
  rw [Scan.literally] at h
  split at h
  · obtain ⟨rfl, rfl⟩ := Prod.mk.inj (Option.some.inj h)
    exact hne
  · contradiction

lemma extend_ne_nil {first : List Char × List Char} (hne : first.1 ≠ [])
    (second : List Char → Scanned) :
    (extend first second).1 ≠ [] := by
  unfold Scan.extend
  split
  · exact List.append_ne_nil_of_left_ne_nil hne _
  · exact hne

lemma Takes.wordEscape : Takes wordEscape := by
  intro cs taken rest h
  unfold Scan.wordEscape at h
  split at h
  · dsimp only at h
    split at h
    · split at h
      · contradiction
      · obtain ⟨rfl, rfl⟩ := Prod.mk.inj (Option.some.inj h)
        exact List.cons_ne_nil _ _
    · contradiction
  · split at h
    · obtain ⟨rfl, rfl⟩ := Prod.mk.inj (Option.some.inj h)
      exact List.cons_ne_nil _ _
    · contradiction
  · contradiction

lemma Takes.word : Takes word := by
  intro cs taken rest h
  unfold Scan.word at h
  split at h
  · contradiction
  · split at h
    · obtain ⟨rfl, rfl⟩ := Prod.mk.inj (Option.some.inj h)
      exact List.cons_ne_nil _ _
    · obtain ⟨⟨escape, behind⟩, hescape, h⟩ := Option.map_eq_some_iff.mp h
      obtain ⟨rfl, rfl⟩ := Prod.mk.inj h
      exact List.append_ne_nil_of_left_ne_nil (Takes.wordEscape hescape) _

lemma Takes.mark {expected : List Char} (hne : expected ≠ []) : Takes (mark expected) := by
  intro cs taken rest h
  rw [Scan.mark] at h
  split at h
  · obtain ⟨rfl, rfl⟩ := Prod.mk.inj (Option.some.inj h)
    exact hne
  · contradiction

lemma Takes.access : Takes access := by
  intro cs taken rest h
  unfold Scan.access at h
  dsimp only at h
  split at h
  · obtain ⟨rfl, rfl⟩ := Prod.mk.inj (Option.some.inj h)
    simp
  · split at h
    · contradiction
    · obtain ⟨rfl, rfl⟩ := Prod.mk.inj (Option.some.inj h)
      simp
  · split at h
    · contradiction
    · obtain ⟨rfl, rfl⟩ := Prod.mk.inj (Option.some.inj h)
      simp
  · contradiction

lemma Takes.digits (isDigit : Char → Bool) : Takes (digits isDigit) := by
  intro cs taken rest h
  unfold Scan.digits at h
  split at h
  · contradiction
  · split at h
    · obtain ⟨rfl, rfl⟩ := Prod.mk.inj (Option.some.inj h)
      exact List.cons_ne_nil _ _
    · contradiction

lemma Takes.basedDigits : Takes basedDigits := by
  intro cs taken rest h
  unfold Scan.basedDigits at h
  split at h
  · obtain ⟨isDigit, -, h⟩ := Option.bind_eq_some_iff.mp h
    obtain ⟨⟨ds, behind⟩, -, h⟩ := Option.map_eq_some_iff.mp h
    obtain ⟨rfl, rfl⟩ := Prod.mk.inj h
    exact List.cons_ne_nil _ _
  · contradiction

lemma Takes.number : Takes number := by
  intro cs taken rest h
  unfold Scan.number at h
  split at h
  · rename_i based hbased
    have htaken := extend_ne_nil (Takes.basedDigits hbased) bigSuffix
    rwa [Option.some.inj h] at htaken
  · split at h
    · obtain ⟨⟨ds, behind⟩, -, h⟩ := Option.map_eq_some_iff.mp h
      have htaken := @extend_ne_nil ('.' :: ds, behind) (List.cons_ne_nil _ _) exponent
      dsimp only at h
      rwa [h] at htaken
    · obtain ⟨⟨ds, behind⟩, hdigits, h⟩ := Option.map_eq_some_iff.mp h
      have hds : ds ≠ [] := Takes.digits _ hdigits
      have hwhole := @extend_ne_nil (ds, behind) hds bigSuffix
      dsimp only at h
      split at h
      · split at h
        · rename_i fraction
          have hpoint := @extend_ne_nil (ds ++ ['.'], fraction)
            (List.append_ne_nil_of_left_ne_nil hds _) (Scan.digits Char.isDigit)
          have htaken := extend_ne_nil hpoint exponent
          rwa [h] at htaken
        · split at h
          · obtain ⟨rfl, rfl⟩ := Prod.mk.inj h
            exact List.append_ne_nil_of_left_ne_nil hds _
          · rwa [h] at hwhole
      · rwa [h] at hwhole

lemma Takes.escape : Takes escape := by
  intro cs taken rest h
  unfold Scan.escape at h
  split at h
  · split at h
    · split at h
      · split at h
        · obtain ⟨rfl, rfl⟩ := Prod.mk.inj (Option.some.inj h)
          exact List.cons_ne_nil _ _
        · contradiction
      · contradiction
    · split at h
      · exact Takes.wordEscape h
      · split at h
        · obtain ⟨rfl, rfl⟩ := Prod.mk.inj (Option.some.inj h)
          exact List.cons_ne_nil _ _
        · split at h
          · split at h
            all_goals
              obtain ⟨rfl, rfl⟩ := Prod.mk.inj (Option.some.inj h)
              exact List.cons_ne_nil _ _
          · obtain ⟨rfl, rfl⟩ := Prod.mk.inj (Option.some.inj h)
            exact List.cons_ne_nil _ _
  · contradiction

end Scan

/-- Is the lexeme one that is never empty? -/
def Lexeme.takes : Lexeme → Bool
  | keyword text | mark text | exactly text => !text.toList.isEmpty
  | _ => true

/-- A scan takes a character at least, unless nothing is asked for. -/
theorem Lexeme.scan_takes {lexeme : Lexeme} (hlexeme : lexeme.takes = true) :
    Scan.Takes lexeme.scan := by
  have hne : ∀ {text : String}, (!text.toList.isEmpty) = true → text.toList ≠ [] := by
    intro text h
    simpa using h
  intro cs taken rest h
  cases lexeme with
  | keyword text =>
    rw [scan] at h
    split at h
    · rename_i hword
      split at h
      · contradiction
      · obtain ⟨rfl, rfl⟩ := Prod.mk.inj (Option.some.inj h)
        exact Scan.Takes.literally (hne hlexeme) hword
    · contradiction
  | mark text => exact Scan.Takes.mark (hne hlexeme) h
  | exactly text => exact Scan.Takes.literally (hne hlexeme) h
  | name kind except =>
    obtain ⟨⟨word, behind⟩, hword, h⟩ := Option.bind_eq_some_iff.mp h
    dsimp only at h
    split at h
    · contradiction
    · obtain ⟨rfl, rfl⟩ := Prod.mk.inj (Option.some.inj h)
      exact Scan.Takes.word hword
  | anyWord kind => exact Scan.Takes.word h
  | number => exact Scan.Takes.number h
  | textPart quote => exact Scan.Takes.run _ h
  | escape => exact Scan.Takes.escape h
  | templatePart =>
    rw [scan, Scan.templatePart] at h
    dsimp only at h
    split at h
    · contradiction
    · rename_i hempty
      obtain ⟨rfl, rfl⟩ := Prod.mk.inj (Option.some.inj h)
      simp_all
  | regexPattern =>
    obtain ⟨⟨pattern, behind⟩, -, h⟩ := Option.bind_eq_some_iff.mp h
    dsimp only at h
    split at h
    · contradiction
    · rename_i hempty
      obtain ⟨rfl, rfl⟩ := Prod.mk.inj (Option.some.inj h)
      simpa using hempty
  | regexFlags => exact Scan.Takes.run _ h
  | optionalChain =>
    rw [scan] at h
    unfold Scan.optionalChain at h
    split at h
    · split at h
      · contradiction
      · obtain ⟨rfl, rfl⟩ := Prod.mk.inj (Option.some.inj h)
        exact List.cons_ne_nil _ _
    · contradiction
  | questionMark =>
    rw [scan] at h
    unfold Scan.questionMark at h
    split at h
    · contradiction
    · split at h
      · obtain ⟨rfl, rfl⟩ := Prod.mk.inj (Option.some.inj h)
        exact List.cons_ne_nil _ _
      · contradiction
    · obtain ⟨rfl, rfl⟩ := Prod.mk.inj (Option.some.inj h)
      exact List.cons_ne_nil _ _
    · contradiction
  | access => exact Scan.Takes.access h

lemma Lexeme.length_lt_of_scan {lexeme : Lexeme} (hlexeme : lexeme.takes = true)
    {cs taken rest : List Char}
    (h : lexeme.scan cs = some (taken, rest)) : rest.length < cs.length := by
  have htaken := List.length_pos_iff.mpr (lexeme.scan_takes hlexeme h)
  rw [← lexeme.scan_splits h, List.length_append]
  omega

end EntityCompiler
