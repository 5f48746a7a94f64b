import EntityCompiler.Proofs.Scanned
import Mathlib.Data.List.TakeWhile

/-!
# Where no comment starts

A comment starts with a slash and a second character. A word or a number has no slash in it, and
punctuation has one at its start at most, where it would have been read as a comment if it were one.
So no comment starts in a token behind a gap, unless the token is a part of what is quoted: of a
text, of a template or of a regular expression (`Lexeme.noCommentStarts_of_scan`).
-/

namespace EntityCompiler

/-- No comment starts in a text with another one behind it. -/
def NoCommentStarts (text behind : List Char) : Prop :=
  ∀ front back, text = front ++ back → back ≠ [] → comment? (back ++ behind) = none

/-- A scan that takes no slash. -/
def Scan.Slashless (scan : List Char → Scanned) : Prop :=
  ∀ ⦃cs taken rest⦄, scan cs = some (taken, rest) → '/' ∉ taken

lemma comment?_eq_none {c : Char} (h : c ≠ '/') (cs : List Char) : comment? (c :: cs) = none := by
  unfold comment?
  split
  · rename_i heq
    exact absurd (List.cons.inj heq).1 h
  · rename_i heq
    exact absurd (List.cons.inj heq).1 h
  · rfl

/-- No comment starts in a text without slashes. -/
lemma noCommentStarts_of_not_mem {text : List Char} (h : '/' ∉ text) (behind : List Char) :
    NoCommentStarts text behind := by
  intro front back htext hback
  obtain ⟨c, back, rfl⟩ := List.exists_cons_of_ne_nil hback
  rw [htext] at h
  exact comment?_eq_none (fun hc => h (by simp [hc])) _

/-- A text with a slash at its start at most has to be looked at there only. -/
lemma noCommentStarts_of_not_mem_tail {text behind : List Char} (htail : '/' ∉ text.tail)
    (hstart : comment? (text ++ behind) = none) : NoCommentStarts text behind := by
  intro front back htext hback
  cases front with
  | nil => rwa [htext] at hstart
  | cons c front =>
    rw [htext, List.cons_append, List.tail_cons] at htail
    exact noCommentStarts_of_not_mem htail behind front back rfl hback

namespace Scan

/-- What a slash is not like is no slash. -/
lemma slash_ne {p : Char → Bool} (hp : p '/' = false) {c : Char} (hc : p c = true) : '/' ≠ c := by
  intro hslash
  rw [← hslash, hp] at hc
  contradiction

lemma not_mem_takeWhile {p : Char → Bool} (hp : p '/' = false) (cs : List Char) :
    '/' ∉ cs.takeWhile p :=
  fun hmem => slash_ne hp (List.mem_takeWhile_imp hmem) rfl

/-- A slash is no digit of any base. -/
lemma hexValue?_slash : (Value.hexValue? '/').isSome = false := by decide

lemma Slashless.run {stop : Char → Bool} (hstop : stop '/' = true) : Slashless (run stop) := by
  intro cs taken rest h
  rw [Scan.run] at h
  split at h
  · contradiction
  · obtain ⟨rfl, rfl⟩ := Prod.mk.inj (Option.some.inj h)
    exact not_mem_takeWhile (by rw [hstop]; rfl) cs

lemma Slashless.extend {second : List Char → Scanned} (hsecond : Slashless second)
    {first : List Char × List Char} (hfirst : '/' ∉ first.1) : '/' ∉ (extend first second).1 := by
  unfold Scan.extend
  split
  · rename_i more rest hmore
    simpa using ⟨hfirst, hsecond hmore⟩
  · exact hfirst

/-! ## Words -/

lemma Slashless.wordEscape : Slashless wordEscape := by
  intro cs taken rest h
  unfold Scan.wordEscape at h
  split at h
  · dsimp only at h
    split at h
    · split at h
      · contradiction
      · obtain ⟨rfl, rfl⟩ := Prod.mk.inj (Option.some.inj h)
        simpa using not_mem_takeWhile hexValue?_slash _
    · contradiction
  · rename_i a b c d behind _
    split at h
    · rename_i hdigits
      obtain ⟨rfl, rfl⟩ := Prod.mk.inj (Option.some.inj h)
      intro hmem
      have hslash : '/' ∈ [a, b, c, d] := by simpa using hmem
      have hhex := List.all_eq_true.mp hdigits _ hslash
      rw [hexValue?_slash] at hhex
      contradiction
    · contradiction
  · contradiction

lemma not_mem_wordTail (bound cs : List Char) : '/' ∉ (wordTail bound cs).1 := by
  induction bound generalizing cs with
  | nil => exact List.not_mem_nil
  | cons _ bound ih =>
    cases cs with
    | nil => exact List.not_mem_nil
    | cons c rest =>
      rw [wordTail]
      split
      · rename_i hpart
        have hslash : isWordPart '/' = false := by decide
        simpa using ⟨slash_ne hslash hpart, ih rest⟩
      · split
        · rename_i escape behind hescape
          simpa using ⟨Slashless.wordEscape hescape, ih behind⟩
        · exact List.not_mem_nil

lemma Slashless.word : Slashless word := by
  intro cs taken rest h
  unfold Scan.word at h
  split at h
  · contradiction
  · rename_i c behind
    split at h
    · rename_i hstart
      obtain ⟨rfl, rfl⟩ := Prod.mk.inj (Option.some.inj h)
      have hslash : isWordStart '/' = false := by decide
      simpa using ⟨slash_ne hslash hstart, not_mem_wordTail behind behind⟩
    · obtain ⟨⟨escape, behind⟩, hescape, h⟩ := Option.map_eq_some_iff.mp h
      obtain ⟨rfl, rfl⟩ := Prod.mk.inj h
      simpa using ⟨Slashless.wordEscape hescape, not_mem_wordTail behind behind⟩

/-! ## Numbers -/

variable {isDigit : Char → Bool}

lemma not_mem_digitTail (hdigit : isDigit '/' = false) (cs : List Char) :
    '/' ∉ (digitTail isDigit cs).1 := by
  fun_induction digitTail isDigit cs with
  | case1 c rest hc more behind hmore ih =>
    rw [hmore] at ih
    simpa using ⟨slash_ne hdigit hc, ih⟩
  | case2 c rest hc => exact List.not_mem_nil
  | case3 c rest hother hc more behind hmore ih =>
    rw [hmore] at ih
    simpa using ⟨slash_ne hdigit hc, ih⟩
  | case4 c rest hother hc => exact List.not_mem_nil
  | case5 => exact List.not_mem_nil

lemma Slashless.digits (hdigit : isDigit '/' = false) : Slashless (digits isDigit) := by
  intro cs taken rest h
  unfold Scan.digits at h
  split at h
  · contradiction
  · rename_i c behind
    split at h
    · rename_i hc
      obtain ⟨rfl, rfl⟩ := Prod.mk.inj (Option.some.inj h)
      simpa using ⟨slash_ne hdigit hc, not_mem_digitTail hdigit behind⟩
    · contradiction

lemma Slashless.exponent : Slashless exponent := by
  intro cs taken rest h
  unfold Scan.exponent at h
  split at h
  · rename_i e behind
    split at h
    · rename_i he
      have hletter : '/' ≠ e := @slash_ne (fun e => e == 'e' || e == 'E') (by decide) e he
      split at h
      · rename_i s after
        split at h
        · rename_i hs
          obtain ⟨⟨ds, last⟩, hdigits, h⟩ := Option.map_eq_some_iff.mp h
          obtain ⟨rfl, rfl⟩ := Prod.mk.inj h
          have hsign : '/' ≠ s := @slash_ne (fun s => s == '+' || s == '-') (by decide) s hs
          simpa using ⟨hletter, hsign, Slashless.digits (by decide) hdigits⟩
        · obtain ⟨⟨ds, last⟩, hdigits, h⟩ := Option.map_eq_some_iff.mp h
          obtain ⟨rfl, rfl⟩ := Prod.mk.inj h
          simpa using ⟨hletter, Slashless.digits (by decide) hdigits⟩
      · contradiction
    · contradiction
  · contradiction

lemma Slashless.basedDigits : Slashless basedDigits := by
  intro cs taken rest h
  unfold Scan.basedDigits at h
  split at h
  · rename_i b behind
    obtain ⟨isDigit, hbase, h⟩ := Option.bind_eq_some_iff.mp h
    obtain ⟨⟨ds, last⟩, hdigits, h⟩ := Option.map_eq_some_iff.mp h
    obtain ⟨rfl, rfl⟩ := Prod.mk.inj h
    have hletter : '/' ≠ b := by
      intro hslash
      rw [← hslash] at hbase
      exact absurd hbase (by simp)
    -- whatever the base is, a slash is none of its digits
    have hdigit : isDigit '/' = false := by
      split at hbase
      · rw [← Option.some.inj hbase]; exact hexValue?_slash
      · split at hbase
        · rw [← Option.some.inj hbase]; decide
        · split at hbase
          · rw [← Option.some.inj hbase]; decide
          · contradiction
    simpa using ⟨hletter, Slashless.digits hdigit hdigits⟩
  · contradiction

lemma Slashless.bigSuffix : Slashless bigSuffix := by
  intro cs taken rest h
  unfold Scan.bigSuffix Scan.literally at h
  split at h
  · obtain ⟨rfl, rfl⟩ := Prod.mk.inj (Option.some.inj h)
    decide
  · contradiction

lemma Slashless.number : Slashless number := by
  have hdecimal : Slashless (Scan.digits Char.isDigit) := Slashless.digits (by decide)
  intro cs taken rest h
  unfold Scan.number at h
  split at h
  · rename_i based hbased
    have htaken := Slashless.bigSuffix.extend (Slashless.basedDigits hbased)
    rwa [Option.some.inj h] at htaken
  · split at h
    · -- the point comes first
      obtain ⟨⟨ds, behind⟩, hdigits, h⟩ := Option.map_eq_some_iff.mp h
      have hpoint : '/' ∉ '.' :: ds := by simpa using hdecimal hdigits
      have htaken := Slashless.exponent.extend (show '/' ∉ ('.' :: ds, behind).1 from hpoint)
      dsimp only at h
      rwa [h] at htaken
    · -- digits come first; a fraction, an exponent or the letter of big integers can follow
      obtain ⟨⟨ds, behind⟩, hdigits, h⟩ := Option.map_eq_some_iff.mp h
      have hds : '/' ∉ ds := hdecimal hdigits
      have hwhole := Slashless.bigSuffix.extend (show '/' ∉ (ds, behind).1 from hds)
      dsimp only at h
      split at h
      · split at h
        · rename_i fraction
          have hpoint : '/' ∉ ds ++ ['.'] := by simpa using hds
          have htaken := Slashless.exponent.extend
            (hdecimal.extend (show '/' ∉ (ds ++ ['.'], fraction).1 from hpoint))
          rwa [h] at htaken
        · split at h
          · rename_i hexponent
            obtain ⟨rfl, rfl⟩ := Prod.mk.inj h
            simpa using ⟨hds, Slashless.exponent hexponent⟩
          · rwa [h] at hwhole
      · rwa [h] at hwhole

/-! ## Punctuation -/

lemma Slashless.optionalChain : Slashless optionalChain := by
  intro cs taken rest h
  unfold Scan.optionalChain at h
  split at h
  · split at h
    · contradiction
    · obtain ⟨rfl, rfl⟩ := Prod.mk.inj (Option.some.inj h)
      decide
  · contradiction

lemma Slashless.questionMark : Slashless questionMark := by
  intro cs taken rest h
  unfold Scan.questionMark at h
  split at h
  · contradiction
  · split at h
    · obtain ⟨rfl, rfl⟩ := Prod.mk.inj (Option.some.inj h)
      decide
    · contradiction
  · obtain ⟨rfl, rfl⟩ := Prod.mk.inj (Option.some.inj h)
    decide
  · contradiction

lemma Slashless.access : Slashless access := by
  intro cs taken rest h
  have hblank : '/' ∉ cs.takeWhile isScriptBlank := not_mem_takeWhile (by decide) cs
  unfold Scan.access at h
  dsimp only at h
  split at h
  · obtain ⟨rfl, rfl⟩ := Prod.mk.inj (Option.some.inj h)
    simpa using hblank
  · split at h
    · contradiction
    · obtain ⟨rfl, rfl⟩ := Prod.mk.inj (Option.some.inj h)
      simpa using hblank
  · split at h
    · contradiction
    · obtain ⟨rfl, rfl⟩ := Prod.mk.inj (Option.some.inj h)
      simpa using hblank
  · contradiction

end Scan

namespace Lexeme

/-- A lexeme without slashes that is not a part of what is quoted. -/
def isSlashless : Lexeme → Bool
  | keyword text | mark text | exactly text => !text.toList.contains '/'
  | textPart _ | escape | templatePart | regexPattern => false
  | _ => true

/-- A lexeme with a slash at its start at most that is not a part of what is quoted. -/
def isPlain : Lexeme → Bool
  | mark text | exactly text => !text.toList.tail.contains '/'
  | lexeme => lexeme.isSlashless

/-- The characters of a keyword or of punctuation. -/
def literal? : Lexeme → Option String
  | keyword text | mark text | exactly text => some text
  | _ => none

/-- The characters of a keyword or of punctuation are taken as they are. -/
lemma eq_of_scan_literal {lexeme : Lexeme} {text : String} {cs taken rest : List Char}
    (h : lexeme.scan cs = some (taken, rest)) (hlexeme : lexeme.literal? = some text) :
    taken = text.toList := by
  have hliterally : ∀ {behind : List Char},
      Scan.literally text.toList cs = some (taken, behind) → taken = text.toList := by
    intro behind hscan
    rw [Scan.literally] at hscan
    split at hscan
    · exact (Prod.mk.inj (Option.some.inj hscan)).1.symm
    · contradiction
  cases lexeme with
  | keyword word =>
    obtain rfl : word = text := Option.some.inj hlexeme
    rw [scan] at h
    split at h
    · rename_i hscan
      split at h
      · contradiction
      · obtain ⟨rfl, rfl⟩ := Prod.mk.inj (Option.some.inj h)
        exact hliterally hscan
    · contradiction
  | mark word =>
    obtain rfl : word = text := Option.some.inj hlexeme
    rw [scan, Scan.mark] at h
    split at h
    · exact (Prod.mk.inj (Option.some.inj h)).1.symm
    · contradiction
  | exactly word =>
    obtain rfl : word = text := Option.some.inj hlexeme
    exact hliterally h
  | _ => contradiction

lemma not_mem_of_contains {c : Char} {cs : List Char} (h : (!cs.contains c) = true) : c ∉ cs := by
  simpa using h

/-- A token without slashes takes none. -/
theorem scan_slashless {lexeme : Lexeme} (hlexeme : lexeme.isSlashless = true) :
    Scan.Slashless lexeme.scan := by
  intro cs taken rest h
  cases lexeme with
  | keyword text =>
    rw [eq_of_scan_literal h rfl]
    exact not_mem_of_contains hlexeme
  | mark text =>
    rw [eq_of_scan_literal h rfl]
    exact not_mem_of_contains hlexeme
  | exactly text =>
    rw [eq_of_scan_literal h rfl]
    exact not_mem_of_contains hlexeme
  | name kind except =>
    obtain ⟨⟨word, behind⟩, hscan, h⟩ := Option.bind_eq_some_iff.mp h
    dsimp only at h
    split at h
    · contradiction
    · obtain ⟨rfl, rfl⟩ := Prod.mk.inj (Option.some.inj h)
      exact Scan.Slashless.word hscan
  | anyWord kind => exact Scan.Slashless.word h
  | number => exact Scan.Slashless.number h
  | textPart | escape | templatePart | regexPattern => contradiction
  | regexFlags => exact @Scan.Slashless.run (fun c => !('a' ≤ c && c ≤ 'z')) (by decide) _ _ _ h
  | optionalChain => exact Scan.Slashless.optionalChain h
  | questionMark => exact Scan.Slashless.questionMark h
  | access => exact Scan.Slashless.access h

/-- No comment starts in a token where none starts at its place, unless it is quoted. -/
theorem noCommentStarts_of_scan {lexeme : Lexeme} (hlexeme : lexeme.isPlain = true)
    {cs taken rest : List Char} (hnone : comment? cs = none)
    (h : lexeme.scan cs = some (taken, rest)) : NoCommentStarts taken rest := by
  have hstart : comment? (taken ++ rest) = none := by rwa [lexeme.scan_splits h]
  refine noCommentStarts_of_not_mem_tail ?_ hstart
  -- only punctuation can have a slash at all
  have hother : lexeme.isSlashless = true → '/' ∉ taken.tail :=
    fun hslashless hmem => scan_slashless hslashless h (List.mem_of_mem_tail hmem)
  cases lexeme with
  | mark text =>
    rw [eq_of_scan_literal h rfl]
    exact not_mem_of_contains hlexeme
  | exactly text =>
    rw [eq_of_scan_literal h rfl]
    exact not_mem_of_contains hlexeme
  | _ => exact hother hlexeme

end Lexeme

end EntityCompiler
