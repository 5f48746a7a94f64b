import EntityCompiler.Compilation
import EntityCompiler.Proofs.Indentation
import EntityCompiler.Proofs.Outcome

/-!
# The wording of problems

A problem that is worded can stand in a report, however deep the problems below it are nested and
whatever names and values of a document it quotes: what it quotes stands behind words of its own,
and ends with a quote, a bracket or a digit. The headlines of reports can stand there, too.
-/

namespace EntityCompiler

open Text (EndsInLine)

/-! ## What stands at the end of a message -/

namespace Text

lemma endsInLine_append {first second : String} (hfirst : EndsInLine first.toList)
    (hsecond : EndsInLine second.toList) : EndsInLine (first ++ second).toList := by
  rw [String.toList_append]
  exact hfirst.append hsecond

/-- The end of a word that is written out can be read off its characters. -/
lemma endsInLine_ofList {cs : List Char} (h : (cs.getLast? != some '\n') = true) :
    EndsInLine (String.ofList cs).toList := by
  rw [String.toList_ofList]
  simpa [EndsInLine] using h

lemma quoteFor_cases (cs : List Char) : quoteFor cs = '\x22' ∨ quoteFor cs = '\x27' := by
  unfold quoteFor
  split
  · exact .inl rfl
  · exact .inr rfl

lemma getLast?_quoted (s : String) :
    (quoted s).toList.getLast? = some (quoteFor s.toList) := by
  rw [quoted, String.toList_ofList, quotedChars, List.getLast?_append]
  rfl

lemma endsInLine_quoted (s : String) : EndsInLine (quoted s).toList := by
  unfold EndsInLine
  rw [getLast?_quoted]
  rcases quoteFor_cases s.toList with h | h <;> simp [h]

lemma newline_not_mem_toDigits (n : Nat) : '\n' ∉ Nat.toDigits 10 n := by
  intro h
  have hdigit := Nat.isDigit_of_mem_toDigits (by decide) (by decide) h
  contradiction

lemma endsInLine_toString (n : Nat) : EndsInLine (toString n).toList := by
  rw [Nat.toString_eq_ofList_toDigits, String.toList_ofList]
  exact EndsInLine.of_not_mem (newline_not_mem_toDigits n)

end Text

namespace FiniteDouble

lemma newline_not_mem_exponentText (e : Int) : '\n' ∉ exponentText e := by
  have hdigits := Text.newline_not_mem_toDigits e.natAbs
  unfold exponentText
  dsimp only
  split
  all_goals
    split
    all_goals simp [hdigits]

lemma newline_not_mem_layout {digits : List Char} (h : '\n' ∉ digits) (point : Int) :
    '\n' ∉ layout digits point := by
  have hexponent := newline_not_mem_exponentText (point - 1)
  have htake : '\n' ∉ digits.take point.toNat := fun hmem => h (List.mem_of_mem_take hmem)
  have hdrop : '\n' ∉ digits.drop point.toNat := fun hmem => h (List.mem_of_mem_drop hmem)
  unfold layout
  split
  · split <;> simp_all
  · split
    · simp [h]
    · dsimp only
      split <;> simp [h, htake, hdrop]

lemma newline_not_mem_text (x : FiniteDouble) : '\n' ∉ x.text := by
  have hdigits : '\n' ∉ significantDigits x.shortest.digits := by
    intro hmem
    unfold significantDigits at hmem
    have hdropped := List.mem_reverse.mp hmem
    exact Text.newline_not_mem_toDigits _
      (List.mem_reverse.mp ((List.dropWhile_sublist _).mem hdropped))
  have hlayout := newline_not_mem_layout hdigits
  unfold text
  dsimp only
  split
  all_goals
    split
    all_goals simp [hlayout]

end FiniteDouble

lemma Number.endsInLine_text (n : Number) : EndsInLine n.text.toList := by
  refine EndsInLine.of_not_mem ?_
  cases n with
  | integer i =>
    rw [text, String.toList_ofList, Text.integerText, Text.digitsOf]
    split <;> simp [Text.newline_not_mem_toDigits]
  | double d =>
    rw [text, String.toList_ofList]
    cases d with
    | nan => decide
    | infinite negative => cases negative <;> decide
    | finite x => exact x.newline_not_mem_text

lemma Value.endsInLine_display (v : Value) : EndsInLine v.display.toList := by
  cases v with
  | null => simp [display, EndsInLine]
  | bool b => cases b <;> simp [display, boolText, EndsInLine]
  | number n => exact n.endsInLine_text
  | text s => exact Text.endsInLine_quoted s
  | list items =>
    rw [display, String.toList_append]
    exact EndsInLine.append_of_ne_nil (by simp) (by simp [EndsInLine])
  | object entries =>
    rw [display, String.toList_append]
    exact EndsInLine.append_of_ne_nil (by simp) (by simp [EndsInLine])

lemma Value.endsInLine_typeName (v : Value) : EndsInLine v.typeName.toList := by
  cases v with
  | number n => cases n <;> simp [typeName, EndsInLine]
  | _ => simp [typeName, EndsInLine]

/-! ## What stands at its start -/

namespace Report

lemma itemFits_iff {cs : List Char} : itemFits cs = true
    ↔ (∃ c rest, cs = c :: rest ∧ c ≠ '\n' ∧ c ≠ '*') ∧ EndsInLine cs := by
  unfold itemFits EndsInLine
  cases cs with
  | nil => simp
  | cons c rest => simp [and_assoc]

/-- What can stand behind a bullet still can with more text behind it. -/
lemma itemFits_append {first second : List Char} (hfirst : itemFits first = true)
    (hsecond : EndsInLine second) : itemFits (first ++ second) = true := by
  obtain ⟨⟨c, rest, rfl, hc⟩, hend⟩ := itemFits_iff.mp hfirst
  exact itemFits_iff.mpr ⟨⟨c, rest ++ second, rfl, hc⟩, hend.append hsecond⟩

lemma itemFits_ofList {cs : List Char} (h : itemFits cs = true) :
    itemFits (String.ofList cs).toList = true := by
  rwa [String.toList_ofList]

lemma itemFits_append_string {first second : String} (hfirst : itemFits first.toList = true)
    (hsecond : EndsInLine second.toList) : itemFits (first ++ second).toList = true := by
  rw [String.toList_append]
  exact itemFits_append hfirst hsecond

/-- Text that can stand behind a bullet can head a report once something is quoted behind it. -/
lemma headlineFits_append_quoted {first : String} (h : itemFits first.toList = true) (s : String) :
    headlineFits (first ++ Text.quoted s).toList = true := by
  obtain ⟨⟨c, rest, hcons, hbreak, hbullet⟩, -⟩ := itemFits_iff.mp h
  have hlast : (first ++ Text.quoted s).toList.getLast? = some (Text.quoteFor s.toList) := by
    rw [String.toList_append, List.getLast?_append, Text.getLast?_quoted]
    rfl
  have hhead : (first ++ Text.quoted s).toList.head? = some c := by
    rw [String.toList_append, hcons]
    rfl
  unfold headlineFits
  rw [hhead, hlast]
  rcases Text.quoteFor_cases s.toList with hquote | hquote <;> simp [hquote, hbreak, hbullet]

end Report

open Report (itemFits itemFits_append itemFits_append_string itemFits_iff itemFits_ofList)

/-- Every wording starts with a word, and each part of it ends with something else than a line feed.
-/
lemma Cause.itemFits_message {cause : Cause} (h : cause.IsWorded) :
    itemFits cause.message.toList = true := by
  have hdescribed : ∀ v : Value, EndsInLine (described v).toList := by
    intro v
    exact Text.endsInLine_append (Text.endsInLine_append v.endsInLine_typeName
      (by simp [EndsInLine])) v.endsInLine_display
  cases cause with
  | stated text => exact absurd h id
  | _ =>
    unfold message
    -- a wording is a word with quotations and further words behind it, one after the other
    repeat' first
      | with_reducible apply itemFits_append_string
      | with_reducible exact Text.endsInLine_quoted _
      | with_reducible exact Value.endsInLine_display _
      | with_reducible exact Value.endsInLine_typeName _
      | with_reducible exact Number.endsInLine_text _
      | with_reducible exact Text.endsInLine_toString _
      | with_reducible exact hdescribed _
      | with_reducible apply itemFits_ofList
      | with_reducible apply Text.endsInLine_ofList
      | rfl

/-! ## Problems and headlines -/

namespace Problem

lemma itemFits_headline (location : Option String) {cause : Cause} (h : cause.IsWorded) :
    itemFits (headline location cause) = true := by
  have hmessage := Cause.itemFits_message h
  cases location with
  | none => exact hmessage
  | some l =>
    -- in front of the location stands a word, and behind it the message
    have hend : EndsInLine cause.message.toList := (itemFits_iff.mp hmessage).2
    obtain ⟨⟨c, rest, hcons, -⟩, -⟩ := itemFits_iff.mp hmessage
    have hne : cause.message.toList ≠ [] := by
      rw [hcons]
      exact List.cons_ne_nil _ _
    rw [headline, String.toList_append]
    refine itemFits_iff.mpr ⟨?_, hend.append_of_ne_nil hne⟩
    refine ⟨'I', ['n', ' '] ++ l.toList ++ [':', ' '] ++ cause.message.toList, ?_, by decide,
      by decide⟩
    simp [String.toList_append]

lemma mem_layoutAll {problems : List Problem} {cs : List Char} (h : cs ∈ layoutAll problems) :
    ∃ p ∈ problems, cs = Text.indent [' ', ' '] p.layout := by
  induction problems with
  | nil => contradiction
  | cons p ps ih =>
    rw [layoutAll] at h
    rcases List.mem_cons.mp h with rfl | h
    · exact ⟨p, List.mem_cons_self, rfl⟩
    · obtain ⟨q, hq, hcs⟩ := ih h
      exact ⟨q, List.mem_cons_of_mem _ hq, hcs⟩

/-- A problem that is worded can stand behind a bullet. The headline gives it its start, and the
last of the problems below it, if there are any, its end, which the indentation leaves alone. -/
theorem itemFits_layout {p : Problem} (h : p.Worded) : itemFits p.layout = true := by
  induction h with
  | @plain location cause hcause =>
    rw [layout]
    exact itemFits_headline location hcause
  | @dueTo location cause below hcause hbelow ih =>
    have hheadline := itemFits_headline location hcause
    cases below with
    | nil =>
      rw [layout]
      exact hheadline
    | cons first others =>
      have hpieces : ∀ piece ∈ layoutAll (first :: others), piece ≠ [] ∧ EndsInLine piece := by
        intro piece hpiece
        obtain ⟨q, hq, rfl⟩ := mem_layoutAll hpiece
        obtain ⟨⟨c, rest, hcons, -⟩, hend⟩ := itemFits_iff.mp (ih q hq)
        refine ⟨Text.indent_ne_nil ?_, ?_⟩
        · rw [hcons]
          exact List.cons_ne_nil _ _
        · unfold EndsInLine at *
          rwa [Text.getLast?_indent]
      rw [layout]
      refine itemFits_append hheadline ?_
      have hne : Text.joined ['\n'] (layoutAll (first :: others)) ≠ [] :=
        Text.joined_ne_nil (hpieces _ List.mem_cons_self).1
      rw [← List.singleton_append]
      exact (EndsInLine.joined hpieces).append_of_ne_nil hne

lemma itemFits_message {p : Problem} (h : p.Worded) : itemFits p.message.toList = true := by
  rw [message, String.toList_ofList]
  exact itemFits_layout h

end Problem

/-- Every headline fits: it starts with a word and ends with a quote. -/
lemma Compilation.headlineFits_headline (document : Value) (kind : EntityKind) (position : Nat) :
    Report.headlineFits (headline document kind position).toList = true := by
  unfold headline
  split
  · refine Report.headlineFits_append_quoted ?_ _
    exact itemFits_append_string (itemFits_append_string (itemFits_ofList rfl)
      (Text.endsInLine_quoted _)) (Text.endsInLine_ofList rfl)
  · refine Report.headlineFits_append_quoted ?_ _
    exact itemFits_append_string (itemFits_append_string (itemFits_ofList rfl)
      (Text.endsInLine_toString _)) (Text.endsInLine_ofList rfl)

end EntityCompiler
