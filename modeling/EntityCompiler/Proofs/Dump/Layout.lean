import EntityCompiler.Outline
import EntityCompiler.Proofs.Dump.Margins
import EntityCompiler.Proofs.Dump.Numerals
import EntityCompiler.Proofs.Dump.Quotes

/-!
# How outlines are laid out

An outline whose names are words, whose texts hold no line feed and whose numbers are finite has a
tidy text. Nested parts are indented over and over, but on tidy texts this only adds up margins, so
the text of a part behind any margin is known: its brackets, its commas, and its own parts behind a
wider margin.
-/

namespace EntityCompiler.Outline

open Text

/-! ## Outlines that can be read back -/

/-- A character of a name. -/
def isWordChar (c : Char) : Bool :=
  c.isAlpha || c == '_'

/-- A name of letters and underscores. -/
def IsWord (s : String) : Prop :=
  s.toList ≠ [] ∧ ∀ c ∈ s.toList, isWordChar c = true

instance (s : String) : Decidable (IsWord s) :=
  haveI := List.decidableBAll (fun c => isWordChar c = true) s.toList
  inferInstanceAs (Decidable (s.toList ≠ [] ∧ ∀ c ∈ s.toList, isWordChar c = true))

/-- An outline without mappings and lone properties in which all names are words. -/
inductive WellNamed : Outline → Prop
  | absent : WellNamed .absent
  | bool (b : Bool) : WellNamed (.bool b)
  | number (n : Number) : WellNamed (.number n)
  | text (s : String) : WellNamed (.text s)
  | constant {type member : String} (htype : IsWord type) (hmember : IsWord member) :
    WellNamed (.constant type member)
  | list {items : List Outline} (hitems : ∀ o ∈ items, WellNamed o) : WellNamed (.list items)
  | record {name : String} {properties : List (String × Outline)} (hname : IsWord name)
    (hnames : ∀ p ∈ properties, IsWord p.1) (hvalues : ∀ p ∈ properties, WellNamed p.2) :
    WellNamed (.record name properties)

/-- An outline whose texts hold no line feed and whose numbers are finite. -/
inductive Plain : Outline → Prop
  | absent : Plain .absent
  | bool (b : Bool) : Plain (.bool b)
  | number {n : Number} (h : n.isFinite = true) : Plain (.number n)
  | text {s : String} (h : '\n' ∉ s.toList) : Plain (.text s)
  | constant (type member : String) : Plain (.constant type member)
  | list {items : List Outline} (hitems : ∀ o ∈ items, Plain o) : Plain (.list items)
  | mapping {entries : List (String × Outline)} (hkeys : ∀ e ∈ entries, '\n' ∉ e.1.toList)
    (hvalues : ∀ e ∈ entries, Plain e.2) : Plain (.mapping entries)
  | record {name : String} {properties : List (String × Outline)}
    (hvalues : ∀ p ∈ properties, Plain p.2) : Plain (.record name properties)
  | property {name : String} {value : Outline} (hvalue : Plain value) :
    Plain (.property name value)

@[simp]
lemma plain_number {n : Number} : Plain (number n) ↔ n.isFinite = true :=
  ⟨fun h => by cases h; assumption, .number⟩

@[simp]
lemma plain_text {s : String} : Plain (text s) ↔ '\n' ∉ s.toList :=
  ⟨fun h => by cases h; assumption, .text⟩

@[simp]
lemma plain_list {items : List Outline} : Plain (list items) ↔ ∀ o ∈ items, Plain o :=
  ⟨fun h => by cases h; assumption, .list⟩

@[simp]
lemma plain_record {name : String} {properties : List (String × Outline)} :
    Plain (record name properties) ↔ ∀ p ∈ properties, Plain p.2 :=
  ⟨fun h => by cases h; assumption, .record⟩

/-! ## Parts between brackets -/

/-- Parts on lines of their own behind the margin `pad`, with `separator` in front of the first line
feed and commas in front of the others. -/
def spread (pad : List Char) : (separator : List Char) → List (List Char) → List Char
  | _, [] => []
  | separator, part :: parts => separator ++ '\n' :: pad ++ part ++ spread pad [','] parts

lemma newline_joined (part : List Char) (parts : List (List Char)) :
    '\n' :: joined [',', '\n'] (part :: parts) = '\n' :: part ++ spread [] [','] parts := by
  induction parts generalizing part with
  | nil => simp [joined, spread]
  | cons next parts ih =>
    have hnext := ih next
    simp only [List.cons_append, List.cons.injEq, true_and] at hnext
    simp [joined, spread, hnext]

lemma enclosed_eq (opening closing : Char) (parts : List (List Char)) :
    enclosed opening closing parts = opening :: spread [] [] parts ++ [closing] := by
  cases parts with
  | nil => rfl
  | cons part parts =>
    rw [enclosed]
    · simp only [newline_joined, spread]
      simp
    · simp

lemma tidy_spread {start : List Char} (separator : List Char) {parts : List (List Char)}
    (hstart : Tidy start) (hseparator : Unbroken separator) (hparts : ∀ part ∈ parts, Tidy part) :
    Tidy (start ++ spread [] separator parts) := by
  -- the text grows at its end, part by part, and stays tidy
  induction parts generalizing start separator with
  | nil => simpa [spread] using hstart
  | cons part parts ih =>
    have hpart := (hstart.append hseparator).newline (hparts part List.mem_cons_self)
    have hrest := ih [','] hpart (by decide) fun other hother =>
      hparts other (List.mem_cons_of_mem _ hother)
    simpa [spread] using hrest

lemma shift_spread (pad separator : List Char) (hseparator : '\n' ∉ separator)
    (parts : List (List Char)) :
    shift pad (spread [] separator parts) = spread pad separator (parts.map (shift pad)) := by
  induction parts generalizing separator with
  | nil => rfl
  | cons part parts ih =>
    have hrest := ih [','] (by simp)
    simp only [spread, List.map_cons, shift_append, shift_newline, shift_of_not_mem hseparator,
      hrest, List.nil_append, List.cons_append, List.append_assoc]

/-! ## Outlines have tidy texts -/

/-- The characters of ASCII that show neither break a line nor are blank. -/
lemma visible_of_ascii {c : Char} (hlow : 32 < c.toNat) (hhigh : c.toNat < 127) :
    isBreak c = false ∧ isBlank c = false := by
  rw [← Bool.not_eq_true, ← Bool.not_eq_true]
  simp only [isBreak, isBlank, Bool.or_eq_true, Bool.and_eq_true, decide_eq_true_eq, beq_iff_eq]
  omega

lemma isDigit_bounds {c : Char} (h : c.isDigit = true) : 48 ≤ c.toNat ∧ c.toNat ≤ 57 := by
  simpa [Char.isDigit, UInt32.le_iff_toNat_le] using h

lemma isAlpha_bounds {c : Char} (h : c.isAlpha = true) :
    65 ≤ c.toNat ∧ c.toNat ≤ 90 ∨ 97 ≤ c.toNat ∧ c.toNat ≤ 122 := by
  rcases Bool.or_eq_true_iff.mp h with hupper | hlower
  · have hbounds : 'A'.val ≤ c.val ∧ c.val ≤ 'Z'.val := of_decide_eq_true hupper
    exact .inl hbounds
  · have hbounds := Bool.and_eq_true_iff.mp hlower
    exact .inr ⟨of_decide_eq_true hbounds.1, of_decide_eq_true hbounds.2⟩

lemma visible_of_isWordChar {c : Char} (h : isWordChar c = true) :
    isBreak c = false ∧ isBlank c = false := by
  rw [isWordChar, Bool.or_eq_true, beq_iff_eq] at h
  rcases h with h | rfl
  · have := isAlpha_bounds h
    exact visible_of_ascii (by omega) (by omega)
  · decide

lemma visible_of_isNumeral {c : Char} (h : FiniteDouble.isNumeral c = true) :
    isBreak c = false ∧ isBlank c = false := by
  rw [FiniteDouble.isNumeral, Bool.or_eq_true] at h
  rcases h with h | h
  · have := isDigit_bounds h
    exact visible_of_ascii (by omega) (by omega)
  · have hsign : ∀ d ∈ ['.', 'e', '+', '-'], isBreak d = false ∧ isBlank d = false := by decide
    exact hsign c (by simpa using h)

lemma isRow_of_forall {cs : List Char} (hne : cs ≠ [])
    (h : ∀ c ∈ cs, isBreak c = false ∧ isBlank c = false) : IsRow cs := by
  obtain ⟨c, hc⟩ := List.exists_mem_of_ne_nil cs hne
  exact ⟨fun d hd => (h d hd).1, c, hc, (h c hc).2⟩

lemma IsWord.isRow {s : String} (h : IsWord s) : IsRow s.toList :=
  isRow_of_forall h.1 fun c hc => visible_of_isWordChar (h.2 c hc)

lemma isRow_quotedChars (cs : List Char) : IsRow (quotedChars cs) := by
  refine ⟨fun c => isBreak_of_mem_quotedChars, quoteFor cs, List.mem_cons_self, ?_⟩
  rcases quoteFor_cases cs with h | h <;> rw [h] <;> rfl

lemma renderText_eq {s : String} (h : '\n' ∉ s.toList) : renderText s = quotedChars s.toList := by
  have hblock : isBlockText s.toList = false := by
    simp [isBlockText, h]
  simp [renderText, hblock]

lemma renderItems_eq {items : List Outline} (h : ∀ o ∈ items, Tidy o.render) :
    renderItems items = items.map fun o => margin ++ shift margin o.render := by
  induction items with
  | nil => rfl
  | cons o items ih =>
    rw [renderItems, List.map_cons, (h o List.mem_cons_self).indent_eq,
      ih fun other hother => h other (List.mem_cons_of_mem _ hother)]

lemma renderProperties_eq {properties : List (String × Outline)}
    (h : ∀ p ∈ properties, Tidy p.2.render) :
    renderProperties properties
      = properties.map fun p => margin ++ p.1.toList ++ '=' :: shift margin p.2.render := by
  induction properties with
  | nil => rfl
  | cons p properties ih =>
    rw [renderProperties, List.map_cons, (h p List.mem_cons_self).indentTail_eq,
      ih fun other hother => h other (List.mem_cons_of_mem _ hother)]

lemma unbroken_margin : Unbroken margin := by decide

lemma tidy_shift_margin {cs : List Char} (h : Tidy cs) : Tidy (shift margin cs) := by
  induction h with
  | row hrow =>
    rw [shift_of_not_mem hrow.unbroken.newline_not_mem]
    exact .row hrow
  | rows hrow _ ih =>
    rw [shift_append, shift_newline, shift_of_not_mem hrow.unbroken.newline_not_mem]
    exact .rows hrow (.prepend unbroken_margin ih)

lemma tidy_enclosed (start : List Char) {opening closing : Char} {parts : List (List Char)}
    (hstart : IsRow (start ++ [opening])) (hclosing : isBreak closing = false)
    (hparts : ∀ part ∈ parts, Tidy part) : Tidy (start ++ enclosed opening closing parts) := by
  have hend : Unbroken [closing] := by simpa [Unbroken] using hclosing
  have hspread := (tidy_spread [] (.row hstart) (by decide) hparts).append hend
  rw [enclosed_eq]
  simpa using hspread

lemma isRow_number {n : Number} (h : n.isFinite = true) : IsRow (number n).render := by
  obtain ⟨c, cs, htext, -⟩ := Number.text_eq_cons h
  exact isRow_of_forall (by simp [render, htext]) fun c hc =>
    visible_of_isNumeral (Number.isNumeral_of_mem_text h hc)

lemma isRow_constant {type member : String} (htype : IsWord type) (hmember : IsWord member) :
    IsRow (constant type member).render := by
  rw [render, String.toList_append, String.toList_append]
  exact (htype.isRow.append (by decide)).append hmember.isRow.unbroken

/-- The text of an outline is tidy. -/
theorem WellNamed.tidy_render {o : Outline} (hnamed : WellNamed o) (hplain : Plain o) :
    Tidy o.render := by
  induction hnamed with
  | absent => exact .row (IsWord.isRow (s := "None") (by decide))
  | bool b => cases b <;> exact .row (IsWord.isRow (by decide))
  | number n => exact .row (isRow_number (plain_number.mp hplain))
  | text s =>
    rw [render, renderText_eq (plain_text.mp hplain)]
    exact .row (isRow_quotedChars _)
  | constant htype hmember => exact .row (isRow_constant htype hmember)
  | list _ ih =>
    have htidy := fun o ho => ih o ho (plain_list.mp hplain o ho)
    rw [render, renderItems_eq htidy]
    refine tidy_enclosed [] ⟨by decide, '[', by simp, rfl⟩ rfl ?_
    simp only [List.forall_mem_map]
    exact fun o ho => .prepend unbroken_margin (tidy_shift_margin (htidy o ho))
  | record hname hnames _ ih =>
    have htidy := fun p hp => ih p hp (plain_record.mp hplain p hp)
    rw [render, renderProperties_eq htidy]
    refine tidy_enclosed _ (hname.isRow.append (by decide)) rfl ?_
    simp only [List.forall_mem_map]
    intro p hp
    have hname : Unbroken (margin ++ p.1.toList) :=
      unbroken_margin.append (hnames p hp).isRow.unbroken
    have hequals : Unbroken ['='] := by decide
    exact .prepend hname (.prepend hequals (tidy_shift_margin (htidy p hp)))

/-! ## The text of a nested part -/

variable {pad : List Char}

lemma shift_enclosed {opening closing : Char} (hopening : opening ≠ '\n')
    (hclosing : closing ≠ '\n') (parts : List (List Char)) :
    shift pad (enclosed opening closing parts)
      = opening :: spread pad [] (parts.map (shift pad)) ++ [closing] := by
  rw [enclosed_eq, shift_append, shift_cons_of_ne hopening, shift_cons_of_ne hclosing,
    shift_spread _ _ List.not_mem_nil, shift_nil]

lemma shift_absent : shift pad absent.render = "None".toList :=
  shift_of_not_mem (by decide)

lemma shift_bool (b : Bool) : shift pad (bool b).render = (Value.boolText b).toList :=
  shift_of_not_mem (by cases b <;> decide)

lemma shift_number {n : Number} (h : n.isFinite = true) :
    shift pad (number n).render = n.text.toList :=
  shift_of_not_mem (isRow_number h).unbroken.newline_not_mem

lemma shift_text {s : String} (h : '\n' ∉ s.toList) :
    shift pad (text s).render = quotedChars s.toList := by
  rw [render, renderText_eq h]
  exact shift_of_not_mem (isRow_quotedChars _).unbroken.newline_not_mem

lemma shift_constant {type member : String} (htype : IsWord type) (hmember : IsWord member) :
    shift pad (constant type member).render = type.toList ++ '.' :: member.toList := by
  rw [shift_of_not_mem (isRow_constant htype hmember).unbroken.newline_not_mem]
  simp [render]

/-- A nested text behind two margins. -/
lemma shift_margin_shift (cs : List Char) :
    shift pad (margin ++ shift margin cs) = margin ++ shift (pad ++ margin) cs := by
  have hmargin := unbroken_margin.newline_not_mem
  rw [shift_append, shift_of_not_mem hmargin, shift_shift hmargin]

lemma shift_render_list {items : List Outline} (h : ∀ o ∈ items, Tidy o.render) :
    shift pad (list items).render
      = '[' :: spread pad [] (items.map fun o => margin ++ shift (pad ++ margin) o.render)
        ++ [']'] := by
  rw [render, renderItems_eq h, shift_enclosed (by decide) (by decide), List.map_map]
  simp only [Function.comp_def, shift_margin_shift]

lemma shift_render_record {name : String} {properties : List (String × Outline)}
    (hname : IsWord name) (hnames : ∀ p ∈ properties, IsWord p.1)
    (h : ∀ p ∈ properties, Tidy p.2.render) :
    shift pad (record name properties).render
      = name.toList ++ '(' :: spread pad []
        (properties.map fun p => margin ++ p.1.toList ++ '=' :: shift (pad ++ margin) p.2.render)
        ++ [')'] := by
  have hparts (p : String × Outline) (hp : p ∈ properties) :
      shift pad (margin ++ p.1.toList ++ '=' :: shift margin p.2.render)
        = margin ++ p.1.toList ++ '=' :: shift (pad ++ margin) p.2.render := by
    have hmargin := unbroken_margin.newline_not_mem
    rw [shift_append, shift_append, shift_of_not_mem hmargin,
      shift_of_not_mem (hnames p hp).isRow.unbroken.newline_not_mem, shift_cons_of_ne (by decide),
      shift_shift hmargin]
  rw [render, renderProperties_eq h, shift_append, shift_enclosed (by decide) (by decide),
    shift_of_not_mem hname.isRow.unbroken.newline_not_mem, List.append_assoc]
  simp only [List.map_map, Function.comp_def, List.map_congr_left hparts, List.cons_append]

end EntityCompiler.Outline
