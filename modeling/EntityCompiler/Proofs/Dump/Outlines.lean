import EntityCompiler.Proofs.Dump.Layout

/-!
# The text of an outline identifies it

Every part of an outline shows where it ends: a word or a number at the first character that cannot
belong to it, a quoted text at its quote, and what stands between brackets at the closing one. What
kind of outline it is shows at its start. So an outline can be told from its text, and from what
follows it.
-/

namespace EntityCompiler.Outline

open Text

variable {pad : List Char}

/-! ## Where a part ends -/

/-- What can follow a part: a comma, a bracket, or nothing. -/
def Ends (cs : List Char) : Prop :=
  ∀ c ∈ cs.head?, c = ',' ∨ c = ')' ∨ c = ']'

lemma ends_nil : Ends [] := by simp [Ends]

lemma Ends.cons {c : Char} (h : c = ',' ∨ c = ')' ∨ c = ']') (cs : List Char) : Ends (c :: cs) := by
  simpa [Ends] using h

lemma Ends.not_wordChar {cs : List Char} (h : Ends cs) : ∀ c ∈ cs.head?, isWordChar c = false := by
  intro c hc
  rcases h c hc with rfl | rfl | rfl <;> decide

lemma head_not_wordChar {c : Char} (h : isWordChar c = false) (cs : List Char) :
    ∀ d ∈ (c :: cs).head?, isWordChar d = false := by
  rintro d ⟨⟩
  exact h

lemma Ends.not_numeral {cs : List Char} (h : Ends cs) :
    ∀ c ∈ cs.head?, FiniteDouble.isNumeral c = false := by
  intro c hc
  rcases h c hc with rfl | rfl | rfl <;> decide

/-- Parts between brackets can be told apart if each of them shows where it ends. -/
lemma spread_prefix {α : Type} {f : α → List Char} {closing : Char}
    (hclosing : closing = ')' ∨ closing = ']') {xs ys : List α}
    (hparts : ∀ x ∈ xs, ∀ y ∈ ys, ∀ rest rest', Ends rest → Ends rest' →
      f x ++ rest = f y ++ rest' → x = y ∧ rest = rest')
    {separator : List Char} (hseparator : separator = [] ∨ separator = [','])
    {rest rest' : List Char}
    (h : spread pad separator (xs.map f) ++ closing :: rest
      = spread pad separator (ys.map f) ++ closing :: rest') : xs = ys ∧ rest = rest' := by
  have hends (zs : List α) (rest : List Char) :
      Ends (spread pad [','] (zs.map f) ++ closing :: rest) := by
    cases zs with
    | nil => exact .cons (.inr hclosing) _
    | cons z zs => exact .cons (.inl rfl) _
  have hstart {separator : List Char} (hseparator : separator = [] ∨ separator = [','])
      (part : List Char) (parts : List (List Char)) (rest rest' : List Char) :
      closing :: rest ≠ spread pad separator (part :: parts) ++ rest' := by
    rcases hclosing with rfl | rfl <;> rcases hseparator with rfl | rfl <;> simp [spread]
  induction xs generalizing ys separator with
  | nil =>
    cases ys with
    | nil => exact ⟨rfl, List.tail_eq_of_cons_eq h⟩
    | cons y ys => exact absurd h (hstart hseparator _ _ _ _)
  | cons x xs ih =>
    cases ys with
    | nil => exact absurd h.symm (hstart hseparator _ _ _ _)
    | cons y ys =>
      -- what follows the first parts starts with a comma or a closing bracket
      simp only [List.map_cons, spread, List.append_assoc, List.append_cancel_left_eq,
        List.cons_append, List.cons.injEq, true_and] at h
      obtain ⟨rfl, hcommon⟩ := hparts x List.mem_cons_self y List.mem_cons_self _ _ (hends xs _)
        (hends ys _) h
      obtain ⟨rfl, hrest⟩ := ih (fun z hz w hw => hparts z (List.mem_cons_of_mem _ hz) w
        (List.mem_cons_of_mem _ hw)) (.inr rfl) hcommon
      exact ⟨rfl, hrest⟩

/-! ## What a text is the text of -/

/-- What can be told of an outline by the start of its text. -/
inductive Shape where
  | word
  | number
  | text
  | constant
  | list
  | mapping
  | record

/-- The shape of an outline. -/
def shape : Outline → Shape
  | .absent | .bool _ => .word
  | .number _ => .number
  | .text _ => .text
  | .constant _ _ => .constant
  | .list _ => .list
  | .mapping _ => .mapping
  | .record _ _ | .property _ _ => .record

/-- The shape that shows at the first character that does not belong to a name. -/
def shapeOf (cs : List Char) : Shape :=
  match cs.dropWhile isWordChar with
  | [] => .word
  | c :: _ =>
    if c = '(' then .record
    else if c = '[' then .list
    else if c = '\x7b' then .mapping
    else if c = '.' then .constant
    else if c = '\x22' ∨ c = '\x27' then .text
    else if c.isDigit ∨ c = '-' then .number
    else .word

lemma shapeOf_append {word rest : List Char} (hword : ∀ c ∈ word, isWordChar c = true)
    (hrest : ∀ c ∈ rest.head?, isWordChar c = false) : shapeOf (word ++ rest) = shapeOf rest := by
  have hnone : rest.dropWhile isWordChar = rest := (span_append (List.forall_mem_nil _) hrest).2
  rw [shapeOf, (span_append hword hrest).2, shapeOf, hnone]

lemma Ends.shapeOf_eq {cs : List Char} (h : Ends cs) : shapeOf cs = .word := by
  cases cs with
  | nil => rfl
  | cons c cs =>
    rcases h c rfl with rfl | rfl | rfl <;> rfl

lemma shapeOf_word {s : String} (hs : IsWord s) {rest : List Char} (hrest : Ends rest) :
    shapeOf (s.toList ++ rest) = .word := by
  rw [shapeOf_append hs.2 hrest.not_wordChar, hrest.shapeOf_eq]

lemma shapeOf_number {n : Number} (hn : n.isFinite = true) (rest : List Char) :
    shapeOf (n.text.toList ++ rest) = .number := by
  obtain ⟨c, cs, htext, hc⟩ := Number.text_eq_cons hn
  have hbounds : 48 ≤ c.toNat ∧ c.toNat ≤ 57 ∨ c = '-' := hc.imp_left isDigit_bounds
  -- neither a digit nor a minus sign belongs to a name or opens another shape
  have hword : isWordChar c = false := by
    rw [← Bool.not_eq_true]
    intro hword
    rw [isWordChar, Bool.or_eq_true, beq_iff_eq] at hword
    rcases hbounds with hdigit | rfl
    · rcases hword with halpha | rfl
      · have := isAlpha_bounds halpha
        omega
      · contradiction
    · contradiction
  rw [htext, List.cons_append, shapeOf, List.dropWhile_cons_of_neg (by simp [hword])]
  have hne (d : Char) (hd : d.toNat < 45 ∨ d.toNat = 46 ∨ 57 < d.toNat) : c ≠ d := by
    rintro rfl
    rcases hbounds with hdigit | rfl
    · omega
    · contradiction
  simp [hne '(' (by decide), hne '[' (by decide), hne '\x7b' (by decide), hne '.' (by decide),
    hne '\x22' (by decide), hne '\x27' (by decide), hc]

/-- The shape of an outline shows at the start of its text. -/
lemma WellNamed.shapeOf_render {o : Outline} (hnamed : WellNamed o) (hplain : Plain o)
    {rest : List Char} (hrest : Ends rest) : shapeOf (shift pad o.render ++ rest) = o.shape := by
  cases hnamed with
  | absent =>
    rw [shift_absent]
    exact shapeOf_word (by decide) hrest
  | bool b =>
    rw [shift_bool]
    exact shapeOf_word (by cases b <;> decide) hrest
  | number n =>
    rw [plain_number] at hplain
    rw [shift_number hplain]
    exact shapeOf_number hplain rest
  | text s =>
    rw [shift_text (plain_text.mp hplain), quotedChars]
    rcases quoteFor_cases s.toList with hquote | hquote <;> rw [hquote] <;> rfl
  | constant htype hmember =>
    rw [shift_constant htype hmember, List.append_assoc,
      shapeOf_append htype.2 (by simp [isWordChar])]
    rfl
  | list hitems =>
    rw [plain_list] at hplain
    rw [shift_render_list fun o ho => (hitems o ho).tidy_render (hplain o ho)]
    rfl
  | record hname hnames hvalues =>
    rw [plain_record] at hplain
    rw [shift_render_record hname hnames fun p hp => (hvalues p hp).tidy_render (hplain p hp),
      List.append_assoc, List.append_assoc, shapeOf_append hname.2 (by simp [isWordChar])]
    rfl

/-! ## The text of an outline identifies it -/

/-- No other outline has a text that starts like this one, whatever margin the texts are behind and
whatever follows them. -/
def Identified (o : Outline) : Prop :=
  ∀ o', WellNamed o' → Plain o' → ∀ pad rest rest', Ends rest → Ends rest' →
    shift pad o.render ++ rest = shift pad o'.render ++ rest' → o = o' ∧ rest = rest'

/-- Outlines whose texts start alike have the same shape. -/
lemma WellNamed.shape_eq {o o' : Outline} (hnamed : WellNamed o) (hplain : Plain o)
    (hnamed' : WellNamed o') (hplain' : Plain o') {rest rest' : List Char} (hrest : Ends rest)
    (hrest' : Ends rest') (h : shift pad o.render ++ rest = shift pad o'.render ++ rest') :
    o.shape = o'.shape := by
  rw [← hnamed.shapeOf_render hplain hrest, h, hnamed'.shapeOf_render hplain' hrest']

lemma word_prefix {s s' : String} (hs : IsWord s) (hs' : IsWord s') {rest rest' : List Char}
    (hrest : ∀ c ∈ rest.head?, isWordChar c = false)
    (hrest' : ∀ c ∈ rest'.head?, isWordChar c = false)
    (h : s.toList ++ rest = s'.toList ++ rest') : s = s' ∧ rest = rest' := by
  have hspan := span_prefix hs.2 hrest hs'.2 hrest' h
  exact ⟨String.toList_inj.mp hspan.1, hspan.2⟩

lemma isWord_boolText (b : Bool) : IsWord (Value.boolText b) := by
  cases b <;> decide

lemma boolText_injective : Function.Injective Value.boolText := by
  intro b b'
  cases b <;> cases b' <;> decide

lemma identified_absent : Identified absent := by
  intro o' hnamed' hplain' pad rest rest' hrest hrest' h
  have hshape := WellNamed.absent.shape_eq .absent hnamed' hplain' hrest hrest' h
  cases hnamed' with
  | absent =>
    rw [shift_absent] at h
    exact ⟨rfl, List.append_cancel_left h⟩
  | bool b =>
    rw [shift_absent, shift_bool] at h
    have hword := word_prefix (by decide) (isWord_boolText b) hrest.not_wordChar
      hrest'.not_wordChar h
    cases b <;> exact absurd hword.1 (by decide)
  | _ => cases hshape

lemma identified_bool (b : Bool) : Identified (bool b) := by
  intro o' hnamed' hplain' pad rest rest' hrest hrest' h
  have hshape := (WellNamed.bool b).shape_eq (.bool b) hnamed' hplain' hrest hrest' h
  cases hnamed' with
  | absent =>
    obtain ⟨heq, -⟩ := identified_absent (bool b) (.bool b) (.bool b) pad rest' rest hrest' hrest
      h.symm
    contradiction
  | bool b' =>
    rw [shift_bool, shift_bool] at h
    obtain ⟨hword, hcommon⟩ := word_prefix (isWord_boolText b) (isWord_boolText b')
      hrest.not_wordChar hrest'.not_wordChar h
    exact ⟨congrArg bool (boolText_injective hword), hcommon⟩
  | _ => cases hshape

lemma identified_number {n : Number} (hn : n.isFinite = true) : Identified (number n) := by
  intro o' hnamed' hplain' pad rest rest' hrest hrest' h
  have hshape := (WellNamed.number n).shape_eq (.number hn) hnamed' hplain' hrest hrest' h
  cases hnamed' with
  | number n' =>
    rw [plain_number] at hplain'
    rw [shift_number hn, shift_number hplain'] at h
    have hspan := span_prefix (fun c => Number.isNumeral_of_mem_text hn) hrest.not_numeral
      (fun c => Number.isNumeral_of_mem_text hplain') hrest'.not_numeral h
    have htext := String.toList_inj.mp hspan.1
    exact ⟨congrArg number (Number.eq_of_text_eq hn hplain' htext), hspan.2⟩
  | _ => cases hshape

lemma identified_text {s : String} (hs : '\n' ∉ s.toList) : Identified (text s) := by
  intro o' hnamed' hplain' pad rest rest' hrest hrest' h
  have hshape := (WellNamed.text s).shape_eq (.text hs) hnamed' hplain' hrest hrest' h
  cases hnamed' with
  | text s' =>
    rw [shift_text hs, shift_text (plain_text.mp hplain')] at h
    obtain ⟨hchars, hcommon⟩ := quotedChars_prefix h
    exact ⟨congrArg text (String.toList_inj.mp hchars), hcommon⟩
  | _ => cases hshape

lemma identified_constant {type member : String} (htype : IsWord type) (hmember : IsWord member) :
    Identified (constant type member) := by
  intro o' hnamed' hplain' pad rest rest' hrest hrest' h
  have hshape := (WellNamed.constant htype hmember).shape_eq (.constant _ _) hnamed' hplain' hrest
    hrest' h
  cases hnamed' with
  | constant htype' hmember' =>
    rw [shift_constant htype hmember, shift_constant htype' hmember', List.append_assoc,
      List.append_assoc] at h
    obtain ⟨rfl, hmembers⟩ := word_prefix htype htype' (head_not_wordChar rfl _)
      (head_not_wordChar rfl _) h
    obtain ⟨rfl, hcommon⟩ := word_prefix hmember hmember' hrest.not_wordChar hrest'.not_wordChar
      (List.tail_eq_of_cons_eq hmembers)
    exact ⟨rfl, hcommon⟩
  | _ => cases hshape

lemma identified_list {items : List Outline} (hitems : ∀ o ∈ items, WellNamed o)
    (hplain : ∀ o ∈ items, Plain o) (ih : ∀ o ∈ items, Identified o) : Identified (list items) := by
  intro o' hnamed' hplain' pad rest rest' hrest hrest' h
  -- the bracket at the start leaves no other shape than a list
  have hshape := (WellNamed.list hitems).shape_eq (.list hplain) hnamed' hplain' hrest hrest' h
  cases hnamed' with
  | list hitems' =>
    rw [plain_list] at hplain'
    rw [shift_render_list fun o ho => (hitems o ho).tidy_render (hplain o ho),
      shift_render_list fun o ho => (hitems' o ho).tidy_render (hplain' o ho)] at h
    simp only [List.append_assoc, List.cons_append, List.nil_append] at h
    obtain ⟨rfl, hcommon⟩ := spread_prefix (.inr rfl) (fun o ho o' ho' _ _ hr hr' heq =>
      ih o ho o' (hitems' o' ho') (hplain' o' ho') _ _ _ hr hr' (by simpa using heq)) (.inl rfl)
      (List.tail_eq_of_cons_eq h)
    exact ⟨rfl, hcommon⟩
  | _ => cases hshape

/-- A property can be told from what follows it if its value can. -/
lemma property_prefix {p p' : String × Outline} (hname : IsWord p.1) (hname' : IsWord p'.1)
    (hvalue : Identified p.2) (hnamed' : WellNamed p'.2) (hplain' : Plain p'.2)
    {rest rest' : List Char} (hrest : Ends rest) (hrest' : Ends rest')
    (h : p.1.toList ++ '=' :: (shift pad p.2.render ++ rest)
      = p'.1.toList ++ '=' :: (shift pad p'.2.render ++ rest')) : p = p' ∧ rest = rest' := by
  obtain ⟨hnames, hvalues⟩ := word_prefix hname hname' (head_not_wordChar rfl _)
    (head_not_wordChar rfl _) h
  obtain ⟨houtlines, hcommon⟩ := hvalue p'.2 hnamed' hplain' _ _ _ hrest hrest'
    (List.tail_eq_of_cons_eq hvalues)
  exact ⟨Prod.ext hnames houtlines, hcommon⟩

lemma identified_record {name : String} {properties : List (String × Outline)} (hname : IsWord name)
    (hnames : ∀ p ∈ properties, IsWord p.1) (hvalues : ∀ p ∈ properties, WellNamed p.2)
    (hplain : ∀ p ∈ properties, Plain p.2) (ih : ∀ p ∈ properties, Identified p.2) :
    Identified (record name properties) := by
  intro o' hnamed' hplain' pad rest rest' hrest hrest' h
  have hshape := (WellNamed.record hname hnames hvalues).shape_eq (.record hplain) hnamed' hplain'
    hrest hrest' h
  cases hnamed' with
  | record hname' hnames' hvalues' =>
    rw [plain_record] at hplain'
    rw [shift_render_record hname hnames fun p hp => (hvalues p hp).tidy_render (hplain p hp),
      shift_render_record hname' hnames' fun p hp =>
        (hvalues' p hp).tidy_render (hplain' p hp)] at h
    simp only [List.append_assoc, List.cons_append, List.nil_append] at h
    obtain ⟨rfl, hbody⟩ := word_prefix hname hname' (head_not_wordChar rfl _)
      (head_not_wordChar rfl _) h
    obtain ⟨rfl, hcommon⟩ := spread_prefix (.inl rfl) (fun p hp p' hp' _ _ hr hr' heq =>
      property_prefix (hnames p hp) (hnames' p' hp') (ih p hp) (hvalues' p' hp')
        (hplain' p' hp') hr hr' (by simpa using heq)) (.inl rfl) (List.tail_eq_of_cons_eq hbody)
    exact ⟨rfl, hcommon⟩
  | _ => cases hshape

/-- An outline can be told from what follows its text. -/
theorem WellNamed.identified {o : Outline} (hnamed : WellNamed o) (hplain : Plain o) :
    o.Identified := by
  induction hnamed with
  | absent => exact identified_absent
  | bool b => exact identified_bool b
  | number n => exact identified_number (plain_number.mp hplain)
  | text s => exact identified_text (plain_text.mp hplain)
  | constant htype hmember => exact identified_constant htype hmember
  | list hitems ih =>
    rw [plain_list] at hplain
    exact identified_list hitems hplain fun o ho => ih o ho (hplain o ho)
  | record hname hnames hvalues ih =>
    rw [plain_record] at hplain
    exact identified_record hname hnames hvalues hplain fun p hp => ih p hp (hplain p hp)

/-- An outline can be told by its dump. -/
theorem eq_of_same_dump {o o' : Outline} (hnamed : WellNamed o) (hplain : Plain o)
    (hnamed' : WellNamed o') (hplain' : Plain o') (h : o.dump = o'.dump) : o = o' := by
  have hchars : o.render = o'.render := by
    simpa [dump] using congrArg String.toList h
  refine (hnamed.identified hplain o' hnamed' hplain' [] [] [] ends_nil ends_nil ?_).1
  rw [hchars]

end EntityCompiler.Outline
