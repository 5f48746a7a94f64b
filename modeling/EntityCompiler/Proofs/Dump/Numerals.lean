import EntityCompiler.Number.Basic
import EntityCompiler.Proofs.Dump.Decimals
import Mathlib.Data.List.TakeWhile

/-!
# The texts of numbers

The text of a finite double, its sign apart, is read as digits, perhaps with a point among them, and
an exponent; what is read is the shortest decimal of the double. So a finite double has its text for
itself, and no integer has the same: a double shows a point or an exponent.
-/

namespace EntityCompiler

namespace Text

/-! ## Runs -/

/-- A run of things of one kind ends where another kind starts. -/
lemma span_append {α : Type} {p : α → Bool} {run rest : List α} (hrun : ∀ c ∈ run, p c = true)
    (hrest : ∀ c ∈ rest.head?, p c = false) :
    (run ++ rest).takeWhile p = run ∧ (run ++ rest).dropWhile p = rest := by
  rw [List.takeWhile_append_of_pos hrun, List.dropWhile_append_of_pos hrun]
  cases rest with
  | nil => simp
  | cons c rest => simp [hrest c rfl]

/-- Two runs of characters of one kind agree if what starts with them agrees. -/
lemma span_prefix {p : Char → Bool} {run run' rest rest' : List Char}
    (hrun : ∀ c ∈ run, p c = true) (hrest : ∀ c ∈ rest.head?, p c = false)
    (hrun' : ∀ c ∈ run', p c = true) (hrest' : ∀ c ∈ rest'.head?, p c = false)
    (h : run ++ rest = run' ++ rest') : run = run' ∧ rest = rest' := by
  have hspan := span_append hrun hrest
  have hspan' := span_append hrun' hrest'
  rw [← h] at hspan'
  exact ⟨hspan.1.symm.trans hspan'.1, hspan.2.symm.trans hspan'.2⟩

/-! ## Reading a number -/

/-- The exponent at the end of a number. -/
def exponentOf : List Char → Int
  | 'e' :: '-' :: ds => -(Nat.ofDigitChars 10 ds 0 : Int)
  | 'e' :: _ :: ds => Nat.ofDigitChars 10 ds 0
  | _ => 0

/-- The digits after the point, and what follows them. -/
def fractionOf : List Char → List Char × List Char
  | '.' :: cs => (cs.takeWhile Char.isDigit, cs.dropWhile Char.isDigit)
  | cs => ([], cs)

/-- The number that digits, a point and an exponent stand for. -/
def denoted (cs : List Char) : ℚ :=
  let whole := cs.takeWhile Char.isDigit
  let (fraction, rest) := fractionOf (cs.dropWhile Char.isDigit)
  Nat.ofDigitChars 10 (whole ++ fraction) 0 * 10 ^ (exponentOf rest - fraction.length)

/-- The end of a number: an exponent, or nothing. -/
def IsExponent (cs : List Char) : Prop :=
  ∀ c ∈ cs.head?, c = 'e'

lemma IsExponent.not_digit {cs : List Char} (h : IsExponent cs) :
    ∀ c ∈ cs.head?, c.isDigit = false := by
  intro c hc
  rw [h c hc]
  rfl

lemma denoted_point (whole fraction tail : List Char) (hwhole : ∀ d ∈ whole, d.isDigit = true)
    (hfraction : ∀ d ∈ fraction, d.isDigit = true) (htail : IsExponent tail) :
    denoted (whole ++ '.' :: (fraction ++ tail))
      = Nat.ofDigitChars 10 (whole ++ fraction) 0 * 10 ^ (exponentOf tail - fraction.length) := by
  have hpoint : ∀ c ∈ ('.' :: (fraction ++ tail)).head?, c.isDigit = false := by simp
  have hout := span_append hwhole hpoint
  have hin := span_append hfraction htail.not_digit
  simp only [denoted, hout.1, hout.2, fractionOf, hin.1, hin.2]

lemma denoted_whole {whole tail : List Char} (hwhole : ∀ d ∈ whole, d.isDigit = true)
    (htail : IsExponent tail) :
    denoted (whole ++ tail) = Nat.ofDigitChars 10 whole 0 * 10 ^ exponentOf tail := by
  have hout := span_append hwhole htail.not_digit
  have hfraction : fractionOf tail = ([], tail) := by
    unfold fractionOf
    split
    next cs =>
      have := htail '.' rfl
      contradiction
    next => rfl
  simp [denoted, hout.1, hout.2, hfraction]

lemma ofDigitChars_zeros_append (k : Nat) (ds : List Char) :
    Nat.ofDigitChars 10 (List.replicate k '0' ++ ds) 0 = Nat.ofDigitChars 10 ds 0 := by
  rw [Nat.ofDigitChars_append, Nat.ofDigitChars_replicate_zero, Nat.mul_zero]

lemma ofDigitChars_append_zeros (ds : List Char) (k : Nat) :
    Nat.ofDigitChars 10 (ds ++ List.replicate k '0') 0 = 10 ^ k * Nat.ofDigitChars 10 ds 0 := by
  rw [Nat.ofDigitChars_append, Nat.ofDigitChars_replicate_zero]

end Text

namespace FiniteDouble

open Text

lemma isExponent_exponentText (e : Int) : IsExponent (exponentText e) := by
  intro c hc
  simpa [exponentText, eq_comm] using hc

lemma exponentOf_exponentText (e : Int) : exponentOf (exponentText e) = e := by
  have hpadded : Nat.ofDigitChars 10
      (if (Nat.toDigits 10 e.natAbs).length < 2 then '0' :: Nat.toDigits 10 e.natAbs
        else Nat.toDigits 10 e.natAbs) 0 = e.natAbs := by
    split
    · exact (ofDigitChars_zeros_append 1 _).trans Nat.ofDigitChars_ten_toDigits
    · exact Nat.ofDigitChars_ten_toDigits
  unfold exponentText
  dsimp only
  split
  · rw [exponentOf, hpadded]
    omega
  · rw [exponentOf, hpadded]
    · omega
    · simp

lemma isDigit_of_mem_zeros {k : Nat} {d : Char} (h : d ∈ List.replicate k '0') :
    d.isDigit = true := by
  rw [List.eq_of_mem_replicate h]
  rfl

lemma isExponent_nil : IsExponent [] := by
  intro c hc
  contradiction

/-- The number that laid out digits stand for, if `point` of them stand in front of the point. -/
lemma denoted_layout {ds : List Char} (hne : ds ≠ []) (hds : ∀ d ∈ ds, d.isDigit = true)
    (point : Int) :
    denoted (layout ds point) = Nat.ofDigitChars 10 ds 0 * 10 ^ (point - ds.length) := by
  unfold layout
  split
  · -- scientific notation
    match ds with
    | [] => contradiction
    | [d] =>
      have h := denoted_whole hds (isExponent_exponentText (point - 1))
      rwa [exponentOf_exponentText] at h
    | d :: e :: ds =>
      have h := denoted_point [d] (e :: ds) _ (fun c hc => hds c (by simp_all))
        (fun c hc => hds c (List.mem_cons_of_mem _ hc)) (isExponent_exponentText (point - 1))
      refine h.trans ?_
      rw [exponentOf_exponentText]
      congr 2
      push_cast [List.length_cons]
      ring
  split
  next hsmall =>
    -- a fraction below one
    have h := denoted_point ['0'] _ [] (by simp)
      (fun c hc => (List.mem_append.mp hc).elim
        (isDigit_of_mem_zeros (k := (-point).toNat)) (hds c)) isExponent_nil
    rw [List.append_nil] at h
    refine h.trans ?_
    rw [← List.append_assoc, show ['0'] ++ List.replicate (-point).toNat '0'
      = List.replicate ((-point).toNat + 1) '0' from rfl, ofDigitChars_zeros_append]
    congr 2
    simp only [exponentOf, List.length_append, List.length_replicate]
    omega
  next hlarge =>
    dsimp only
    split
    next hshort =>
      -- a whole number
      have h := denoted_point _ ['0'] [] (fun c hc => (List.mem_append.mp hc).elim (hds c)
          (isDigit_of_mem_zeros (k := point.toNat - ds.length))) (by simp) isExponent_nil
      refine h.trans ?_
      rw [List.append_assoc, show List.replicate (point.toNat - ds.length) '0' ++ ['0']
        = List.replicate (point.toNat - ds.length + 1) '0' from List.replicate_succ'.symm,
        ofDigitChars_append_zeros, Nat.cast_mul, mul_comm, ← mul_assoc, mul_comm]
      congr 1
      rw [Nat.cast_pow, Nat.cast_ofNat, ← zpow_natCast, ← zpow_add₀ (by norm_num)]
      congr 1
      simp only [exponentOf, List.length_cons, List.length_nil]
      omega
    next hlong =>
      -- the point stands among the digits
      have h := denoted_point _ _ []
        (fun c hc => hds c (List.mem_of_mem_take (i := point.toNat) hc))
        (fun c hc => hds c (List.mem_of_mem_drop (i := point.toNat) hc)) isExponent_nil
      rw [List.append_nil, List.take_append_drop] at h
      refine h.trans ?_
      congr 2
      simp only [exponentOf, List.length_drop]
      omega

/-! ## The text of a double -/

/-- The digits of a number are its significant ones and zeros. -/
lemma significantDigits_append (n : Nat) :
    ∃ k, Nat.toDigits 10 n = significantDigits n ++ List.replicate k '0' := by
  have hzeros : ∀ c ∈ (Nat.toDigits 10 n).reverse.takeWhile (· == '0'), c = '0' := fun c hc => by
    simpa using List.mem_takeWhile_imp hc
  have hsplit :=
    List.takeWhile_append_dropWhile (p := (· == '0')) (l := (Nat.toDigits 10 n).reverse)
  rw [List.eq_replicate_of_mem hzeros, ← List.reverse_eq_iff, List.reverse_append,
    List.reverse_replicate] at hsplit
  exact ⟨_, hsplit.symm⟩

lemma isDigit_of_mem_significantDigits {n : Nat} {d : Char} (hd : d ∈ significantDigits n) :
    d.isDigit = true := by
  obtain ⟨k, hk⟩ := significantDigits_append n
  have hmem : d ∈ Nat.toDigits 10 n := by
    rw [hk]
    exact List.mem_append_left _ hd
  exact Nat.isDigit_of_mem_toDigits (by decide) (by decide) hmem

lemma significantDigits_ne_nil {n : Nat} (hn : 0 < n) : significantDigits n ≠ [] := by
  intro hnil
  obtain ⟨k, hk⟩ := significantDigits_append n
  have hvalue := Nat.ofDigitChars_ten_toDigits (n := n)
  rw [hk, hnil, ofDigitChars_append_zeros] at hvalue
  simp at hvalue
  omega

/-- The text of a magnitude. -/
def magnitude (x : FiniteDouble) : List Char :=
  if x.mantissa = 0 then ['0', '.', '0']
  else layout (significantDigits x.shortest.digits)
    (x.shortest.point + ((Nat.toDigits 10 x.shortest.digits).length - x.shortest.count))

lemma text_eq (x : FiniteDouble) :
    x.text = if x.negative then '-' :: x.magnitude else x.magnitude := rfl

lemma denoted_decimal (d : Decimal) (hd : 0 < d.digits) :
    denoted (layout (significantDigits d.digits)
      (d.point + ((Nat.toDigits 10 d.digits).length - d.count))) = d.value := by
  rw [denoted_layout (significantDigits_ne_nil hd) fun _ => isDigit_of_mem_significantDigits,
    Decimal.value]
  obtain ⟨k, hk⟩ := significantDigits_append d.digits
  have hvalue : (d.digits : ℚ) = 10 ^ k * Nat.ofDigitChars 10 (significantDigits d.digits) 0 := by
    have h := Nat.ofDigitChars_ten_toDigits (n := d.digits)
    rw [hk, ofDigitChars_append_zeros] at h
    exact_mod_cast h.symm
  rw [hvalue, hk, mul_comm ((10 : ℚ) ^ k), mul_assoc, ← zpow_natCast, ← zpow_add₀ (by norm_num)]
  congr 2
  simp only [List.length_append, List.length_replicate]
  push_cast
  ring

lemma digits_shortest_pos {x : FiniteDouble} (hx : 0 < x.mantissa) : 0 < x.shortest.digits := by
  have hpos := (covers_shortest hx).pos hx
  refine Nat.pos_of_ne_zero fun hzero => ?_
  rw [Decimal.value, hzero, Nat.cast_zero, zero_mul] at hpos
  exact lt_irrefl _ hpos

/-- The text of the magnitude of a double other than zero stands for its shortest decimal. -/
lemma denoted_magnitude {x : FiniteDouble} (hx : 0 < x.mantissa) :
    denoted x.magnitude = x.shortest.value := by
  rw [magnitude, if_neg hx.ne']
  exact denoted_decimal x.shortest (digits_shortest_pos hx)

lemma denoted_magnitude_zero {x : FiniteDouble} (hx : x.mantissa = 0) :
    denoted x.magnitude = 0 := by
  rw [magnitude, if_pos hx]
  have h := denoted_point ['0'] ['0'] [] (by simp) (by simp) isExponent_nil
  refine h.trans ?_
  simp [Nat.ofDigitChars]

lemma scale_of_mantissa_zero {x : FiniteDouble} (hx : x.mantissa = 0) : x.scale = 0 := by
  by_contra hscale
  have := mantissa_of_scale_ne_zero hscale
  omega

lemma mantissa_scale_of_magnitude_eq {x y : FiniteDouble} (h : x.magnitude = y.magnitude) :
    x.mantissa = y.mantissa ∧ x.scale = y.scale := by
  have hdenoted := congrArg denoted h
  rcases Nat.eq_zero_or_pos x.mantissa with hx | hx <;>
    rcases Nat.eq_zero_or_pos y.mantissa with hy | hy
  · exact ⟨hx.trans hy.symm, (scale_of_mantissa_zero hx).trans (scale_of_mantissa_zero hy).symm⟩
  · rw [denoted_magnitude_zero hx, denoted_magnitude hy] at hdenoted
    exact absurd hdenoted ((covers_shortest hy).pos hy).ne
  · rw [denoted_magnitude_zero hy, denoted_magnitude hx] at hdenoted
    exact absurd hdenoted ((covers_shortest hx).pos hx).ne'
  · -- one decimal reads back as both magnitudes
    rw [denoted_magnitude hx, denoted_magnitude hy] at hdenoted
    exact (covers_shortest hx).unique (hdenoted ▸ covers_shortest hy)

/-! ## The shape of the text -/

/-- A character that can stand in the text of a finite number. -/
def isNumeral (c : Char) : Bool :=
  c.isDigit || ['.', 'e', '+', '-'].contains c

lemma isNumeral_of_isDigit {c : Char} (h : c.isDigit = true) : isNumeral c = true := by
  simp [isNumeral, h]

lemma isNumeral_of_mem_toDigits {n : Nat} {c : Char} (h : c ∈ Nat.toDigits 10 n) :
    isNumeral c = true :=
  isNumeral_of_isDigit (Nat.isDigit_of_mem_toDigits (by decide) (by decide) h)

lemma isNumeral_of_mem_exponentText {e : Int} {c : Char} (h : c ∈ exponentText e) :
    isNumeral c = true := by
  unfold exponentText at h
  dsimp only at h
  rcases List.mem_cons.mp h with rfl | h
  · rfl
  rcases List.mem_cons.mp h with rfl | h
  · split <;> rfl
  split at h
  · rcases List.mem_cons.mp h with rfl | h
    · rfl
    · exact isNumeral_of_mem_toDigits h
  · exact isNumeral_of_mem_toDigits h

/-- Digits, then a point or an exponent, and nothing but what belongs to a number. -/
structure IsDecimal (cs : List Char) : Prop where
  starts : ∀ c ∈ cs.head?, c.isDigit = true
  marked : '.' ∈ cs ∨ 'e' ∈ cs
  numeral : ∀ c ∈ cs, isNumeral c = true

lemma IsDecimal.append (whole : List Char) {rest : List Char} {c : Char} (hne : whole ≠ [])
    (hwhole : ∀ d ∈ whole, d.isDigit = true) (hc : c = '.' ∨ c = 'e')
    (hrest : ∀ d ∈ rest, isNumeral d = true) : IsDecimal (whole ++ c :: rest) := by
  refine ⟨fun d hd => ?_, ?_, fun d hd => ?_⟩
  · rw [List.head?_append_of_ne_nil _ hne] at hd
    exact hwhole d (List.mem_of_mem_head? hd)
  · rcases hc with rfl | rfl <;> simp
  · rcases List.mem_append.mp hd with hd | hd
    · exact isNumeral_of_isDigit (hwhole d hd)
    rcases List.mem_cons.mp hd with rfl | hd
    · rcases hc with rfl | rfl <;> rfl
    · exact hrest d hd

lemma isDecimal_layout {ds : List Char} (hne : ds ≠ []) (hds : ∀ d ∈ ds, d.isDigit = true)
    (point : Int) : IsDecimal (layout ds point) := by
  have hnumeral : ∀ d ∈ ds, isNumeral d = true := fun d hd => isNumeral_of_isDigit (hds d hd)
  unfold layout
  split
  · match ds with
    | [] => contradiction
    | [d] =>
      exact .append [d] (by simp) hds (.inr rfl) fun c hc =>
        isNumeral_of_mem_exponentText (e := point - 1) (List.mem_cons_of_mem _ hc)
    | d :: e :: ds =>
      refine .append [d] (by simp) (fun c hc => hds c (by simp_all)) (.inl rfl)
        fun c hc => ?_
      exact (List.mem_append.mp hc).elim (fun hc => hnumeral c (List.mem_cons_of_mem _ hc))
        isNumeral_of_mem_exponentText
  split
  · refine .append ['0'] (by simp) (by simp) (.inl rfl) fun c hc => ?_
    exact (List.mem_append.mp hc).elim
      (fun hc => isNumeral_of_isDigit (isDigit_of_mem_zeros hc)) (hnumeral c)
  · dsimp only
    split
    · refine .append _ (by simp [hne]) (fun c hc => ?_) (.inl rfl) (by simp [isNumeral])
      exact (List.mem_append.mp hc).elim (hds c) isDigit_of_mem_zeros
    · refine .append _ ?_ (fun c hc => hds c (List.mem_of_mem_take hc)) (.inl rfl)
        fun c hc => hnumeral c (List.mem_of_mem_drop hc)
      simp only [ne_eq, List.take_eq_nil_iff, hne, or_false]
      omega

lemma isDecimal_magnitude (x : FiniteDouble) : IsDecimal x.magnitude := by
  unfold magnitude
  split
  · exact ⟨by simp, by simp, by simp [isNumeral]⟩
  next hx =>
    exact isDecimal_layout (significantDigits_ne_nil (digits_shortest_pos (Nat.pos_of_ne_zero hx)))
      (fun _ => isDigit_of_mem_significantDigits) _

/-- A finite double has its text for itself. -/
theorem text_injective : Function.Injective text := by
  intro x y h
  have hminus (z : FiniteDouble) (cs : List Char) : z.magnitude ≠ '-' :: cs := by
    intro heq
    have := z.isDecimal_magnitude.starts '-' (by rw [heq]; rfl)
    contradiction
  rw [text_eq, text_eq] at h
  have hparts : x.negative = y.negative ∧ x.magnitude = y.magnitude := by
    cases hx : x.negative <;> cases hy : y.negative <;> rw [hx, hy] at h
    · exact ⟨rfl, h⟩
    · exact absurd h (hminus x _)
    · exact absurd h.symm (hminus y _)
    · exact ⟨rfl, List.tail_eq_of_cons_eq h⟩
  obtain ⟨hmantissa, hscale⟩ := mantissa_scale_of_magnitude_eq hparts.2
  cases x
  cases y
  simp_all

end FiniteDouble

/-! ## The text of a number -/

namespace Text

lemma isDigit_of_mem_digitsOf {n : Nat} {c : Char} (h : c ∈ digitsOf n) : c.isDigit = true :=
  Nat.isDigit_of_mem_toDigits (by decide) (by decide) h

lemma digitsOf_injective : Function.Injective digitsOf := by
  intro n m h
  have hvalue := congrArg (Nat.ofDigitChars 10 · 0) h
  simpa [digitsOf, Nat.ofDigitChars_ten_toDigits] using hvalue

lemma integerText_injective : Function.Injective integerText := by
  intro i j h
  have hminus (n : Nat) (cs : List Char) : digitsOf n ≠ '-' :: cs := by
    intro heq
    have := isDigit_of_mem_digitsOf (heq ▸ List.mem_cons_self)
    contradiction
  unfold integerText at h
  split at h <;> split at h
  · have := digitsOf_injective (List.tail_eq_of_cons_eq h)
    omega
  · exact absurd h.symm (hminus _ _)
  · exact absurd h (hminus _ _)
  · have := digitsOf_injective h
    omega

end Text

namespace Number

lemma isDigit_or_minus_of_mem_integerText {i : Int} {c : Char} (h : c ∈ Text.integerText i) :
    c.isDigit = true ∨ c = '-' := by
  unfold Text.integerText at h
  split at h
  · rcases List.mem_cons.mp h with rfl | h
    · exact .inr rfl
    · exact .inl (Text.isDigit_of_mem_digitsOf h)
  · exact .inl (Text.isDigit_of_mem_digitsOf h)

lemma integerText_ne_text (i : Int) (x : FiniteDouble) : Text.integerText i ≠ x.text := by
  intro h
  have hmagnitude : ∀ c ∈ x.magnitude, c.isDigit = true ∨ c = '-' := by
    intro c hc
    refine isDigit_or_minus_of_mem_integerText (i := i) ?_
    rw [h, FiniteDouble.text_eq]
    split
    · exact List.mem_cons_of_mem _ hc
    · exact hc
  rcases x.isDecimal_magnitude.marked with hpoint | hexponent
  · have := hmagnitude '.' hpoint
    contradiction
  · have := hmagnitude 'e' hexponent
    contradiction

lemma isFinite_cases {n : Number} (h : n.isFinite = true) :
    (∃ i, n = integer i) ∨ ∃ x, n = double (.finite x) := by
  match n, h with
  | integer i, _ => exact .inl ⟨i, rfl⟩
  | double (.finite x), _ => exact .inr ⟨x, rfl⟩

/-- Finite numbers have their texts for themselves, and integers are told apart from doubles. -/
theorem eq_of_text_eq {n m : Number} (hn : n.isFinite = true) (hm : m.isFinite = true)
    (h : n.text = m.text) : n = m := by
  have hchars := congrArg String.toList h
  rcases isFinite_cases hn with ⟨i, rfl⟩ | ⟨x, rfl⟩ <;>
    rcases isFinite_cases hm with ⟨j, rfl⟩ | ⟨y, rfl⟩
  all_goals
    simp only [text, Double.text, String.toList_ofList] at hchars
  · rw [Text.integerText_injective hchars]
  · exact absurd hchars (integerText_ne_text i y)
  · exact absurd hchars.symm (integerText_ne_text j x)
  · rw [FiniteDouble.text_injective hchars]

/-- The text of a finite number starts with a digit or a minus sign. -/
lemma text_eq_cons {n : Number} (h : n.isFinite = true) :
    ∃ c cs, n.text.toList = c :: cs ∧ (c.isDigit = true ∨ c = '-') := by
  rcases isFinite_cases h with ⟨i, rfl⟩ | ⟨x, rfl⟩
  · rw [text, String.toList_ofList, Text.integerText]
    split
    · exact ⟨_, _, rfl, .inr rfl⟩
    · have hne : Text.digitsOf i.natAbs ≠ [] := Nat.toDigits_ne_nil
      obtain ⟨c, cs, hdigits⟩ := List.exists_cons_of_ne_nil hne
      have hc : c ∈ Text.digitsOf i.natAbs := by simp [hdigits]
      exact ⟨c, cs, hdigits, .inl (Text.isDigit_of_mem_digitsOf hc)⟩
  · rw [text, String.toList_ofList, Double.text, FiniteDouble.text_eq]
    split
    · exact ⟨_, _, rfl, .inr rfl⟩
    · have hne : x.magnitude ≠ [] := by
        rcases x.isDecimal_magnitude.marked with hmem | hmem <;> exact List.ne_nil_of_mem hmem
      obtain ⟨c, cs, hcs⟩ := List.exists_cons_of_ne_nil hne
      exact ⟨c, cs, hcs, .inl (x.isDecimal_magnitude.starts c (by rw [hcs]; rfl))⟩

lemma isNumeral_of_mem_text {n : Number} (h : n.isFinite = true) {c : Char}
    (hc : c ∈ n.text.toList) : FiniteDouble.isNumeral c = true := by
  rcases isFinite_cases h with ⟨i, rfl⟩ | ⟨x, rfl⟩
  · rw [text, String.toList_ofList] at hc
    rcases isDigit_or_minus_of_mem_integerText hc with hc | rfl
    · exact FiniteDouble.isNumeral_of_isDigit hc
    · rfl
  · rw [text, String.toList_ofList, Double.text, FiniteDouble.text_eq] at hc
    split at hc
    · rcases List.mem_cons.mp hc with rfl | hc
      · rfl
      · exact x.isDecimal_magnitude.numeral c hc
    · exact x.isDecimal_magnitude.numeral c hc

end Number

end EntityCompiler
