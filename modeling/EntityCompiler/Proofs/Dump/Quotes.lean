import EntityCompiler.Proofs.Wording
import EntityCompiler.Text.Lines
import EntityCompiler.Text.Quoted
import Mathlib.Algebra.Group.Nat.Defs

/-!
# Reading quoted texts

A quoted text shows where it ends, and what was quoted can be read off it, escape by escape. It
stands on one line: every character that breaks a line is escaped.
-/

namespace EntityCompiler.Text

/-! ## Hexadecimal digits -/

/-- The value of a hexadecimal digit in lower case. -/
def hexDigitValue (c : Char) : Nat :=
  if c.isDigit then c.toNat - 48 else c.toNat - 87

/-- The number that hexadecimal digits stand for. -/
def hexValue (ds : List Char) : Nat :=
  ds.foldl (fun n d => 16 * n + hexDigitValue d) 0

lemma hexDigitValue_digitChar : ∀ d < 16, hexDigitValue (Nat.digitChar d) = d := by decide

@[simp]
lemma length_hexDigits (width n : Nat) : (hexDigits width n).length = width := by
  induction width generalizing n with
  | zero => rfl
  | succ width ih => simp [hexDigits, ih]

lemma hexValue_hexDigits {width n : Nat} (h : n < 16 ^ width) :
    hexValue (hexDigits width n) = n := by
  induction width generalizing n with
  | zero => simp_all [hexDigits, hexValue]
  | succ width ih =>
    have hquotient : n / 16 < 16 ^ width := by omega
    have hdigit := hexDigitValue_digitChar (n % 16) (Nat.mod_lt n (by decide))
    rw [hexDigits, hexValue, List.foldl_append]
    change 16 * hexValue (hexDigits width (n / 16)) + hexDigitValue (Nat.digitChar (n % 16)) = n
    rw [ih hquotient, hdigit]
    omega

/-! ## Escapes -/

/-- The character whose code stands in the first `width` places, and the rest of the text. -/
def readCode (width : Nat) (cs : List Char) : Char × List Char :=
  (Char.ofNat (hexValue (cs.take width)), cs.drop width)

/-- The first character that a text between quotes stands for, and the rest of the text. -/
def readEscaped : List Char → Char × List Char
  | '\x5c' :: 'n' :: cs => ('\n', cs)
  | '\x5c' :: 'r' :: cs => ('\r', cs)
  | '\x5c' :: 't' :: cs => ('\t', cs)
  | '\x5c' :: 'x' :: cs => readCode 2 cs
  | '\x5c' :: 'u' :: cs => readCode 4 cs
  | '\x5c' :: 'U' :: cs => readCode 8 cs
  | '\x5c' :: c :: cs => (c, cs)
  | c :: cs => (c, cs)
  | [] => (default, [])

lemma readCode_hexDigits (width : Nat) {c : Char} (h : c.toNat < 16 ^ width) (rest : List Char) :
    readCode width (hexDigits width c.toNat ++ rest) = (c, rest) := by
  have hlength := length_hexDigits width c.toNat
  rw [readCode, List.take_left' hlength, List.drop_left' hlength, hexValue_hexDigits h,
    Char.ofNat_toNat]

lemma eq_of_escaped_by_itself {quote c : Char} (hquote : quote = '\x22' ∨ quote = '\x27')
    (h : (c == quote || c == '\x5c') = true) : c = '\x22' ∨ c = '\x27' ∨ c = '\x5c' := by
  rw [Bool.or_eq_true, beq_iff_eq, beq_iff_eq] at h
  rcases h with rfl | h
  · exact hquote.imp_right .inl
  · exact .inr (.inr h)

/-- What stands between quotes is read back escape by escape. -/
lemma readEscaped_escaped {quote : Char} (hquote : quote = '\x22' ∨ quote = '\x27') (c : Char)
    (rest : List Char) : readEscaped (escaped quote c ++ rest) = (c, rest) := by
  unfold escaped
  split
  next h =>
    rcases eq_of_escaped_by_itself hquote h with rfl | rfl | rfl <;> rfl
  next hplain =>
    have hbackslash : c ≠ '\x5c' := by
      simp at hplain
      exact hplain.2
    split_ifs with hnewline hreturn htab hprintable hbyte hshort
    · rw [beq_iff_eq.mp hnewline]
      rfl
    · rw [beq_iff_eq.mp hreturn]
      rfl
    · rw [beq_iff_eq.mp htab]
      rfl
    · change readEscaped (c :: rest) = (c, rest)
      unfold readEscaped
      split <;> simp_all
    · exact readCode_hexDigits 2 hbyte rest
    · exact readCode_hexDigits 4 hshort rest
    · refine readCode_hexDigits 8 ?_ rest
      have hvalid := c.valid
      simp only [UInt32.isValidChar, Nat.isValidChar] at hvalid
      change c.val.toNat < 16 ^ 8
      omega

/-- A character stands for itself between quotes, or is escaped. -/
lemma escaped_cases (quote c : Char) :
    escaped quote c = [c] ∧ c ≠ quote ∧ isPrintable c = true ∨
      ∃ rest, escaped quote c = '\x5c' :: rest := by
  unfold escaped
  split
  · exact .inr ⟨_, rfl⟩
  next hplain =>
    have hne : c ≠ quote := by
      simp at hplain
      exact hplain.1
    split_ifs with hnewline hreturn htab hprintable hbyte hshort
    · exact .inr ⟨_, rfl⟩
    · exact .inr ⟨_, rfl⟩
    · exact .inr ⟨_, rfl⟩
    · exact .inl ⟨rfl, hne, hprintable⟩
    · exact .inr ⟨_, rfl⟩
    · exact .inr ⟨_, rfl⟩
    · exact .inr ⟨_, rfl⟩

/-- No escape starts with the quote that ends the text. -/
lemma quote_cons_ne_escaped {quote : Char} (hquote : quote = '\x22' ∨ quote = '\x27') (c : Char)
    (rest rest' : List Char) : quote :: rest ≠ escaped quote c ++ rest' := by
  rcases escaped_cases quote c with ⟨hplain, hne, -⟩ | ⟨escape, hescape⟩
  · rw [hplain]
    exact fun heq => hne (List.head_eq_of_cons_eq heq).symm
  · rw [hescape]
    rcases hquote with rfl | rfl <;> simp

/-! ## Quoted texts -/

/-- Between quotes, what was quoted can be read up to the closing quote. -/
lemma escaped_prefix {quote : Char} (hquote : quote = '\x22' ∨ quote = '\x27')
    {cs ds rest rest' : List Char}
    (h : cs.flatMap (escaped quote) ++ quote :: rest
      = ds.flatMap (escaped quote) ++ quote :: rest') : cs = ds ∧ rest = rest' := by
  induction cs generalizing ds with
  | nil =>
    cases ds with
    | nil => exact ⟨rfl, List.tail_eq_of_cons_eq h⟩
    | cons d ds =>
      rw [List.flatMap_cons, List.append_assoc] at h
      exact absurd h (quote_cons_ne_escaped hquote d _ _)
  | cons c cs ih =>
    cases ds with
    | nil =>
      rw [List.flatMap_cons, List.append_assoc] at h
      exact absurd h.symm (quote_cons_ne_escaped hquote c _ _)
    | cons d ds =>
      rw [List.flatMap_cons, List.flatMap_cons, List.append_assoc, List.append_assoc] at h
      -- the first escape is read the same way from both texts
      have hread := congrArg readEscaped h
      rw [readEscaped_escaped hquote, readEscaped_escaped hquote, Prod.mk.injEq] at hread
      obtain ⟨rfl, htail⟩ := hread
      obtain ⟨rfl, hrest⟩ := ih htail
      exact ⟨rfl, hrest⟩

/-- A quoted text shows where it ends, and what was quoted. -/
theorem quotedChars_prefix {cs ds rest rest' : List Char}
    (h : quotedChars cs ++ rest = quotedChars ds ++ rest') : cs = ds ∧ rest = rest' := by
  simp only [quotedChars, List.cons_append, List.append_assoc, List.nil_append] at h
  have hquote := List.head_eq_of_cons_eq h
  rw [← hquote] at h
  exact escaped_prefix (quoteFor_cases cs) (List.tail_eq_of_cons_eq h)

/-! ## Quoted texts stand on one line -/

/-- The codes of the characters that break a line. -/
def breaks : List Nat := [10, 11, 12, 13, 28, 29, 30, 0x85, 0x2028, 0x2029]

lemma inRanges_of_mem_breaks : ∀ n ∈ breaks, n < 0x20 ∨ 0x7f ≤ n ∧
    inRanges n unprintableRanges = true := by
  decide +kernel

/-- No character that breaks a line is printable. -/
lemma isBreak_of_isPrintable {c : Char} (h : isPrintable c = true) : isBreak c = false := by
  rw [← Bool.not_eq_true]
  intro hbreak
  have hmem : c.toNat ∈ breaks := by
    simp only [isBreak, Bool.or_eq_true, Bool.and_eq_true, decide_eq_true_eq, beq_iff_eq] at hbreak
    simp only [breaks, List.mem_cons, List.not_mem_nil]
    omega
  unfold isPrintable at h
  dsimp only at h
  rcases inRanges_of_mem_breaks _ hmem with hcontrol | ⟨hlow, hin⟩
  · rw [if_pos (by omega)] at h
    simp at h
    omega
  · rw [if_neg (by omega), hin] at h
    contradiction

lemma isBreak_of_mem_hexDigits {width n : Nat} {c : Char} (h : c ∈ hexDigits width n) :
    isBreak c = false := by
  have hdigit : ∀ d < 16, isBreak (Nat.digitChar d) = false := by decide
  induction width generalizing n with
  | zero => contradiction
  | succ width ih =>
    rcases List.mem_append.mp h with h | h
    · exact ih h
    · rw [List.mem_singleton.mp h]
      exact hdigit _ (Nat.mod_lt n (by decide))

lemma isBreak_of_mem_escaped {quote c d : Char} (hquote : quote = '\x22' ∨ quote = '\x27')
    (h : d ∈ escaped quote c) : isBreak d = false := by
  unfold escaped at h
  split_ifs at h with hquoted hnewline hreturn htab hprintable hbyte hshort
  · rcases eq_of_escaped_by_itself hquote hquoted with rfl | rfl | rfl <;> revert d <;> decide
  · exact (by decide : ∀ x ∈ ['\x5c', 'n'], isBreak x = false) d h
  · exact (by decide : ∀ x ∈ ['\x5c', 'r'], isBreak x = false) d h
  · exact (by decide : ∀ x ∈ ['\x5c', 't'], isBreak x = false) d h
  · rw [List.mem_singleton.mp h]
    exact isBreak_of_isPrintable hprintable
  all_goals
    -- a mark of one letter, and the code of the character
    rcases List.mem_cons.mp h with rfl | h
    · rfl
    rcases List.mem_cons.mp h with rfl | h
    · rfl
    exact isBreak_of_mem_hexDigits h

/-- A quoted text stands on one line. -/
lemma isBreak_of_mem_quotedChars {cs : List Char} {c : Char} (h : c ∈ quotedChars cs) :
    isBreak c = false := by
  have hquote := quoteFor_cases cs
  have hend : isBreak (quoteFor cs) = false := by
    rcases hquote with hq | hq <;> rw [hq] <;> rfl
  rcases List.mem_append.mp h with h | h
  · rcases List.mem_cons.mp h with rfl | h
    · exact hend
    · obtain ⟨d, -, hd⟩ := List.mem_flatMap.mp h
      exact isBreak_of_mem_escaped hquote hd
  · rw [List.mem_singleton.mp h]
    exact hend

end EntityCompiler.Text
