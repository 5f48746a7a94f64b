import EntityCompiler.Proofs.ParserTrees
import EntityCompiler.Script.Parse

/-!
# What reading a script comes to

The fuel for reading a script is always enough: reading its statements comes to what the rules of
the grammar give (`Grammar.gives_readStatements`). The tree of the parser covers the script unless
there is an error in it, and all comments are found (`Grammar.parser_covers`), so nothing of a
script is lost (`Block.parsed_lossless`). What is checked of each symbol for this is checked of
finitely many, since all levels of precedence behind the last one have the same rule.
-/

namespace EntityCompiler

namespace Grammar

/-- All symbols, up to the levels of precedence behind the last one. -/
def symbols : List Symbol :=
  [.statement, .block, .variableDeclaration, .lexicalDeclaration, .declarator, .parenthesized,
    .arguments, .text, .regularExpression, .templateString, .object, .array, .propertyName,
    .parameters, .functionBody, .classBody, .classHeritage, .method, .methodHead, .thisOrName]
  ++ [true, false].flatMap fun flag =>
    [.expressions flag, .expression flag, .unary flag, .operand flag, .chain flag,
      .newExpression flag, .primary flag, .pattern flag, .target flag, .patternElement flag,
      .restPattern flag]
    ++ (List.range (operators.length + 1)).map (.binary flag)

lemma rules_binary_min (ends : Bool) (level : Nat) :
    rules (.binary ends level) = rules (.binary ends (min level operators.length)) := by
  have hdrop :
      operators.zipIdx.drop level = operators.zipIdx.drop (min level operators.length) := by
    rcases Nat.le_total level operators.length with hlevel | hlevel
    · rw [Nat.min_eq_left hlevel]
    · rw [Nat.min_eq_right hlevel, List.drop_of_length_le, List.drop_of_length_le] <;> simp [hlevel]
  simp only [rules, binaryTails, hdrop]

/-- What holds of the rules of finitely many symbols holds of all rules, if it does not tell levels
of precedence apart. -/
theorem forall_rules {P : Symbol → ScriptRule → Prop}
    (hlevel : ∀ ends level other rule, P (.binary ends other) rule → P (.binary ends level) rule)
    (h : ∀ s ∈ symbols, P s (rules s)) (s : Symbol) : P s (rules s) := by
  have hflag : ∀ {flag : Bool} {s : Symbol},
      s ∈ ([.expressions flag, .expression flag, .unary flag, .operand flag, .chain flag,
          .newExpression flag, .primary flag, .pattern flag, .target flag, .patternElement flag,
          .restPattern flag] : List Symbol)
        ++ (List.range (operators.length + 1)).map (.binary flag) → s ∈ symbols := by
    intro flag s hs
    exact List.mem_append_right _ (List.mem_flatMap.mpr ⟨flag, by cases flag <;> simp, hs⟩)
  cases s with
  | binary ends level =>
    rw [rules_binary_min]
    refine hlevel _ _ _ _ (h _ (@hflag ends _ (List.mem_append_right _ (List.mem_map_of_mem ?_))))
    exact List.mem_range.mpr (Nat.lt_succ_of_le (Nat.min_le_right _ _))
  | expressions flag | expression flag | unary flag | operand flag | chain flag
  | newExpression flag | primary flag | pattern flag | target flag | patternElement flag
  | restPattern flag => exact h _ (@hflag flag _ (List.mem_append_left _ (by simp)))
  | _ => exact h _ (List.mem_append_left _ (by simp))

/-- How deep rules are nested from a symbol on before a character is taken. -/
def ranks : Symbol → Nat
  | .statement => 66
  | .expressions _ => 40
  | .expression _ => 38
  | .binary .. => 36
  | .unary _ => 34
  | .patternElement _ | .declarator => 33
  | .operand _ | .target _ => 29
  | .chain _ => 26
  | .primary _ => 23
  | .method => 18
  | .methodHead => 11
  | .propertyName => 6
  | .lexicalDeclaration => 5
  | _ => 4

/-- The rules of scripts are nested less than a hundred deep before a character is taken. -/
def ranking : Ranking rules where
  ranks := ranks
  bound := 100
  takes_rule := @forall_rules (fun _ rule => rule.takes = true) (fun _ _ _ _ h => h)
    (by decide +kernel)
  rank_rule := @forall_rules (fun s rule => rule.rank ranks ≤ ranks s) (fun _ _ _ _ h => h)
    (by decide +kernel)
  fits_rule := @forall_rules (fun _ rule => rule.fits ranks 100 = true) (fun _ _ _ _ h => h)
    (by decide +kernel)

/-- No rule of scripts makes comments or errors, and all of them open and close quotations in nodes
of their own. -/
lemma passage_rules (s : Symbol) : (rules s).passage .before false = some .before :=
  @forall_rules (fun _ rule => rule.passage .before false = some .before) (fun _ _ _ _ h => h)
    (by decide +kernel) s

/-! ## The tree of a script -/

variable {code : List Char}

/-- Reading the statements at the start of a script comes to what the grammar gives. -/
theorem gives_readStatements (code : List Char) :
    Rule.Gives rules (.many (.symbol .statement)) (start code) (readStatements code).found := by
  refine ranking.gives_run (depthFor code.length) rfl (start code) 0 ?_
  have hrank : (Rule.many (.symbol .statement)).rank ranks = 68 := rfl
  unfold Ranking.need depthFor
  change 100 * (code.length + 1) + (Rule.many (.symbol .statement)).rank ranks ≤ _
  omega

/-- What has been read of a script before its end is looked for. -/
lemma exists_readStatements (code : List Char) : ∃ last, (readStatements code).found = some last
    ∧ Rule.Gives rules (.many (.symbol .statement)) (start code) (some last) := by
  have hgives := gives_readStatements code
  obtain ⟨last, hlast⟩ := Option.isSome_iff_exists.mp hgives.isSome_of_many
  exact ⟨last, hlast, hlast ▸ hgives⟩

lemma fits_start (code : List Char) : (start code).Fits code 0 .before .before :=
  Cursor.fits_nil ⟨[], [], (List.append_nil code).symm, rfl, (Nat.zero_add _).symm⟩

lemma fits_readStatements (code : List Char) :
    (readStatements code).Fits code 0 .before .before := by
  have hpassage : (Rule.many (.symbol Symbol.statement)).passage .before false = some .before := rfl
  exact Rule.run_fits passage_rules _ hpassage (fits_start code) (absurd · Bool.false_ne_true)
    ⟨[], code, rfl, rfl, rfl⟩

/-- The tree of a script: the statements and the comments behind them if nothing else is left, an
error if something is. -/
lemma parser_children {last : Cursor} (h : (readStatements code).found = some last) :
    (parser code).children = if (Gap.before last.rest).rest = []
      then (last.passComments (Gap.before last.rest).comments).done.reverse
      else
        [errorAt code
          (max (readStatements code).refused (last.pass (Gap.before last.rest)).place)] := by
  simp only [parser, h, Option.getD_some, List.isEmpty_iff]
  rfl

lemma isError_errorAt (code : List Char) (place : Nat) : (errorAt code place).isError = true := rfl

/-- A script is read exactly if the statements at its start leave nothing but a gap. -/
lemma parser_hasError_iff {last : Cursor} (h : (readStatements code).found = some last) :
    (parser code).hasError = false ↔ (Gap.before last.rest).rest = [] := by
  have hfits := (fits_readStatements code).found last h
  have hroot : (parser code).isError = false := rfl
  rw [SyntaxNode.hasError_eq, hroot, Bool.false_or, SyntaxNode.anyHasError_eq_false_iff,
    parser_children h]
  split
  · rename_i hrest
    refine iff_of_true (fun node hnode => ?_) hrest
    exact (hfits.pass (Gap.isAt_before _) (.inr rfl)).1.readable node (List.mem_reverse.mp hnode)
  · rename_i hrest
    refine iff_of_false (fun hnone => ?_) hrest
    have herror := hnone _ (List.mem_singleton_self _)
    rw [SyntaxNode.hasError_eq, isError_errorAt, Bool.true_or] at herror
    contradiction

/-- The tree of a script covers it unless there is an error in it, and all comments are found. -/
theorem parser_covers (h : (parser code).hasError = false) :
    (parser code).Covers isScriptBlank code ∧ (parser code).FindsComments code := by
  obtain ⟨last, hlast, -⟩ := exists_readStatements code
  have hrest := (parser_hasError_iff hlast).mp h
  have hgap := Gap.isAt_before last.rest
  obtain ⟨haligned, hblank, hend⟩ :=
    ((fits_readStatements code).found last hlast).pass hgap (.inr rfl)
  rw [hrest] at hend
  have hchildren := parser_children hlast
  rw [if_pos hrest] at hchildren
  refine ⟨⟨_, _, by rw [hchildren]; exact haligned.row, hblank.append hend, ?_⟩, ?_⟩
  · rw [List.append_nil]
    exact hgap.blank
  · rw [SyntaxNode.FindsComments, hchildren]
    exact haligned.told

/-- The text that an error covers stands in the script. -/
lemma isBetween_errorAt {place : Nat} (h : Text.IsPlace code place) :
    ∃ text, Text.IsBetween code (errorAt code place).start (errorAt code place).stop text := by
  obtain ⟨before, behind, hcode, rfl, -⟩ := h
  rw [List.append_nil] at hcode
  subst hcode
  unfold errorAt
  rw [Text.splitAtPlace?_append]
  cases behind with
  | nil => exact ⟨[], before, [], by simp, rfl, rfl⟩
  | cons c behind => exact ⟨[c], before, behind, by simp, rfl, by simp⟩

/-- Where there is an error in the tree of a script, it is a single one. -/
lemma children_of_hasError (h : (parser code).hasError = true) :
    ∃ place, Text.IsPlace code place ∧ (parser code).children = [errorAt code place] := by
  obtain ⟨last, hlast, -⟩ := exists_readStatements code
  have hrest : (Gap.before last.rest).rest ≠ [] := by
    rw [Ne, ← parser_hasError_iff hlast, h]
    exact Bool.true_eq_false.mp
  have hfits := fits_readStatements code
  obtain ⟨-, -, hend⟩ := (hfits.found last hlast).pass (Gap.isAt_before last.rest) (.inr rfl)
  exact ⟨_, hfits.refused.max hend.isPlace_start, by rw [parser_children hlast, if_neg hrest]⟩

end Grammar

namespace Block

variable {code : List Char} {block : Block}

/-- Where the parser finds an error, the problem says so. -/
lemma ofChars_of_hasError (h : (Grammar.parser code).hasError = true) :
    ∃ line column offending,
      ofChars code = Outcome.problem none (.unparsable line column offending) := by
  obtain ⟨place, hplace, hchildren⟩ := Grammar.children_of_hasError h
  obtain ⟨text, htext⟩ := Grammar.isBetween_errorAt hplace
  obtain ⟨node, hnode, hproblem⟩ := parsed_of_hasError h
  have hroot : (Grammar.parser code).isError = false := rfl
  rw [SyntaxNode.firstError?_eq, hroot, if_neg Bool.false_ne_true, hchildren,
    SyntaxNode.firstErrorOf?_cons_of_isError _ (Grammar.isError_errorAt code place)] at hnode
  obtain rfl := Option.some.inj hnode
  rw [ofChars, hproblem]
  exact ⟨_, _, _, by rw [unparsable, textBetween_eq_ok htext]; rfl⟩

/-- A script is read, or it has a place that cannot be read. -/
theorem ofChars_total (code : List Char) : (∃ block, ofChars code = .ok block)
    ∨ ∃ line column offending,
      ofChars code = Outcome.problem none (.unparsable line column offending) := by
  cases herror : (Grammar.parser code).hasError with
  | true => exact .inr (ofChars_of_hasError herror)
  | false => exact .inl ((exists_parsed_iff (Grammar.parser_covers herror).1).mpr herror)

/-- A block that is read keeps all of the script, comments included. -/
lemma isLossless_of_ofChars (h : ofChars code = .ok block) :
    (Grammar.parser code).Covers isScriptBlank code ∧ (Grammar.parser code).FindsComments code
      ∧ block.IsLossless isScriptBlank code (Grammar.parser code) := by
  obtain ⟨hcovers, hfinds⟩ := Grammar.parser_covers (hasError_of_parsed h)
  exact ⟨hcovers, hfinds, isLossless_of_covers hcovers h⟩

/-- Whatever parser reads a script, if its tree covers the script, then a block is made of the tree
exactly if there is no error in it, and the block keeps all of the script. Where a script is read as
a block, the tree covers it, and all comments of the script are found in the tree. -/
theorem parsed_lossless :
    (∀ (blank : Char → Bool) (parser : Parser) (code : List Char),
        (parser code).Covers blank code →
          ((∃ block, parsed parser code = .ok block) ↔ (parser code).hasError = false)
          ∧ ∀ block, parsed parser code = .ok block → block.IsLossless blank code (parser code))
      ∧ ∀ (code : List Char) (block : Block), ofChars code = .ok block →
        (Grammar.parser code).Covers isScriptBlank code
          ∧ (Grammar.parser code).FindsComments code
          ∧ block.IsLossless isScriptBlank code (Grammar.parser code) :=
  ⟨fun _ _ _ hcovers => ⟨exists_parsed_iff hcovers, fun _ => isLossless_of_covers hcovers⟩,
    fun _ _ => isLossless_of_ofChars⟩

/-- A script with comments in front of a statement, in it, behind it on its line, and at the end.
What looks like another comment is quoted. -/
def commentedScript : String :=
  "// set up\nvar a = f(\x22/* one */\x22, /* two */ 2) // done\nb /* last */ \n"

/-- The block of this script keeps all of it and holds the four comments in their order. -/
theorem commentedScript_lossless :
    ∃ block, ofChars commentedScript.toList = .ok block
      ∧ (Grammar.parser commentedScript.toList).FindsComments commentedScript.toList
      ∧ block.IsLossless isScriptBlank commentedScript.toList
        (Grammar.parser commentedScript.toList)
      ∧ block.comments.map (·.text) = ["// set up", "/* two */", "// done", "/* last */"] := by
  have hcomments : (ofChars commentedScript.toList).toOption.map (·.comments.map (·.text))
      = some ["// set up", "/* two */", "// done", "/* last */"] := by decide +kernel
  obtain ⟨block, hblock, hcomments⟩ := Option.map_eq_some_iff.mp hcomments
  have hread := Outcome.toOption_eq_some.mp hblock
  obtain ⟨hcovers, hfinds, -⟩ := parsed_lossless.2 _ _ hread
  exact ⟨block, hread, hfinds, (parsed_lossless.1 _ _ _ hcovers).2 block hread, hcomments⟩

end Block

end EntityCompiler
