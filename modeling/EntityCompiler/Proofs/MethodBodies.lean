import EntityCompiler.Proofs.Replacement
import EntityCompiler.Proofs.Wrapping

/-!
# Bodies of methods

The body of a method is read from the code inside the wrapper, or from the code with a return behind
it, and then its receivers are replaced (`Block.bodyOf_eq_ok_iff`). If the parser reads the return
as one more statement, the body is that of the code with the return behind it, and comments at the
end of the code belong to the return (`Block.bodyOf_append`). And if nothing is replaced, the text
of the body is read again as the body (`Block.ofChars_chars_of_bodyOf`). Without these conditions
neither is so: a return can complete the statement in front of it, and `this` cannot stand wherever
a name can.
-/

namespace EntityCompiler

namespace Wrapper

/-- Code without a wrapper is taken as it is, with a return behind it if there is a result. -/
lemma strip_of_not_opening {code : List Char} {resultType : BaseType}
    (hopening : ¬ opening.toList <+: Text.trim code) : strip code resultType
      = .ok (if resultType = .nothing then code else code ++ returnResult.toList) := by
  rw [strip]
  dsimp only
  rw [if_neg (by rwa [List.isPrefixOf_iff_prefix])]
  split <;> rfl

end Wrapper

namespace Block

variable {code : String} {resultType : BaseType} {body : Block}

/-- The body of a method is what is read of the code that is left by stripping, with its receivers
replaced. -/
theorem bodyOf_eq_ok_iff : bodyOf code resultType = .ok body
    ↔ ∃ inner block, Wrapper.strip code.toList resultType = .ok inner
      ∧ ofChars inner = .ok block ∧ body = block.onThis := by
  unfold bodyOf
  cases hstrip : Wrapper.strip code.toList resultType with
  | error cause =>
    refine iff_of_false (by simp [Outcome.problem]) ?_
    intro h
    obtain ⟨inner, block, hinner, -⟩ := h
    contradiction
  | ok inner =>
    dsimp only
    rw [Outcome.map_eq_ok]
    constructor
    · intro h
      obtain ⟨block, hblock, hbody⟩ := h
      exact ⟨inner, block, rfl, hblock, hbody.symm⟩
    · intro h
      obtain ⟨other, block, hother, hblock, hbody⟩ := h
      rw [← Except.ok.inj hother] at hblock
      exact ⟨block, hblock, hbody.symm⟩

/-! ## The return behind the code -/

/-- If the parser reads the return behind the code as one more node, the body of the method is that
of the code, and the return behind it as one more statement. The comments behind the code belong to
the return. -/
theorem bodyOf_append {block : Block} {node : SyntaxNode}
    (hopening : ¬ Wrapper.opening.toList <+: Text.trim code.toList)
    (hresult : resultType ≠ .nothing) (hblock : ofChars code.toList = .ok block)
    (herror : (Grammar.parser (code.toList ++ Wrapper.returnResult.toList)).hasError = false)
    (hchildren : (Grammar.parser (code.toList ++ Wrapper.returnResult.toList)).children
      = (Grammar.parser code.toList).children ++ [node])
    (hnode : node.isComment = false) :
    ∃ last : CodeNode, last.kind = node.kind ∧ last.leadingComments = block.trailingComments
      ∧ bodyOf code resultType
        = .ok ⟨block.onThis.statements ++ [last.withThis?.getD last], []⟩ := by
  have hcovers := (Grammar.parser_covers (hasError_of_parsed hblock)).1
  obtain ⟨last, hparsed, hkind, hleading⟩ := parsed_append hchildren hnode hcovers
    (Grammar.parser_covers herror).1 herror hblock
  refine ⟨last, hkind, hleading, bodyOf_eq_ok_iff.mpr ⟨_, _, ?_, hparsed, ?_⟩⟩
  · rw [Wrapper.strip_of_not_opening hopening, if_neg hresult]
  · -- receivers are replaced statement by statement
    rw [onThis_eq, onThis_eq, List.map_append]
    rfl

example : (bodyOf "f(me.x); // last" .number).toOption.map (fun body =>
    body.statements.map fun statement => (statement.source, statement.leadingComments.map (·.text)))
      = some [("f(this.x);", []), (" // last\nreturn result;", ["// last"])] := by
  decide +kernel

/-- A script that ends in the middle of a statement. -/
def danglingScript : String := "if (x)"

/-- A script that ends in the middle of a statement cannot be read, but a return behind it completes
the statement: the body of the method is a single statement that holds the return. -/
theorem danglingScript_swallows_return :
    (ofChars danglingScript.toList).toOption.isNone = true
      ∧ (bodyOf danglingScript .number).toOption.map (fun body =>
          body.statements.map fun statement => (statement.kind, statement.children.map (·.kind)))
        = some [("if_statement", ["if", "parenthesized_expression", "return_statement"])] := by
  decide +kernel

/-! ## The text of a body -/

/-- The text of a script that does not end with white space is the script. -/
lemma chars_eq_of_ofChars {code : List Char} {block : Block} (h : ofChars code = .ok block)
    (hlast : ∀ c, code.getLast? = some c → isScriptBlank c = false) : block.chars = code := by
  obtain ⟨-, -, hlossless⟩ := isLossless_of_ofChars h
  obtain ⟨rest, hcode, hblank⟩ := hlossless.chars_eq
  rcases List.eq_nil_or_concat rest with rfl | ⟨front, c, rfl⟩
  · rw [hcode, List.append_nil]
  · have hc := hlast c (by rw [hcode]; simp)
    rw [hblank c (by simp)] at hc
    contradiction

/-- The text of a body without receivers is read again as the body, if the code does not end with
white space. -/
theorem ofChars_chars_of_bodyOf {inner : List Char} {block : Block}
    (hstrip : Wrapper.strip code.toList resultType = .ok inner) (hblock : ofChars inner = .ok block)
    (hfree : CodeNode.FreeOfReceivers block.statements)
    (hlast : ∀ c, inner.getLast? = some c → isScriptBlank c = false) :
    bodyOf code resultType = .ok block ∧ ofChars block.chars = .ok block := by
  constructor
  · have hsame := (onThis_eq_self_iff (lawful_ofChars hblock)).mpr hfree
    exact bodyOf_eq_ok_iff.mpr ⟨inner, block, hstrip, hblock, hsame.symm⟩
  · rw [chars_eq_of_ofChars hblock hlast, hblock]

/-- A script with a receiver in a decorator. -/
def decoratedScript : String := "@me.x class A \x7b\x7d"

/-- The receiver in a decorator becomes `this`, as everywhere. But a decorator starts with a name,
so the text of the body cannot be read again. -/
theorem decoratedScript_not_reread :
    (bodyOf decoratedScript .nothing).toOption.map source = some "@this.x class A \x7b\x7d"
      ∧ (ofChars "@this.x class A \x7b\x7d".toList).toOption.isNone = true := by
  decide +kernel

end Block

end EntityCompiler
