import EntityCompiler.Compilation
import EntityCompiler.Proofs.LawfulDeclaration
import EntityCompiler.Proofs.LawfulEntity

/-!
# Compilation is total

Compiling a document ends with a declaration or with a problem, whatever the document says: none of
the conditions on the parts of entities and declarations is broken on the way. The two halves are
the soundness of reading, `Document.entity_sound`, and of declaring, `Entity.declaration_sound`.
-/

namespace EntityCompiler.Compilation

open Outcome (Sound)

variable {document : Value} {separator : Separator}

/-- A document whose keys differ is compiled to a lawful declaration, which has the class name of
its entity, or the problem with it is worded. -/
lemma compile_sound (hdocument : document.IsKeyed) (hseparator : separator.Fits = true)
    (kind : EntityKind) :
    (compile document kind separator).Sound fun d => d.Lawful
      ∧ ∃ entity, Document.entity document kind = .ok entity
        ∧ className separator entity.name = .ok d.name := by
  refine (Document.entity_sound hdocument kind).with_eq.bind fun entity hread => ?_
  obtain ⟨-, hentity⟩ := hread
  refine (entity.declaration_sound hseparator).mono fun d hdeclared => ?_
  obtain ⟨hlawful, hname⟩ := hdeclared
  exact ⟨hlawful, entity, hentity, hname⟩

/-- Every document whose keys differ is compiled to a declaration, or has a problem: no contract is
broken. The entity that is read and the declaration keep all contracts, the class is named after the
entity, and whatever code stands in a document, its script keeps its shape, also where the receiver
of the script is replaced. -/
theorem compile_total (hdocument : document.IsKeyed) (hseparator : separator.Fits = true)
    (kind : EntityKind) :
    ((∃ entity d, Document.entity document kind = .ok entity
        ∧ compile document kind separator = .ok d ∧ d.Lawful
        ∧ className separator entity.name = .ok d.name)
      ∨ ∃ p, compile document kind separator = .error (.problem p))
    ∧ (∀ entity, Document.entity document kind = .ok entity →
        entity.Lawful ∧ entity.kind = kind)
    ∧ (∀ code resultType, (∃ block, Block.bodyOf code resultType = .ok block ∧ block.Lawful)
      ∨ ∃ p, Block.bodyOf code resultType = .error (.problem p))
    ∧ ∀ block : Block, block.Lawful → (block.withThis?.getD block).Lawful := by
  refine ⟨?_, fun entity h => (Document.entity_sound hdocument kind).post h, ?_,
    fun block h => h.withThis?⟩
  · rcases (compile_sound hdocument hseparator kind).total with
      ⟨d, hd, hlawful, entity, hentity, hname⟩ | ⟨p, hp, -⟩
    · exact .inl ⟨entity, d, hentity, hd, hlawful, hname⟩
    · exact .inr ⟨p, hp⟩
  · intro code resultType
    rcases (Block.bodyOf_sound code resultType).total with hbody | ⟨p, hp, -⟩
    · exact .inl hbody
    · exact .inr ⟨p, hp⟩

/-- The document of a thing with one property and one service. -/
def pumpDocument : Value :=
  .object [("name", .text "Pump"), ("thingTemplate", .text "GenericThing"),
    ("thingShape", .object [
      ("propertyDefinitions", .object [("level", .object [("baseType", .text "NUMBER")])]),
      ("serviceDefinitions", .object [("start", .object [])]),
      ("serviceImplementations", .object [("start", .object [
        ("handlerName", .text "Script"),
        ("configurationTables", .object [("Script", .object [("rows", .list [
          .object [("code", .text "me.level = 1;")]])])])])])])]

/-- The pump is compiled, and its entity and its declaration keep all contracts. -/
theorem pumpDocument_compile_total :
    pumpDocument.IsKeyed ∧ Separator.default.Fits = true
    ∧ (compile pumpDocument .thing .default).isOk = true
    ∧ ((∃ entity d, Document.entity pumpDocument .thing = .ok entity
        ∧ compile pumpDocument .thing .default = .ok d ∧ d.Lawful
        ∧ className .default entity.name = .ok d.name)
      ∨ ∃ p, compile pumpDocument .thing .default = .error (.problem p))
    ∧ ∀ entity, Document.entity pumpDocument .thing = .ok entity →
        entity.Lawful ∧ entity.kind = .thing := by
  have hkeyed : pumpDocument.IsKeyed := by simp [pumpDocument]
  have hfits : Separator.default.Fits = true := rfl
  have hok : (compile pumpDocument .thing .default).isOk = true := by decide +kernel
  obtain ⟨hcompile, hentity, -⟩ := compile_total hkeyed hfits .thing
  exact ⟨hkeyed, hfits, hok, hcompile, hentity⟩

end EntityCompiler.Compilation
