import EntityCompiler.Declaration.OfEntity
import EntityCompiler.Document.Entity

/-!
# Compilation

Compiles the documents of entities to the declarations of their classes, one document or many. In a
batch each document is compiled on its own, and each failure is reported to the user: a headline
with a colon, then the failures as bullet points. The lines of a failure after its first one are
indented like the text behind the bullet.
-/

namespace EntityCompiler

namespace Report

/-- Can the text stand as a headline? It brings neither a bullet, nor a colon, nor an empty line. -/
def headlineFits (cs : List Char) : Bool :=
  cs.head? != some '\n' && cs.head? != some '*' && cs.getLast? != some '\n'
    && cs.getLast? != some ':'

/-- Can the text stand behind a bullet? It is not empty, and brings neither a bullet of its own nor
an empty line. -/
def itemFits (cs : List Char) : Bool :=
  !cs.isEmpty && cs.head? != some '\n' && cs.head? != some '*' && cs.getLast? != some '\n'

/-- A failure as a bullet point, on lines of its own. -/
def item (cs : List Char) : List Char :=
  ['*', ' '] ++ (Text.indent [' ', ' '] cs).drop 2 ++ ['\n']

/-- A headline and the failures below it. -/
def render (headline : String) (failures : List String) : Outcome String := do
  Outcome.require .reportLayout (headlineFits headline.toList)
  Outcome.require .reportLayout (failures.all fun f => itemFits f.toList)
  return headline ++ ":\n" ++ String.ofList (failures.flatMap fun f => item f.toList)

end Report

namespace Compilation

/-- The declaration of the class of the entity that a document describes. -/
def compile (document : Value) (kind : EntityKind) (separator : Separator) :
    Outcome ClassDeclaration := do
  let entity ← Document.entity document kind
  entity.declaration separator

/-- How a failed document is called in a report: by its name if it has one, else by its place. -/
def headline (document : Value) (kind : EntityKind) (position : Nat) : String :=
  match (document.fields?.map (·.getD "name")).bind Value.text? with
  | some name =>
    "Failed to compile the entity " ++ Text.quoted name ++ " of kind " ++ Text.quoted kind.label
  | none =>
    "Failed to compile the entity at the index " ++ toString position ++ " of kind "
      ++ Text.quoted kind.label

/-- What a batch of documents is compiled to, in order, and the report on the failures. -/
structure Batch where
  results : List (Except Problem ClassDeclaration)
  report : String

/-- Compiles a batch of documents, the first of which stands at the given position. -/
def compileFrom (position : Nat) (separator : Separator) :
    List (Value × EntityKind) → Outcome Batch
  | [] => .ok ⟨[], ""⟩
  | (document, kind) :: rest => do
    let result ← Outcome.caught (compile document kind separator)
    let report ← match result with
      | .ok _ => .ok ""
      | .error problem => Report.render (headline document kind position) [problem.message]
    let others ← compileFrom (position + 1) separator rest
    return ⟨result :: others.results, report ++ others.report⟩

/-- Compiles a batch of documents. -/
def compileAll (documents : List (Value × EntityKind)) (separator : Separator) : Outcome Batch :=
  compileFrom 0 separator documents

end Compilation

end EntityCompiler
