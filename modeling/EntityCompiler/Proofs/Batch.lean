import EntityCompiler.Proofs.Totality
import EntityCompiler.Proofs.Wording

/-!
# Batches

A batch never stops in the middle: each of its documents is compiled as if it were the only one, and
the report is put together from one report for each document that fails. This rests on the wording
of problems, since a problem that could not stand in a report would end the batch.
-/

namespace EntityCompiler.Compilation

open Outcome (Sound)

/-- The report on one document of a batch, which stands at the given position; a document that is
compiled has none. -/
def reportOn (separator : Separator) (document : Value × EntityKind) (position : Nat) : String :=
  match compile document.1 document.2 separator with
  | .error (.problem p) =>
    headline document.1 document.2 position ++ ":\n" ++ String.ofList (Report.item p.message.toList)
  | _ => ""

/-- A result of a batch is what its own document is compiled to. -/
def IsResultOf (separator : Separator) (document : Value × EntityKind)
    (result : Except Problem ClassDeclaration) : Prop :=
  match result with
  | .ok d => compile document.1 document.2 separator = .ok d
  | .error p => compile document.1 document.2 separator = .error (.problem p)

variable {separator : Separator}

lemma render_of_worded {p : Problem} (h : p.Worded) (document : Value) (kind : EntityKind)
    (position : Nat) :
    Report.render (headline document kind position) [p.message]
      = .ok (headline document kind position ++ ":\n"
        ++ String.ofList (Report.item p.message.toList)) := by
  have hitems : ([p.message].all fun f => Report.itemFits f.toList) = true := by
    rw [List.all_cons, Problem.itemFits_message h]
    rfl
  unfold Report.render
  rw [headlineFits_headline, hitems, List.flatMap_singleton]
  rfl

/-- One document of a batch: its result and the report on it come first, whatever follows. -/
lemma compileFrom_cons {document : Value × EntityKind} (hdocument : document.1.IsKeyed)
    (hseparator : separator.Fits = true) (position : Nat) (rest : List (Value × EntityKind)) :
    ∃ result, IsResultOf separator document result
      ∧ compileFrom position separator (document :: rest)
        = (compileFrom (position + 1) separator rest).map fun others =>
          ⟨result :: others.results, reportOn separator document position ++ others.report⟩ := by
  obtain ⟨value, kind⟩ := document
  rcases (compile_sound hdocument hseparator kind).total with ⟨d, hd, -⟩ | ⟨p, hp, hworded⟩
  · refine ⟨.ok d, hd, ?_⟩
    rw [compileFrom, reportOn, hd]
    cases compileFrom (position + 1) separator rest <;> rfl
  · refine ⟨.error p, hp, ?_⟩
    have hrender := render_of_worded hworded value kind position
    rw [compileFrom, reportOn, hp]
    dsimp only [Outcome.caught, bind, Except.bind]
    rw [hrender]
    cases compileFrom (position + 1) separator rest <;> rfl

/-- A whole batch. The induction is on the documents; the position only counts along. -/
lemma compileFrom_ok {documents : List (Value × EntityKind)}
    (hdocuments : ∀ document ∈ documents, document.1.IsKeyed) (hseparator : separator.Fits = true)
    (position : Nat) :
    ∃ batch, compileFrom position separator documents = .ok batch
      ∧ List.Forall₂ (IsResultOf separator) documents batch.results
      ∧ batch.report.toList = (documents.zipIdx position).flatMap fun (document, i) =>
        (reportOn separator document i).toList := by
  induction documents generalizing position with
  | nil => exact ⟨⟨[], ""⟩, rfl, .nil, rfl⟩
  | cons document rest ih =>
    obtain ⟨result, hresult, hcons⟩ :=
      compileFrom_cons (hdocuments document List.mem_cons_self) hseparator position rest
    obtain ⟨others, hothers, hresults, hreport⟩ :=
      ih (fun other hother => hdocuments other (List.mem_cons_of_mem _ hother)) (position + 1)
    refine ⟨_, by rw [hcons, hothers]; rfl, .cons hresult hresults, ?_⟩
    rw [String.toList_append, hreport, List.zipIdx_cons, List.flatMap_cons]

/-- A batch of documents whose keys differ is compiled to its end, with the given options or
without. Each result is what its own document is compiled to, and the report consists of the reports
on the documents that fail, in their order. Every problem that a document can have, and every
headline, can stand in a report. -/
theorem compileAll_isolated {documents : List (Value × EntityKind)} {options : Option Separator}
    (hdocuments : ∀ document ∈ documents, document.1.IsKeyed)
    (hoptions : ∀ separator, options = some separator → separator.Fits = true) :
    let separator := options.getD .default
    (∃ batch, compileAll documents separator = .ok batch
      ∧ List.Forall₂ (IsResultOf separator) documents batch.results
      ∧ batch.report.toList = documents.zipIdx.flatMap fun (document, i) =>
        (reportOn separator document i).toList)
    ∧ (∀ document kind p, document.IsKeyed →
        compile document kind separator = .error (.problem p) →
        Report.itemFits p.message.toList = true)
    ∧ ∀ document kind position,
        Report.headlineFits (headline document kind position).toList = true := by
  intro separator
  have hseparator : separator.Fits = true := by
    cases options with
    | none => exact (rfl : Separator.default.Fits = true)
    | some s => exact hoptions s rfl
  refine ⟨compileFrom_ok hdocuments hseparator 0, ?_, headlineFits_headline⟩
  intro document kind p hdocument hp
  have hsound := compile_sound hdocument hseparator kind
  rw [hp] at hsound
  exact Problem.itemFits_message hsound

/-- The pump, and a document without a name. -/
def pumpBatch : List (Value × EntityKind) :=
  [(pumpDocument, .thing), (.object [("tags", .list [])], .other)]

/-- The pump is compiled although the other document fails, and only that one is reported. -/
theorem pumpBatch_isolated :
    (∀ document ∈ pumpBatch, document.1.IsKeyed) ∧ Separator.default.Fits = true
    ∧ reportOn .default (pumpDocument, .thing) 0 = ""
    ∧ reportOn .default (.object [("tags", .list [])], .other) 1
      = "Failed to compile the entity at the index 1 of kind 'Other':\n* "
        ++ "In name: Expected the name of the entity\n"
    ∧ ∃ batch, compileAll pumpBatch .default = .ok batch
      ∧ List.Forall₂ (IsResultOf .default) pumpBatch batch.results
      ∧ batch.report.toList = pumpBatch.zipIdx.flatMap fun (document, i) =>
        (reportOn .default document i).toList := by
  have hkeyed : ∀ document ∈ pumpBatch, document.1.IsKeyed := by
    simp [pumpBatch, pumpDocument]
  have hfits : Separator.default.Fits = true := rfl
  refine ⟨hkeyed, hfits, ?_, ?_, ?_⟩
  · decide +kernel
  · decide +kernel
  · exact (@compileAll_isolated pumpBatch (some .default) hkeyed
      fun _ h => Option.some.inj h ▸ hfits).1

end EntityCompiler.Compilation
