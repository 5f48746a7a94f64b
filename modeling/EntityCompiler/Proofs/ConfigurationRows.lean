import EntityCompiler.Document.Entity
import EntityCompiler.Proofs.Keyed
import EntityCompiler.Proofs.PermissionReading

/-!
# Rows of configuration tables

Which rows of the configuration tables of a document are kept: all rows of a table that is flagged
to have several, and the first row of any other one (`Document.configurationTables_rows`). So rows
are lost of the tables that have several and are not flagged, and only of these.
-/

namespace EntityCompiler

/-! ## What is under the name of a table -/

namespace Fields

/-- Some entries are made of others: each of at most one, which has the same name. -/
def MadeOf (P : Value → Option Value → Prop) (entries : Fields)
    (found : List (Option (String × Value))) : Prop :=
  List.Forall₂ (fun entry made => ∃ v, P entry.2 v ∧ made = v.map (entry.1, ·)) entries found

variable {P : Value → Option Value → Prop} {entries : Fields}
    {found : List (Option (String × Value))}

/-- The names of what is made of some entries are among theirs, in their order. -/
lemma MadeOf.names_sublist (h : MadeOf P entries found) :
    ((found.filterMap id).map (·.1)).Sublist (entries.map (·.1)) := by
  unfold MadeOf at h
  induction h with
  | nil => exact .slnil
  | cons hmade _ ih =>
    obtain ⟨v, -, rfl⟩ := hmade
    cases v with
    | none => exact ih.cons _
    | some v => exact ih.cons_cons _

lemma get?_eq_none {name : String} (h : name ∉ entries.map (·.1)) : entries.get? name = none := by
  rw [Fields.get?, Option.map_eq_none_iff, List.find?_eq_none]
  intro entry hentry hname
  exact h (List.mem_map.mpr ⟨entry, hentry, eq_of_beq hname⟩)

/-- Under a name stands what is made of the entry of this name. -/
lemma MadeOf.get?_eq (h : MadeOf P entries found) (hkeys : (entries.map (·.1)).Nodup)
    {name : String}
    {v : Value} (hmem : (name, v) ∈ entries) : P v (get? (found.filterMap id) name) := by
  unfold MadeOf at h
  induction h with
  | nil => contradiction
  | @cons entry made entries found hmade hrest ih =>
    rw [List.map_cons, List.nodup_cons] at hkeys
    obtain ⟨w, hw, rfl⟩ := hmade
    rcases List.mem_cons.mp hmem with heq | hmem
    · subst heq
      cases w with
      | none =>
        -- nothing is made of this entry, and nothing else has its name
        have hnone : name ∉ (found.filterMap id).map (·.1) :=
          fun hname => hkeys.1 ((MadeOf.names_sublist hrest).subset hname)
        show P v (get? (found.filterMap id) name)
        rw [get?_eq_none hnone]
        exact hw
      | some w =>
        show P v (get? ((name, w) :: found.filterMap id) name)
        simpa [get?] using hw
    · have hrest := ih hkeys.2 hmem
      cases w with
      | none => exact hrest
      | some w =>
        have hother : (entry.1 == name) = false := by
          rw [beq_eq_false_iff_ne]
          rintro rfl
          exact hkeys.1 (List.mem_map.mpr ⟨_, hmem, rfl⟩)
        show P v (get? ((entry.1, w) :: found.filterMap id) name)
        rw [get?, List.find?_cons, hother]
        exact hrest

end Fields

namespace Document

/-! ## Tables and their rows -/

/-- The configuration tables of a document, under their names. -/
def tablesOf (raw : Fields) : Fields :=
  (raw.getD "configurationTables").fields?.getD []

/-- A table has the given rows, each of which is an object. -/
def HasRows (table : Value) (rows : List Value) : Prop :=
  ∃ entries : Fields, table = .object entries ∧ entries.getD "rows" = .list rows
    ∧ ∀ row ∈ rows, ∃ cells, row = .object cells

lemma HasRows.unique {table : Value} {rows others : List Value} (h : HasRows table rows)
    (hothers : HasRows table others) : rows = others := by
  obtain ⟨entries, rfl, hrows, -⟩ := h
  obtain ⟨entries', hsame, hothers, -⟩ := hothers
  rw [← Value.object.inj hsame, hrows] at hothers
  exact Value.list.inj hothers

/-- Is a table flagged to have several rows? -/
def isMultiRow (table : Value) : Bool :=
  flag (table.fields?.getD []) "isMultiRow"

/-- The rows in what is kept of a table: those in a list, or a single one. -/
def rowsIn : Option Value → List Value
  | none => []
  | some (.list rows) => rows
  | some row => [row]

/-- What is kept of a table: all rows of it if it is flagged, else the first one. -/
def KeptOf (table : Value) (kept : Option Value) : Prop :=
  ∃ rows, HasRows table rows ∧ kept = if isMultiRow table then some (.list rows) else rows.head?

lemma rows?_eq_some {entries : Fields} {rows : List Value} (h : rows? entries = some rows) :
    HasRows (.object entries) rows := by
  obtain ⟨found, hfound, hrows⟩ := Option.bind_eq_some_iff.mp h
  split at hrows
  next hall =>
    obtain rfl : found = rows := Option.some.inj hrows
    refine ⟨entries, rfl, ?_, ?_⟩
    · cases hpart : entries.getD "rows" <;> simp_all [Value.items?]
    · intro row hrow
      have hobject := List.all_eq_true.mp hall row hrow
      cases row <;> simp_all [Value.fields?]
  next => contradiction

/-- A table that is read has rows, and what is kept of it goes under its name. -/
lemma tableRows_eq_ok {name : String} {table : Value} {found : Option (String × Value)}
    (h : tableRows name table = .ok found) :
    ∃ kept, KeptOf table kept ∧ found = kept.map (name, ·) := by
  unfold tableRows at h
  split at h
  next entries rows hsome =>
    obtain ⟨fields, hfields, hread⟩ := Option.bind_eq_some_iff.mp hsome
    obtain ⟨_, hrows, heq⟩ := Option.map_eq_some_iff.mp hread
    obtain ⟨rfl, rfl⟩ := Prod.mk.inj heq
    obtain rfl : table = .object fields := by
      cases table <;> simp_all [Value.fields?]
    refine ⟨_, ⟨_, rows?_eq_some hrows, rfl⟩, ?_⟩
    unfold isMultiRow
    show found = _
    split at h
    next hflag =>
      rw [Value.fields?, Option.getD_some, if_pos hflag]
      exact (Except.ok.inj h).symm
    next hflag =>
      rw [Value.fields?, Option.getD_some, if_neg hflag]
      exact (Except.ok.inj h).symm
  next => contradiction

/-- The tables that are kept are made of the tables of the document. -/
lemma configurationTables_eq_ok {raw kept : Fields} (h : configurationTables raw = .ok kept) :
    ∃ found, Fields.MadeOf KeptOf (tablesOf raw) found ∧ kept = found.filterMap id := by
  unfold configurationTables at h
  obtain ⟨tables, htables, h⟩ := Outcome.bind_eq_ok.mp h
  obtain ⟨⟨found, problems⟩, hgather, h⟩ := Outcome.bind_eq_ok.mp h
  dsimp only at h
  split at h
  next hnone =>
    rw [List.isEmpty_iff.mp hnone] at hgather
    refine ⟨found, ?_, (Outcome.pure_eq_ok.mp h).symm⟩
    rw [tablesOf, fields_eq_ok htables]
    exact (Outcome.gather_eq_ok_nil.mp hgather).imp fun entry result hresult =>
      tableRows_eq_ok hresult
  next => contradiction

/-- All rows of a table are in what is kept of it exactly if it is flagged or has at most one. -/
lemma rowsIn_kept_eq_iff {table : Value} {rows : List Value} (h : HasRows table rows) :
    rowsIn (if isMultiRow table then some (.list rows) else rows.head?) = rows
      ↔ isMultiRow table = true ∨ rows.length ≤ 1 := by
  obtain ⟨-, -, -, hobjects⟩ := h
  cases hflag : isMultiRow table with
  | true => exact iff_of_true rfl (.inl rfl)
  | false =>
    rw [if_neg Bool.false_ne_true]
    match rows, hobjects with
    | [], _ => exact iff_of_true rfl (.inr (by decide))
    | row :: rest, hobjects =>
      obtain ⟨cells, rfl⟩ := hobjects row List.mem_cons_self
      cases rest <;> simp [rowsIn]

/-- What is kept of the tables of a document has their names, in their order. Every table has rows.
Under its name stand all of them if the table is flagged to have several, else the first one, or
nothing if it has none. So a table keeps its rows exactly if it is flagged or has at most one. -/
theorem configurationTables_rows {raw kept : Fields} (hkeyed : raw.IsKeyed)
    (h : configurationTables raw = .ok kept) :
    (kept.map (·.1)).Sublist ((tablesOf raw).map (·.1))
      ∧ ∀ name table, (name, table) ∈ tablesOf raw → ∃ rows, HasRows table rows
        ∧ kept.get? name = (if isMultiRow table then some (.list rows) else rows.head?)
        ∧ (rowsIn (kept.get? name) = rows ↔ isMultiRow table = true ∨ rows.length ≤ 1) := by
  obtain ⟨found, hmade, rfl⟩ := configurationTables_eq_ok h
  have hkeys : ((tablesOf raw).map (·.1)).Nodup := by
    have hpart := hkeyed.getD "configurationTables"
    unfold tablesOf
    cases hvalue : raw.getD "configurationTables" with
    | object entries =>
      rw [hvalue] at hpart
      exact (Value.isKeyed_object_iff.mp hpart).1
    | _ => exact List.nodup_nil
  refine ⟨hmade.names_sublist, fun name table hmem => ?_⟩
  obtain ⟨rows, hrows, hkept⟩ := hmade.get?_eq hkeys hmem
  refine ⟨rows, hrows, hkept, ?_⟩
  rw [hkept]
  exact rowsIn_kept_eq_iff hrows

/-- A row with one cell. -/
def limitRow (lower : Int) : Value :=
  .object [("lower", .number (.integer lower))]

/-- A table with two rows. -/
def limitTable (isMultiRow : Bool) : Value :=
  .object [("rows", .list [limitRow 0, limitRow 2]), ("isMultiRow", .bool isMultiRow)]

/-- The document of a plant with two tables of two rows, only the first of which is flagged. -/
def plantDocument : Fields :=
  [("name", .text "Plant"),
    ("configurationTables", .object [("Ranges", limitTable true), ("Limits", limitTable false)])]

lemma isKeyed_plantDocument : plantDocument.IsKeyed := by
  constructor
  · decide
  · simp [plantDocument, limitTable, limitRow, Value.IsKeyed.bool, Value.IsKeyed.number]

lemma hasRows_limitTable (isMultiRow : Bool) :
    HasRows (limitTable isMultiRow) [limitRow 0, limitRow 2] := by
  refine ⟨_, rfl, rfl, ?_⟩
  simp [limitRow]

/-- The table that is not flagged has two rows. The plant is read, and has the first one only. -/
theorem unflaggedTable_loses_row :
    ("Limits", limitTable false) ∈ tablesOf plantDocument
      ∧ HasRows (limitTable false) [limitRow 0, limitRow 2] ∧ isMultiRow (limitTable false) = false
      ∧ ¬ [limitRow 0, limitRow 2].length ≤ 1
      ∧ ∃ plant, entity (.object plantDocument) .other = .ok plant
        ∧ configurationTables plantDocument = .ok plant.configurationTables
        ∧ plant.configurationTables.get? "Limits" = some (limitRow 0) := by
  refine ⟨List.mem_of_getElem? (i := 1) rfl, hasRows_limitTable false, rfl, by decide, ?_⟩
  exact ⟨_, rfl, rfl, rfl⟩

/-- Of the two tables of the plant, the flagged one keeps its rows, and the other one does not. -/
theorem plantDocument_rows :
    plantDocument.IsKeyed ∧ ∃ kept, configurationTables plantDocument = .ok kept
      ∧ (kept.map (·.1)).Sublist ["Ranges", "Limits"]
      ∧ rowsIn (kept.get? "Ranges") = [limitRow 0, limitRow 2]
      ∧ rowsIn (kept.get? "Limits") ≠ [limitRow 0, limitRow 2] := by
  refine ⟨isKeyed_plantDocument, _, rfl, ?_⟩
  obtain ⟨hnames, hrows⟩ := configurationTables_rows isKeyed_plantDocument rfl
  obtain ⟨ranges, hranges, -, hall⟩ := hrows "Ranges" (limitTable true) List.mem_cons_self
  obtain ⟨limits, hlimits, -, hfirst⟩ :=
    hrows "Limits" (limitTable false) (List.mem_cons_of_mem _ List.mem_cons_self)
  rw [hranges.unique (hasRows_limitTable true)] at hall
  rw [hlimits.unique (hasRows_limitTable false)] at hfirst
  refine ⟨hnames, hall.mpr (.inl rfl), fun hkept => ?_⟩
  -- two rows, and no flag
  have hlost := hfirst.mp hkept
  revert hlost
  decide

end Document

end EntityCompiler
