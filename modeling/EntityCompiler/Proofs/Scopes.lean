import EntityCompiler.Proofs.Receivers

/-!
# Names that a script declares

A script can declare the name of its entity anew: as a variable, a parameter, a function, a class or
a caught exception. Receivers are replaced without regard to this. `Block.namesInScope` are the
names declared for a place of a script; replacing the receivers leaves all declarations as they are,
and a receiver becomes `this` whether or not its name is among those declared for it
(`Block.onThis_scopes`).
-/

namespace EntityCompiler

namespace CodeNode

/-! ## Declarations -/

/-- The leaves that name what a declaration binds. -/
def nameKinds : List String :=
  ["identifier", "shorthand_property_identifier_pattern"]

/-- In a node of this kind, does the part with this field hold names that the node binds? -/
def binds (kind : String) (field : Option String) : Bool :=
  match kind with
  | "object_pattern" | "array_pattern" | "rest_pattern" | "formal_parameters"
  | "variable_declaration" | "lexical_declaration" => true
  | "assignment_pattern" | "object_assignment_pattern" | "for_in_statement" => field == some "left"
  | "pair_pattern" => field == some "value"
  | "catch_clause" => field == some "parameter"
  | "variable_declarator" | "function_declaration" | "generator_function_declaration"
  | "class_declaration" | "function_expression" | "generator_function" | "class" =>
    field == some "name"
  | _ => false

mutual

/-- The names that a pattern or a declaration binds. -/
def boundNames : CodeNode → List String
  | ⟨kind, text, children, _, _, _, _⟩ =>
    if nameKinds.contains kind then text.toList else boundByAll kind children

/-- The names bound by what stands in a node of this kind. -/
def boundByAll (kind : String) : List CodeNode → List String
  | [] => []
  | node :: rest => (if binds kind node.field then node.boundNames else []) ++ boundByAll kind rest

end

/-- The declarations whose names are known in the block they stand in. -/
def lexicalKinds : List String :=
  ["lexical_declaration", "function_declaration", "generator_function_declaration",
    "class_declaration"]

/-- The names that a statement declares for the block it stands in. -/
def lexicalNames (node : CodeNode) : List String :=
  if lexicalKinds.contains node.kind then node.boundNames else []

/-- Does the node declare what it binds, with a keyword in it as a loop does? -/
def declaresWith (words : List String) (node : CodeNode) : Bool :=
  node.children.any fun child => child.field == some "kind" && words.contains child.kind

/-- The nodes that variables declared in them are not known outside of. -/
def closedKinds : List String :=
  "arrow_function" :: "class_static_block" :: functionKinds

/-- Does the node declare variables for the function around it? -/
def declaresVariables (node : CodeNode) : Bool :=
  node.kind == "variable_declaration"
    || node.kind == "for_in_statement" && node.declaresWith ["var"]

mutual

/-- The variables that a part of a function declares for all of it. -/
def hoistedNames : CodeNode → List String
  | ⟨kind, text, children, field, gap, leading, trailing⟩ =>
    let node : CodeNode := ⟨kind, text, children, field, gap, leading, trailing⟩
    if closedKinds.contains kind then []
    else (if node.declaresVariables then node.boundNames else []) ++ hoistedByAll children

/-- The variables that some parts of a function declare for all of it. -/
def hoistedByAll : List CodeNode → List String
  | [] => []
  | node :: rest => node.hoistedNames ++ hoistedByAll rest

end

/-! ## Scopes -/

/-- The parts of a node with this field. -/
def parts (field : String) (node : CodeNode) : List CodeNode :=
  node.children.filter fun child => child.field == some field

/-- The names that a function declares for a part of it: its own, if it is an expression, its
parameters, and in its body the variables. -/
def namesInFunction (outer inner : CodeNode) : List String :=
  (if ["function_expression", "generator_function"].contains outer.kind then
    outer.boundNames else [])
  ++ (if inner.field == some "name" then []
    else (outer.parts "parameter" ++ outer.parts "parameters").flatMap boundNames)
  ++ (if inner.field == some "body" then hoistedByAll (outer.parts "body") else [])

/-- The names that a node declares for a part of it. -/
def namesDeclaredFor (outer inner : CodeNode) : List String :=
  match outer.kind with
  | "statement_block" => outer.children.flatMap lexicalNames
  | "switch_body" => outer.children.flatMap fun labelled => labelled.children.flatMap lexicalNames
  | "for_statement" => (outer.parts "initializer").flatMap lexicalNames
  | "for_in_statement" => if outer.declaresWith ["let", "const"] then outer.boundNames else []
  | "catch_clause" | "class" => outer.boundNames
  | "class_static_block" => hoistedByAll outer.children
  | kind => if ("arrow_function" :: functionKinds).contains kind then namesInFunction outer inner
    else []

/-- The names that the nodes on a way declare for its end. -/
def namesOnWay : List CodeNode → List String
  | outer :: inner :: way => namesDeclaredFor outer inner ++ namesOnWay (inner :: way)
  | _ => []

/-! ## Replacing the receivers keeps the declarations -/

lemma replaced_of_kind {accessed : Bool} {node : CodeNode} (h : node.kind ≠ "identifier") :
    replaced accessed node
      = { node with children :=
        node.children.map (replaced (accessKinds.contains node.kind)) } := by
  refine replaced_of_not (Bool.eq_false_iff.mpr fun hreceiver => h ?_)
  exact (isReceiver_eq_true.mp (Bool.and_eq_true_iff.mp hreceiver).2).2.1

lemma accessKinds_contains {kind : String} (h : accessKinds.contains kind = true) :
    kind = "member_expression" ∨ kind = "subscript_expression" := by
  simpa [accessKinds] using h

/-- What is accessed is no part of a declaration. -/
lemma binds_of_accessKinds {kind : String} (h : accessKinds.contains kind = true)
    (field : Option String) : binds kind field = false := by
  rcases accessKinds_contains h with rfl | rfl <;> rfl

mutual

theorem boundNames_replaced : ∀ node : CodeNode, (replaced false node).boundNames = node.boundNames
  | ⟨kind, text, children, field, gap, leading, trailing⟩ => by
    rw [replaced_of_not rfl, boundNames, boundNames, boundByAll_replaced]

theorem boundByAll_replaced (kind : String) : ∀ nodes : List CodeNode,
    boundByAll kind (nodes.map (replaced (accessKinds.contains kind))) = boundByAll kind nodes
  | [] => rfl
  | node :: rest => by
    rw [List.map_cons, boundByAll, boundByAll, field_replaced, boundByAll_replaced kind rest]
    cases haccess : accessKinds.contains kind with
    | false => rw [boundNames_replaced node]
    | true => rw [binds_of_accessKinds haccess]; rfl

end

/-- A node that is no name binds the same names, be it accessed or not. -/
lemma boundNames_replaced_of_kind {node : CodeNode} (h : node.kind ≠ "identifier")
    (accessed : Bool) :
    (replaced accessed node).boundNames = node.boundNames := by
  rw [← boundNames_replaced node, replaced_of_kind h, replaced_of_kind h]

lemma lexicalNames_replaced (accessed : Bool) (node : CodeNode) :
    (replaced accessed node).lexicalNames = node.lexicalNames := by
  have hkinds := contains_kind_replaced lexicalKinds accessed node rfl rfl
  rw [lexicalNames, lexicalNames, hkinds]
  split
  next h =>
    refine boundNames_replaced_of_kind (fun hname => ?_) accessed
    rw [hname] at h
    contradiction
  next => rfl

lemma Lawful.declaresWith_replaced {node : CodeNode} (h : node.Lawful) {words : List String}
    (hname : words.contains "identifier" = false) (hthis : words.contains "this" = false)
    (accessed : Bool) : (replaced accessed node).declaresWith words = node.declaresWith words := by
  rw [declaresWith, declaresWith, h.children_replaced, List.any_map]
  congr 1
  funext child
  rw [Function.comp_apply, field_replaced, contains_kind_replaced words _ child hname hthis]

lemma Lawful.declaresVariables_replaced {node : CodeNode} (h : node.Lawful) (accessed : Bool) :
    (replaced accessed node).declaresVariables = node.declaresVariables := by
  rw [declaresVariables, declaresVariables, h.declaresWith_replaced rfl rfl,
    beq_kind_replaced accessed node (by decide) (by decide),
    beq_kind_replaced accessed node (by decide) (by decide)]

lemma kind_of_declaresVariables {node : CodeNode} (h : node.declaresVariables = true) :
    node.kind ≠ "identifier" := by
  intro hname
  simp [declaresVariables, hname] at h

lemma hoistedNames_eq (node : CodeNode) : node.hoistedNames
    = if closedKinds.contains node.kind then []
      else (if node.declaresVariables then node.boundNames else [])
        ++ hoistedByAll node.children := by
  cases node
  rw [hoistedNames]

mutual

/-- Declarations of variables stay, and so do the functions around them. -/
theorem Lawful.hoistedNames_replaced : ∀ {node : CodeNode}, node.Lawful → ∀ accessed : Bool,
    (replaced accessed node).hoistedNames = node.hoistedNames
  | ⟨kind, text, children, field, gap, leading, trailing⟩, h, accessed => by
    rw [hoistedNames_eq, hoistedNames_eq, h.declaresVariables_replaced, h.children_replaced,
      contains_kind_replaced closedKinds accessed _ rfl rfl,
      hoistedByAll_replaced _ fun child hchild => h.of_mem_children hchild]
    split
    next => rfl
    next =>
      congr 1
      split
      next hvariables => rw [boundNames_replaced_of_kind (kind_of_declaresVariables hvariables)]
      next => rfl

theorem hoistedByAll_replaced (accessed : Bool) : ∀ {nodes : List CodeNode},
    (∀ node ∈ nodes, node.Lawful) → hoistedByAll (nodes.map (replaced accessed))
      = hoistedByAll nodes
  | [], _ => rfl
  | node :: rest, h => by
    rw [List.map_cons, hoistedByAll, hoistedByAll,
      Lawful.hoistedNames_replaced (h node List.mem_cons_self) accessed,
      hoistedByAll_replaced accessed fun other hother => h other (List.mem_cons_of_mem _ hother)]

end

lemma Lawful.parts_replaced {node : CodeNode} (h : node.Lawful) (accessed : Bool) (field : String) :
    (replaced accessed node).parts field
      = (node.parts field).map (replaced (accessKinds.contains node.kind)) := by
  rw [parts, parts, h.children_replaced, List.filter_map]
  congr 2
  funext child
  rw [Function.comp_apply, field_replaced]

lemma Lawful.of_mem_parts {node child : CodeNode} {field : String} (h : node.Lawful)
    (hchild : child ∈ node.parts field) : child.Lawful :=
  h.of_mem_children (List.mem_of_mem_filter hchild)

lemma flatMap_lexicalNames_replaced (accessed : Bool) (nodes : List CodeNode) :
    (nodes.map (replaced accessed)).flatMap lexicalNames = nodes.flatMap lexicalNames := by
  rw [List.flatMap_map]
  exact congrArg nodes.flatMap (funext (lexicalNames_replaced accessed))

lemma flatMap_boundNames_replaced (nodes : List CodeNode) :
    (nodes.map (replaced false)).flatMap boundNames = nodes.flatMap boundNames := by
  rw [List.flatMap_map]
  exact congrArg nodes.flatMap (funext boundNames_replaced)

lemma kind_replaced_of_kind {node : CodeNode} (h : node.kind ≠ "identifier") (accessed : Bool) :
    (replaced accessed node).kind = node.kind := by
  rw [replaced_of_kind h]

lemma Lawful.namesInFunction_replaced {outer : CodeNode} (h : outer.Lawful) (inner : CodeNode)
    (hname : outer.kind ≠ "identifier") (haccess : accessKinds.contains outer.kind = false)
    (first second : Bool) :
    namesInFunction (replaced first outer) (replaced second inner)
      = namesInFunction outer inner := by
  simp only [namesInFunction, kind_replaced_of_kind hname, boundNames_replaced_of_kind hname,
    field_replaced, h.parts_replaced, haccess, ← List.map_append, flatMap_boundNames_replaced,
    hoistedByAll_replaced false fun _ => h.of_mem_parts]

/-- The statements under the labels of a `switch` declare the same names. -/
lemma Lawful.flatMap_labelled_replaced {node : CodeNode} (h : node.Lawful) (accessed : Bool) :
    ((replaced accessed node).children.flatMap fun labelled =>
      labelled.children.flatMap lexicalNames)
      = node.children.flatMap fun labelled => labelled.children.flatMap lexicalNames := by
  rw [h.children_replaced, List.flatMap_map]
  refine List.flatMap_congr fun labelled hlabelled => ?_
  rw [(h.of_mem_children hlabelled).children_replaced, flatMap_lexicalNames_replaced]

lemma Lawful.namesDeclaredFor_replaced {outer : CodeNode} (h : outer.Lawful) (inner : CodeNode)
    (first second : Bool) :
    namesDeclaredFor (replaced first outer) (replaced second inner)
      = namesDeclaredFor outer inner := by
  by_cases hname : outer.kind = "identifier"
  · -- a name declares nothing, and neither does `this`
    rcases kind_replaced first outer with hkind | ⟨hkind, -⟩
    · simp [namesDeclaredFor, hkind, hname, functionKinds]
    · simp [namesDeclaredFor, hkind, hname, functionKinds]
  · have hbound := boundNames_replaced_of_kind hname first
    simp only [namesDeclaredFor, kind_replaced_of_kind hname]
    split
    next => rw [h.children_replaced, flatMap_lexicalNames_replaced]
    next => exact h.flatMap_labelled_replaced first
    next => rw [h.parts_replaced, flatMap_lexicalNames_replaced]
    next => rw [h.declaresWith_replaced (by decide) (by decide), hbound]
    next => exact hbound
    next => exact hbound
    next => rw [h.children_replaced, hoistedByAll_replaced _ fun _ => h.of_mem_children]
    next =>
      split
      next hfunction =>
        refine h.namesInFunction_replaced inner hname (Bool.eq_false_iff.mpr fun haccess => ?_) _ _
        -- a function is no access
        rcases accessKinds_contains haccess with hkind | hkind <;>
          simp [hkind, functionKinds] at hfunction
      next => rfl

/-- The nodes on a way declare the same names for its end. -/
lemma namesOnWay_replacedWay (accessed : Bool) {way : List CodeNode}
    (h : ∀ node ∈ way, node.Lawful) : namesOnWay (replacedWay accessed way) = namesOnWay way := by
  induction way generalizing accessed with
  | nil => rfl
  | cons outer way ih =>
    cases way with
    | nil => rfl
    | cons inner way =>
      have hinner := ih (accessKinds.contains outer.kind) fun node hnode =>
        h node (List.mem_cons_of_mem _ hnode)
      rw [replacedWay] at hinner
      rw [replacedWay, replacedWay, namesOnWay, namesOnWay, hinner,
        (h outer List.mem_cons_self).namesDeclaredFor_replaced]

end CodeNode

namespace Block

open CodeNode

/-- The names that a script declares for a place. -/
def namesInScope (block : Block) (way : List CodeNode) : List String :=
  block.statements.flatMap lexicalNames ++ hoistedByAll block.statements ++ namesOnWay way

/-- Replacing the receivers keeps what the script declares for each place. The end of a way becomes
`this` if it is the receiver of an access, whatever is declared for it; else it stays, but for what
is in it. -/
theorem onThis_scopes {block : Block} (hlawful : block.Lawful) {place : List Nat}
    {way : List CodeNode} (hway : way? block.statements place = some way) :
    ∃ replaced, way? block.onThis.statements place = some replaced
      ∧ block.onThis.namesInScope replaced = block.namesInScope way
      ∧ (EndsInReceiver way → replaced.getLast? = way.getLast?.map asThis)
      ∧ (¬ EndsInReceiver way → ∃ change : CodeNode → CodeNode, replaced.getLast?
        = way.getLast?.map fun last => { last with children := last.children.map change }) := by
  refine ⟨_, way?_onThis hlawful hway, ?_, ?_, getLast?_replacedWay_of_not⟩
  · rw [namesInScope, namesInScope, statements_onThis, flatMap_lexicalNames_replaced,
      hoistedByAll_replaced false hlawful, namesOnWay_replacedWay false
        (lawful_of_way? hlawful hway)]
  · intro hends
    obtain ⟨leaf, hleaf, -, hlast⟩ := hends.getLast?_replacedWay
    rw [hleaf, hlast]
    rfl

/-- A script with a parameter named like the entity. -/
def parameterScript : String := "f(function (me) { me.x; });"

/-- The parameter stays, and the receiver in its scope becomes `this` all the same. -/
theorem parameterScript_scopes :
    ∃ block way replaced, ofChars parameterScript.toList = .ok block
      ∧ way? block.statements [0, 0, 1, 1, 2, 1, 0, 0] = some way
      ∧ way? block.onThis.statements [0, 0, 1, 1, 2, 1, 0, 0] = some replaced
      ∧ "me" ∈ block.namesInScope way ∧ "me" ∈ block.onThis.namesInScope replaced
      ∧ EndsInReceiver way ∧ replaced.getLast? = way.getLast?.map asThis := by
  have hchecked : (ofChars parameterScript.toList).toOption.any (fun block =>
      block.becomesThis [0, 0, 1, 1, 2, 1, 0, 0]
        && (way? block.statements [0, 0, 1, 1, 2, 1, 0, 0]).any fun way =>
          (block.namesInScope way).contains "me") = true := by decide +kernel
  cases hblock : ofChars parameterScript.toList with
  | error fault =>
    rw [hblock] at hchecked
    exact absurd hchecked Bool.false_ne_true
  | ok block =>
    rw [hblock] at hchecked
    obtain ⟨hbecomes, hway⟩ := Bool.and_eq_true_iff.mp hchecked
    obtain ⟨way, hway, hdeclared⟩ := (Option.any_eq_true _ _).mp hway
    have hlawful := lawful_ofChars hblock
    obtain ⟨replaced, hreplaced, hnames, hreceiver, -⟩ := onThis_scopes hlawful hway
    have hends := (becomesThis_iff_endsInReceiver hlawful hway).mp hbecomes
    have hdeclared : "me" ∈ block.namesInScope way := List.elem_iff.mp hdeclared
    exact ⟨block, way, replaced, rfl, hway, hreplaced, hdeclared, hnames ▸ hdeclared, hends,
      hreceiver hends⟩

/-- A script that declares a variable named like the entity. -/
def variableScript : String := "var me = f(); me.x;"

/-- A receiver becomes `this` although its name is that of a variable of the script. -/
theorem variableScript_shadows :
    ∃ block place way, ofChars variableScript.toList = .ok block
      ∧ way? block.statements place = some way ∧ "me" ∈ block.namesInScope way
      ∧ block.becomesThis place = true := by
  have hchecked : (ofChars variableScript.toList).toOption.any (fun block =>
      block.becomesThis [1, 0, 0]
        && (way? block.statements [1, 0, 0]).any fun way => (block.namesInScope way).contains "me")
      = true := by decide +kernel
  cases hblock : ofChars variableScript.toList with
  | error fault =>
    rw [hblock] at hchecked
    exact absurd hchecked Bool.false_ne_true
  | ok block =>
    rw [hblock] at hchecked
    obtain ⟨hbecomes, hway⟩ := Bool.and_eq_true_iff.mp hchecked
    obtain ⟨way, hway, hdeclared⟩ := (Option.any_eq_true _ _).mp hway
    exact ⟨block, _, way, rfl, hway, List.elem_iff.mp hdeclared, hbecomes⟩

end Block

end EntityCompiler
