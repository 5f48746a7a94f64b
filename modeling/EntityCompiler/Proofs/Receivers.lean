import EntityCompiler.Proofs.LawfulScript

/-!
# Places of receivers

Replacing the receivers of a script goes by an access and its child alone. So it reaches every
access, however deep it stands (`Block.becomesThis_iff`), and leaves the kinds and the fields of all
nodes above it as they are. What `this` means in the place of a receiver depends on these nodes:
inside a function or a class it is no longer the receiver of the method around the script.
-/

namespace EntityCompiler

namespace CodeNode

/-! ## Replacing, node by node -/

/-- What replacing the receivers makes of a node; the node may be a receiver itself if it is a child
of an access. -/
def replaced (accessed : Bool) (node : CodeNode) : CodeNode :=
  if accessed && node.isReceiver then node.asThis else node.withThis?.getD node

/-- Replacing the receivers in some nodes is done node by node. -/
lemma getD_withThisAll? (accessed : Bool) (nodes : List CodeNode) :
    (withThisAll? accessed nodes).getD nodes = nodes.map (replaced accessed) := by
  induction nodes with
  | nil => rfl
  | cons node rest ih =>
    have hfirst : (if accessed && node.isReceiver then some node.asThis
        else node.withThis?).getD node = replaced accessed node := by
      unfold replaced
      split <;> rfl
    rw [withThisAll?, List.map_cons, ← ih, ← hfirst]
    generalize (if accessed && node.isReceiver then some node.asThis else node.withThis?) = first
    cases first <;> cases withThisAll? accessed rest <;> rfl

/-- Replacing the receivers in a node changes its children only. -/
lemma getD_withThis? (node : CodeNode) :
    node.withThis?.getD node
      = { node with children :=
        node.children.map (replaced (accessKinds.contains node.kind)) } := by
  obtain ⟨kind, text, children, field, gap, leading, trailing⟩ := node
  simp only [withThis?, ← getD_withThisAll?]
  cases withThisAll? (accessKinds.contains kind) children <;> rfl

lemma replaced_of_receiver {node : CodeNode} (h : node.isReceiver = true) :
    replaced true node = node.asThis := by
  rw [replaced, h]
  rfl

lemma replaced_of_not {accessed : Bool} {node : CodeNode}
    (h : (accessed && node.isReceiver) = false) :
    replaced accessed node
      = { node with children :=
        node.children.map (replaced (accessKinds.contains node.kind)) } := by
  rw [replaced, h, ← getD_withThis?]
  rfl

@[simp]
lemma field_replaced (accessed : Bool) (node : CodeNode) :
    (replaced accessed node).field = node.field := by
  cases h : accessed && node.isReceiver with
  | false => rw [replaced_of_not h]
  | true => rw [replaced, h]; rfl

/-- A receiver is a name, and a leaf. -/
lemma isReceiver_eq_true {node : CodeNode} : node.isReceiver = true ↔
    node.field = some "object" ∧ node.kind = "identifier" ∧ node.text = some selfName := by
  simp [isReceiver, and_assoc]

/-- A node keeps its kind, unless it is a name that becomes `this`. -/
lemma kind_replaced (accessed : Bool) (node : CodeNode) :
    (replaced accessed node).kind = node.kind
      ∨ (replaced accessed node).kind = "this" ∧ node.kind = "identifier" := by
  cases h : accessed && node.isReceiver with
  | false => rw [replaced_of_not h]; exact .inl rfl
  | true =>
    rw [replaced, h]
    exact .inr ⟨rfl, (isReceiver_eq_true.mp (Bool.and_eq_true_iff.mp h).2).2.1⟩

/-- A test for a kind that is neither that of names nor that of `this` comes out as before. -/
lemma contains_kind_replaced (kinds : List String) (accessed : Bool) (node : CodeNode)
    (hname : kinds.contains "identifier" = false) (hthis : kinds.contains "this" = false) :
    kinds.contains (replaced accessed node).kind = kinds.contains node.kind := by
  rcases kind_replaced accessed node with h | ⟨h, hnode⟩
  · rw [h]
  · rw [h, hnode, hname, hthis]

lemma beq_kind_replaced {kind : String} (accessed : Bool) (node : CodeNode)
    (hname : kind ≠ "identifier") (hthis : kind ≠ "this") :
    ((replaced accessed node).kind == kind) = (node.kind == kind) := by
  have h := contains_kind_replaced [kind] accessed node
    (by simp [hname.symm]) (by simp [hthis.symm])
  simpa only [List.contains_cons, List.contains_nil, Bool.or_false] using h

lemma Lawful.children_eq_nil {node : CodeNode} (h : node.Lawful) {text : String}
    (htext : node.text = some text) : node.children = [] := by
  cases h with
  | mk hshape _ =>
    rcases hshape with hnone | hnil
    · rw [hnone] at htext
      contradiction
    · exact hnil

lemma Lawful.of_mem_children {node child : CodeNode} (h : node.Lawful)
    (hchild : child ∈ node.children) : child.Lawful := by
  cases h with
  | mk _ hchildren => exact hchildren child hchild

/-- The children of a node are replaced one by one; a receiver has none. -/
lemma Lawful.children_replaced {node : CodeNode} (h : node.Lawful) (accessed : Bool) :
    (replaced accessed node).children
      = node.children.map (replaced (accessKinds.contains node.kind)) := by
  cases hreceiver : accessed && node.isReceiver with
  | false => rw [replaced_of_not hreceiver]
  | true =>
    have hnode := isReceiver_eq_true.mp (Bool.and_eq_true_iff.mp hreceiver).2
    rw [replaced, hreceiver, h.children_eq_nil hnode.2.2]
    rfl

/-! ## Ways through a script -/

/-- The nodes on the way to a place: the one among `nodes` that holds it first, the node at the
place last. -/
def way? : List CodeNode → (place : List Nat) → Option (List CodeNode)
  | _, [] => some []
  | nodes, i :: place => do
    let node ← nodes[i]?
    let inner ← way? node.children place
    return node :: inner

/-- The node at a place. -/
def nodeAt? (nodes : List CodeNode) (place : List Nat) : Option CodeNode :=
  (way? nodes place).bind List.getLast?

/-- What replacing the receivers makes of the nodes on a way. -/
def replacedWay : (accessed : Bool) → List CodeNode → List CodeNode
  | _, [] => []
  | accessed, node :: way => replaced accessed node :: replacedWay
      (accessKinds.contains node.kind) way

lemma way?_cons {nodes : List CodeNode} {i : Nat} {place : List Nat} {way : List CodeNode} :
    way? nodes (i :: place) = some way ↔ ∃ node inner, nodes[i]? = some node
      ∧ way? node.children place = some inner ∧ way = node :: inner := by
  simp only [way?, bind, Option.bind_eq_some_iff, pure, Option.some.injEq]
  constructor
  · rintro ⟨node, hnode, inner, hinner, rfl⟩
    exact ⟨node, inner, hnode, hinner, rfl⟩
  · rintro ⟨node, inner, hnode, hinner, rfl⟩
    exact ⟨node, hnode, inner, hinner, rfl⟩

/-- The nodes on a way through lawful nodes are lawful. -/
lemma lawful_of_way? {nodes : List CodeNode} (h : ∀ node ∈ nodes, node.Lawful) {place : List Nat}
    {way : List CodeNode} (hway : way? nodes place = some way) : ∀ node ∈ way, node.Lawful := by
  induction place generalizing nodes way with
  | nil =>
    rw [way?] at hway
    rw [← Option.some.inj hway]
    exact fun _ hnode => absurd hnode List.not_mem_nil
  | cons i place ih =>
    obtain ⟨node, inner, hnode, hinner, rfl⟩ := way?_cons.mp hway
    have hlawful := h node (List.mem_of_getElem? hnode)
    exact List.forall_mem_cons.mpr ⟨hlawful, ih (fun _ => hlawful.of_mem_children) hinner⟩

/-- The same places can be reached after the receivers are replaced, and what is on the way to a
place is what replacing the receivers makes of it. -/
lemma way?_map_replaced {nodes : List CodeNode} (hlawful : ∀ node ∈ nodes, node.Lawful)
    (accessed : Bool)
    (place : List Nat) :
    way? (nodes.map (replaced accessed)) place = (way? nodes place).map (replacedWay accessed) := by
  induction place generalizing nodes accessed with
  | nil => rfl
  | cons i place ih =>
    rw [way?, way?, List.getElem?_map]
    cases hnode : nodes[i]? with
    | none => rfl
    | some node =>
      have hnode : node.Lawful := hlawful node (List.mem_of_getElem? hnode)
      have hinner := ih (fun child hchild => hnode.of_mem_children hchild)
        (accessKinds.contains node.kind)
      rw [← hnode.children_replaced accessed] at hinner
      simp only [Option.map_some, bind, Option.bind_some, hinner]
      cases way? node.children place <;> rfl

/-- The last node on a way may become `this` if the one before it is an access. -/
lemma replacedWay_concat (accessed : Bool) (above : List CodeNode) (outer leaf : CodeNode) :
    replacedWay accessed (above ++ [outer, leaf])
      = replacedWay accessed (above ++ [outer])
        ++ [replaced (accessKinds.contains outer.kind) leaf] := by
  induction above generalizing accessed with
  | nil => rfl
  | cons node above ih => exact congrArg (_ :: ·) (ih _)

/-! ## What `this` means at the end of a way -/

/-- The functions that bind their own `this`. An arrow function does not. -/
def functionKinds : List String :=
  ["function_expression", "function_declaration", "generator_function",
    "generator_function_declaration", "method_definition"]

/-- Does a node bind its own `this` for what is in its child? -/
def rebindsThis (outer inner : CodeNode) : Bool :=
  outer.kind == "class_body"
    || functionKinds.contains outer.kind
      && (inner.field == some "parameters" || inner.field == some "body")

/-- How many nodes stand above the innermost one on a way that binds its own `this`; nothing if
there is no such node, so that `this` is that of the method around the script. -/
def thisDepth? : List CodeNode → Option Nat
  | outer :: inner :: way =>
    match thisDepth? (inner :: way) with
    | some depth => some (depth + 1)
    | none => if rebindsThis outer inner then some 0 else none
  | _ => none

lemma rebindsThis_replaced (outer inner : CodeNode) (first second : Bool) :
    rebindsThis (replaced first outer) (replaced second inner) = rebindsThis outer inner := by
  have hfunction := contains_kind_replaced functionKinds first outer rfl rfl
  rw [rebindsThis, field_replaced, hfunction, beq_kind_replaced first outer (by decide) (by decide),
    ← rebindsThis]

lemma thisDepth?_replacedWay (accessed : Bool) (way : List CodeNode) :
    thisDepth? (replacedWay accessed way) = thisDepth? way := by
  induction way generalizing accessed with
  | nil => rfl
  | cons outer way ih =>
    cases way with
    | nil => rfl
    | cons inner way =>
      have hinner := ih (accessKinds.contains outer.kind)
      rw [replacedWay] at hinner
      rw [replacedWay, replacedWay, thisDepth?, thisDepth?, hinner, rebindsThis_replaced]

/-- `this` is that of the method exactly if no node on the way binds its own. -/
lemma thisDepth?_eq_none_iff (way : List CodeNode) :
    thisDepth? way = none ↔ way.IsChain fun outer inner => rebindsThis outer inner = false := by
  induction way with
  | nil => simp [thisDepth?]
  | cons outer way ih =>
    cases way with
    | nil => simp [thisDepth?]
    | cons inner way =>
      rw [thisDepth?, List.isChain_cons_cons, ← ih]
      cases thisDepth? (inner :: way) <;> simp

/-! ## The receivers that are replaced -/

/-- Is the node the name of the entity? -/
def isSelf (node : CodeNode) : Bool :=
  node.kind == "identifier" && node.text == some selfName

/-- Is the node `this`? -/
def isThis (node : CodeNode) : Bool :=
  node.kind == "this" && node.text == some "this"

/-- A way that ends in an access and its receiver. -/
def EndsInReceiver (way : List CodeNode) : Prop :=
  ∃ above access leaf, way = above ++ [access, leaf] ∧ accessKinds.contains access.kind = true
    ∧ leaf.isReceiver = true

lemma endsInReceiver_append {above : List CodeNode} {outer leaf : CodeNode} :
    EndsInReceiver (above ++ [outer, leaf])
      ↔ (accessKinds.contains outer.kind && leaf.isReceiver) = true := by
  rw [Bool.and_eq_true_iff]
  constructor
  · rintro ⟨above', access, node, hway, haccess, hnode⟩
    obtain ⟨-, hlast⟩ := List.append_inj' hway rfl
    obtain ⟨rfl, rfl⟩ : outer = access ∧ leaf = node := by simpa using hlast
    exact ⟨haccess, hnode⟩
  · rintro ⟨haccess, hnode⟩
    exact ⟨above, outer, leaf, rfl, haccess, hnode⟩

/-- A receiver at the end of a way becomes `this`. -/
lemma EndsInReceiver.getLast?_replacedWay {way : List CodeNode} (h : EndsInReceiver way) :
    ∃ leaf, way.getLast? = some leaf ∧ leaf.isReceiver = true
      ∧ (replacedWay false way).getLast? = some leaf.asThis := by
  obtain ⟨above, outer, leaf, rfl, haccess, hleaf⟩ := h
  refine ⟨leaf, by simp, hleaf, ?_⟩
  rw [replacedWay_concat, haccess, replaced_of_receiver hleaf]
  simp

/-- Anything else at the end of a way changes only in what is in it. -/
lemma getLast?_replacedWay_of_not {way : List CodeNode} (h : ¬ EndsInReceiver way) :
    ∃ change : CodeNode → CodeNode, (replacedWay false way).getLast?
      = way.getLast?.map fun last => { last with children := last.children.map change } := by
  rcases List.eq_nil_or_concat way with rfl | ⟨front, leaf, rfl⟩
  · exact ⟨id, rfl⟩
  refine ⟨replaced (accessKinds.contains leaf.kind), ?_⟩
  rcases List.eq_nil_or_concat front with rfl | ⟨above, outer, rfl⟩
  · rw [List.concat_eq_append, List.nil_append, replacedWay, replacedWay, replaced_of_not rfl]
    rfl
  · rw [List.concat_eq_append, List.concat_eq_append, List.append_assoc, List.singleton_append] at *
    have hleaf := Bool.eq_false_iff.mpr fun hleaf => h (endsInReceiver_append.mpr hleaf)
    rw [replacedWay_concat, replaced_of_not hleaf]
    simp

/-- A name becomes `this` at the end of a way exactly if it is the receiver of an access. -/
lemma endsInReceiver_iff {way : List CodeNode} :
    (way.getLast?.any isSelf && (replacedWay false way).getLast?.any isThis) = true
      ↔ EndsInReceiver way := by
  constructor
  · intro hends
    obtain ⟨hself, hthis⟩ := Bool.and_eq_true_iff.mp hends
    by_contra hnot
    obtain ⟨change, hlast⟩ := getLast?_replacedWay_of_not hnot
    obtain ⟨last, hway, hself⟩ := (Option.any_eq_true _ _).mp hself
    rw [hlast, hway] at hthis
    -- a node that keeps its kind is not both a name and `this`
    simp_all [isSelf, isThis]
  · intro hends
    obtain ⟨leaf, hleaf, hreceiver, hlast⟩ := hends.getLast?_replacedWay
    have hnode := isReceiver_eq_true.mp hreceiver
    rw [hleaf, hlast]
    simp [isSelf, isThis, asThis, hnode.2.1, hnode.2.2]

end CodeNode

namespace Block

open CodeNode

/-- The script with each receiver in it replaced. -/
def onThis (block : Block) : Block :=
  block.withThis?.getD block

/-- Does the name of the entity at a place become `this`? -/
def becomesThis (block : Block) (place : List Nat) : Bool :=
  (nodeAt? block.statements place).any isSelf && (nodeAt? block.onThis.statements place).any isThis

/-- The receivers of a script are replaced statement by statement. -/
lemma onThis_eq (block : Block) :
    block.onThis = { block with statements := block.statements.map (replaced false) } := by
  rw [onThis, withThis?, ← getD_withThisAll?]
  cases withThisAll? false block.statements <;> rfl

lemma statements_onThis (block : Block) :
    block.onThis.statements = block.statements.map (replaced false) := by
  rw [onThis_eq]

lemma trailingComments_onThis (block : Block) :
    block.onThis.trailingComments = block.trailingComments := by
  rw [onThis_eq]

lemma way?_onThis {block : Block} (hlawful : block.Lawful) {place : List Nat}
    {way : List CodeNode} (hway : way? block.statements place = some way) :
    way? block.onThis.statements place = some (replacedWay false way) := by
  rw [statements_onThis, way?_map_replaced hlawful, hway]
  rfl

lemma becomesThis_iff_endsInReceiver {block : Block} (hlawful : block.Lawful) {place : List Nat}
    {way : List CodeNode} (hway : way? block.statements place = some way) :
    block.becomesThis place = true ↔ EndsInReceiver way := by
  rw [← endsInReceiver_iff, becomesThis, nodeAt?, nodeAt?, hway, way?_onThis hlawful hway]
  rfl

/-- The name of the entity becomes `this` exactly as the receiver of an access, however deep it
stands. What `this` then means is settled by the nodes above it, as they were: it is the receiver of
the method around the script exactly if none of them binds its own `this`. -/
theorem becomesThis_iff {block : Block} (hlawful : block.Lawful) {place : List Nat}
    {way : List CodeNode} (hway : way? block.statements place = some way) :
    (block.becomesThis place = true ↔ EndsInReceiver way)
      ∧ ∃ replaced, way? block.onThis.statements place = some replaced
        ∧ thisDepth? replaced = thisDepth? way
        ∧ (thisDepth? replaced = none
          ↔ way.IsChain fun outer inner => rebindsThis outer inner = false) := by
  have hdepth := thisDepth?_replacedWay false way
  exact ⟨becomesThis_iff_endsInReceiver hlawful hway, _, way?_onThis hlawful hway, hdepth,
    by rw [hdepth, thisDepth?_eq_none_iff]⟩

/-- A script with an access in an arrow function. -/
def arrowScript : String := "f(() => me.x);"

/-- In an arrow function the name of the entity becomes the receiver of the method. -/
theorem arrowScript_becomesThis :
    ∃ block way replaced, ofChars arrowScript.toList = .ok block
      ∧ way? block.statements [0, 0, 1, 1, 2, 0] = some way
      ∧ block.becomesThis [0, 0, 1, 1, 2, 0] = true ∧ EndsInReceiver way
      ∧ way? block.onThis.statements [0, 0, 1, 1, 2, 0] = some replaced
      ∧ thisDepth? replaced = none := by
  have hchecked : (ofChars arrowScript.toList).toOption.any (fun block =>
      block.becomesThis [0, 0, 1, 1, 2, 0]
        && (way? block.statements [0, 0, 1, 1, 2, 0]).any fun way => (thisDepth? way).isNone)
      = true := by decide +kernel
  cases hblock : ofChars arrowScript.toList with
  | error fault =>
    rw [hblock] at hchecked
    exact absurd hchecked Bool.false_ne_true
  | ok block =>
    rw [hblock] at hchecked
    obtain ⟨hbecomes, hway⟩ := Bool.and_eq_true_iff.mp hchecked
    obtain ⟨way, hway, hnone⟩ := (Option.any_eq_true _ _).mp hway
    obtain ⟨hiff, replaced, hreplaced, hdepth, -⟩ := becomesThis_iff (lawful_ofChars hblock) hway
    exact ⟨block, way, replaced, rfl, hway, hbecomes, hiff.mp hbecomes, hreplaced,
      hdepth.trans (Option.isNone_iff_eq_none.mp hnone)⟩

/-- A script with an access in a callback. -/
def callbackScript : String := "f(function () { me.x; });"

/-- In a callback the name of the entity becomes a `this` that is not the receiver of the method. -/
theorem callbackScript_rebinds :
    ∃ block place way, ofChars callbackScript.toList = .ok block
      ∧ way? block.statements place = some way ∧ block.becomesThis place = true
      ∧ ¬ way.IsChain fun outer inner => rebindsThis outer inner = false := by
  have hchecked : (ofChars callbackScript.toList).toOption.any (fun block =>
      block.becomesThis [0, 0, 1, 1, 2, 1, 0, 0]
        && (way? block.statements [0, 0, 1, 1, 2, 1, 0, 0]).any fun way => (thisDepth? way).isSome)
      = true := by decide +kernel
  cases hblock : ofChars callbackScript.toList with
  | error fault =>
    rw [hblock] at hchecked
    exact absurd hchecked Bool.false_ne_true
  | ok block =>
    rw [hblock] at hchecked
    obtain ⟨hbecomes, hway⟩ := Bool.and_eq_true_iff.mp hchecked
    obtain ⟨way, hway, hsome⟩ := (Option.any_eq_true _ _).mp hway
    refine ⟨block, _, way, rfl, hway, hbecomes, fun hchain => ?_⟩
    rw [(thisDepth?_eq_none_iff way).mpr hchain] at hsome
    exact Bool.false_ne_true hsome

end Block

end EntityCompiler
