import EntityCompiler.Proofs.Receivers

/-!
# What replacing the receivers changes

Replacing the receivers of a script goes through all of its nodes. Here the script and what becomes
of it are compared place by place: a receiver becomes the leaf `this`, and every other node stays as
it is, apart from what is in it (`Block.onThis_exact`). So no receiver is left, and a script comes
out as it was exactly if there was none.
-/

namespace EntityCompiler

namespace CodeNode

/-! ## Receivers by their places -/

/-- Does a way lead to a receiver? The node in front of the way is an access if `accessed` is set.
-/
def endsAtReceiver : (accessed : Bool) → List CodeNode → Bool
  | _, [] => false
  | accessed, [leaf] => accessed && leaf.isReceiver
  | _, node :: inner :: way => endsAtReceiver (accessKinds.contains node.kind) (inner :: way)

/-- Does a receiver stand at a place? -/
def IsReceiverAt (nodes : List CodeNode) (place : List Nat) : Prop :=
  ∃ way, way? nodes place = some way ∧ EndsInReceiver way

/-- No receiver stands anywhere in some nodes. -/
def FreeOfReceivers (nodes : List CodeNode) : Prop :=
  ∀ place, ¬ IsReceiverAt nodes place

/-- What a node is by itself: all that it has apart from the nodes in it, and how many these are. -/
def itself (node : CodeNode) : CodeNode × Nat :=
  ({ node with children := [] }, node.children.length)

lemma endsAtReceiver_cons (accessed : Bool) (node : CodeNode) (way : List CodeNode) :
    endsAtReceiver accessed (node :: way)
      = if way = [] then accessed && node.isReceiver
        else endsAtReceiver (accessKinds.contains node.kind) way := by
  cases way <;> rfl

lemma endsAtReceiver_append (accessed : Bool) (above : List CodeNode) (outer leaf : CodeNode) :
    endsAtReceiver accessed (above ++ [outer, leaf])
      = (accessKinds.contains outer.kind && leaf.isReceiver) := by
  induction above generalizing accessed with
  | nil => rfl
  | cons node above ih =>
    rw [List.cons_append, endsAtReceiver_cons, if_neg (by simp), ih]

lemma endsAtReceiver_iff {way : List CodeNode} :
    endsAtReceiver false way = true ↔ EndsInReceiver way := by
  rcases List.eq_nil_or_concat way with rfl | ⟨front, leaf, rfl⟩
  · simp [endsAtReceiver, EndsInReceiver]
  rcases List.eq_nil_or_concat front with rfl | ⟨above, outer, rfl⟩
  · -- nothing is in front of a single node
    have hshort : ¬ EndsInReceiver [leaf] := by
      rintro ⟨above, access, node, hway, -⟩
      have hlength := congrArg List.length hway
      simp at hlength
    simpa [endsAtReceiver] using hshort
  · rw [List.concat_eq_append, List.concat_eq_append, List.append_assoc, List.singleton_append,
      endsAtReceiver_append, endsInReceiver_append]

/-- No receiver is left on a way after the receivers are replaced. -/
lemma endsAtReceiver_replacedWay (accessed : Bool) (way : List CodeNode) :
    endsAtReceiver accessed (replacedWay accessed way) = false := by
  induction way generalizing accessed with
  | nil => rfl
  | cons node way ih =>
    rw [replacedWay, endsAtReceiver_cons]
    split
    · cases hreceiver : accessed && node.isReceiver with
      | false =>
        rw [replaced_of_not hreceiver]
        exact hreceiver
      | true =>
        -- `this` is no name any more
        rw [replaced, if_pos hreceiver]
        simp [isReceiver, asThis]
    · rw [contains_kind_replaced accessKinds accessed node rfl rfl]
      exact ih _

/-! ## When nothing is replaced -/

lemma withThisAll?_cons_eq_none_iff {accessed : Bool} {node : CodeNode} {rest : List CodeNode} :
    withThisAll? accessed (node :: rest) = none
      ↔ (accessed && node.isReceiver) = false ∧ node.withThis? = none
        ∧ withThisAll? accessed rest = none := by
  rw [withThisAll?]
  cases hreceiver : accessed && node.isReceiver
  all_goals cases node.withThis? <;> cases withThisAll? accessed rest <;> simp

lemma withThis?_eq_none_iff_children (node : CodeNode) : node.withThis? = none
    ↔ withThisAll? (accessKinds.contains node.kind) node.children = none := by
  obtain ⟨kind, text, children, field, gap, leading, trailing⟩ := node
  rw [withThis?]
  cases withThisAll? (accessKinds.contains kind) children <;> simp

mutual

/-- A node is left as it is exactly if no way from it leads to a receiver. -/
theorem withThis?_eq_none_iff : ∀ node : CodeNode, node.withThis? = none
    ↔ ∀ place way, way? node.children place = some way →
      endsAtReceiver (accessKinds.contains node.kind) way = false
  | ⟨kind, text, children, field, gap, leading, trailing⟩ => by
    rw [withThis?_eq_none_iff_children]
    exact withThisAll?_eq_none_iff (accessKinds.contains kind) children

/-- Some nodes are left as they are exactly if no way from them leads to a receiver. -/
theorem withThisAll?_eq_none_iff (accessed : Bool) : ∀ nodes : List CodeNode,
    withThisAll? accessed nodes = none
      ↔ ∀ place way, way? nodes place = some way → endsAtReceiver accessed way = false
  | [] => by
    refine iff_of_true rfl fun place way hway => ?_
    cases place with
    | nil => rw [← Option.some.inj hway]; rfl
    | cons i place => contradiction
  | node :: rest => by
    rw [withThisAll?_cons_eq_none_iff, withThis?_eq_none_iff node,
      withThisAll?_eq_none_iff accessed rest]
    constructor
    · intro h place way hway
      obtain ⟨hnode, hinside, hrest⟩ := h
      cases place with
      | nil => rw [← Option.some.inj hway]; rfl
      | cons i place =>
        obtain ⟨first, inner, hfirst, hinner, rfl⟩ := way?_cons.mp hway
        cases i with
        | zero =>
          obtain rfl : node = first := Option.some.inj hfirst
          rw [endsAtReceiver_cons]
          split
          · exact hnode
          · exact hinside place inner hinner
        | succ i => exact hrest (i :: place) _ (way?_cons.mpr ⟨first, inner, hfirst, hinner, rfl⟩)
    · intro h
      refine ⟨h [0] [node] rfl, fun place way hway => ?_, fun place way hway => ?_⟩
      · have hdeep := h (0 :: place) (node :: way) (way?_cons.mpr ⟨node, way, rfl, hway, rfl⟩)
        rw [endsAtReceiver_cons] at hdeep
        split at hdeep
        · rename_i hempty
          rw [hempty]
          rfl
        · exact hdeep
      · cases place with
        | nil => rw [← Option.some.inj hway]; rfl
        | cons i place =>
          obtain ⟨first, inner, hfirst, hinner, rfl⟩ := way?_cons.mp hway
          exact h ((i + 1) :: place) _ (way?_cons.mpr ⟨first, inner, hfirst, hinner, rfl⟩)

end

/-- Some nodes, none of them the child of an access, are left as they are exactly if no receiver is
in them. -/
lemma withThisAll?_false_eq_none_iff (nodes : List CodeNode) :
    withThisAll? false nodes = none ↔ FreeOfReceivers nodes := by
  rw [withThisAll?_eq_none_iff]
  constructor
  · intro h place hat
    obtain ⟨way, hway, hends⟩ := hat
    rw [← endsAtReceiver_iff, h place way hway] at hends
    contradiction
  · intro h place way hway
    rw [Bool.eq_false_iff, Ne, endsAtReceiver_iff]
    exact fun hends => h place ⟨way, hway, hends⟩

/-- A single node is left as it is exactly if no receiver is in it. -/
lemma withThis?_eq_none_iff_free (node : CodeNode) :
    node.withThis? = none ↔ FreeOfReceivers [node] := by
  rw [← withThisAll?_false_eq_none_iff, withThisAll?_cons_eq_none_iff]
  simp [withThisAll?]

end CodeNode

namespace Block

open CodeNode

/-! ## The script and what becomes of it, place by place -/

/-- A script in which the receivers of another one are replaced, and nothing else is. Both have
nodes at the same places. -/
structure Replaces (changed block : Block) : Prop where
  trailingComments : changed.trailingComments = block.trailingComments
  /-- A receiver is a name, and a leaf. It becomes the leaf `this`, with the field, the white space
  and the comments of the name. -/
  receivers : ∀ place, IsReceiverAt block.statements place → ∃ leaf,
    nodeAt? block.statements place = some leaf ∧ leaf.children = [] ∧ leaf.isReceiver = true
      ∧ nodeAt? changed.statements place = some { leaf with kind := "this", text := some "this" }
  /-- Any other node stays by itself what it is, and has as many nodes in it. -/
  others : ∀ place, ¬ IsReceiverAt block.statements place →
    (nodeAt? changed.statements place).map itself = (nodeAt? block.statements place).map itself

lemma nodeAt?_onThis {block : Block} (hlawful : block.Lawful) (place : List Nat) :
    nodeAt? block.onThis.statements place
      = (way? block.statements place).bind fun way => (replacedWay false way).getLast? := by
  rw [nodeAt?, statements_onThis, way?_map_replaced hlawful]
  cases way? block.statements place <;> rfl

lemma replaces_onThis {block : Block} (hlawful : block.Lawful) : block.onThis.Replaces block where
  trailingComments := trailingComments_onThis block
  receivers := by
    intro place hat
    obtain ⟨way, hway, hends⟩ := hat
    obtain ⟨leaf, hleaf, hreceiver, hlast⟩ := hends.getLast?_replacedWay
    have hnode : nodeAt? block.statements place = some leaf := by
      rw [nodeAt?, hway, Option.bind_some, hleaf]
    have hmem : leaf ∈ way := List.mem_of_getLast? hleaf
    have hempty : leaf.children = [] :=
      (lawful_of_way? hlawful hway leaf hmem).children_eq_nil (isReceiver_eq_true.mp hreceiver).2.2
    refine ⟨leaf, hnode, hempty, hreceiver, ?_⟩
    rw [nodeAt?_onThis hlawful, hway, Option.bind_some, hlast, asThis, hempty]
  others := by
    intro place hnot
    rw [nodeAt?_onThis hlawful, nodeAt?]
    cases hway : way? block.statements place with
    | none => rfl
    | some way =>
      obtain ⟨change, hlast⟩ := getLast?_replacedWay_of_not fun hends => hnot ⟨way, hway, hends⟩
      rw [Option.bind_some, Option.bind_some, hlast, Option.map_map]
      congr 1
      funext last
      simp [itself]

/-- No receiver is left after the receivers are replaced. -/
lemma freeOfReceivers_onThis {block : Block} (hlawful : block.Lawful) :
    FreeOfReceivers block.onThis.statements := by
  intro place hat
  obtain ⟨way, hway, hends⟩ := hat
  rw [statements_onThis, way?_map_replaced hlawful, Option.map_eq_some_iff] at hway
  obtain ⟨before, -, rfl⟩ := hway
  rw [← endsAtReceiver_iff, endsAtReceiver_replacedWay] at hends
  contradiction

lemma withThis?_eq_none_iff (block : Block) :
    block.withThis? = none ↔ FreeOfReceivers block.statements := by
  rw [← withThisAll?_false_eq_none_iff, withThis?, Option.map_eq_none_iff]

/-- A script that comes out as it was had no receiver, since a receiver changes its kind. -/
lemma onThis_eq_self_iff {block : Block} (hlawful : block.Lawful) :
    block.onThis = block ↔ FreeOfReceivers block.statements := by
  constructor
  · intro hsame place hat
    obtain ⟨leaf, hleaf, -, hreceiver, hthis⟩ := (replaces_onThis hlawful).receivers place hat
    rw [hsame, hleaf] at hthis
    have hkind : leaf.kind = "this" := congrArg kind (Option.some.inj hthis)
    rw [(isReceiver_eq_true.mp hreceiver).2.1] at hkind
    contradiction
  · intro hfree
    rw [onThis, (withThis?_eq_none_iff block).mpr hfree]
    rfl

lemma onThis_single (node : CodeNode) : onThis ⟨[node], []⟩ = ⟨[node.withThis?.getD node], []⟩ := by
  cases hnode : node.withThis? <;> simp [onThis, withThis?, withThisAll?, hnode]

/-- A statement comes out as a script does that consists of it alone. -/
lemma getD_withThis?_eq_self_iff {node : CodeNode} (hlawful : node.Lawful) :
    node.withThis?.getD node = node ↔ FreeOfReceivers [node] := by
  have halone : Block.Lawful ⟨[node], []⟩ := by
    intro other hother
    rw [List.mem_singleton.mp hother]
    exact hlawful
  have hscript := onThis_eq_self_iff halone
  rw [onThis_single] at hscript
  simpa using hscript

/-- The receivers of a script become `this`, and nothing else changes. So no receiver is left, and
replacing once more does nothing. Each statement is left as it is exactly if no receiver is in it,
and else comes out as a different one; so does the whole script. -/
theorem onThis_exact {block : Block} (hlawful : block.Lawful) :
    block.onThis.Replaces block
      ∧ FreeOfReceivers block.onThis.statements
      ∧ block.onThis.withThis? = none ∧ block.onThis.onThis = block.onThis
      ∧ block.onThis.statements = block.statements.map (fun node => node.withThis?.getD node)
      ∧ (∀ node ∈ block.statements, (node.withThis? = none ↔ FreeOfReceivers [node])
        ∧ (node.withThis?.getD node = node ↔ FreeOfReceivers [node]))
      ∧ (block.withThis? = none ↔ FreeOfReceivers block.statements)
      ∧ (block.onThis = block ↔ FreeOfReceivers block.statements) := by
  have hfree := freeOfReceivers_onThis hlawful
  have hagain : block.onThis.withThis? = none := (withThis?_eq_none_iff _).mpr hfree
  refine ⟨replaces_onThis hlawful, hfree, hagain, ?_, statements_onThis block, fun node hnode => ?_,
    withThis?_eq_none_iff block, onThis_eq_self_iff hlawful⟩
  · rw [onThis, hagain]
    rfl
  · exact ⟨withThis?_eq_none_iff_free node, getD_withThis?_eq_self_iff (hlawful node hnode)⟩

/-- A script with a receiver in the access of another one, and a statement without any. -/
def nestedScript : String := "/* a */ me /* b */ [me.x].y = me; f(me);"

/-- Both receivers of the first statement are replaced, and the name that is assigned is not. The
second statement is left as it is. -/
theorem nestedScript_exact :
    ∃ block access call, ofChars nestedScript.toList = .ok block ∧ block.Lawful
      ∧ block.statements = [access, call]
      ∧ block.onThis.source = "/* a */ this /* b */ [this.x].y = me; f(me);"
      ∧ block.onThis.Replaces block ∧ block.onThis.withThis? = none
      ∧ ¬ FreeOfReceivers [access] ∧ FreeOfReceivers [call] := by
  have hchecked : (ofChars nestedScript.toList).toOption.any (fun block =>
      block.statements.map (fun node => node.withThis?.isNone) == [false, true]
        && block.onThis.source == "/* a */ this /* b */ [this.x].y = me; f(me);")
      = true := by decide +kernel
  cases hblock : ofChars nestedScript.toList with
  | error fault =>
    rw [hblock] at hchecked
    exact absurd hchecked Bool.false_ne_true
  | ok block =>
    rw [hblock] at hchecked
    obtain ⟨hshared, hsource⟩ := Bool.and_eq_true_iff.mp hchecked
    have hlawful := lawful_ofChars hblock
    obtain ⟨hreplaces, -, hagain, -, -, hstatements, -, -⟩ := onThis_exact hlawful
    obtain ⟨access, others, hall, haccess, hothers⟩ := List.map_eq_cons_iff.mp (eq_of_beq hshared)
    obtain ⟨call, rfl, hcall⟩ := List.map_eq_singleton_iff.mp hothers
    rw [hall] at hstatements
    refine ⟨block, access, call, rfl, hlawful, hall, eq_of_beq hsource, hreplaces, hagain, ?_, ?_⟩
    · rw [← (hstatements access (by simp)).1, ← Option.isNone_iff_eq_none, haccess]
      exact Bool.false_ne_true
    · rw [← (hstatements call (by simp)).1, ← Option.isNone_iff_eq_none, hcall]

end Block

end EntityCompiler
