import EntityCompiler.Proofs.ScriptReading

/-!
# The shape of scripts

Whatever tree a parser makes of a script, the block made of it consists of leaves and inner nodes,
and it still does when its receivers are replaced. So the body of a method is well formed, or there
is a problem with its code that can be reported (`Block.bodyOf_sound`).
-/

namespace EntityCompiler

/-- A node that is a leaf or an inner node, and so are the nodes in it. -/
inductive CodeNode.Lawful : CodeNode → Prop
  | mk {node : CodeNode} (hshape : node.text = none ∨ node.children = [])
    (hchildren : ∀ child ∈ node.children, Lawful child) : Lawful node

/-- A script of leaves and inner nodes. -/
def Block.Lawful (block : Block) : Prop :=
  ∀ node ∈ block.statements, node.Lawful

/-! ## Detached nodes -/

namespace CodeNode

/-- Comments behind a node do not change what it is. -/
lemma Lawful.withTrailing {nodes : List CodeNode} (h : ∀ node ∈ nodes, node.Lawful)
    (comments : List CodeComment) : ∀ node ∈ CodeNode.withTrailing nodes comments, node.Lawful := by
  induction nodes with
  | nil => exact h
  | cons node rest ih =>
    obtain ⟨hnode, hrest⟩ := List.forall_mem_cons.mp h
    cases rest with
    | nil =>
      cases hnode with
      | mk hshape hchildren =>
        exact List.forall_mem_cons.mpr ⟨.mk hshape hchildren, fun _ h => absurd h List.not_mem_nil⟩
    | cons next rest => exact List.forall_mem_cons.mpr ⟨hnode, ih hrest⟩

mutual

/-- A node of a syntax tree becomes a leaf or an inner node. -/
theorem lawful_of_detach : ∀ {node : SyntaxNode} {code gap : List Char}
    {leading : List CodeComment} {part : CodeNode},
    detach code gap leading node = .ok part → part.Lawful
  | ⟨kind, start, stop, children, field, isMissing⟩, code, gap, leading, part, h => by
    rw [detach, Outcome.bind_eq_ok] at h
    obtain ⟨⟨parts, dangling⟩, hparts, h⟩ := h
    dsimp only at h
    split at h
    · obtain ⟨text, -, h⟩ := Outcome.bind_eq_ok.mp h
      obtain rfl := Outcome.pure_eq_ok.mp h
      exact .mk (.inr rfl) fun _ h => absurd h List.not_mem_nil
    · obtain rfl := Outcome.pure_eq_ok.mp h
      exact .mk (.inl rfl) (Lawful.withTrailing (lawful_of_detachAll hparts) dangling)

/-- Nodes in a row become leaves and inner nodes. -/
theorem lawful_of_detachAll : ∀ {nodes : List SyntaxNode} {code : List Char} {place : Nat}
    {pending dangling : List CodeComment} {parts : List CodeNode},
    detachAll code place pending nodes = .ok (parts, dangling) → ∀ part ∈ parts, part.Lawful
  | [], code, place, pending, dangling, parts, h => by
    rw [detachAll] at h
    obtain ⟨rfl, -⟩ := Prod.mk.inj (Except.ok.inj h)
    exact fun _ h => absurd h List.not_mem_nil
  | node :: rest, code, place, pending, dangling, parts, h => by
    rw [detachAll, Outcome.bind_eq_ok] at h
    obtain ⟨gap, -, h⟩ := h
    split at h
    · obtain ⟨text, -, h⟩ := Outcome.bind_eq_ok.mp h
      exact lawful_of_detachAll h
    · obtain ⟨part, hpart, h⟩ := Outcome.bind_eq_ok.mp h
      obtain ⟨⟨others, behind⟩, hothers, h⟩ := Outcome.bind_eq_ok.mp h
      obtain ⟨rfl, -⟩ := Prod.mk.inj (Outcome.pure_eq_ok.mp h)
      exact List.forall_mem_cons.mpr ⟨lawful_of_detach hpart, lawful_of_detachAll hothers⟩

end

end CodeNode

/-- A block that a parser reads is made of leaves and inner nodes. -/
theorem Block.lawful_of_parsed {parser : Parser} {code : List Char} {block : Block}
    (h : parsed parser code = .ok block) : block.Lawful :=
  CodeNode.lawful_of_detachAll (detachAll_of_parsed h)

lemma Block.lawful_ofChars {code : List Char} {block : Block} (h : ofChars code = .ok block) :
    block.Lawful :=
  lawful_of_parsed h

/-! ## Replaced receivers -/

/-- A receiver is replaced by a leaf. -/
lemma CodeNode.Lawful.asThis (node : CodeNode) : node.asThis.Lawful :=
  .mk (.inr rfl) fun _ h => absurd h List.not_mem_nil

mutual

/-- Only an inner node can have a receiver in it, and it stays an inner node. -/
theorem CodeNode.Lawful.withThis? : ∀ {node changed : CodeNode}, node.Lawful →
    node.withThis? = some changed → changed.Lawful
  | ⟨kind, text, children, field, gap, leading, trailing⟩, changed, hnode, h => by
    rw [CodeNode.withThis?] at h
    split at h
    · contradiction
    · rename_i replaced hreplaced
      cases hnode with
      | mk hshape hchildren =>
        rw [← Option.some.inj h]
        refine .mk ?_ (CodeNode.Lawful.withThisAll? hchildren hreplaced)
        rcases hshape with htext | hnone
        · exact .inl htext
        · -- a leaf has no children that could change
          rw [show children = [] from hnone] at hreplaced
          contradiction

theorem CodeNode.Lawful.withThisAll? : ∀ {accessed : Bool} {nodes changed : List CodeNode},
    (∀ node ∈ nodes, node.Lawful) → CodeNode.withThisAll? accessed nodes = some changed →
      ∀ node ∈ changed, node.Lawful
  | _, [], _, _, h => by
    rw [CodeNode.withThisAll?] at h
    contradiction
  | accessed, node :: rest, changed, hnodes, h => by
    rw [CodeNode.withThisAll?] at h
    have hnode : node.Lawful := hnodes node List.mem_cons_self
    have hrest : ∀ other ∈ rest, other.Lawful := fun other hother =>
      hnodes other (List.mem_cons_of_mem _ hother)
    have hfirst : ∀ first, (if accessed && node.isReceiver then some node.asThis
        else node.withThis?) = some first → first.Lawful := by
      intro first hfirst
      split at hfirst
      · rw [← Option.some.inj hfirst]
        exact CodeNode.Lawful.asThis node
      · exact CodeNode.Lawful.withThis? hnode hfirst
    have hothers : ∀ others, CodeNode.withThisAll? accessed rest = some others →
        ∀ other ∈ others, other.Lawful := fun _ => CodeNode.Lawful.withThisAll? hrest
    split at h
    · contradiction
    · rename_i first hreplaced _
      rw [← Option.some.inj h]
      exact List.forall_mem_cons.mpr ⟨hfirst first hreplaced, hrest⟩
    · rename_i others _ hreplaced
      rw [← Option.some.inj h]
      exact List.forall_mem_cons.mpr ⟨hnode, hothers others hreplaced⟩
    · rename_i first others hreplaced hreplacedAll
      rw [← Option.some.inj h]
      exact List.forall_mem_cons.mpr
        ⟨hfirst first hreplaced, hothers others hreplacedAll⟩

end

lemma Block.Lawful.withThis? {block : Block} (h : block.Lawful) :
    (block.withThis?.getD block).Lawful := by
  unfold Block.withThis?
  cases hchanged : CodeNode.withThisAll? false block.statements with
  | none => exact h
  | some statements => exact CodeNode.Lawful.withThisAll? h hchanged

open Outcome (Sound)

lemma Wrapper.isWorded_of_strip {code : List Char} {resultType : BaseType} {cause : Cause}
    (h : strip code resultType = .error cause) : cause.IsWorded := by
  unfold strip at h
  dsimp only at h
  split at h
  · split at h
    · contradiction
    · rw [← Except.error.inj h]
      trivial
  · split at h
    · contradiction
    · contradiction

/-- A script is read, or the problem with it is worded. -/
lemma Block.ofChars_sound (code : List Char) : (ofChars code).Sound Block.Lawful := by
  rcases ofChars_total code with ⟨block, hblock⟩ | ⟨line, column, offending, hproblem⟩
  · rw [hblock]
    exact lawful_of_parsed hblock
  · rw [hproblem]
    exact Sound.problem trivial

/-- The body of a method is made of leaves and inner nodes, or the problem with the code is worded.
-/
theorem Block.bodyOf_sound (code : String) (resultType : BaseType) :
    (bodyOf code resultType).Sound Block.Lawful := by
  unfold bodyOf
  split
  · rename_i cause hcause
    exact Sound.problem (Wrapper.isWorded_of_strip hcause)
  · exact Sound.map (ofChars_sound _) fun _ => Block.Lawful.withThis?

end EntityCompiler
