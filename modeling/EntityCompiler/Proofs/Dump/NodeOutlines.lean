import EntityCompiler.Declaration.Class
import Mathlib.Data.List.Basic

/-!
# The outlines of nodes

Every node is shown with all its fields under the name of its class. So a node of a known kind can
be told by its outline: the fields are compared one by one, and the nodes in them in turn.
-/

namespace EntityCompiler

/-! ## Comments and code -/

lemma CodeComment.outline_injective : Function.Injective CodeComment.outline := by
  rintro ⟨text, gap⟩ ⟨text', gap'⟩ h
  simp [CodeComment.outline] at h
  simp [h]

lemma DocComment.outline_injective : Function.Injective DocComment.outline := by
  rintro ⟨text⟩ ⟨text'⟩ h
  simp [DocComment.outline] at h
  simp [h]

namespace Outline

lemma text_injective : Function.Injective text :=
  fun _ _ => text.inj

/-- An optional part that is never shown as nothing can be told by its outline. -/
lemma optional_injective {α : Type} {f : α → Outline} (hf : Function.Injective f)
    (habsent : ∀ x, f x ≠ absent) : Function.Injective (optional f) := by
  intro x y h
  cases x <;> cases y <;> simp [optional] at h
  · rfl
  · exact absurd h.symm (habsent _)
  · exact absurd h (habsent _)
  · rw [hf h]

lemma optional_text_injective : Function.Injective (optional text) :=
  optional_injective text_injective (by simp)

lemma optional_comment_injective : Function.Injective (optional DocComment.outline) :=
  optional_injective DocComment.outline_injective (by simp [DocComment.outline])

end Outline

open Outline (optional_text_injective optional_comment_injective)

mutual

/-- A node of a script can be told by its outline. -/
theorem CodeNode.eq_of_outline_eq : ∀ {node node' : CodeNode}, node.outline = node'.outline →
    node = node'
  | ⟨_, _, _, _, _, _, _⟩, ⟨_, _, _, _, _, _, _⟩, h => by
    simp only [CodeNode.outline, Outline.record.injEq, List.cons.injEq, Prod.mk.injEq, true_and,
      and_true, Outline.text.injEq, Outline.list.injEq] at h
    obtain ⟨rfl, htext, hchildren, hfield, rfl, hleading, htrailing⟩ := h
    rw [optional_text_injective htext, CodeNode.eq_of_outlines_eq hchildren,
      optional_text_injective hfield,
      List.map_injective_iff.mpr CodeComment.outline_injective hleading,
      List.map_injective_iff.mpr CodeComment.outline_injective htrailing]

/-- Nodes of a script can be told by their outlines. -/
theorem CodeNode.eq_of_outlines_eq : ∀ {nodes nodes' : List CodeNode},
    CodeNode.outlines nodes = CodeNode.outlines nodes' → nodes = nodes'
  | [], [], _ => rfl
  | node :: nodes, node' :: nodes', h => by
    simp only [CodeNode.outlines, List.cons.injEq] at h
    rw [CodeNode.eq_of_outline_eq h.1, CodeNode.eq_of_outlines_eq h.2]

end

lemma Block.outline_injective : Function.Injective Block.outline := by
  rintro ⟨statements, trailing⟩ ⟨statements', trailing'⟩ h
  simp only [Block.outline, Outline.record.injEq, List.cons.injEq, Prod.mk.injEq, true_and,
    and_true, Outline.list.injEq] at h
  rw [CodeNode.eq_of_outlines_eq h.1,
    List.map_injective_iff.mpr CodeComment.outline_injective h.2]

/-! ## Types -/

mutual

/-- A type can be told by its outline. -/
theorem TypeNode.eq_of_outline_eq : ∀ {type type' : TypeNode}, type.outline = type'.outline →
    type = type'
  | .reference name arguments, type', h => by
    cases type' with
    | reference name' arguments' =>
      simp [TypeNode.outline] at h
      rw [h.1, TypeNode.eq_of_outlines_eq h.2]
    | _ => simp [TypeNode.outline] at h
  | .keyword keyword, type', h => by
    cases type' with
    | keyword keyword' =>
      cases keyword <;> cases keyword' <;>
        simp [TypeNode.outline, TypeKeyword.outline, TypeKeyword.constant] at h ⊢
    | _ => simp [TypeNode.outline] at h
  | .literal members, type', h => by
    cases type' with
    | literal members' =>
      simp [TypeNode.outline] at h
      rw [PropertySignature.eq_of_outlines_eq h]
    | _ => simp [TypeNode.outline] at h

/-- Types can be told by their outlines. -/
theorem TypeNode.eq_of_outlines_eq : ∀ {types types' : List TypeNode},
    TypeNode.outlines types = TypeNode.outlines types' → types = types'
  | [], [], _ => rfl
  | type :: types, type' :: types', h => by
    simp only [TypeNode.outlines, List.cons.injEq] at h
    rw [TypeNode.eq_of_outline_eq h.1, TypeNode.eq_of_outlines_eq h.2]

/-- A member of an object type can be told by its outline. -/
theorem PropertySignature.eq_of_outline_eq : ∀ {member member' : PropertySignature},
    member.outline = member'.outline → member = member'
  | .mk name type isOptional, .mk name' type' isOptional', h => by
    simp [PropertySignature.outline] at h
    rw [h.1, TypeNode.eq_of_outline_eq h.2.1, h.2.2]

/-- Members of object types can be told by their outlines. -/
theorem PropertySignature.eq_of_outlines_eq : ∀ {members members' : List PropertySignature},
    PropertySignature.outlines members = PropertySignature.outlines members' → members = members'
  | [], [], _ => rfl
  | member :: members, member' :: members', h => by
    simp only [PropertySignature.outlines, List.cons.injEq] at h
    rw [PropertySignature.eq_of_outline_eq h.1, PropertySignature.eq_of_outlines_eq h.2]

end

/-! ## Expressions -/

lemma Expression.outline_ne_absent (expression : Expression) : expression.outline ≠ .absent := by
  cases expression <;> simp [Expression.outline]

mutual

/-- An expression can be told by its outline. -/
theorem Expression.eq_of_outline_eq : ∀ {expression expression' : Expression},
    expression.outline = expression'.outline → expression = expression'
  | .name _, expression', h => by cases expression' <;> simp_all [Expression.outline]
  | .string _, expression', h => by cases expression' <;> simp_all [Expression.outline]
  | .number _, expression', h => by cases expression' <;> simp_all [Expression.outline]
  | .boolean _, expression', h => by cases expression' <;> simp_all [Expression.outline]
  | .null, expression', h => by cases expression' <;> simp_all [Expression.outline]
  | .access object property, expression', h => by
    cases expression' with
    | access object' property' =>
      simp [Expression.outline] at h
      rw [Expression.eq_of_outline_eq h.1, h.2]
    | _ => simp [Expression.outline] at h
  | .call callee arguments, expression', h => by
    cases expression' with
    | call callee' arguments' =>
      simp [Expression.outline] at h
      rw [Expression.eq_of_outline_eq h.1, Expression.eq_of_outlines_eq h.2]
    | _ => simp [Expression.outline] at h
  | .object properties, expression', h => by
    cases expression' with
    | object properties' =>
      simp [Expression.outline] at h
      rw [PropertyAssignment.eq_of_outlines_eq h]
    | _ => simp [Expression.outline] at h
  | .array elements, expression', h => by
    cases expression' with
    | array elements' =>
      simp [Expression.outline] at h
      rw [Expression.eq_of_outlines_eq h]
    | _ => simp [Expression.outline] at h
  | .classOf members, expression', h => by
    cases expression' with
    | classOf members' =>
      simp [Expression.outline] at h
      rw [PropertyDeclaration.eq_of_outlines_eq h]
    | _ => simp [Expression.outline] at h

/-- Expressions can be told by their outlines. -/
theorem Expression.eq_of_outlines_eq : ∀ {expressions expressions' : List Expression},
    Expression.outlines expressions = Expression.outlines expressions' → expressions = expressions'
  | [], [], _ => rfl
  | expression :: expressions, expression' :: expressions', h => by
    simp only [Expression.outlines, List.cons.injEq] at h
    rw [Expression.eq_of_outline_eq h.1, Expression.eq_of_outlines_eq h.2]

/-- An optional expression can be told by its outline. -/
theorem Expression.eq_of_outline?_eq : ∀ {expression expression' : Option Expression},
    Expression.outline? expression = Expression.outline? expression' → expression = expression'
  | none, none, _ => rfl
  | none, some expression', h => absurd h.symm expression'.outline_ne_absent
  | some expression, none, h => absurd h expression.outline_ne_absent
  | some expression, some expression', h => by
    have heq : expression.outline = expression'.outline := h
    rw [Expression.eq_of_outline_eq heq]

/-- A property of an object can be told by its outline. -/
theorem PropertyAssignment.eq_of_outline_eq : ∀ {property property' : PropertyAssignment},
    property.outline = property'.outline → property = property'
  | .mk name value, .mk name' value', h => by
    simp [PropertyAssignment.outline] at h
    rw [h.1, Expression.eq_of_outline_eq h.2]

/-- Properties of objects can be told by their outlines. -/
theorem PropertyAssignment.eq_of_outlines_eq : ∀ {properties properties' : List PropertyAssignment},
    PropertyAssignment.outlines properties = PropertyAssignment.outlines properties' →
      properties = properties'
  | [], [], _ => rfl
  | property :: properties, property' :: properties', h => by
    simp only [PropertyAssignment.outlines, List.cons.injEq] at h
    rw [PropertyAssignment.eq_of_outline_eq h.1, PropertyAssignment.eq_of_outlines_eq h.2]

/-- A decorator can be told by its outline. -/
theorem Decorator.eq_of_outline_eq : ∀ {decorator decorator' : Decorator},
    decorator.outline = decorator'.outline → decorator = decorator'
  | .mk expression, .mk expression', h => by
    simp [Decorator.outline] at h
    rw [Expression.eq_of_outline_eq h]

/-- Decorators can be told by their outlines. -/
theorem Decorator.eq_of_outlines_eq : ∀ {decorators decorators' : List Decorator},
    Decorator.outlines decorators = Decorator.outlines decorators' → decorators = decorators'
  | [], [], _ => rfl
  | decorator :: decorators, decorator' :: decorators', h => by
    simp only [Decorator.outlines, List.cons.injEq] at h
    rw [Decorator.eq_of_outline_eq h.1, Decorator.eq_of_outlines_eq h.2]

/-- A property of a class can be told by its outline. -/
theorem PropertyDeclaration.eq_of_outline_eq : ∀ {property property' : PropertyDeclaration},
    property.outline = property'.outline → property = property'
  | .mk _ _ _ _ _ _ _, .mk _ _ _ _ _ _ _, h => by
    simp only [PropertyDeclaration.outline, Outline.record.injEq, List.cons.injEq, Prod.mk.injEq,
      true_and, and_true, Outline.text.injEq, Outline.list.injEq, Outline.bool.injEq] at h
    obtain ⟨rfl, htype, hdecorators, rfl, rfl, hinitializer, hcomment⟩ := h
    rw [TypeNode.eq_of_outline_eq htype, Decorator.eq_of_outlines_eq hdecorators,
      Expression.eq_of_outline?_eq hinitializer, optional_comment_injective hcomment]

/-- Properties of classes can be told by their outlines. -/
theorem PropertyDeclaration.eq_of_outlines_eq :
    ∀ {properties properties' : List PropertyDeclaration},
      PropertyDeclaration.outlines properties = PropertyDeclaration.outlines properties' →
        properties = properties'
  | [], [], _ => rfl
  | property :: properties, property' :: properties', h => by
    simp only [PropertyDeclaration.outlines, List.cons.injEq] at h
    rw [PropertyDeclaration.eq_of_outline_eq h.1, PropertyDeclaration.eq_of_outlines_eq h.2]

end

/-! ## Classes -/

lemma BindingElement.outline_injective : Function.Injective BindingElement.outline := by
  rintro ⟨name, initializer⟩ ⟨name', initializer'⟩ h
  simp [BindingElement.outline] at h
  rw [h.1, Expression.eq_of_outline?_eq h.2]

lemma BindingElement.patternOutline_injective :
    Function.Injective BindingElement.patternOutline := by
  intro elements elements' h
  simp only [BindingElement.patternOutline, Outline.record.injEq, List.cons.injEq, Prod.mk.injEq,
    true_and, and_true, Outline.list.injEq] at h
  exact List.map_injective_iff.mpr BindingElement.outline_injective h

lemma ParameterName.outline_injective : Function.Injective ParameterName.outline := by
  intro name name' h
  cases name with
  | plain text =>
    cases name' with
    | plain text' => rw [Outline.text_injective h]
    | object elements' => simp [ParameterName.outline, BindingElement.patternOutline] at h
  | object elements =>
    cases name' with
    | plain text' => simp [ParameterName.outline, BindingElement.patternOutline] at h
    | object elements' => rw [BindingElement.patternOutline_injective h]

lemma Parameter.outline_injective : Function.Injective Parameter.outline := by
  rintro ⟨name, type⟩ ⟨name', type'⟩ h
  simp [Parameter.outline] at h
  rw [ParameterName.outline_injective h.1, TypeNode.eq_of_outline_eq h.2]

lemma MethodDeclaration.outline_injective : Function.Injective MethodDeclaration.outline := by
  rintro ⟨_, _, _, _, _, _, _⟩ ⟨_, _, _, _, _, _, _⟩ h
  simp only [MethodDeclaration.outline, Outline.record.injEq, List.cons.injEq, Prod.mk.injEq,
    true_and, and_true, Outline.text.injEq, Outline.list.injEq, Outline.bool.injEq] at h
  obtain ⟨rfl, hparameters, htype, hbody, hdecorators, rfl, hcomment⟩ := h
  rw [List.map_injective_iff.mpr Parameter.outline_injective hparameters,
    TypeNode.eq_of_outline_eq htype, Block.outline_injective hbody,
    Decorator.eq_of_outlines_eq hdecorators, optional_comment_injective hcomment]

lemma Member.outline_injective : Function.Injective Member.outline := by
  intro member member' h
  cases member with
  | property declaration =>
    cases member' with
    | property declaration' => rw [PropertyDeclaration.eq_of_outline_eq h]
    | method declaration' =>
      cases declaration
      simp [Member.outline, PropertyDeclaration.outline, MethodDeclaration.outline] at h
  | method declaration =>
    cases member' with
    | property declaration' =>
      cases declaration'
      simp [Member.outline, PropertyDeclaration.outline, MethodDeclaration.outline] at h
    | method declaration' => rw [MethodDeclaration.outline_injective h]

lemma ClassDeclaration.outline_injective : Function.Injective ClassDeclaration.outline := by
  rintro ⟨_, _, _, _, _⟩ ⟨_, _, _, _, _⟩ h
  simp only [ClassDeclaration.outline, Outline.record.injEq, List.cons.injEq, Prod.mk.injEq,
    true_and, and_true, Outline.text.injEq, Outline.list.injEq] at h
  obtain ⟨rfl, hmembers, hdecorators, hbase, hcomment⟩ := h
  rw [List.map_injective_iff.mpr Member.outline_injective hmembers,
    Decorator.eq_of_outlines_eq hdecorators, Expression.eq_of_outline?_eq hbase,
    optional_comment_injective hcomment]

end EntityCompiler
