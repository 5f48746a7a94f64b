import EntityCompiler.Declaration.Node
import EntityCompiler.Proofs.Dump.NodeOutlines
import EntityCompiler.Proofs.Dump.Outlines

/-!
# The dump of a node identifies it

All names of classes and fields are words, so an outline of a node can be told by its text if its
own texts hold no line feed and its numbers are finite, and the node can be told by its outline and
by the name of its class. Two such nodes that are dumped alike are the same.
-/

namespace EntityCompiler

open Outline (WellNamed Plain)

/-! ## The names in outlines of nodes -/

namespace Outline

attribute [simp] WellNamed.absent WellNamed.bool WellNamed.number WellNamed.text

@[simp]
lemma wellNamed_nil : WellNamed (list []) :=
  .list (by simp)

@[simp]
lemma wellNamed_cons {o : Outline} {items : List Outline} :
    WellNamed (list (o :: items)) ↔ WellNamed o ∧ WellNamed (list items) := by
  constructor
  · rintro ⟨⟩
    next h => exact ⟨h o List.mem_cons_self, .list fun o ho => h o (List.mem_cons_of_mem _ ho)⟩
  · rintro ⟨ho, ⟨⟩⟩
    next h => exact .list (List.forall_mem_cons.mpr ⟨ho, h⟩)

lemma wellNamed_map {α : Type} {f : α → Outline} (hf : ∀ x, WellNamed (f x)) (xs : List α) :
    WellNamed (list (xs.map f)) :=
  .list (by simpa using fun x _ => hf x)

lemma wellNamed_optional {α : Type} {f : α → Outline} (hf : ∀ x, WellNamed (f x)) (x : Option α) :
    WellNamed (optional f x) := by
  cases x with
  | none => exact .absent
  | some x => exact hf x

@[simp]
lemma wellNamed_optional_text (s : Option String) : WellNamed (optional text s) :=
  wellNamed_optional .text s

end Outline

open Outline (wellNamed_map wellNamed_optional)

lemma CodeComment.wellNamed_outline (comment : CodeComment) : WellNamed comment.outline :=
  .record (by decide) (by simp only [List.forall_mem_cons]; decide) (by simp)

@[simp]
lemma CodeComment.wellNamed_outlines (comments : List CodeComment) :
    WellNamed (.list (comments.map CodeComment.outline)) :=
  wellNamed_map CodeComment.wellNamed_outline comments

lemma DocComment.wellNamed_outline (comment : DocComment) : WellNamed comment.outline :=
  .record (by decide) (by simp only [List.forall_mem_cons]; decide) (by simp)

@[simp]
lemma DocComment.wellNamed_outline? (comment : Option DocComment) :
    WellNamed (.optional DocComment.outline comment) :=
  wellNamed_optional DocComment.wellNamed_outline comment

mutual

lemma CodeNode.wellNamed_outline : ∀ node : CodeNode, WellNamed node.outline
  | ⟨_, _, children, _, _, _, _⟩ =>
    .record (by decide) (by simp only [List.forall_mem_cons]; decide)
      (by simp [CodeNode.wellNamed_outlines children])

lemma CodeNode.wellNamed_outlines : ∀ nodes : List CodeNode,
    WellNamed (.list (CodeNode.outlines nodes))
  | [] => by simp [CodeNode.outlines]
  | node :: nodes => by
    simp [CodeNode.outlines, CodeNode.wellNamed_outline node, CodeNode.wellNamed_outlines nodes]

end

lemma Block.wellNamed_outline (block : Block) : WellNamed block.outline :=
  .record (by decide) (by simp only [List.forall_mem_cons]; decide)
    (by simp [CodeNode.wellNamed_outlines block.statements])

mutual

lemma TypeNode.wellNamed_outline : ∀ type : TypeNode, WellNamed type.outline
  | .reference _ arguments =>
    .record (by decide) (by simp only [List.forall_mem_cons]; decide)
      (by simp [TypeNode.wellNamed_outlines arguments])
  | .keyword keyword =>
    .record (by decide) (by simp only [List.forall_mem_cons]; decide)
      (by cases keyword <;> simp [TypeKeyword.outline] <;> exact .constant (by decide) (by decide))
  | .literal members =>
    .record (by decide) (by simp only [List.forall_mem_cons]; decide)
      (by simp [PropertySignature.wellNamed_outlines members])

lemma TypeNode.wellNamed_outlines : ∀ types : List TypeNode,
    WellNamed (.list (TypeNode.outlines types))
  | [] => by simp [TypeNode.outlines]
  | type :: types => by
    simp [TypeNode.outlines, TypeNode.wellNamed_outline type, TypeNode.wellNamed_outlines types]

lemma PropertySignature.wellNamed_outline : ∀ member : PropertySignature, WellNamed member.outline
  | .mk _ type _ =>
    .record (by decide) (by simp only [List.forall_mem_cons]; decide)
      (by simp [TypeNode.wellNamed_outline type])

lemma PropertySignature.wellNamed_outlines : ∀ members : List PropertySignature,
    WellNamed (.list (PropertySignature.outlines members))
  | [] => by simp [PropertySignature.outlines]
  | member :: members => by
    simp [PropertySignature.outlines, PropertySignature.wellNamed_outline member,
      PropertySignature.wellNamed_outlines members]

end

mutual

lemma Expression.wellNamed_outline : ∀ expression : Expression, WellNamed expression.outline
  | .name _ | .string _ | .number _ | .boolean _ =>
    .record (by decide) (by simp only [List.forall_mem_cons]; decide) (by simp)
  | .null => .record (by decide) (by simp) (by simp)
  | .access object _ =>
    .record (by decide) (by simp only [List.forall_mem_cons]; decide)
      (by simp [Expression.wellNamed_outline object])
  | .call callee arguments =>
    .record (by decide) (by simp only [List.forall_mem_cons]; decide)
      (by simp [Expression.wellNamed_outline callee, Expression.wellNamed_outlines arguments])
  | .object properties =>
    .record (by decide) (by simp only [List.forall_mem_cons]; decide)
      (by simp [PropertyAssignment.wellNamed_outlines properties])
  | .array elements =>
    .record (by decide) (by simp only [List.forall_mem_cons]; decide)
      (by simp [Expression.wellNamed_outlines elements])
  | .classOf members =>
    .record (by decide) (by simp only [List.forall_mem_cons]; decide)
      (by simp [PropertyDeclaration.wellNamed_outlines members])

lemma Expression.wellNamed_outlines : ∀ expressions : List Expression,
    WellNamed (.list (Expression.outlines expressions))
  | [] => by simp [Expression.outlines]
  | expression :: expressions => by
    simp [Expression.outlines, Expression.wellNamed_outline expression,
      Expression.wellNamed_outlines expressions]

lemma Expression.wellNamed_outline? : ∀ expression : Option Expression,
    WellNamed (Expression.outline? expression)
  | none => .absent
  | some expression => Expression.wellNamed_outline expression

lemma PropertyAssignment.wellNamed_outline : ∀ property : PropertyAssignment,
    WellNamed property.outline
  | .mk _ value =>
    .record (by decide) (by simp only [List.forall_mem_cons]; decide)
      (by simp [Expression.wellNamed_outline value])

lemma PropertyAssignment.wellNamed_outlines : ∀ properties : List PropertyAssignment,
    WellNamed (.list (PropertyAssignment.outlines properties))
  | [] => by simp [PropertyAssignment.outlines]
  | property :: properties => by
    simp [PropertyAssignment.outlines, PropertyAssignment.wellNamed_outline property,
      PropertyAssignment.wellNamed_outlines properties]

lemma Decorator.wellNamed_outline : ∀ decorator : Decorator, WellNamed decorator.outline
  | .mk expression =>
    .record (by decide) (by simp only [List.forall_mem_cons]; decide)
      (by simp [Expression.wellNamed_outline expression])

lemma Decorator.wellNamed_outlines : ∀ decorators : List Decorator,
    WellNamed (.list (Decorator.outlines decorators))
  | [] => by simp [Decorator.outlines]
  | decorator :: decorators => by
    simp [Decorator.outlines, Decorator.wellNamed_outline decorator,
      Decorator.wellNamed_outlines decorators]

lemma PropertyDeclaration.wellNamed_outline : ∀ property : PropertyDeclaration,
    WellNamed property.outline
  | .mk _ type decorators _ _ initializer _ =>
    .record (by decide) (by simp only [List.forall_mem_cons]; decide)
      (by simp [type.wellNamed_outline, Decorator.wellNamed_outlines decorators,
        Expression.wellNamed_outline? initializer])

lemma PropertyDeclaration.wellNamed_outlines : ∀ properties : List PropertyDeclaration,
    WellNamed (.list (PropertyDeclaration.outlines properties))
  | [] => by simp [PropertyDeclaration.outlines]
  | property :: properties => by
    simp [PropertyDeclaration.outlines, PropertyDeclaration.wellNamed_outline property,
      PropertyDeclaration.wellNamed_outlines properties]

end

lemma BindingElement.wellNamed_outline (element : BindingElement) : WellNamed element.outline :=
  .record (by decide) (by simp only [List.forall_mem_cons]; decide)
    (by simp [Expression.wellNamed_outline? element.initializer])

lemma BindingElement.wellNamed_patternOutline (elements : List BindingElement) :
    WellNamed (BindingElement.patternOutline elements) :=
  .record (by decide) (by simp only [List.forall_mem_cons]; decide)
    (by simp [wellNamed_map BindingElement.wellNamed_outline elements])

lemma ParameterName.wellNamed_outline : ∀ name : ParameterName, WellNamed name.outline
  | .plain name => .text name
  | .object elements => BindingElement.wellNamed_patternOutline elements

lemma Parameter.wellNamed_outline (parameter : Parameter) : WellNamed parameter.outline :=
  .record (by decide) (by simp only [List.forall_mem_cons]; decide)
    (by simp [parameter.name.wellNamed_outline, parameter.type.wellNamed_outline])

lemma MethodDeclaration.wellNamed_outline (method : MethodDeclaration) :
    WellNamed method.outline :=
  .record (by decide) (by simp only [List.forall_mem_cons]; decide)
    (by simp [wellNamed_map Parameter.wellNamed_outline method.parameters,
      method.returnType.wellNamed_outline, method.body.wellNamed_outline,
      Decorator.wellNamed_outlines method.decorators])

lemma Member.wellNamed_outline : ∀ member : Member, WellNamed member.outline
  | .property declaration => declaration.wellNamed_outline
  | .method declaration => declaration.wellNamed_outline

lemma ClassDeclaration.wellNamed_outline (declaration : ClassDeclaration) :
    WellNamed declaration.outline :=
  .record (by decide) (by simp only [List.forall_mem_cons]; decide)
    (by simp [wellNamed_map Member.wellNamed_outline declaration.members,
      Decorator.wellNamed_outlines declaration.decorators,
      Expression.wellNamed_outline? declaration.base])

/-! ## Nodes of all classes -/

namespace Node

lemma wellNamed_outline : ∀ node : Node, WellNamed node.outline
  | expression e => e.wellNamed_outline
  | propertyAssignment assignment => assignment.wellNamed_outline
  | type t => t.wellNamed_outline
  | propertySignature signature => signature.wellNamed_outline
  | codeComment comment => comment.wellNamed_outline
  | codeNode node => node.wellNamed_outline
  | block b => b.wellNamed_outline
  | docComment comment => comment.wellNamed_outline
  | decorator d => d.wellNamed_outline
  | propertyDeclaration declaration => declaration.wellNamed_outline
  | bindingElement element => element.wellNamed_outline
  | objectBindingPattern elements => BindingElement.wellNamed_patternOutline elements
  | parameter p => p.wellNamed_outline
  | methodDeclaration declaration => declaration.wellNamed_outline
  | classDeclaration declaration => declaration.wellNamed_outline

/-- The names of the classes of nodes; those of one kind stand together. -/
def classNames : List (List String) :=
  [["Name", "StringLiteral", "NumericLiteral", "BooleanLiteral", "NullLiteral", "PropertyAccess",
    "Call", "ObjectLiteral", "ArrayLiteral", "ClassExpression"],
   ["PropertyAssignment"], ["TypeReference", "KeywordType", "TypeLiteral"], ["PropertySignature"],
   ["CodeComment"], ["CodeNode"], ["Block"], ["DocComment"], ["Decorator"], ["PropertyDeclaration"],
   ["BindingElement"], ["ObjectBindingPattern"], ["Parameter"], ["MethodDeclaration"],
   ["ClassDeclaration"]]

/-- The place of the kind of a node in `classNames`. -/
def kind : Node → Nat
  | expression _ => 0
  | propertyAssignment _ => 1
  | type _ => 2
  | propertySignature _ => 3
  | codeComment _ => 4
  | codeNode _ => 5
  | block _ => 6
  | docComment _ => 7
  | decorator _ => 8
  | propertyDeclaration _ => 9
  | bindingElement _ => 10
  | objectBindingPattern _ => 11
  | parameter _ => 12
  | methodDeclaration _ => 13
  | classDeclaration _ => 14

/-- The kind of the nodes that have the name of a record for their class. -/
def kindOf : Outline → Nat
  | .record name _ => classNames.findIdx (·.contains name)
  | _ => classNames.length

/-- The kind of a node shows in its outline. -/
lemma kindOf_outline (node : Node) : kindOf node.outline = node.kind := by
  cases node with
  | expression e => cases e <;> rfl
  | propertyAssignment assignment => cases assignment; rfl
  | type t => cases t <;> rfl
  | propertySignature signature => cases signature; rfl
  | codeNode node => cases node; rfl
  | decorator d => cases d; rfl
  | propertyDeclaration declaration => cases declaration; rfl
  | _ => rfl

/-- A node can be told by its outline. -/
theorem outline_injective : Function.Injective outline := by
  intro node node' h
  have hkind : node.kind = node'.kind := by rw [← kindOf_outline, h, kindOf_outline]
  -- only the pairs of nodes of one kind are left
  cases node <;> cases node' <;> try cases hkind
  case expression.expression => rw [Expression.eq_of_outline_eq h]
  case propertyAssignment.propertyAssignment => rw [PropertyAssignment.eq_of_outline_eq h]
  case type.type => rw [TypeNode.eq_of_outline_eq h]
  case propertySignature.propertySignature => rw [PropertySignature.eq_of_outline_eq h]
  case codeComment.codeComment => rw [CodeComment.outline_injective h]
  case codeNode.codeNode => rw [CodeNode.eq_of_outline_eq h]
  case block.block => rw [Block.outline_injective h]
  case docComment.docComment => rw [DocComment.outline_injective h]
  case decorator.decorator => rw [Decorator.eq_of_outline_eq h]
  case propertyDeclaration.propertyDeclaration => rw [PropertyDeclaration.eq_of_outline_eq h]
  case bindingElement.bindingElement => rw [BindingElement.outline_injective h]
  case objectBindingPattern.objectBindingPattern => rw [BindingElement.patternOutline_injective h]
  case parameter.parameter => rw [Parameter.outline_injective h]
  case methodDeclaration.methodDeclaration => rw [MethodDeclaration.outline_injective h]
  case classDeclaration.classDeclaration => rw [ClassDeclaration.outline_injective h]

/-- Two nodes that are dumped alike are the same, class by class and field by field, if no text in
them holds a line feed and all numbers in them are finite. -/
theorem eq_of_dump_eq {node node' : Node} (hplain : Plain node.outline)
    (hplain' : Plain node'.outline) (h : node.dump = node'.dump) : node = node' :=
  outline_injective
    (Outline.eq_of_same_dump node.wellNamed_outline hplain node'.wellNamed_outline hplain' h)

/-- The decorator of a value between an integer and a double. -/
def limits : Decorator :=
  .ofName "limits" [.number (.integer 1), .number (.double (.ofDecimal false 25 (-1)))]

lemma plain_limits : Plain (decorator limits).outline := by
  have hdouble : (Double.ofDecimal false 25 (-1)).isFinite = true := by decide +kernel
  simp [outline, limits, Decorator.ofName, Decorator.outline, Expression.outline,
    Expression.outlines, Number.isFinite, hdouble]

/-- The dump of a decorator that was written out is that of the decorator with its name and
arguments. -/
theorem limits_of_dump :
    Plain (decorator limits).outline ∧
      (decorator limits).dump
        = (decorator (.mk (.call (.name limits.name) limits.arguments))).dump ∧
      decorator limits = decorator (.mk (.call (.name limits.name) limits.arguments)) :=
  ⟨plain_limits, rfl, eq_of_dump_eq plain_limits plain_limits rfl⟩

example : (expression (.array [.null, .string "it\x27s"])).dump
    = "ArrayLiteral(\n  elements=[\n    NullLiteral(),\n    StringLiteral(\n"
      ++ "      value=\x22it\x27s\x22)])" := by
  decide +kernel

end Node

end EntityCompiler
