import EntityCompiler.Outline

/-!
# Types of declared members

The types that members of a declared class are annotated with.
-/

namespace EntityCompiler

/-- The types that have a keyword of their own. -/
inductive TypeKeyword where
  | any
  | void
deriving DecidableEq, Inhabited

/-- The word for a keyword in dumps. -/
def TypeKeyword.constant : TypeKeyword → String
  | any => "ANY"
  | void => "VOID"

/-- All keywords. -/
def TypeKeyword.all : List TypeKeyword := [any, void]

/-- The outline of a keyword. -/
def TypeKeyword.outline (keyword : TypeKeyword) : Outline :=
  .constant "Keyword" keyword.constant

mutual

/-- A type: a named one with its arguments, a keyword, or an object type with its members. -/
inductive TypeNode where
  | reference (name : String) (arguments : List TypeNode)
  | keyword (keyword : TypeKeyword)
  | literal (members : List PropertySignature)

/-- A member of an object type. -/
inductive PropertySignature where
  | mk (name : String) (type : TypeNode) (isOptional : Bool)

end

instance : Inhabited TypeNode := ⟨.keyword .any⟩

mutual

/-- The outline of a type. -/
def TypeNode.outline : TypeNode → Outline
  | .reference name arguments =>
    .record "TypeReference" [("name", .text name),
      ("type_arguments", .list (TypeNode.outlines arguments))]
  | .keyword keyword => .record "KeywordType" [("keyword", keyword.outline)]
  | .literal members =>
    .record "TypeLiteral" [("members", .list (PropertySignature.outlines members))]

/-- The outlines of some types. -/
def TypeNode.outlines : List TypeNode → List Outline
  | [] => []
  | type :: rest => type.outline :: TypeNode.outlines rest

/-- The outline of a member of an object type. -/
def PropertySignature.outline : PropertySignature → Outline
  | .mk name type isOptional =>
    .record "PropertySignature" [("name", .text name), ("type_node", type.outline),
      ("is_optional", .bool isOptional)]

/-- The outlines of some members of an object type. -/
def PropertySignature.outlines : List PropertySignature → List Outline
  | [] => []
  | member :: rest => member.outline :: PropertySignature.outlines rest

end

end EntityCompiler
