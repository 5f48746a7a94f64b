import EntityCompiler.Declaration.Expression

/-!
# Literals

The expressions that stand for values: `literal` for the primitive ones, `jsonLiteral` for all. A
number that is not finite has no literal.
-/

namespace EntityCompiler.Expression

/-- The literal of a truth value, a number or a text. -/
def literal : Value → Outcome Expression
  | .bool b => .ok (boolean b)
  | .number n =>
    if n.isFinite then .ok (number n) else Outcome.problem none (.nonFiniteLiteral n)
  | .text s => .ok (string s)
  | v => Outcome.problem none (.notALiteral v)

mutual

/-- The literal of any value. -/
def jsonLiteral : Value → Outcome Expression
  | .null => .ok null
  | .object entries => (entryLiterals entries).map object
  | .list items => (itemLiterals 0 items).map array
  | v => literal v

/-- The literals of the entries of an object. -/
def entryLiterals : List (String × Value) → Outcome (List PropertyAssignment)
  | [] => .ok []
  | (key, v) :: rest => do
    let first ← Outcome.within none (.entryLiteral key) (jsonLiteral v)
    let others ← entryLiterals rest
    return ⟨key, first⟩ :: others

/-- The literals of the items of a list, the first of which has the given index. -/
def itemLiterals (index : Nat) : List Value → Outcome (List Expression)
  | [] => .ok []
  | v :: rest => do
    let first ← Outcome.within none (.itemLiteral index) (jsonLiteral v)
    let others ← itemLiterals (index + 1) rest
    return first :: others

end

end EntityCompiler.Expression
