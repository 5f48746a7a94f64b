import EntityCompiler.Contract
import EntityCompiler.Entity.BaseType

/-!
# Parts of documents

Documents are loosely typed: a flag may be a truth value or a word, a number may be a text, and
`null` and the empty text stand for what is absent. The functions here read one part of an object
each.
-/

namespace EntityCompiler.Document

/-- The part under a key as a flag. -/
def flag (raw : Fields) (key : String) : Bool :=
  match raw.getD key with
  | .bool b => b
  | .text s => String.ofList (s.toList.map Char.toLower) == "true"
  | _ => false

/-- The part under a key as a text. -/
def text? (raw : Fields) (key : String) : Option String :=
  match raw.getD key with
  | .null => none
  | v => if v.plain.isEmpty then none else some v.plain

/-- The part under a key, which must be an object if it is there. -/
def fields (raw : Fields) (key : String) (location : Option String) : Outcome Fields :=
  match raw.getD key with
  | .null => .ok []
  | .object entries => .ok entries
  | v => Outcome.problem (below location [key]) (.notAnObject v)

/-- The part under a key, which must be a list if it is there. -/
def items (raw : Fields) (key : String) (location : Option String) : Outcome (List Value) :=
  match raw.getD key with
  | .null => .ok []
  | .list items => .ok items
  | v => Outcome.problem (below location [key]) (.notAList v)

/-- The number that a value gives, as it is or as a text. -/
def numberOf? : Value → Option Number
  | .number n => some n
  | .text s => Number.ofText? s
  | _ => none

/-- The part under a key, which must be a finite number if it is there. -/
def number? (raw : Fields) (key : String) (location : Option String) : Outcome (Option Number) :=
  match raw.getD key with
  | .null => .ok none
  | .text "" => .ok none
  | v =>
    match (numberOf? v).filter Number.isFinite with
    | some n => .ok (some n)
    | none => Outcome.problem (below location [key]) (.notAFiniteNumber v)

/-- The base type of a field. -/
def baseType (raw : Fields) (location : Option String) : Outcome BaseType :=
  let v := raw.getD "baseType"
  match v.text?.bind BaseType.ofName? with
  | some type => .ok type
  | none => Outcome.problem (below location ["baseType"]) (.unknownBaseType v)

/-- Goes on if a name can be the name of a member. -/
def checkName (name location : String) : Outcome Unit :=
  if name.isEmpty then Outcome.problem location (.emptyName name) else .ok ()

/-- The entries of a value that must be an object for a definition to be read. -/
def definition (raw : Value) (location : String) : Outcome Fields :=
  match raw with
  | .object entries => .ok entries
  | v => Outcome.problem location (.definitionNotAnObject v)

/-- What `read` makes of each part of an object, with the problems of all of them. Each part must
have the name of a member. -/
def named {α : Type} (raw : Fields) (location : String)
    (read : String → Value → String → Outcome α) :
    Outcome (List α × List Problem) :=
  Outcome.gather (fun (name, part) => do
    checkName name location
    read name part (below location [name])) raw

/-- What `read` makes of each part of the object under a key, with all problems met; there are no
parts if there is no object. -/
def members {α : Type} (raw : Fields) (key : String) (location : Option String)
    (read : String → Value → String → Outcome α) : Outcome (List α × List Problem) := do
  let (found, problems) ← Outcome.collected (fields raw key location)
  let (all, others) ← named (found.getD []) (below location [key]) read
  return (all, problems ++ others)

end EntityCompiler.Document
