import EntityCompiler.Number.Basic
import EntityCompiler.Text.Quoted

/-!
# Values

The values a document is made of. The entries of an object are kept in the order in which they were
given. `Value.display` shows a value on one line, as messages do; `Value.plain` is the text of a
value, which differs from it only for texts.
-/

namespace EntityCompiler

/-- A value of a document. -/
inductive Value where
  | null
  | bool (value : Bool)
  | number (value : Number)
  | text (value : String)
  | list (items : List Value)
  | object (entries : List (String × Value))
deriving Inhabited

/-- The entries of an object. -/
abbrev Fields := List (String × Value)

namespace Fields

/-- The value under a key. -/
def get? (fields : Fields) (key : String) : Option Value :=
  (fields.find? (·.1 == key)).map (·.2)

/-- The value under a key, where `null` stands for an absent key. -/
def getD (fields : Fields) (key : String) : Value :=
  (fields.get? key).getD .null

/-- Gives a key its value; a key that is there keeps its place. -/
def put {α : Type} (entries : List (String × α)) (key : String) (value : α) : List (String × α) :=
  match entries with
  | [] => [(key, value)]
  | (k, v) :: rest => if k == key then (k, value) :: rest else (k, v) :: put rest key value

end Fields

namespace Value

/-- The name of the type of a value. -/
def typeName : Value → String
  | null => "NoneType"
  | bool _ => "bool"
  | number (.integer _) => "int"
  | number (.double _) => "float"
  | text _ => "str"
  | list _ => "list"
  | object _ => "dict"

/-- The spelling of a truth value. -/
def boolText (b : Bool) : String :=
  if b then "True" else "False"

mutual

/-- A value on one line. -/
def display : Value → String
  | null => "None"
  | bool b => boolText b
  | number n => n.text
  | text s => Text.quoted s
  | list items => "[" ++ ", ".intercalate (displayItems items) ++ "]"
  | object entries => "\x7b" ++ ", ".intercalate (displayEntries entries) ++ "\x7d"

/-- Each item of a list on one line. -/
def displayItems : List Value → List String
  | [] => []
  | v :: rest => v.display :: displayItems rest

/-- Each entry of an object on one line. -/
def displayEntries : List (String × Value) → List String
  | [] => []
  | (k, v) :: rest => (Text.quoted k ++ ": " ++ v.display) :: displayEntries rest

end

/-- The text of a value: a text itself, and any other value as it is displayed. -/
def plain : Value → String
  | text s => s
  | v => v.display

/-- The entries of an object. -/
def fields? : Value → Option Fields
  | object entries => some entries
  | _ => none

/-- The items of a list. -/
def items? : Value → Option (List Value)
  | list items => some items
  | _ => none

/-- The characters of a text. -/
def text? : Value → Option String
  | text s => some s
  | _ => none

end Value

end EntityCompiler
