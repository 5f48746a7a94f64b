import EntityCompiler.Value.Basic
import EntityCompiler.Text.Lines
import EntityCompiler.Text.Basic

/-!
# Outlines

The readable form in which entities, declarations and code are dumped. A composite puts each of its
parts on lines of its own, indented by two spaces. A text of several lines is shown line by line
between triple quotes, unless it holds a carriage return or three double quotes.
-/

namespace EntityCompiler

/-- What is shown of a thing. -/
inductive Outline where
  /-- Nothing. -/
  | absent
  | bool (value : Bool)
  | number (value : Number)
  | text (value : String)
  /-- A member of an enumeration. -/
  | constant (type member : String)
  | list (items : List Outline)
  | mapping (entries : List (String × Outline))
  /-- A thing with named properties. -/
  | record (name : String) (properties : List (String × Outline))
  /-- A property standing on its own. -/
  | property (name : String) (value : Outline)
deriving Inhabited

namespace Outline

/-- The margin of a nested part. -/
def margin : List Char := [' ', ' ']

/-- Does the text break a line with a line feed, and can it stand between triple quotes? -/
def isBlockText (cs : List Char) : Bool :=
  cs.contains '\n' && !cs.contains '\r' && !Text.occurs "\"\"\"".toList cs

/-- The lines of a text between triple quotes, with every backslash doubled. -/
def blockText (cs : List Char) : List Char :=
  let doubled := cs.flatMap fun c => if c == '\x5c' then [c, c] else [c]
  "textwrap.dedent(\"\"\"\\\n".toList
    ++ Text.joined ['\n'] ((Text.lines doubled).map fun l => margin ++ l.content)
    ++ "\"\"\")".toList

/-- A text as an outline shows it. -/
def renderText (s : String) : List Char :=
  let cs := s.toList
  if isBlockText cs then blockText cs else Text.quotedChars cs

/-- Parts on lines of their own between two brackets. -/
def enclosed (opening closing : Char) (parts : List (List Char)) : List Char :=
  match parts with
  | [] => [opening, closing]
  | _ => opening :: '\n' :: Text.joined [',', '\n'] parts ++ [closing]

mutual

/-- An outline as text. -/
def render : Outline → List Char
  | absent => "None".toList
  | bool b => (Value.boolText b).toList
  | number n => n.text.toList
  | text s => renderText s
  | constant type member => (type ++ "." ++ member).toList
  | list items => enclosed '[' ']' (renderItems items)
  | mapping entries => enclosed '\x7b' '\x7d' (renderEntries entries)
  | record name properties => name.toList ++ enclosed '(' ')' (renderProperties properties)
  | property name value =>
    ("Property(" ++ name ++ "=").toList ++ Text.indentTail [] value.render ++ [')']

/-- The items of a list, indented. -/
def renderItems : List Outline → List (List Char)
  | [] => []
  | o :: rest => Text.indent margin o.render :: renderItems rest

/-- The entries of a mapping, indented. -/
def renderEntries : List (String × Outline) → List (List Char)
  | [] => []
  | (k, o) :: rest =>
    Text.indent margin (renderText k ++ [':', ' '] ++ o.render) :: renderEntries rest

/-- The properties of a record; the lines after the first of each are indented. -/
def renderProperties : List (String × Outline) → List (List Char)
  | [] => []
  | (name, o) :: rest =>
    (margin ++ name.toList ++ '=' :: Text.indentTail margin o.render) :: renderProperties rest

end

/-- An outline as text. -/
def dump (o : Outline) : String :=
  String.ofList o.render

/-- The outline of an optional thing. -/
def optional {α : Type} (f : α → Outline) (x : Option α) : Outline :=
  (x.map f).getD absent

mutual

/-- The outline of a value. -/
def ofValue : Value → Outline
  | .null => absent
  | .bool b => bool b
  | .number n => number n
  | .text s => text s
  | .list items => list (ofItems items)
  | .object entries => mapping (ofEntries entries)

/-- The outlines of the items of a list. -/
def ofItems : List Value → List Outline
  | [] => []
  | v :: rest => ofValue v :: ofItems rest

/-- The outlines of the entries of an object. -/
def ofEntries : List (String × Value) → List (String × Outline)
  | [] => []
  | (k, v) :: rest => (k, ofValue v) :: ofEntries rest

end

end Outline

end EntityCompiler
