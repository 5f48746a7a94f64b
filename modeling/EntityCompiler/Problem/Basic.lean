import EntityCompiler.Problem.Cause
import EntityCompiler.Text.Lines

/-!
# Problems

A problem says what is wrong, where in the document, and which problems underlie it.
`Problem.message` lays a problem out as text: one headline, then the problems below it, each
indented by two spaces.
-/

namespace EntityCompiler

/-- Something wrong with the input. No list of underlying problems and an empty one are different
values, although they are laid out alike. -/
inductive Problem where
  | mk (location : Option String) (cause : Cause) (underlying : Option (List Problem))
deriving Inhabited

/-- A part of a document below another one, as a dotted path. -/
def below (location : Option String) (parts : List String) : String :=
  match location with
  | none => ".".intercalate parts
  | some l => if l.isEmpty then ".".intercalate parts else ".".intercalate (l :: parts)

namespace Problem

/-- A problem with nothing below it. -/
def plain (location : Option String) (cause : Cause) : Problem :=
  mk location cause none

/-- A problem that others underlie. -/
def dueTo (location : Option String) (cause : Cause) (underlying : List Problem) : Problem :=
  mk location cause (some underlying)

/-- Where a problem is and what it is about, on one line if its parts hold no line break. -/
def headline (location : Option String) (cause : Cause) : List Char :=
  match location with
  | none => cause.message.toList
  | some l => ("In " ++ l ++ ": " ++ cause.message).toList

mutual

/-- A problem laid out as text. -/
def layout : Problem → List Char
  | mk location cause none => headline location cause
  | mk location cause (some []) => headline location cause
  | mk location cause (some (p :: ps)) =>
    headline location cause ++ '\n' :: Text.joined ['\n'] (layoutAll (p :: ps))

/-- Each of some problems laid out and indented. -/
def layoutAll : List Problem → List (List Char)
  | [] => []
  | p :: ps => Text.indent [' ', ' '] p.layout :: layoutAll ps

end

/-- A problem laid out as text. -/
def message (p : Problem) : String :=
  String.ofList p.layout

/-- The three parts of a problem on one line, the last one given. -/
def displayWith (location : Option String) (cause : Cause) (underlying : String) : String :=
  "Error(location=" ++ (location.map Text.quoted).getD "None" ++ ", message="
    ++ Text.quoted cause.message ++ ", underlying=" ++ underlying ++ ")"

mutual

/-- A problem on one line, with its parts named. -/
def display : Problem → String
  | mk location cause none => displayWith location cause "None"
  | mk location cause (some ps) =>
    displayWith location cause ("[" ++ ", ".intercalate (displayAll ps) ++ "]")

/-- Each of some problems on one line. -/
def displayAll : List Problem → List String
  | [] => []
  | p :: ps => p.display :: displayAll ps

end

end Problem

end EntityCompiler
