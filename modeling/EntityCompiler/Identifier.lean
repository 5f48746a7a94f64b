import EntityCompiler.Contract

/-!
# Identifiers and class names

An identifier starts with an ASCII letter or an underscore and goes on with these and digits. The
name of any entity becomes a class name by putting a separator in the place of everything that
cannot stand in an identifier. With a separator that is itself empty or an identifier, the class
name is empty or an identifier; other separators may break this contract.
-/

namespace EntityCompiler

namespace Identifier

/-- The characters that an identifier can start with. -/
def isStart (c : Char) : Bool :=
  c.isAlpha || c == '_'

/-- The characters that an identifier can hold after the first one. -/
def isPart (c : Char) : Bool :=
  isStart c || c.isDigit

end Identifier

/-- Is the text an identifier? -/
def isIdentifier : List Char → Bool
  | [] => false
  | c :: cs => Identifier.isStart c && cs.all Identifier.isPart

/-- What stands in a class name for the characters of an entity name that cannot. -/
structure Separator where
  text : String
deriving DecidableEq

namespace Separator

/-- The separator used unless another one is chosen. -/
def default : Separator := ⟨"_"⟩

/-- A separator that keeps class names identifiers. -/
def Fits (s : Separator) : Bool :=
  s.text.isEmpty || isIdentifier s.text.toList

/-- A separator as an option of the compilation. -/
def checked (s : Separator) : Outcome Separator := do
  Outcome.require .separatorFitsIdentifier s.Fits
  return s

end Separator

namespace ClassName

/-- A text with the separator in the place of each run of characters that cannot stand in an
identifier; `inRun` says that such a run has been replaced and goes on. -/
def fill (separator : List Char) : (inRun : Bool) → List Char → List Char
  | _, [] => []
  | inRun, c :: cs =>
    if Identifier.isPart c then c :: fill separator false cs
    else if inRun then fill separator true cs
    else separator ++ fill separator true cs

/-- The class name of an entity name. Of a leading run, digits are replaced too. -/
def ofName (separator name : List Char) : List Char :=
  let kept := name.dropWhile (!Identifier.isStart ·)
  let filled := fill separator false kept
  if kept.length < name.length then separator ++ filled else filled

end ClassName

/-- The class name of an entity. -/
def className (separator : Separator) (name : String) : Outcome String := do
  let result := ClassName.ofName separator.text.toList name.toList
  Outcome.require .classNameFits (result.isEmpty || isIdentifier result)
  return String.ofList result

end EntityCompiler
