import EntityCompiler.Contract
import EntityCompiler.Entity.BaseType

/-!
# Wrapped code

The platform keeps the code of a service inside a function that is called at once and whose value is
the result. `Wrapper.strip` takes this function off. Code without it assigns its result to a
variable, so it gets a statement that returns this variable, unless the service has no result.
-/

namespace EntityCompiler.Wrapper

/-- What wrapped code starts with. -/
def opening : String := "var result = (function () \x7b"

/-- What wrapped code ends with. -/
def closing : String := "\x7d)()"

/-- What wrapped code ends with if the function is bound to the entity. -/
def closingApplied : String := "\x7d).apply(me)"

/-- The statement that returns the variable `result`. -/
def returnResult : String := "\nreturn result;"

/-- The text of wrapped code without the semicolon that may follow it. -/
def withoutSemicolon (cs : List Char) : List Char :=
  if cs.getLast? == some ';' then Text.trimEnd cs.dropLast else cs

/-- The code between the opening and the given ending. -/
def between? (ending cs : List Char) : Option (List Char) :=
  let before := opening.toList.length
  if before + ending.length ≤ cs.length && ending.isSuffixOf cs then
    some ((cs.take (cs.length - ending.length)).drop before)
  else none

/-- The code inside the wrapper, or the code itself with a return if there is a result. -/
def strip (code : List Char) (resultType : BaseType) : Except Cause (List Char) :=
  let trimmed := Text.trim code
  if opening.toList.isPrefixOf trimmed then
    let wrapped := withoutSemicolon trimmed
    match [closing, closingApplied].findSome? fun ending => between? ending.toList wrapped with
    | some inner => .ok inner
    | none => .error (.openWrapper opening closing closingApplied)
  else if resultType = .nothing then .ok code
  else .ok (code ++ returnResult.toList)

end EntityCompiler.Wrapper
