import EntityCompiler.Problem.Basic

/-!
# Contracts

The conditions under which the parts of entities and declarations may be put together, and the
outcome of a computation that may meet a problem in its input or break one of these conditions.
Problems are collected and reported; a broken contract ends the whole computation.
-/

namespace EntityCompiler

/-- The conditions on the parts that entities and declarations are put together from. -/
inductive Contract where
  /-- A separator is empty, or an identifier. -/
  | separatorFitsIdentifier
  /-- A property, a parameter or a field has a name that is not empty. -/
  | fieldNamed
  /-- The parameters of a service have different names. -/
  | parametersDistinct
  /-- A permission lists its entries for every kind. -/
  | kindsListed
  /-- A principal has a unit exactly if it is an organizational unit. -/
  | unitMatchesType
  /-- The properties and services of an entity have different names. -/
  | membersDistinct
  /-- Each permission of an entity is kept under the name of its resource. -/
  | permissionsKeyed
  /-- A data shape has no services, events and subscriptions. -/
  | shapeWithoutBehavior
  /-- A class name is empty, or an identifier. -/
  | classNameFits
  /-- A name in an expression is an identifier. -/
  | nameIsIdentifier
  /-- A declared class is named by an identifier. -/
  | classNamed
  /-- A documentation comment is closed at its end, and only there. -/
  | commentClosedAtEnd
  /-- The places that a parser tells are between two characters. -/
  | placesBetweenCharacters
  /-- A node of code has a text or children, but not both. -/
  | leafOrInner
  /-- A property that has an initial value is not marked as assigned elsewhere. -/
  | definiteOrInitialized
  /-- Neither the headline of a report nor its errors would upset its layout. -/
  | reportLayout
deriving DecidableEq, Inhabited

/-- Why a computation has no result. -/
inductive Fault where
  /-- The input has a problem. -/
  | problem (problem : Problem)
  /-- A contract is broken. -/
  | broken (contract : Contract)
deriving Inhabited

/-- The outcome of a computation. -/
abbrev Outcome (α : Type) := Except Fault α

namespace Outcome

/-- The outcome with a problem. -/
def problem {α : Type} (location : Option String) (cause : Cause) : Outcome α :=
  .error (.problem (.plain location cause))

/-- Goes on if a contract holds. -/
def require (contract : Contract) (holds : Bool) : Outcome Unit :=
  if holds then .ok () else .error (.broken contract)

/-- The outcome with its problem, if it has one, put below another one. -/
def within {α : Type} (location : Option String) (cause : Cause) : Outcome α → Outcome α
  | .ok a => .ok a
  | .error (.problem p) => .error (.problem (.dueTo location cause [p]))
  | .error (.broken c) => .error (.broken c)

/-- Takes a problem for a value, so that it can be collected. -/
def caught {α : Type} : Outcome α → Outcome (Except Problem α)
  | .ok a => .ok (.ok a)
  | .error (.problem p) => .ok (.error p)
  | .error (.broken c) => .error (.broken c)

/-- The results of `f` on the items of a list and the problems it met, both in order. -/
def gather {α β : Type} (f : α → Outcome β) : List α → Outcome (List β × List Problem)
  | [] => .ok ([], [])
  | x :: xs => do
    let first ← caught (f x)
    let (found, problems) ← gather f xs
    match first with
    | .ok y => .ok (y :: found, problems)
    | .error p => .ok (found, p :: problems)

/-- The result of an outcome, if there is one, and its problem as a list. -/
def collected {α : Type} (x : Outcome α) : Outcome (Option α × List Problem) := do
  match ← caught x with
  | .ok a => return (some a, [])
  | .error p => return (none, [p])

end Outcome

end EntityCompiler
