import EntityCompiler.Document.Access
import EntityCompiler.Entity.Field

/-!
# Reading fields

Reads the base type, the description and the aspects that all fields have, and the properties with
their bindings. All problems of a field are collected before it is given up.
-/

namespace EntityCompiler.Document

/-- The aspects of a field or of a result. -/
def aspects (raw : Fields) (location : Option String) : Outcome FieldAspects := do
  let inner := below location ["aspects"]
  let raw ← fields raw "aspects" location
  let (minimum, minimumProblems) ← Outcome.collected (number? raw "minimumValue" inner)
  let (maximum, maximumProblems) ← Outcome.collected (number? raw "maximumValue" inner)
  let (threshold, thresholdProblems) ←
    Outcome.collected (number? raw "dataChangeThreshold" inner)
  let problems := minimumProblems ++ maximumProblems ++ thresholdProblems
  if problems.isEmpty then
    return {
      defaultValue := raw.getD "defaultValue"
      minimumValue := minimum.join
      maximumValue := maximum.join
      units := text? raw "units"
      isRequired := flag raw "isRequired"
      isReadOnly := flag raw "isReadOnly"
      isPersistent := flag raw "isPersistent"
      isLogged := flag raw "isLogged"
      isPrimaryKey := flag raw "isPrimaryKey"
      isRemote := flag raw "isRemote"
      dataChangeType := text? raw "dataChangeType"
      dataChangeThreshold := threshold.join
      dataShape := text? raw "dataShape"
      thingTemplate := text? raw "thingTemplate"
      thingShape := text? raw "thingShape" }
  else .error (.problem (.dueTo location .aspects problems))

/-- What all fields have: the base type, the description and the aspects. -/
structure FieldBase where
  baseType : BaseType
  description : Option String
  aspects : FieldAspects

/-- Reads what all fields have. -/
def fieldBase (raw : Value) (location : String) : Outcome FieldBase := do
  let raw ← definition raw location
  let (type, typeProblems) ← Outcome.collected (baseType raw location)
  let (read, aspectProblems) ← Outcome.collected (aspects raw location)
  match type, read with
  | some type, some read => return ⟨type, text? raw "description", read⟩
  | _, _ => .error (.problem (.dueTo location .field (typeProblems ++ aspectProblems)))

/-- A field with the given name. -/
def field (name : String) (raw : Value) (location : String) : Outcome FieldDefinition := do
  let base ← fieldBase raw location
  FieldDefinition.checked ⟨name, base.baseType, base.description, base.aspects⟩

/-- The remote binding of a property; anything but an object stands for none. -/
def remotePropertyBinding (raw : Value) : Option RemotePropertyBinding :=
  raw.fields?.map fun raw => ⟨text? raw "sourceName", raw.filter (·.1 != "sourceName")⟩

/-- The local binding of a property; anything but an object stands for none. -/
def localPropertyBinding (name : String) (raw : Value) : Outcome (Option LocalPropertyBinding) :=
  match raw with
  | .object entries =>
    match text? entries "sourceThingName", text? entries "sourceName" with
    | some thing, some source => .ok (some ⟨thing, source⟩)
    | _, _ =>
      Outcome.problem (below "propertyBindings" [name]) (.incompleteLocalBinding (.object entries))
  | _ => .ok none

/-- A property with the given name and bindings. -/
def property (name : String) (raw remoteBinding localBinding : Value) (location : String) :
    Outcome PropertyDefinition := do
  let base ← fieldBase raw location
  let bound ← localPropertyBinding name localBinding
  PropertyDefinition.checked
    { name, baseType := base.baseType, description := base.description, aspects := base.aspects,
      remoteBinding := remotePropertyBinding remoteBinding, localBinding := bound }

end EntityCompiler.Document
