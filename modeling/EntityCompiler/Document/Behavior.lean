import EntityCompiler.Document.Field
import EntityCompiler.Entity.Behavior

/-!
# Reading services, events and subscriptions

The code of a service or of a subscription stands in the first row of the table of a script. All
problems of a service are collected before it is given up; an event or a subscription is given up at
its first problem.
-/

namespace EntityCompiler.Document

/-- The handler of implementations that are given as scripts. -/
def scriptHandler : String := "Script"

/-- The code in the first row of the script table of an implementation. -/
def scriptCode? (implementation : Fields) : Option String := do
  let tables ← (implementation.getD "configurationTables").fields?
  let script ← (tables.getD scriptHandler).fields?
  let rows ← (script.getD "rows").items?
  let row ← rows.head?
  let row ← row.fields?
  (row.getD "code").text?

/-- The code of an implementation that must be a script. -/
def scriptCode (implementation : Fields) (location : String) : Outcome String :=
  match scriptCode? implementation with
  | some code => .ok code
  | none => Outcome.problem (below location ["configurationTables", scriptHandler]) .noScript

/-- The code of a service; one without an implementation has none. -/
def serviceCode (name : String) (implementation : Value) (location : String) :
    Outcome (Option String) :=
  match implementation with
  | .object entries =>
    let handler := Fields.getD entries "handlerName"
    if handler.text? == some scriptHandler then (scriptCode entries location).map some
    else Outcome.problem (below location ["handlerName"]) (.unsupportedHandler name handler)
  | _ => .ok none

/-- What a service gives back: nothing unless it says otherwise. -/
def resultType (raw : Fields) (location : String) : Outcome ResultType :=
  match raw.getD "resultType" with
  | .null => .ok ⟨.nothing, {}⟩
  | v => (fieldBase v (below location ["resultType"])).map fun base => ⟨base.baseType, base.aspects⟩

/-- The remote binding of a service; anything but an object stands for none. -/
def remoteServiceBinding (name : String) (raw : Value) : Outcome (Option RemoteServiceBinding) :=
  match raw with
  | .object entries =>
    (number? entries "timeout" (below "remoteServiceBindings" [name])).map fun timeout =>
      some ⟨text? entries "sourceName", flag entries "enableQueue", timeout⟩
  | _ => .ok none

/-- A service with the given name, implementation and remote binding. That it is overridden is spelt
in two ways. -/
def service (name : String) (raw implementation remoteBinding : Value)
    (location implementationLocation : String) : Outcome ServiceDefinition := do
  let raw ← definition raw location
  let (code, codeProblems) ←
    Outcome.collected (serviceCode name implementation implementationLocation)
  let (result, resultProblems) ← Outcome.collected (resultType raw location)
  let (parameters, parameterProblems) ← members raw "parameterDefinitions" location field
  let (aspects, aspectProblems) ← Outcome.collected (fields raw "aspects" location)
  let (binding, bindingProblems) ← Outcome.collected (remoteServiceBinding name remoteBinding)
  match code, result, aspects, binding, parameterProblems with
  | some code, some result, some aspects, some binding, [] =>
    ServiceDefinition.checked {
      name
      description := text? raw "description"
      resultType := result
      parameters
      isAsync := flag aspects "isAsync"
      isAllowOverride := flag raw "isAllowOverride"
      isOverridden := flag raw "isOverriden" || flag raw "isOverridden"
      code
      remoteBinding := binding }
  | _, _, _, _, _ =>
    .error (.problem (.dueTo location (.service name)
      (codeProblems ++ resultProblems ++ parameterProblems ++ aspectProblems ++ bindingProblems)))

/-- A subscription with the given name. -/
def subscription (name : String) (raw : Value) (location : String) :
    Outcome SubscriptionDefinition := do
  let raw ← definition raw location
  match text? raw "eventName", raw.getD "serviceImplementation" with
  | none, _ => Outcome.problem (below location ["eventName"]) (.noEventName name)
  | some event, .object implementation => do
    let code ← scriptCode implementation (below location ["serviceImplementation"])
    return {
      name
      description := text? raw "description"
      eventName := event
      source := text? raw "source"
      sourceProperty := text? raw "sourceProperty"
      enabled := flag raw "enabled"
      code }
  | some _, _ =>
    Outcome.problem (below location ["serviceImplementation"]) (.noImplementation name)

/-- The remote binding of an event, to a source of the same name unless it is given another one;
anything but an object stands for none. -/
def remoteEventBinding (name : String) (raw : Value) : Option RemoteEventBinding :=
  raw.fields?.map fun raw => ⟨(text? raw "sourceName").getD name⟩

/-- An event with the given name and remote binding. -/
def event (name : String) (raw remoteBinding : Value) (location : String) :
    Outcome EventDefinition := do
  let raw ← definition raw location
  match text? raw "dataShape" with
  | none => Outcome.problem (below location ["dataShape"]) (.noDataShape name)
  | some dataShape =>
    return ⟨name, text? raw "description", dataShape, remoteEventBinding name remoteBinding⟩

end EntityCompiler.Document
