import EntityCompiler.Entity.Field

/-!
# Services, events and subscriptions

The behavior of an entity, with the code of its services and subscriptions as text.
-/

namespace EntityCompiler

/-- Do all items of a list differ? -/
def allDistinct {α : Type} [BEq α] : List α → Bool
  | [] => true
  | x :: xs => !xs.contains x && allDistinct xs

/-- The binding of a service to a remote one, which has the name of the service unless it is given
another one. -/
structure RemoteServiceBinding where
  sourceName : Option String
  enableQueue : Bool
  timeout : Option Number
deriving DecidableEq, Inhabited

/-- A service; without code if it has no implementation. -/
structure ServiceDefinition where
  name : String
  description : Option String
  resultType : ResultType
  parameters : List ServiceParameter
  isAsync : Bool
  isAllowOverride : Bool
  isOverridden : Bool
  code : Option String
  remoteBinding : Option RemoteServiceBinding
deriving Inhabited

/-- A service, if its parameters have different names. -/
def ServiceDefinition.checked (service : ServiceDefinition) : Outcome ServiceDefinition := do
  Outcome.require .parametersDistinct (allDistinct (service.parameters.map (·.name)))
  return service

/-- The binding of an event to a remote source. -/
structure RemoteEventBinding where
  sourceName : String
deriving DecidableEq, Inhabited

/-- An event; its data has the data shape with the given name. -/
structure EventDefinition where
  name : String
  description : Option String
  dataShape : String
  remoteBinding : Option RemoteEventBinding
deriving DecidableEq, Inhabited

/-- A subscription to an event of another entity, or of the entity itself if no source is given. -/
structure SubscriptionDefinition where
  name : String
  description : Option String
  eventName : String
  source : Option String
  sourceProperty : Option String
  enabled : Bool
  code : String
deriving DecidableEq, Inhabited

end EntityCompiler
