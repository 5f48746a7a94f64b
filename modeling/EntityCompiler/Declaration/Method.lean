import EntityCompiler.Declaration.Class
import EntityCompiler.Declaration.Property
import EntityCompiler.Script.Parse

/-!
# Methods of classes

The methods that are declared for the services and the subscriptions of an entity. A service takes
all its parameters as one object; a subscription has the parameters that every handler of an event
has.
-/

namespace EntityCompiler

namespace ServiceDefinition

/-- The parameters as the elements of one object and as the members of its type. -/
def elements (separator : Separator) :
    List ServiceParameter → Outcome (List BindingElement × List PropertySignature)
  | [] => .ok ([], [])
  | parameter :: rest => do
    let initializer ← parameter.aspects.initializer (.parameterDefault parameter.name)
    let type ← TypeNode.ofBaseType parameter.baseType (some parameter.aspects) separator
    let (others, types) ← elements separator rest
    return (⟨parameter.name, initializer⟩ :: others,
      ⟨parameter.name, type, !parameter.aspects.isRequired⟩ :: types)

/-- The parameter of the method: none if the service has none, else one object. -/
def methodParameters (service : ServiceDefinition) (separator : Separator) :
    Outcome (List Parameter) :=
  match service.parameters with
  | [] => .ok []
  | parameters => do
    let (elements, types) ← elements separator parameters
    return [⟨.object elements, .literal types⟩]

/-- The options of a remote service that differ from what is usual. -/
def remoteOptions (binding : RemoteServiceBinding) : List PropertyAssignment :=
  (if binding.enableQueue then [⟨"enableQueue", .boolean true⟩] else [])
    ++ (match binding.timeout with
      | none => []
      | some timeout => [⟨"timeout", .number timeout⟩])

/-- The decorator for a remote binding, and the body of the method. A remote service has an empty
body, whether there is code or not. -/
def implementation (service : ServiceDefinition) : Outcome (List Decorator × Block) :=
  match service.remoteBinding with
  | some binding =>
    let source := binding.sourceName.getD service.name
    .ok ([.ofName "remoteService" [.string source, .object (remoteOptions binding)]], ⟨[], []⟩)
  | none =>
    match service.code with
    | none => Outcome.problem none (.noBody service.name)
    | some code =>
      (Outcome.within none (.serviceBody service.name)
        (Block.bodyOf code service.resultType.baseType)).map ([], ·)

/-- The declaration of a service with the permission that is attached to it. -/
def declaration (service : ServiceDefinition) (permission : Option RuntimePermission)
    (separator : Separator) : Outcome MethodDeclaration := do
  let (remote, body) ← service.implementation
  let parameters ← Outcome.within none (.parameters service.name)
    (service.methodParameters separator)
  let permissions := match permission with
    | none => []
    | some permission => permission.decorators service.name false false
  let returnType ← TypeNode.ofBaseType service.resultType.baseType
    (some service.resultType.aspects) separator
  let comment ← DocComment.ofText? service.description
  let decorators := Decorator.flag "final" (!service.isAllowOverride)
    ++ Decorator.flag "override" service.isOverridden ++ remote ++ permissions
  return ⟨service.name, parameters, returnType, body, decorators, service.isAsync, comment⟩

end ServiceDefinition

namespace SubscriptionDefinition

/-- What the name of the data shape of an event's data has behind the name of the event. -/
def dataShapeSuffix : String := "Event"

/-- The parameters of the handler of an event. -/
def methodParameters (subscription : SubscriptionDefinition) (separator : Separator) :
    Outcome (List Parameter) := do
  let string ← TypeNode.ofBaseType .string none separator
  let data ← TypeNode.ofBaseType .infotable
    (some { dataShape := some (subscription.eventName ++ dataShapeSuffix) }) separator
  let time ← TypeNode.ofBaseType .dateTime none separator
  return [⟨.plain "alertName", string⟩, ⟨.plain "eventData", data⟩, ⟨.plain "eventName", string⟩,
    ⟨.plain "eventTime", time⟩, ⟨.plain "source", string⟩, ⟨.plain "sourceProperty", string⟩]

/-- The decorator that names the event, and its source if that is another entity. -/
def decorator (subscription : SubscriptionDefinition) : Decorator :=
  let event : List Expression :=
    .string subscription.eventName :: (subscription.sourceProperty.map .string).toList
  match subscription.source with
  | some source => .ofName "subscription" (.string source :: event)
  | none => .ofName "localSubscription" event

/-- The declaration of a subscription; one that is switched off has none. -/
def declaration (subscription : SubscriptionDefinition) (separator : Separator) :
    Outcome MethodDeclaration := do
  if !subscription.enabled then
    Outcome.problem none (.disabled subscription.name)
  else
    let body ← Outcome.within none (.subscriptionBody subscription.name)
      (Block.bodyOf subscription.code .nothing)
    let parameters ← subscription.methodParameters separator
    let comment ← DocComment.ofText? subscription.description
    return ⟨subscription.name, parameters, .keyword .void, body, [subscription.decorator], false,
      comment⟩

end SubscriptionDefinition

end EntityCompiler
