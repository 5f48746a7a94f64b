import EntityCompiler.Value.Basic

/-!
# Causes

Everything that can be wrong with a document, with the code in it, or with what is to be generated
from it. `Cause.message` holds the wording of each cause.
-/

namespace EntityCompiler

/-- What a problem is about. -/
inductive Cause where
  /-- A cause given in words. -/
  | stated (message : String)
  /-- Something other than an object stands where a part of the document is expected. -/
  | notAnObject (found : Value)
  /-- Something other than a list stands where a list is expected. -/
  | notAList (found : Value)
  /-- The definition of a member is no object. -/
  | definitionNotAnObject (found : Value)
  /-- An item of a list is no object. -/
  | itemNotAnObject
  /-- A member has the empty name. -/
  | emptyName (name : String)
  /-- Something other than a finite number stands where one is expected. -/
  | notAFiniteNumber (found : Value)
  /-- The base type is none of the platform's. -/
  | unknownBaseType (found : Value)
  /-- Some aspects cannot be read. -/
  | aspects
  /-- The base type or the aspects of a field cannot be read. -/
  | field
  /-- A local binding lacks the thing or the property it is bound to. -/
  | incompleteLocalBinding (binding : Value)
  /-- An implementation holds no code. -/
  | noScript
  /-- An implementation is not given as a script. -/
  | unsupportedHandler (service : String) (handler : Value)
  /-- A service cannot be read. -/
  | service (name : String)
  /-- A subscription names no event. -/
  | noEventName (subscription : String)
  /-- A subscription has no implementation. -/
  | noImplementation (subscription : String)
  /-- An event has no data shape. -/
  | noDataShape (event : String)
  /-- A permission names no resource. -/
  | noResourceName
  /-- An entry of a permission is no user and no group. -/
  | notAPrincipal (found : Value)
  /-- Some runtime permissions cannot be read. -/
  | runtimePermissions
  /-- A principal of a visibility permission has no name. -/
  | noPrincipalName
  /-- The name of an organizational unit lacks the organization or the unit. -/
  | notAUnit (name : String)
  /-- The type of a visibility permission is neither of the two. -/
  | unknownVisibility (found : Value)
  /-- Some visibility permissions cannot be read. -/
  | visibility
  /-- The rows of a configuration table are no list of objects. -/
  | rowsNotObjects (table : String)
  /-- The rows of some configuration tables cannot be read. -/
  | configurationTables
  /-- A configuration table names no data shape. -/
  | noTableShape
  /-- The definitions of some configuration tables cannot be read. -/
  | tableDefinitions
  /-- The document is no object. -/
  | documentNotAnObject (found : Value)
  /-- The entity has no name. -/
  | noEntityName
  /-- A service has the name of a property. -/
  | clash (service : String)
  /-- The entity cannot be read. -/
  | entity (name : String)
  /-- A thing names no thing template. -/
  | noThingTemplate
  /-- A thing template names no thing template that it derives from. -/
  | noBaseThingTemplate
  /-- Some fields of a data shape cannot be read. -/
  | fieldDefinitions
  /-- The code opens the function it is wrapped in, but does not close it. -/
  | openWrapper (opening closing closingApplied : String)
  /-- The code is not well formed; `offending` stands where reading it ended. -/
  | unparsable (line column : Nat) (offending : String)
  /-- A number that is not finite cannot be written down. -/
  | nonFiniteLiteral (number : Number)
  /-- A value that is not primitive stands where a literal is expected. -/
  | notALiteral (found : Value)
  /-- The value under a key cannot be written down. -/
  | entryLiteral (key : String)
  /-- An item of a list cannot be written down. -/
  | itemLiteral (index : Nat)
  /-- The default value of a property or a field cannot be written down. -/
  | fieldDefault (field : String)
  /-- The default value of a parameter cannot be written down. -/
  | parameterDefault (parameter : String)
  /-- A setting of a remote binding cannot be written down. -/
  | remoteSetting (key property : String)
  /-- A service has no code and is not bound to a remote one. -/
  | noBody (service : String)
  /-- The code of a service cannot be made a method body. -/
  | serviceBody (service : String)
  /-- The parameters of a service cannot be generated. -/
  | parameters (service : String)
  /-- A subscription is switched off. -/
  | disabled (subscription : String)
  /-- The code of a subscription cannot be made a method body. -/
  | subscriptionBody (subscription : String)
  /-- No character of the name of an entity can stand in a class name. -/
  | emptyClassName (entity separator : String)
  /-- The rows of the configuration tables cannot be written down. -/
  | configurationValues
  /-- The class of an entity cannot be generated. -/
  | declaration (entity : String)
deriving Inhabited

namespace Cause

open Text (quoted)

/-- A value with its type in front. -/
def described (v : Value) : String :=
  v.typeName ++ ": " ++ v.display

/-- The wording of a cause. -/
def message : Cause → String
  | stated text => text
  | notAnObject v => "Expected a JSON object, but got " ++ described v
  | notAList v => "Expected a JSON array, but got " ++ described v
  | definitionNotAnObject v => "Expected a JSON object, but got " ++ v.typeName
  | itemNotAnObject => "Expected a JSON object"
  | emptyName name => "Expected a non-empty name, but got: " ++ quoted name
  | notAFiniteNumber v => "Expected a finite number, but got: " ++ v.display
  | unknownBaseType v => "Unexpected base type: " ++ v.display
  | aspects => "Failed to parse the aspects"
  | field => "Failed to parse the field"
  | incompleteLocalBinding v =>
    "Expected both the sourceThingName and the sourceName in the local binding, but got: "
      ++ v.display
  | noScript => "Expected the code in the first row of the script configuration table"
  | unsupportedHandler name handler =>
    "Service implementation for the service " ++ quoted name ++ " has the handler set to "
      ++ handler.display ++ ". Only 'Script' is supported."
  | service name => "Failed to normalize the service " ++ quoted name
  | noEventName name => "Expected an event name for the subscription " ++ quoted name
  | noImplementation name => "Expected the implementation of the subscription " ++ quoted name
  | noDataShape name => "Expected a data shape for the event " ++ quoted name
  | noResourceName => "Expected a resource name"
  | notAPrincipal v =>
    "Expected a principal with a name and a type among ['User', 'Group'], but got: " ++ v.display
  | runtimePermissions => "Failed to index the runtime permissions"
  | noPrincipalName => "Expected a name of the principal"
  | notAUnit name =>
    "Expected an organizational unit as ``organization:unit``, but got: " ++ quoted name
  | unknownVisibility v => "Invalid visibility type " ++ v.display
  | visibility => "Failed to parse the visibility permissions"
  | rowsNotObjects table =>
    "Expected the rows of the configuration table " ++ quoted table
      ++ " as a JSON array of objects"
  | configurationTables => "Failed to flatten the configuration tables"
  | noTableShape => "Expected the name of the data shape"
  | tableDefinitions => "Failed to parse the configuration table definitions"
  | documentNotAnObject v => "Expected the entity as a JSON object, but got " ++ v.typeName
  | noEntityName => "Expected the name of the entity"
  | clash name =>
    "The service " ++ quoted name ++ " clashes with the property of the same name"
  | entity name => "Failed to normalize the entity " ++ quoted name
  | noThingTemplate => "Expected the thing template"
  | noBaseThingTemplate => "Expected the base thing template"
  | fieldDefinitions => "Failed to parse the field definitions"
  | openWrapper opening closing closingApplied =>
    "The code starts with the wrapper " ++ quoted opening ++ ", but ends neither with "
      ++ quoted closing ++ " nor with " ++ quoted closingApplied
  | unparsable line column offending =>
    "Failed to parse the code at line " ++ toString line ++ " and column " ++ toString column
      ++ ": " ++ quoted offending
  | nonFiniteLiteral n => "Cannot convert to a literal the non-finite number " ++ n.text
  | notALiteral v => "Cannot convert to a literal the value of type " ++ described v
  | entryLiteral key => "Failed to convert the value under the key " ++ quoted key
  | itemLiteral index => "Failed to convert the item at the index " ++ toString index
  | fieldDefault name => "Failed to convert the default value of the field " ++ quoted name
  | parameterDefault name =>
    "Failed to convert the default value of the parameter " ++ quoted name
  | remoteSetting key property =>
    "Failed to convert the setting " ++ quoted key ++ " of the remote binding of the property "
      ++ quoted property
  | noBody name =>
    "The service " ++ quoted name ++ " has neither an implementation nor a remote binding"
  | serviceBody name => "Failed to merge the code of the service " ++ quoted name
  | parameters name => "Failed to generate the parameters of the service " ++ quoted name
  | disabled name =>
    "The subscription " ++ quoted name
      ++ " is disabled, but disabled subscriptions are not supported"
  | subscriptionBody name => "Failed to merge the code of the subscription " ++ quoted name
  | emptyClassName name separator =>
    "The entity name " ++ quoted name ++ " results in an empty class name with the separator "
      ++ quoted separator
  | configurationValues => "Failed to convert the values of the configuration tables"
  | declaration name => "Failed to compile the entity " ++ quoted name

end Cause

end EntityCompiler
