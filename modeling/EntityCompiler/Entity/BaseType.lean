/-!
# Base types

The base types of the platform. Each has a name, by which documents refer to it.
-/

namespace EntityCompiler

/-- A base type of the platform. -/
inductive BaseType where
  | nothing
  | string
  | number
  | integer
  | long
  | boolean
  | dateTime
  | timespan
  | infotable
  | location
  | xml
  | json
  | query
  | image
  | hyperlink
  | imageLink
  | password
  | html
  | text
  | tags
  | schedule
  | variant
  | guid
  | blob
  | vec2
  | vec3
  | vec4
  | thingCode
  | propertyName
  | serviceName
  | eventName
  | thingName
  | thingShapeName
  | thingTemplateName
  | dataShapeName
  | mashupName
  | menuName
  | baseTypeName
  | userName
  | groupName
  | categoryName
  | stateDefinitionName
  | styleDefinitionName
  | styleThemeName
  | modelTagVocabularyName
  | dataTagVocabularyName
  | networkName
  | mediaEntityName
  | applicationKeyName
  | localizationTableName
  | organizationName
  | dashboardName
  | persistenceProviderPackageName
  | persistenceProviderName
  | projectName
  | notificationContentName
  | notificationDefinitionName
deriving DecidableEq, Inhabited

namespace BaseType

/-- All base types. -/
def all : List BaseType :=
  [nothing, string, number, integer, long, boolean, dateTime, timespan, infotable, location, xml,
   json, query, image, hyperlink, imageLink, password, html, text, tags, schedule, variant, guid,
   blob, vec2, vec3, vec4, thingCode, propertyName, serviceName, eventName, thingName,
   thingShapeName, thingTemplateName, dataShapeName, mashupName, menuName, baseTypeName, userName,
   groupName, categoryName, stateDefinitionName, styleDefinitionName, styleThemeName,
   modelTagVocabularyName, dataTagVocabularyName, networkName, mediaEntityName, applicationKeyName,
   localizationTableName, organizationName, dashboardName, persistenceProviderPackageName,
   persistenceProviderName, projectName, notificationContentName, notificationDefinitionName]

/-- The name of a base type. -/
def name : BaseType → String
  | nothing => "NOTHING"
  | string => "STRING"
  | number => "NUMBER"
  | integer => "INTEGER"
  | long => "LONG"
  | boolean => "BOOLEAN"
  | dateTime => "DATETIME"
  | timespan => "TIMESPAN"
  | infotable => "INFOTABLE"
  | location => "LOCATION"
  | xml => "XML"
  | json => "JSON"
  | query => "QUERY"
  | image => "IMAGE"
  | hyperlink => "HYPERLINK"
  | imageLink => "IMAGELINK"
  | password => "PASSWORD"
  | html => "HTML"
  | text => "TEXT"
  | tags => "TAGS"
  | schedule => "SCHEDULE"
  | variant => "VARIANT"
  | guid => "GUID"
  | blob => "BLOB"
  | vec2 => "VEC2"
  | vec3 => "VEC3"
  | vec4 => "VEC4"
  | thingCode => "THINGCODE"
  | propertyName => "PROPERTYNAME"
  | serviceName => "SERVICENAME"
  | eventName => "EVENTNAME"
  | thingName => "THINGNAME"
  | thingShapeName => "THINGSHAPENAME"
  | thingTemplateName => "THINGTEMPLATENAME"
  | dataShapeName => "DATASHAPENAME"
  | mashupName => "MASHUPNAME"
  | menuName => "MENUNAME"
  | baseTypeName => "BASETYPENAME"
  | userName => "USERNAME"
  | groupName => "GROUPNAME"
  | categoryName => "CATEGORYNAME"
  | stateDefinitionName => "STATEDEFINITIONNAME"
  | styleDefinitionName => "STYLEDEFINITIONNAME"
  | styleThemeName => "STYLETHEMENAME"
  | modelTagVocabularyName => "MODELTAGVOCABULARYNAME"
  | dataTagVocabularyName => "DATATAGVOCABULARYNAME"
  | networkName => "NETWORKNAME"
  | mediaEntityName => "MEDIAENTITYNAME"
  | applicationKeyName => "APPLICATIONKEYNAME"
  | localizationTableName => "LOCALIZATIONTABLENAME"
  | organizationName => "ORGANIZATIONNAME"
  | dashboardName => "DASHBOARDNAME"
  | persistenceProviderPackageName => "PERSISTENCEPROVIDERPACKAGENAME"
  | persistenceProviderName => "PERSISTENCEPROVIDERNAME"
  | projectName => "PROJECTNAME"
  | notificationContentName => "NOTIFICATIONCONTENTNAME"
  | notificationDefinitionName => "NOTIFICATIONDEFINITIONNAME"

/-- The base type with this name. -/
def ofName? (s : String) : Option BaseType :=
  all.find? (·.name == s)

end BaseType

end EntityCompiler
