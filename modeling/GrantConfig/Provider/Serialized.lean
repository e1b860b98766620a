import GrantConfig.Json.Writer
import GrantConfig.Provider.Basic

/-!
# Providers as JSON

The object of a provider has its fields in the order of their declaration, unset texts as null and
parameters as entries with a name and a value. It never holds the secret.
-/

namespace GrantConfig.Provider

/-- The entry of one parameter. -/
def paramJson (param : String × String) : Json :=
  .members [("name", .string param.1), ("value", .string param.2)]

/-- The members of the object of a provider. -/
def toMembers (p : Provider) : List (String × Json) :=
  [ (Field.clientId.key, .ofText? p.clientId),
    (Field.redirectUri.key, .ofText? p.redirectUri),
    (Field.tokenPath.key, .ofText? p.tokenPath),
    (Field.codePath.key, .ofText? p.codePath),
    (Field.userInfoPath.key, .ofText? p.userInfoPath),
    (Field.scopes.key, .array (p.scopes.map .string)),
    (Field.extraParams.key, .array (p.extraParams.entries.map paramJson)) ]

/-- The JSON value of a provider. -/
def toJson (p : Provider) : Json := .object p.toMembers

/-- The compact JSON text of a provider, with its fields in order. -/
def serialized (p : Provider) : String := Json.write (.members p.toMembers)

end GrantConfig.Provider
