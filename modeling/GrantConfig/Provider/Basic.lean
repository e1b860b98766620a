import GrantConfig.SortedMap
import GrantConfig.Text.Blank

/-!
# Providers

What an authorization-code flow has to know about one provider: credentials, endpoints, scopes and
further query parameters. A text that is not configured is `none`, which differs from a text
configured as empty. The name of a provider is not part of it.
-/

namespace GrantConfig

/-- The configuration of one provider. -/
structure Provider where
  clientId : Option String := none
  clientSecret : Option String := none
  redirectUri : Option String := none
  tokenPath : Option String := none
  codePath : Option String := none
  userInfoPath : Option String := none
  scopes : List String := []
  extraParams : SortedMap String := ∅
deriving DecidableEq

namespace Provider

/-- The fields of a provider, in the order of their declaration. -/
inductive Field where
  | clientId
  | clientSecret
  | redirectUri
  | tokenPath
  | codePath
  | userInfoPath
  | scopes
  | extraParams
deriving DecidableEq, Repr

namespace Field

/-- All fields in order. -/
def all : List Field :=
  [clientId, clientSecret, redirectUri, tokenPath, codePath, userInfoPath, scopes, extraParams]

/-- The fields that an error can name, in order. -/
def reported : List Field :=
  [clientId, clientSecret, redirectUri, tokenPath, codePath, userInfoPath, scopes]

/-- The fields without which no flow can run, in order. -/
def required : List Field := [clientId, redirectUri, tokenPath, codePath, userInfoPath]

/-- The fields that hold absolute URIs, in order. -/
def uris : List Field := [redirectUri, tokenPath, codePath, userInfoPath]

/-- The key of a field, its words joined by hyphens. -/
def key : Field → String
  | clientId => "client-id"
  | clientSecret => "client-secret"
  | redirectUri => "redirect-uri"
  | tokenPath => "token-path"
  | codePath => "code-path"
  | userInfoPath => "user-info-path"
  | scopes => "scopes"
  | extraParams => "extra-params"

/-- The other spelling of a key, its words joined by underscores. -/
def snakeKey : Field → String
  | clientId => "client_id"
  | clientSecret => "client_secret"
  | redirectUri => "redirect_uri"
  | tokenPath => "token_path"
  | codePath => "code_path"
  | userInfoPath => "user_info_path"
  | scopes => "scopes"
  | extraParams => "extra_params"

/-- The field that a key names in either spelling. -/
def ofKey? (key : String) : Option Field :=
  all.find? fun field => key = field.key ∨ key = field.snakeKey

end Field

/-- The configured text of a field; lists have none. -/
def text? (p : Provider) : Field → Option String
  | .clientId => p.clientId
  | .clientSecret => p.clientSecret
  | .redirectUri => p.redirectUri
  | .tokenPath => p.tokenPath
  | .codePath => p.codePath
  | .userInfoPath => p.userInfoPath
  | .scopes => none
  | .extraParams => none

/-- A configured text, unless it is blank. -/
def nonBlank? (value : Option String) : Option String := value.filter fun s => !Text.isBlank s

/-- The secret, unless it is unset or blank. -/
def usableSecret? (p : Provider) : Option String := nonBlank? p.clientSecret

/-- Whether a secret is configured that is not blank. -/
def hasClientSecret (p : Provider) : Bool := p.usableSecret?.isSome

end Provider

end GrantConfig
