import GrantConfig.Log
import GrantConfig.Provider.Display
import GrantConfig.Provider.Scopes
import GrantConfig.Provider.Validation

/-!
# Requests of a flow

The three requests of an authorization-code flow, as far as the configuration decides them: where
the user is sent for consent, how a code is exchanged for a token, and how the user's profile is
asked for. Values go into a request exactly as they are configured.
-/

namespace GrantConfig

open Text

/-- The exchange of a code for a token: where to, and the fields of the form. -/
structure TokenRequest where
  endpoint : Uri
  form : List (String × String)
deriving DecidableEq, Repr

/-- The question for the user's profile: where to, and the authorization header. -/
structure UserInfoRequest where
  endpoint : Uri
  authorization : String
deriving DecidableEq, Repr

/-- The value of a form field as it is shown. -/
def TokenRequest.shownValue (field : String × String) : String :=
  if field.1 = "client_secret" ∨ field.1 = "code" then redacted else field.2

/-- The outline of a token request, without secret and code. -/
def TokenRequest.outline (r : TokenRequest) : Outline :=
  .record "TokenRequest"
    [ ("endpoint", .text r.endpoint.text),
      ("form", .list (r.form.map fun field => .pair (.text field.1) (.text (shownValue field)))) ]

/-- The outline of a profile request, without the token. -/
def UserInfoRequest.outline (r : UserInfoRequest) : Outline :=
  .record "UserInfoRequest"
    [("endpoint", .text r.endpoint.text), ("authorization", .text ("Bearer " ++ redacted))]

namespace Provider

/-- The parameters of a consent request, behind those that the endpoint has itself. -/
def consentParams (p : Provider) (clientId redirectUri state : String) : List (String × String) :=
  [ ("response_type", "code"), ("client_id", clientId), ("redirect_uri", redirectUri),
    ("state", state) ] ++
    (if p.scopes.isEmpty then [] else [("scope", p.joinedScopes .space)]) ++
    p.extraParams.entries

/-- Where the user is sent for consent. -/
def authorizationUrl (p : Provider) (state : String) : Except ConfigError Uri := do
  let endpoint ← p.requireUri .codePath
  let clientId ← p.require .clientId
  let redirectUri ← p.require .redirectUri
  let _ ← parseUri .redirectUri redirectUri
  return endpoint.appendPairs (p.consentParams clientId redirectUri state)

/-- The consent URL with the line that tells its host. -/
def loggedAuthorizationUrl (p : Provider) (state : String) : Logged (Except ConfigError Uri) :=
  match p.authorizationUrl state with
  | .ok url => ⟨.ok url, [⟨.debug, "Generated authorization URL for " ++ url.host.text⟩]⟩
  | .error e => ⟨.error e, []⟩

/-- How a code is exchanged for a token. The secret is sent only when it is not blank, and so is
the redirect URI. -/
def tokenRequest (p : Provider) (code : String) : Except ConfigError TokenRequest := do
  let endpoint ← p.requireUri .tokenPath
  let clientId ← p.require .clientId
  let redirect ←
    match nonBlank? p.redirectUri with
    | some uri => do
      let _ ← parseUri .redirectUri uri
      pure [("redirect_uri", uri)]
    | none => pure []
  let secret := p.usableSecret?.toList.map fun secret => ("client_secret", secret)
  return {
    endpoint
    form := [("grant_type", "authorization_code"), ("code", code), ("client_id", clientId)] ++
      secret ++ redirect }

/-- How the user's profile is asked for. -/
def userInfoRequest (p : Provider) (accessToken : String) : Except ConfigError UserInfoRequest := do
  let endpoint ← p.requireUri .userInfoPath
  return { endpoint, authorization := "Bearer " ++ accessToken }

end Provider

end GrantConfig
