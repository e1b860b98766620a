import GrantConfig.Provider.Binding
import GrantConfig.Provider.Preset
import GrantConfig.Provider.Serialized

/-!
# Changes of providers

The ways in which a provider is changed after it was built. Binding a provider anew from its own
JSON value is one of them; it loses the secret.
-/

namespace GrantConfig.Provider

/-- A change of a provider. -/
inductive Change where
  | setClientId (value : String)
  | setClientSecret (value : String)
  | clearClientSecret
  | setRedirectUri (value : String)
  | setTokenPath (value : String)
  | setCodePath (value : String)
  | setUserInfoPath (value : String)
  | setScopes (scopes : List String)
  | setExtraParams (params : SortedMap String)
  | layOver (base : Provider)
  | preset (preset : Preset)
  | rebind
deriving DecidableEq

/-- The provider bound from the JSON value of another. -/
def rebound (p : Provider) : Provider :=
  match ofJson p.toJson with
  | .ok q => q
  | .error _ => p

/-- The provider after a change. -/
def apply (p : Provider) : Change → Provider
  | .setClientId value => { p with clientId := some value }
  | .setClientSecret value => { p with clientSecret := some value }
  | .clearClientSecret => { p with clientSecret := none }
  | .setRedirectUri value => { p with redirectUri := some value }
  | .setTokenPath value => { p with tokenPath := some value }
  | .setCodePath value => { p with codePath := some value }
  | .setUserInfoPath value => { p with userInfoPath := some value }
  | .setScopes scopes => { p with scopes }
  | .setExtraParams extraParams => { p with extraParams }
  | .layOver base => p.overlay base
  | .preset preset => p.withPreset preset
  | .rebind => p.rebound

end GrantConfig.Provider
