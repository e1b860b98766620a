import GrantConfig.Log
import GrantConfig.Provider.Basic

/-!
# Overlays and presets

One provider laid over another, and well-known providers whose endpoints are known beforehand. An
overlay keeps what its base has configured wherever it has nothing, or only blanks, itself.
-/

namespace GrantConfig

namespace Provider

/-- The text of an overlay, unless it is blank, and else that of its base. -/
def pick (overlay base : Option String) : Option String := nonBlank? overlay <|> base

/-- Scopes behind those of a base, each exact text only once. -/
def appendScopes (base scopes : List String) : List String :=
  scopes.foldl (fun acc scope => if scope ∈ acc then acc else acc ++ [scope]) base

/-- A provider laid over a base. -/
def overlay (p base : Provider) : Provider where
  clientId := pick p.clientId base.clientId
  clientSecret := pick p.clientSecret base.clientSecret
  redirectUri := pick p.redirectUri base.redirectUri
  tokenPath := pick p.tokenPath base.tokenPath
  codePath := pick p.codePath base.codePath
  userInfoPath := pick p.userInfoPath base.userInfoPath
  scopes := appendScopes base.scopes p.scopes
  extraParams := p.extraParams.overlay base.extraParams

end Provider

/-- Providers whose endpoints are known. -/
inductive Preset where
  | kakao
  | naver
  | google
deriving DecidableEq, Repr

namespace Preset

/-- All presets in order. -/
def all : List Preset := [kakao, naver, google]

/-- The name of a preset. -/
def name : Preset → String
  | kakao => "kakao"
  | naver => "naver"
  | google => "google"

/-- The preset of a name, in any ASCII letter case and with blanks around it. -/
def ofName? (name : String) : Option Preset :=
  all.find? fun preset => (Text.trim name).toList.map Char.toLower = preset.name.toList

/-- What a preset configures: endpoints, and the scopes of Google. -/
def defaults : Preset → Provider
  | kakao => {
      codePath := some "https://kauth.kakao.com/oauth/authorize"
      tokenPath := some "https://kauth.kakao.com/oauth/token"
      userInfoPath := some "https://kapi.kakao.com/v2/user/me" }
  | naver => {
      codePath := some "https://nid.naver.com/oauth2.0/authorize"
      tokenPath := some "https://nid.naver.com/oauth2.0/token"
      userInfoPath := some "https://openapi.naver.com/v1/nid/me" }
  | google => {
      codePath := some "https://accounts.google.com/o/oauth2/v2/auth"
      tokenPath := some "https://oauth2.googleapis.com/token"
      userInfoPath := some "https://www.googleapis.com/oauth2/v3/userinfo"
      scopes := ["openid", "email"] }

end Preset

/-- A provider laid over what a preset configures. -/
def Provider.withPreset (p : Provider) (preset : Preset) : Provider := p.overlay preset.defaults

/-- The line that tells of a preset being applied. -/
def Preset.logLine (preset : Preset) : LogLine :=
  ⟨.debug, "Applying " ++ preset.name ++ " endpoint defaults"⟩

end GrantConfig
