import GrantConfig.Provider.Basic
import GrantConfig.Text.Outline

/-!
# Providers on display

The outline of a provider shows every field. In place of a secret it shows only that there is one.
-/

namespace GrantConfig

open Text

/-- What is shown in place of a secret. -/
def redacted : String := "[REDACTED]"

/-- The outline of an optional text. -/
def textOutline (value : Option String) : Outline := Outline.ofOption .text value

/-- The outline of a provider. -/
def Provider.outline (p : Provider) : Outline :=
  .record "ProviderConfig"
    [ ("client_id", textOutline p.clientId),
      ("client_secret", textOutline (p.clientSecret.map fun _ => redacted)),
      ("redirect_uri", textOutline p.redirectUri),
      ("token_path", textOutline p.tokenPath),
      ("code_path", textOutline p.codePath),
      ("user_info_path", textOutline p.userInfoPath),
      ("scopes", .list (p.scopes.map .text)),
      ("extra_params",
        .map (p.extraParams.entries.map fun entry => (.text entry.1, .text entry.2))) ]

end GrantConfig
