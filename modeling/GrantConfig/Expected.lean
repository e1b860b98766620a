/-!
# Expected kinds of value

What a value is asked to be where a configuration is bound, and the words for a value of another
kind.
-/

namespace GrantConfig

/-- What a value is asked to be. -/
inductive Expected where
  | text
  | map
  | provider
  | settings
deriving DecidableEq, Repr

/-- The words for what is expected. -/
def Expected.words : Expected → String
  | .text => "a string"
  | .map => "a map"
  | .provider => "struct ProviderConfig"
  | .settings => "struct OAuthSettings"

/-- The wording of a value of the wrong kind, given the words for that value. -/
def Expected.mismatch (expected : Expected) (found : String) : String :=
  "invalid type: " ++ found ++ ", expected " ++ expected.words

end GrantConfig
