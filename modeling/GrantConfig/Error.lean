import GrantConfig.Layer.Fault
import GrantConfig.Provider.Basic
import GrantConfig.Uri.Host

/-!
# Configuration errors

What can be wrong with the configuration of a provider, or with settings as a whole.
-/

namespace GrantConfig

/-- Why a configuration cannot be used. -/
inductive ConfigError where
  | missingFields (fields : List Provider.Field)
  | malformedUri (field : Provider.Field) (value : String) (reason : Uri.Fault)
  | provider (name : String) (source : ConfigError)
  | load (fault : Layer.Fault)
deriving DecidableEq, Repr

/-- The wording of an error. -/
def ConfigError.message : ConfigError → String
  | .missingFields fields => "Missing required fields: " ++ ", ".intercalate (fields.map (·.key))
  | .malformedUri field value reason =>
    "Malformed URI in " ++ field.key ++ ": " ++ value ++ " (" ++ reason.message ++ ")"
  | .provider name source => "Provider '" ++ name ++ "': " ++ source.message
  | .load fault => "Configuration load failed: " ++ fault.message

end GrantConfig
