import GrantConfig.Error
import GrantConfig.Uri.Basic

/-!
# Validation of providers

Nothing is checked when a provider is bound or changed. Whoever drives a flow asks for validation
of the whole provider, or for the single fields that a request needs.
-/

namespace GrantConfig.Provider

/-- The absolute URI with a host that a field holds. -/
def parseUri (field : Field) (value : String) : Except ConfigError Uri :=
  (Uri.parse value).mapError (.malformedUri field value)

/-- The required fields that are unset or blank, in order. -/
def missingFields (p : Provider) : List Field :=
  Field.required.filter fun field => (nonBlank? (p.text? field)).isNone

/-- Check the URIs of some fields, as far as they are set. -/
def validateUris (p : Provider) : List Field → Except ConfigError Unit
  | [] => .ok ()
  | field :: rest =>
    match p.text? field with
    | none => p.validateUris rest
    | some value => do
      let _ ← parseUri field value
      p.validateUris rest

/-- Check that every required field is set and that every URI is one. All missing fields are
reported together, and of malformed URIs the first. -/
def validate (p : Provider) : Except ConfigError Unit :=
  if p.missingFields.isEmpty then p.validateUris Field.uris
  else .error (.missingFields p.missingFields)

/-- The text of a field, which must not be blank. -/
def require (p : Provider) (field : Field) : Except ConfigError String :=
  match nonBlank? (p.text? field) with
  | some value => .ok value
  | none => .error (.missingFields [field])

/-- The URI of a field, which must not be blank. -/
def requireUri (p : Provider) (field : Field) : Except ConfigError Uri := do
  parseUri field (← p.require field)

end GrantConfig.Provider
