import GrantConfig.Provider.Binding
import GrantConfig.Provider.Preset
import GrantConfig.Provider.Display
import GrantConfig.Provider.Serialized
import GrantConfig.Provider.Validation

/-!
# Settings

The providers of an application by their names. Settings bind from JSON and serialize to it,
provider by provider, and are resolved against the presets and validated as a whole.
-/

namespace GrantConfig

/-- The providers of an application. -/
structure Settings where
  providers : SortedMap Provider := ∅
deriving DecidableEq

namespace Settings

/-- The names of the providers in ascending order. -/
def names (s : Settings) : List String := s.providers.keys

/-- A provider by its name. -/
def provider? (s : Settings) (name : String) : Option Provider := s.providers.find? name

/-- A provider laid over the preset of its name, if there is one. -/
def resolve (name : String) (p : Provider) : Provider :=
  match Preset.ofName? name with
  | some preset => p.withPreset preset
  | none => p

/-- Settings whose providers are laid over the presets of their names. -/
def withPresets (s : Settings) : Settings := ⟨s.providers.mapEntries resolve⟩

/-- The lines that tell of the presets being applied. -/
def presetLines (s : Settings) : List LogLine :=
  s.names.filterMap fun name => (Preset.ofName? name).map Preset.logLine

/-- Check providers in order, up to the first that fails. -/
def validateEntries : List (String × Provider) → Except ConfigError Unit
  | [] => .ok ()
  | (name, p) :: rest =>
    match p.validate with
    | .ok _ => validateEntries rest
    | .error e => .error (.provider name e)

/-- Check every provider in the order of names, up to the first that fails. -/
def validate (s : Settings) : Except ConfigError Unit := validateEntries s.providers.entries

/-- The line that tells of a provider that fails. -/
def misconfigured (name : String) (e : ConfigError) : LogLine :=
  ⟨.warn, "OAuth provider '" ++ name ++ "' is misconfigured: " ++ e.message⟩

/-- Validation with the line that tells of the provider that fails. -/
def loggedValidate (s : Settings) : Logged (Except ConfigError Unit) :=
  ⟨s.validate,
    match s.validate with
    | .error (.provider name e) => [misconfigured name e]
    | _ => []⟩

/-- The JSON value of settings. -/
def toJson (s : Settings) : Json :=
  .members
    [("providers", .members (s.providers.entries.map fun entry => (entry.1, entry.2.toJson)))]

/-- Bind the providers of an object, each by its name. -/
def bindEntries (known : SortedMap Provider) :
    List (String × Json) → Except Provider.BindFault (SortedMap Provider)
  | [] => .ok known
  | (name, v) :: rest => do
    let p ← Provider.ofJson v
    bindEntries (known.insert name p) rest

/-- The settings whose providers a JSON value gives. -/
def ofProviders (v : Json) : Except Provider.BindFault Settings :=
  match v with
  | .members entries => (bindEntries ∅ entries).map Settings.mk
  | _ => .error (Provider.mismatch v .map)

/-- The settings that a JSON value gives: an object whose providers may be missing, or a list of
nothing else than the providers. -/
def ofJson (v : Json) : Except Provider.BindFault Settings :=
  match v with
  | .members entries =>
    match List.lookup "providers" entries with
    | some providers => ofProviders providers
    | none => .ok {}
  | .array [] => .ok {}
  | .array (providers :: rest) => do
    let s ← ofProviders providers
    if !rest.isEmpty then throw (.tooLong (rest.length + 1))
    return s
  | _ => .error (Provider.mismatch v .settings)

/-- The outline of settings. -/
def outline (s : Settings) : Text.Outline :=
  .record "OAuthSettings"
    [("providers", .map (s.providers.entries.map fun entry => (.text entry.1, entry.2.outline)))]

end Settings

end GrantConfig
