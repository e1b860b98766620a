import GrantConfig.Proofs.OverlayChecks
import GrantConfig.Settings.Basic

/-!
# Settings resolved against presets

Resolving settings keeps their names. A provider whose name stands for a preset is laid over the
defaults of that preset, whichever spelling the name has, and every other provider stays as it is.
Resolving once more changes nothing, and valid settings stay valid, since an overlay never takes
away a text that is not blank.
-/

namespace GrantConfig

namespace Preset

/-- A name stands for a preset when both are the same text in some ASCII letter case, but for the
blanks around the name. -/
def IsNamed (preset : Preset) (name : String) : Prop :=
  (Text.trim name).toList.map Char.toLower = preset.name.toList.map Char.toLower

/-- The preset of a name is the one that the name stands for. -/
theorem ofName?_eq_some_iff {name : String} {preset : Preset} :
    ofName? name = some preset ↔ preset.IsNamed name := by
  have hlower : preset.name.toList.map Char.toLower = preset.name.toList := by
    cases preset <;> decide
  rw [IsNamed, hlower]
  constructor
  · intro h
    simpa using List.find?_some h
  · intro h
    simp only [ofName?, h]
    cases preset <;> decide

/-- A name that is found for no preset is the name of none. -/
theorem ofName?_eq_none_iff {name : String} :
    ofName? name = none ↔ ∀ preset : Preset, ¬preset.IsNamed name := by
  simp only [← ofName?_eq_some_iff, ← Option.eq_none_iff_forall_ne_some]

end Preset

namespace Settings

/-! ## Providers by name -/

/-- Entries are valid exactly when each of them is. -/
theorem validateEntries_eq_ok {entries : List (String × Provider)} :
    validateEntries entries = .ok () ↔ ∀ entry ∈ entries, entry.2.validate = .ok () := by
  induction entries with
  | nil => simp [validateEntries]
  | cons first rest ih =>
    obtain ⟨name, p⟩ := first
    rw [validateEntries, List.forall_mem_cons, ← ih]
    cases p.validate <;> simp

/-- Settings are valid when all of their providers are. -/
theorem validate_eq_ok {s : Settings} :
    s.validate = .ok () ↔ ∀ name p, s.provider? name = some p → p.validate = .ok () := by
  rw [validate, validateEntries_eq_ok]
  constructor
  · intro h name p hp
    exact h (name, p) (SortedMap.find?_eq_some_iff.mp hp)
  · intro h entry hentry
    exact h entry.1 entry.2 (SortedMap.find?_eq_some_iff.mpr hentry)

/-- Each provider is resolved by its own name. -/
theorem provider?_withPresets (s : Settings) (name : String) :
    s.withPresets.provider? name = (s.provider? name).map (resolve name) :=
  SortedMap.find?_mapEntries _ _ _

/-- A provider that has the name of a preset is laid over its defaults. -/
theorem resolve_of_isNamed {name : String} {preset : Preset} (h : preset.IsNamed name)
    (p : Provider) : resolve name p = p.overlay preset.defaults := by
  rw [resolve, Preset.ofName?_eq_some_iff.mpr h]
  rfl

/-- Any other provider stays what it is. -/
theorem resolve_of_not_isNamed {name : String} (h : ∀ preset : Preset, ¬preset.IsNamed name)
    (p : Provider) : resolve name p = p := by
  rw [resolve, Preset.ofName?_eq_none_iff.mpr h]

/-- Defaults that have been applied once add nothing the second time. -/
theorem resolve_resolve (name : String) (p : Provider) :
    resolve name (resolve name p) = resolve name p := by
  cases h : Preset.ofName? name with
  | none => simp only [resolve, h]
  | some preset =>
    simp only [resolve, h, Provider.withPreset]
    rw [Provider.overlay_overlay, Provider.overlay_same]

/-- A valid provider stays valid. -/
theorem validate_resolve (name : String) {p : Provider} (h : p.validate = .ok ()) :
    (resolve name p).validate = .ok () := by
  unfold resolve
  split
  · exact Provider.validate_overlay h _
  · exact h

/-- Resolving keeps all names and lays exactly the providers of preset names over the defaults of
their presets. Doing it twice is doing it once, and valid settings stay valid. -/
theorem withPresets_resolves_by_name (s : Settings) :
    s.withPresets.names = s.names ∧
      (∀ name p, s.provider? name = some p →
        (∀ preset : Preset, preset.IsNamed name →
          s.withPresets.provider? name = some (p.overlay preset.defaults)) ∧
        ((∀ preset : Preset, ¬preset.IsNamed name) → s.withPresets.provider? name = some p)) ∧
      s.withPresets.withPresets = s.withPresets ∧
      (s.validate = .ok () → s.withPresets.validate = .ok ()) := by
  refine ⟨SortedMap.keys_mapEntries _ _, ?_, ?_, ?_⟩
  · intro name p hp
    rw [provider?_withPresets, hp, Option.map_some]
    constructor
    · intro preset hnamed
      rw [resolve_of_isNamed hnamed]
    · intro hnone
      rw [resolve_of_not_isNamed hnone]
  · have htwice : s.withPresets.withPresets.providers = s.withPresets.providers := by
      apply SortedMap.ext_find?
      intro name
      change s.withPresets.withPresets.provider? name = s.withPresets.provider? name
      simp only [provider?_withPresets, Option.map_map, Function.comp_def, resolve_resolve]
    exact congrArg Settings.mk htwice
  · intro h
    rw [validate_eq_ok] at h ⊢
    intro name q hq
    rw [provider?_withPresets] at hq
    obtain ⟨p, hp, rfl⟩ := Option.map_eq_some_iff.mp hq
    exact validate_resolve name (h name p hp)

/-- A valid provider with a scope of its own. -/
def scopedProvider (scope : String) : Provider where
  clientId := some "a"
  redirectUri := some "https://app.example/cb"
  tokenPath := some "https://p.example/token"
  codePath := some "https://p.example/authorize"
  userInfoPath := some "https://p.example/me"
  scopes := [scope]

/-- Two spellings of one preset, and a name that is none. -/
def spelledSettings : Settings where
  providers := SortedMap.ofList
    [ (" GOOGLE\t", scopedProvider "email"), ("google", scopedProvider "drive"),
      ("googles", scopedProvider "email") ]

/-- Both spellings are resolved, each under its own name. -/
theorem withPresets_resolves_by_name_spelled :
    spelledSettings.validate = .ok () ∧ spelledSettings.withPresets.validate = .ok () ∧
      spelledSettings.withPresets.names = [" GOOGLE\t", "google", "googles"] ∧
      (spelledSettings.withPresets.provider? " GOOGLE\t").map Provider.scopes =
        some ["openid", "email"] ∧
      (spelledSettings.withPresets.provider? "google").map Provider.scopes =
        some ["openid", "email", "drive"] ∧
      spelledSettings.withPresets.provider? "googles" = some (scopedProvider "email") := by
  obtain ⟨hnames, hproviders, _, hvalid⟩ := withPresets_resolves_by_name spelledSettings
  have hgiven : spelledSettings.validate = .ok () := eq_ok_of_toOption (by decide)
  have hspelled := (hproviders " GOOGLE\t" (scopedProvider "email") (by decide)).1 .google
    (by unfold Preset.IsNamed; decide)
  have hplain := (hproviders "google" (scopedProvider "drive") (by decide)).1 .google
    (by unfold Preset.IsNamed; decide)
  have hother := (hproviders "googles" (scopedProvider "email") (by decide)).2 ?_
  · refine ⟨hgiven, hvalid hgiven, hnames.trans (by decide), ?_, ?_, hother⟩
    · rw [hspelled]
      rfl
    · rw [hplain]
      rfl
  · intro preset
    cases preset <;> unfold Preset.IsNamed <;> decide

end Settings

end GrantConfig
