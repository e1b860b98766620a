import GrantConfig.Proofs.Fields
import GrantConfig.Proofs.OverlayChecks

/-!
# Which field a request blames

Every request makes its demands of the fields of a provider in a fixed order, and the first one
that is not met decides its error. So an error names one field that the request needs, and tells
the truth about it, and neither a state, a code or a token nor any other field has an influence
on it.
-/

namespace GrantConfig.Provider

/-- What a request demands of a field: a text that is not blank, or that it is an absolute URI with
a host if it is not blank. -/
inductive Demand where
  | text (field : Field)
  | uri (field : Field)
deriving DecidableEq, Repr

namespace Demand

/-- The field of a demand. -/
def field : Demand → Field
  | text field => field
  | uri field => field

/-- The error of a demand, unless the provider meets it. -/
def error? (p : Provider) : Demand → Option ConfigError
  | text field => if p.Holds field then none else some (.missingFields [field])
  | uri field =>
    match nonBlank? (p.text? field) with
    | none => none
    | some value =>
      match parseUri field value with
      | .ok _ => none
      | .error e => some e

end Demand

namespace Demand

variable {p q : Provider} {e : ConfigError}

/-- An error that tells of a demand what the provider has there: nothing but blanks, or a text that
is no absolute URI with a host. -/
inductive Blames (p : Provider) : Demand → ConfigError → Prop where
  | missing {field : Field} (blank : nonBlank? (p.text? field) = none) :
      Blames p (text field) (.missingFields [field])
  | malformed {field : Field} {value : String} {reason : Uri.Fault}
      (configured : nonBlank? (p.text? field) = some value)
      (refused : parseUri field value = .error (.malformedUri field value reason)) :
      Blames p (uri field) (.malformedUri field value reason)

/-- The error of a demand that is not met blames it. -/
theorem blames_of_error? {demand : Demand} (h : demand.error? p = some e) : demand.Blames p e := by
  cases demand with
  | text field =>
    rw [error?] at h
    split at h
    · cases h
    · next hblank =>
      cases h
      exact .missing (not_holds_iff.mp hblank)
  | uri field =>
    simp only [error?] at h
    split at h
    · cases h
    · next value hvalue =>
      split at h
      · cases h
      · next refusal hrefused =>
        cases h
        obtain ⟨reason, _, rfl⟩ := mapError_eq_error.mp hrefused
        exact .malformed hvalue hrefused

/-- A demand looks at the text of its field alone. -/
theorem error?_congr {demand : Demand} (h : p.text? demand.field = q.text? demand.field) :
    demand.error? p = demand.error? q := by
  cases demand with
  | text field =>
    have hholds : p.Holds field ↔ q.Holds field := by
      rw [Holds, Holds, show p.text? field = q.text? field from h]
    simp only [error?, hholds]
  | uri field => rw [error?, error?, show p.text? field = q.text? field from h]

end Demand

/-- The error of the first demand that a provider does not meet. -/
def firstError? (p : Provider) (demands : List Demand) : Option ConfigError :=
  demands.findSome? (Demand.error? p)

/-- An outcome is an error exactly when some demand is not met, and that of the first such one. -/
def FailsBy {α : Type} (p : Provider) (demands : List Demand) (outcome : Except ConfigError α) :
    Prop :=
  ∀ e, outcome = .error e ↔ p.firstError? demands = some e

variable {α β : Type} {p : Provider} {field : Field} {value : String} {e : ConfigError}

/-! ## Demands of the steps of a request -/

/-- What has no demands succeeds. -/
theorem failsBy_ok (a : α) : FailsBy p [] (.ok a) := by
  intro e
  simp [firstError?]

/-- Steps in a row make their demands in a row. -/
theorem FailsBy.bind {demands more : List Demand} {x : Except ConfigError α}
    {f : α → Except ConfigError β} (hx : FailsBy p demands x)
    (hf : ∀ a, x = .ok a → FailsBy p more (f a)) : FailsBy p (demands ++ more) (x >>= f) := by
  intro e
  rw [firstError?, List.findSome?_append, ← firstError?, ← firstError?]
  cases x with
  | error d =>
    change Except.error d = Except.error e ↔ _
    rw [(hx d).mp rfl, Option.some_or, Except.error.injEq, Option.some.injEq]
  | ok a =>
    have hmet : p.firstError? demands = none := by
      refine Option.eq_none_iff_forall_ne_some.mpr fun d hd => ?_
      cases (hx d).mpr hd
    rw [hmet, Option.none_or]
    exact hf a rfl e

/-- What is made of the result fails by the same demands. -/
theorem FailsBy.map {demands : List Demand} {x : Except ConfigError α} (h : FailsBy p demands x)
    (f : α → β) : FailsBy p demands (x.map f) := by
  intro e
  rw [← h e]
  cases x with
  | error d => simp [Except.map]
  | ok a => simp [Except.map]

/-- A text that is required fails by the demand for it. -/
theorem failsBy_require (p : Provider) (field : Field) :
    FailsBy p [.text field] (p.require field) := by
  intro e
  rw [firstError?, List.findSome?_singleton, Demand.error?, require]
  cases hvalue : nonBlank? (p.text? field) with
  | none => simp [not_holds_iff.mpr hvalue]
  | some value => simp [show p.Holds field from ⟨value, hvalue⟩]

/-- An address that is given fails by the demand that it is well formed. -/
theorem failsBy_parseUri (field : Field) (h : nonBlank? (p.text? field) = some value) :
    FailsBy p [.uri field] (parseUri field value) := by
  intro e
  simp only [firstError?, List.findSome?_singleton, Demand.error?, h]
  cases parseUri field value <;> simp

/-- Nothing is demanded of a blank text that may be missing. -/
theorem failsBy_of_blank (field : Field) (h : nonBlank? (p.text? field) = none) (a : α) :
    FailsBy p [.uri field] (.ok a) := by
  intro e
  simp [firstError?, Demand.error?, h]

/-- An address that is required fails by the demands for it and for its form. -/
theorem failsBy_requireUri (p : Provider) (field : Field) :
    FailsBy p [.text field, .uri field] (p.requireUri field) :=
  (failsBy_require p field).bind fun _ hvalue => failsBy_parseUri field (require_eq_ok.mp hvalue)

/-! ## Demands of the requests -/

/-- What a consent request demands, in order. -/
def consentDemands : List Demand :=
  [.text .codePath, .uri .codePath, .text .clientId, .text .redirectUri, .uri .redirectUri]

/-- What the exchange of a code demands, in order. Its redirect URI may be missing. -/
def exchangeDemands : List Demand :=
  [.text .tokenPath, .uri .tokenPath, .text .clientId, .uri .redirectUri]

/-- What the question for the profile demands, in order. -/
def profileDemands : List Demand := [.text .userInfoPath, .uri .userInfoPath]

/-- The address of the consent page fails by its demands, in their order. -/
theorem failsBy_authorizationUrl (p : Provider) (state : String) :
    FailsBy p consentDemands (p.authorizationUrl state) := by
  refine (failsBy_requireUri p .codePath).bind fun endpoint _ => ?_
  refine (failsBy_require p .clientId).bind fun clientId _ => ?_
  refine (failsBy_require p .redirectUri).bind fun redirectUri hredirect => ?_
  exact (failsBy_parseUri .redirectUri (require_eq_ok.mp hredirect)).bind fun _ _ => failsBy_ok _

/-- The parts of the token request fail by its demands, in their order. -/
theorem failsBy_exchangeParts (p : Provider) : FailsBy p exchangeDemands p.exchangeParts := by
  refine (failsBy_requireUri p .tokenPath).bind fun endpoint _ => ?_
  refine (failsBy_require p .clientId).bind fun clientId _ => ?_
  cases hredirect : nonBlank? p.redirectUri with
  | none => exact failsBy_of_blank .redirectUri hredirect _
  | some uri => exact (failsBy_parseUri .redirectUri hredirect).map _

/-- So does the token request, whatever the code is. -/
theorem failsBy_tokenRequest (p : Provider) (code : String) :
    FailsBy p exchangeDemands (p.tokenRequest code) := by
  rw [tokenRequest_eq]
  exact (failsBy_exchangeParts p).map _

/-- So does the request for the user's profile, whatever the token is. -/
theorem failsBy_userInfoRequest (p : Provider) (token : String) :
    FailsBy p profileDemands (p.userInfoRequest token) :=
  (failsBy_requireUri p .userInfoPath).bind fun _ _ => failsBy_ok _

/-! ## Fields without influence -/

/-- A field that no demand is about does not matter to the first error. -/
theorem firstError?_set (p : Provider) {field : Field} (content : field.Content)
    {demands : List Demand} (h : field ∉ demands.map Demand.field) :
    (p.set field content).firstError? demands = p.firstError? demands := by
  induction demands with
  | nil => rfl
  | cons demand rest ih =>
    rw [List.map_cons, List.mem_cons, not_or] at h
    obtain ⟨hself, hrest⟩ := h
    have hsame : demand.error? (p.set field content) = demand.error? p :=
      Demand.error?_congr (text?_set_of_ne p content (Ne.symm hself))
    rw [firstError?, firstError?, List.findSome?_cons, List.findSome?_cons, hsame, ← firstError?,
      ← firstError?, ih hrest]

/-- A request fails only by blaming a field that it demands something of, whatever its argument is
and whatever else the provider holds, and no field has an influence on it that it neither demands
something of nor carries. -/
structure BlamesDemanded {α : Type} (request : Provider → String → Except ConfigError α)
    (demands : List Demand) (carried : List Field) : Prop where
  /-- The first demand that is not met decides the error. -/
  first : ∀ p x e, request p x = .error e ↔ p.firstError? demands = some e
  missing : ∀ p x fields, request p x = .error (.missingFields fields) →
    ∃ field, .text field ∈ demands ∧ fields = [field] ∧ field ∈ p.missingFields
  malformed : ∀ p x field value reason, request p x = .error (.malformedUri field value reason) →
    .uri field ∈ demands ∧ p.text? field = some value ∧ Text.isBlank value = false ∧
      parseUri field value = .error (.malformedUri field value reason)
  nothingElse : ∀ p x e, request p x = .error e →
    (∃ fields, e = .missingFields fields) ∨
      ∃ field value reason, e = .malformedUri field value reason
  anyArgument : ∀ p x y e, request p x = .error e ↔ request p y = .error e
  undemanded : ∀ p field content x e, field ∉ demands.map Demand.field →
    (request (p.set field content) x = .error e ↔ request p x = .error e)
  unused : ∀ p field content x, field ∉ demands.map Demand.field → field ∉ carried →
    request (p.set field content) x = request p x

/-- The demands of a request settle which errors it can have. Which other fields it carries has to
be seen from the request itself. -/
theorem blamesDemanded_of_failsBy {request : Provider → String → Except ConfigError α}
    {demands : List Demand} {carried : List Field}
    (hrequired : ∀ demand ∈ demands, demand.field ∈ Field.required)
    (hfails : ∀ p x, FailsBy p demands (request p x))
    (hunused : ∀ p field content x, field ∉ demands.map Demand.field → field ∉ carried →
      request (p.set field content) x = request p x) :
    BlamesDemanded request demands carried := by
  have hblames : ∀ p x e, request p x = .error e → ∃ demand ∈ demands, demand.Blames p e := by
    intro p x e he
    obtain ⟨demand, hdemand, herror⟩ := List.exists_of_findSome?_eq_some ((hfails p x e).mp he)
    exact ⟨demand, hdemand, Demand.blames_of_error? herror⟩
  constructor
  case first => exact hfails
  case missing =>
    intro p x fields he
    obtain ⟨demand, hdemand, hblame⟩ := hblames p x _ he
    cases hblame with
    | missing hblank =>
      exact ⟨_, hdemand, rfl, mem_missingFields.mpr ⟨hrequired _ hdemand, hblank⟩⟩
  case malformed =>
    intro p x field value reason he
    obtain ⟨demand, hdemand, hblame⟩ := hblames p x _ he
    cases hblame with
    | malformed hconfigured hrefused =>
      obtain ⟨htext, hnonblank⟩ := nonBlank?_eq_some.mp hconfigured
      exact ⟨hdemand, htext, hnonblank, hrefused⟩
  case nothingElse =>
    intro p x e he
    obtain ⟨demand, _, hblame⟩ := hblames p x e he
    cases hblame with
    | missing => exact .inl ⟨_, rfl⟩
    | malformed => exact .inr ⟨_, _, _, rfl⟩
  case anyArgument =>
    intro p x y e
    rw [hfails p x e, hfails p y e]
  case undemanded =>
    intro p field content x e hfield
    rw [hfails, hfails, firstError?_set p content hfield]
  case unused => exact hunused

/-- Each of the three requests blames only what it demands, and uses nothing but that and what it
carries. -/
theorem requests_blame_demanded :
    BlamesDemanded authorizationUrl consentDemands [.scopes, .extraParams] ∧
      BlamesDemanded tokenRequest exchangeDemands [.clientSecret] ∧
      BlamesDemanded userInfoRequest profileDemands [] := by
  refine ⟨?_, ?_, ?_⟩
  · refine blamesDemanded_of_failsBy (by decide) failsBy_authorizationUrl ?_
    intro p field content state hdemanded hcarried
    cases field with
    | clientSecret | tokenPath | userInfoPath => rfl
    | codePath | clientId | redirectUri => exact absurd (by decide) hdemanded
    | scopes | extraParams => exact absurd (by decide) hcarried
  · refine blamesDemanded_of_failsBy (by decide) failsBy_tokenRequest ?_
    intro p field content code hdemanded hcarried
    cases field with
    | codePath | userInfoPath | scopes | extraParams => rfl
    | tokenPath | clientId | redirectUri => exact absurd (by decide) hdemanded
    | clientSecret => exact absurd (by decide) hcarried
  · refine blamesDemanded_of_failsBy (by decide) failsBy_userInfoRequest ?_
    intro p field content token hdemanded _
    cases field with
    | userInfoPath => exact absurd (by decide) hdemanded
    | clientId | clientSecret | redirectUri | tokenPath | codePath | scopes | extraParams => rfl

end GrantConfig.Provider
