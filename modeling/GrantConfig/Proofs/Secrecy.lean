import GrantConfig.Proofs.Requests
import GrantConfig.Proofs.Serialization
import GrantConfig.Shared

/-!
# The secret does not show

Two providers that differ in their secrets at most are serialized, checked and asked for consent and
for profiles in the same way, down to the log. Where both have a secret they display the same, and
where both have one that is not blank, or none has, so do their token requests, whatever the codes
are. The token of a profile request does not show either.
-/

namespace GrantConfig

open Text

/-- Two outlines that read the same, on one line and over several. -/
def Text.Outline.ReadsAs (o other : Outline) : Prop :=
  o.compact = other.compact ∧ o.tall = other.tall

/-- Outlines that are the same read the same. -/
theorem Text.Outline.readsAs_of_eq {o other : Outline} (h : o = other) : o.ReadsAs other :=
  ⟨congrArg compact h, congrArg tall h⟩

/-- Options that both have a value, or both have none. -/
theorem rel_true_of_isSome_eq {α β : Type} {x : Option α} {y : Option β}
    (h : x.isSome = y.isSome) : Option.Rel (fun _ _ => True) x y := by
  cases x with
  | none =>
    cases y with
    | none => exact .none
    | some _ => cases h
  | some _ =>
    cases y with
    | none => cases h
    | some _ => exact .some trivial

/-- Related options give the same where related values do. -/
theorem map_eq_map_of_rel {α β γ : Type} {r : α → β → Prop} {x : Option α} {y : Option β}
    {f : α → γ} {g : β → γ} (h : Option.Rel r x y) (hr : ∀ a b, r a b → f a = g b) :
    x.map f = y.map g := by
  cases h with
  | none => rfl
  | some hab => exact congrArg some (hr _ _ hab)

namespace Provider

/-- Two providers that differ in their secrets at most. -/
def SameButSecret (p q : Provider) : Prop := p.withoutSecret = q.withoutSecret

/-- What does not change when the secret is taken away is the same for both providers. -/
theorem SameButSecret.congr {α : Type} {p q : Provider} (h : SameButSecret p q) (f : Provider → α)
    (hf : ∀ p : Provider, f p.withoutSecret = f p) : f p = f q := by
  rw [← hf p, h, hf q]

/-- A provider that differs in the secret is the other one with its own secret. -/
theorem SameButSecret.eq_update {p q : Provider} (h : SameButSecret p q) :
    q = { p with clientSecret := q.clientSecret } :=
  calc q = { q.withoutSecret with clientSecret := q.clientSecret } := rfl
    _ = { p.withoutSecret with clientSecret := q.clientSecret } := by rw [h]
    _ = { p with clientSecret := q.clientSecret } := rfl

/-! ## Checks and requests without the secret -/

/-- Without its secret, a provider has the same other texts. -/
theorem text?_withoutSecret (p : Provider) {field : Field} (h : field ≠ .clientSecret) :
    p.withoutSecret.text? field = p.text? field :=
  @text?_set_of_ne p .clientSecret field none h

/-- So they are required with the same result. -/
theorem require_withoutSecret (p : Provider) {field : Field} (h : field ≠ .clientSecret) :
    p.withoutSecret.require field = p.require field := by
  rw [require, require, p.text?_withoutSecret h]

/-- So are its addresses. -/
theorem requireUri_withoutSecret (p : Provider) {field : Field} (h : field ≠ .clientSecret) :
    p.withoutSecret.requireUri field = p.requireUri field := by
  rw [requireUri, requireUri, p.require_withoutSecret h]

/-- The secret is no field that can be missing. -/
theorem missingFields_withoutSecret (p : Provider) :
    p.withoutSecret.missingFields = p.missingFields := by
  have hrequired : ∀ field ∈ Field.required, field ≠ .clientSecret := by decide
  refine List.filter_congr fun field hfield => ?_
  rw [p.text?_withoutSecret (hrequired field hfield)]

/-- The secret is no address that is checked. -/
theorem validateUris_withoutSecret (p : Provider) {fields : List Field}
    (h : ∀ field ∈ fields, field ≠ .clientSecret) :
    p.withoutSecret.validateUris fields = p.validateUris fields := by
  induction fields with
  | nil => rfl
  | cons field rest ih =>
    obtain ⟨hfield, hrest⟩ := List.forall_mem_cons.mp h
    rw [validateUris, validateUris, p.text?_withoutSecret hfield, ih hrest]

/-- So the checks do not see it. -/
theorem validate_withoutSecret (p : Provider) : p.withoutSecret.validate = p.validate := by
  rw [validate, validate, p.missingFields_withoutSecret,
    p.validateUris_withoutSecret (by decide)]

/-- The address of the consent page does not see it. -/
theorem authorizationUrl_withoutSecret (p : Provider) (state : String) :
    p.withoutSecret.authorizationUrl state = p.authorizationUrl state := by
  rw [authorizationUrl, authorizationUrl, p.requireUri_withoutSecret (by decide),
    p.require_withoutSecret (by decide), p.require_withoutSecret (by decide)]
  rfl

/-- Nor do the lines that tell of that address. -/
theorem loggedAuthorizationUrl_withoutSecret (p : Provider) (state : String) :
    p.withoutSecret.loggedAuthorizationUrl state = p.loggedAuthorizationUrl state := by
  rw [loggedAuthorizationUrl, loggedAuthorizationUrl, p.authorizationUrl_withoutSecret]

/-- Nor does the request for the user's profile. -/
theorem userInfoRequest_withoutSecret (p : Provider) (token : String) :
    p.withoutSecret.userInfoRequest token = p.userInfoRequest token := by
  rw [userInfoRequest, userInfoRequest, p.requireUri_withoutSecret (by decide)]

/-! ## Displays -/

/-- Two providers that differ in their secrets at most, and both have one or none has. -/
structure SameOnDisplay (p q : Provider) : Prop where
  same : SameButSecret p q
  isSome : p.clientSecret.isSome = q.clientSecret.isSome

/-- A secret is shown as being there and not more. -/
theorem SameOnDisplay.outline_eq {p q : Provider} (h : SameOnDisplay p q) :
    p.outline = q.outline := by
  have hshown : (p.clientSecret.map fun _ => redacted) = q.clientSecret.map fun _ => redacted :=
    map_eq_map_of_rel (rel_true_of_isSome_eq h.isSome) fun _ _ _ => rfl
  rw [h.same.eq_update, outline, outline, hshown]

end Provider

namespace Settings

/-- Settings whose providers display the same under every name display the same. -/
theorem outline_eq {s t : Settings}
    (h : ∀ name, Option.Rel Provider.SameOnDisplay (s.provider? name) (t.provider? name)) :
    s.outline = t.outline := by
  have hshown : s.providers.mapEntries (fun _ p => p.outline) =
      t.providers.mapEntries fun _ p => p.outline := by
    refine SortedMap.ext_find? fun name => ?_
    rw [SortedMap.find?_mapEntries, SortedMap.find?_mapEntries]
    exact map_eq_map_of_rel (h name) fun _ _ hsame => hsame.outline_eq
  have hentries := congrArg
    (fun m : SortedMap Outline => m.entries.map fun entry => (Outline.text entry.1, entry.2)) hshown
  simp only [SortedMap.mapEntries, List.map_map, Function.comp_def] at hentries
  rw [outline, outline, hentries]

end Settings

namespace Provider

/-! ## Token requests -/

/-- The parts of the token request do not see the secret. -/
theorem exchangeParts_withoutSecret (p : Provider) :
    p.withoutSecret.exchangeParts = p.exchangeParts := by
  rw [exchangeParts, exchangeParts, p.requireUri_withoutSecret (by decide),
    p.require_withoutSecret (by decide)]
  rfl

/-- A token request shows whether it has a secret, and neither the secret nor the code. -/
theorem outline_request (parts : ExchangeParts) {secret other : Option String}
    (h : secret.isSome = other.isSome) (x y : String) :
    (parts.request secret x).outline = (parts.request other y).outline := by
  cases rel_true_of_isSome_eq h with
  | none => rfl
  | some _ => rfl

/-- Token requests of two providers that have a usable secret both or none of them display the same,
and there are none for the same reason. -/
theorem outline_tokenRequest {p q : Provider} (h : SameButSecret p q)
    (hsecret : p.hasClientSecret = q.hasClientSecret) (x y : String) :
    (p.tokenRequest x).map TokenRequest.outline = (q.tokenRequest y).map TokenRequest.outline := by
  rw [p.tokenRequest_eq, q.tokenRequest_eq, h.congr exchangeParts exchangeParts_withoutSecret]
  cases q.exchangeParts with
  | error e => rfl
  | ok parts => exact congrArg Except.ok (outline_request parts hsecret x y)

/-- A profile request does not show its token. -/
theorem outline_userInfoRequest (p : Provider) (x y : String) :
    (p.userInfoRequest x).map UserInfoRequest.outline =
      (p.userInfoRequest y).map UserInfoRequest.outline := by
  rw [userInfoRequest, userInfoRequest]
  cases p.requireUri .userInfoPath <;> rfl

/-! ## Two providers side by side -/

/-- Two requests are both there and display the same, or both fail with the same error. -/
def AlikeOnDisplay {α : Type} (outline : α → Outline) (r other : Except ConfigError α) : Prop :=
  (∃ a b, r = .ok a ∧ other = .ok b ∧ (outline a).ReadsAs (outline b)) ∨
    ∃ e, r = .error e ∧ other = .error e

/-- Results of which the same outline is made are alike on display. -/
theorem alikeOnDisplay_of_map_eq {α : Type} {outline : α → Outline}
    {r other : Except ConfigError α} (h : r.map outline = other.map outline) :
    AlikeOnDisplay outline r other := by
  rcases map_eq_map_iff.mp h with hvalues | herror
  · obtain ⟨a, b, ha, hb, hsame⟩ := hvalues
    exact .inl ⟨a, b, ha, hb, Outline.readsAs_of_eq hsame⟩
  · exact .inr herror

/-- What two providers give wherever no secret is asked for is the same, down to the lines of the one
call that logs. -/
structure SameOutputs (p q : Provider) : Prop where
  json : p.toJson = q.toJson
  serialized : p.serialized = q.serialized
  missingFields : p.missingFields = q.missingFields
  validate : p.validate = q.validate
  authorizationUrl : ∀ state, p.authorizationUrl state = q.authorizationUrl state
  authorizationLines : ∀ state,
    (p.loggedAuthorizationUrl state).lines = (q.loggedAuthorizationUrl state).lines
  userInfoRequest : ∀ token, p.userInfoRequest token = q.userInfoRequest token

/-- Providers that differ in their secrets have the same outputs. -/
theorem SameButSecret.sameOutputs {p q : Provider} (h : SameButSecret p q) : SameOutputs p q where
  json := h.congr toJson toJson_withoutSecret
  serialized := h.congr serialized fun _ => rfl
  missingFields := h.congr missingFields missingFields_withoutSecret
  validate := h.congr validate validate_withoutSecret
  authorizationUrl state :=
    h.congr (·.authorizationUrl state) (authorizationUrl_withoutSecret · state)
  authorizationLines state :=
    congrArg Logged.lines
      (h.congr (·.loggedAuthorizationUrl state) (loggedAuthorizationUrl_withoutSecret · state))
  userInfoRequest token :=
    h.congr (·.userInfoRequest token) (userInfoRequest_withoutSecret · token)

/-- Two providers that differ in their secrets at most cannot be told apart by their outputs, nor by
displays if both have a secret, nor by displays of token requests if both or none have a usable
one. No display of a profile request tells its token. -/
theorem secret_never_shows (p q : Provider) (h : SameButSecret p q) :
    SameOutputs p q ∧
      (p.clientSecret.isSome → q.clientSecret.isSome →
        p.outline.ReadsAs q.outline ∧ (Shared.outline p).ReadsAs (Shared.outline q)) ∧
      (∀ s t : Settings,
        (∀ name, Option.Rel SameOnDisplay (s.provider? name) (t.provider? name)) →
          s.outline.ReadsAs t.outline) ∧
      (p.hasClientSecret = q.hasClientSecret → ∀ x y,
        AlikeOnDisplay TokenRequest.outline (p.tokenRequest x) (q.tokenRequest y)) ∧
      ∀ x y, AlikeOnDisplay UserInfoRequest.outline (p.userInfoRequest x) (p.userInfoRequest y) := by
  refine ⟨h.sameOutputs, ?_, ?_, ?_, ?_⟩
  · intro hp hq
    have houtline : p.outline = q.outline := SameOnDisplay.outline_eq ⟨h, hp.trans hq.symm⟩
    refine ⟨Outline.readsAs_of_eq houtline, Outline.readsAs_of_eq ?_⟩
    rw [Shared.outline, Shared.outline, houtline]
  · intro s t hproviders
    exact Outline.readsAs_of_eq (Settings.outline_eq hproviders)
  · intro hsecret x y
    exact alikeOnDisplay_of_map_eq (outline_tokenRequest h hsecret x y)
  · intro x y
    exact alikeOnDisplay_of_map_eq (p.outline_userInfoRequest x y)

/-- A provider with everything but a redirect URI, and with some secret. -/
def secretProvider (secret : String) : Provider where
  clientId := some "a"
  clientSecret := some secret
  tokenPath := some "https://p.example/token"
  codePath := some "https://p.example/authorize"
  userInfoPath := some "https://p.example/me"

/-- Two secrets of different lengths, one of which is what is shown in place of a secret. -/
theorem secret_never_shows_redacted :
    SameButSecret (secretProvider "s&code=1") (secretProvider redacted) ∧
      SameOutputs (secretProvider "s&code=1") (secretProvider redacted) ∧
      (secretProvider "s&code=1").outline.ReadsAs (secretProvider redacted).outline ∧
      ∃ r other, (secretProvider "s&code=1").tokenRequest "c" = .ok r ∧
        (secretProvider redacted).tokenRequest "d" = .ok other ∧
          r.outline.ReadsAs other.outline := by
  have hsame : SameButSecret (secretProvider "s&code=1") (secretProvider redacted) := rfl
  obtain ⟨houtputs, hdisplays, _, hrequests, _⟩ := secret_never_shows _ _ hsame
  refine ⟨hsame, houtputs, (hdisplays rfl rfl).1, ?_⟩
  rcases hrequests (by decide) "c" "d" with hvalues | hfails
  · exact hvalues
  · obtain ⟨e, herror, _⟩ := hfails
    have hgiven : ((secretProvider "s&code=1").tokenRequest "c").toOption.isSome = true := by
      decide +kernel
    rw [herror] at hgiven
    cases hgiven

end Provider

end GrantConfig
