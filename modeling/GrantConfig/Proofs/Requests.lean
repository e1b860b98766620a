import GrantConfig.Proofs.Outcome
import GrantConfig.Provider.Request

/-!
# When checks and requests succeed

The check of a whole provider and the three requests look at the same fields on paths of their
own. Here each of them is given by the fields it needs: a required text must not be blank, and a
URI must parse. The redirect URI is optional for the exchange of a code, where it is still parsed
if it is not blank. All conditions speak of the provider alone, never of a state, a code or a token.
-/

namespace GrantConfig

namespace Provider

/-- A field holds a text that is not blank. -/
def Holds (p : Provider) (field : Field) : Prop := ∃ value, nonBlank? (p.text? field) = some value

/-- A field holds an absolute URI with a host. -/
def HoldsUri (p : Provider) (field : Field) : Prop :=
  ∃ value uri, nonBlank? (p.text? field) = some value ∧ Uri.parse value = .ok uri

/-- A well-formed address is no blank text. -/
theorem HoldsUri.holds {p : Provider} {field : Field} (h : p.HoldsUri field) : p.Holds field := by
  obtain ⟨value, _, hvalue, _⟩ := h
  exact ⟨value, hvalue⟩

instance (p : Provider) (field : Field) : Decidable (p.Holds field) :=
  decidable_of_iff _ Option.isSome_iff_exists

/-- A field is not held exactly when its text is missing or blank. -/
theorem not_holds_iff {p : Provider} {field : Field} :
    ¬p.Holds field ↔ nonBlank? (p.text? field) = none := by
  rw [Holds, ← Option.isSome_iff_exists, Bool.not_eq_true, Option.isSome_eq_false_iff,
    Option.isNone_iff_eq_none]

/-- What is not blank is the configured text itself. -/
theorem nonBlank?_eq_some {value : Option String} {s : String} :
    nonBlank? value = some s ↔ value = some s ∧ Text.isBlank s = false := by
  simp [nonBlank?, Option.filter_eq_some_iff]

/-- A field is required with success exactly when its text is not blank. -/
theorem require_eq_ok {p : Provider} {field : Field} {value : String} :
    p.require field = .ok value ↔ nonBlank? (p.text? field) = some value := by
  rw [require]
  split <;> simp [*]

/-- An address is parsed with success exactly when it is well formed. -/
theorem parseUri_eq_ok {field : Field} {value : String} {uri : Uri} :
    parseUri field value = .ok uri ↔ Uri.parse value = .ok uri := mapError_eq_ok

/-- An address is required with success exactly when it is there and well formed. -/
theorem requireUri_eq_ok {p : Provider} {field : Field} {uri : Uri} :
    p.requireUri field = .ok uri ↔
      ∃ value, nonBlank? (p.text? field) = some value ∧ Uri.parse value = .ok uri := by
  simp only [requireUri, bind_eq_ok, require_eq_ok, parseUri_eq_ok]

/-- That is to say that it is held. -/
theorem exists_requireUri_iff {p : Provider} {field : Field} :
    (∃ uri, p.requireUri field = .ok uri) ↔ p.HoldsUri field := by
  simp only [requireUri_eq_ok]
  exact exists_comm

instance (p : Provider) (field : Field) : Decidable (p.HoldsUri field) :=
  decidable_of_iff ((p.requireUri field).toOption.isSome = true) <| by
    rw [← exists_requireUri_iff]
    cases p.requireUri field <;> simp [Except.toOption]

/-- What is missing is what is required and not held. -/
theorem missingFields_eq (p : Provider) :
    p.missingFields = Field.required.filter fun field => ¬p.Holds field := by
  refine List.filter_congr fun field _ => ?_
  rw [Bool.eq_iff_iff, decide_eq_true_eq, not_holds_iff, Option.isNone_iff_eq_none]

/-- No field is missing exactly when every required one holds a text that is not blank. -/
theorem missingFields_eq_nil {p : Provider} :
    p.missingFields = [] ↔ ∀ field ∈ Field.required, p.Holds field := by
  simp only [missingFields_eq, List.filter_eq_nil_iff, decide_eq_true_eq, Decidable.not_not]

/-- A check of URIs passes over fields that are unset and stops at none that parses. -/
theorem validateUris_eq_ok {p : Provider} {fields : List Field} :
    p.validateUris fields = .ok () ↔
      ∀ field ∈ fields, ∀ value, p.text? field = some value → ∃ uri, Uri.parse value = .ok uri := by
  induction fields with
  | nil => simp [validateUris]
  | cons field rest ih =>
    rw [validateUris, List.forall_mem_cons, ← ih]
    split
    · next hunset => simp [hunset]
    · next value hset => simp [hset, bind_eq_ok, parseUri_eq_ok]

/-- Validation asks for the client id and for four URIs. -/
theorem validate_eq_ok {p : Provider} :
    p.validate = .ok () ↔ p.Holds .clientId ∧ ∀ field ∈ Field.uris, p.HoldsUri field := by
  have hsame : Field.required = .clientId :: Field.uris := rfl
  have hcheck : p.validate = .ok () ↔
      p.missingFields = [] ∧ p.validateUris Field.uris = .ok () := by
    rw [validate]
    split <;> simp_all
  rw [hcheck, missingFields_eq_nil, validateUris_eq_ok, hsame, List.forall_mem_cons, and_assoc]
  refine and_congr_right fun _ => ⟨fun h field hmem => ?_, fun h => ⟨fun field hmem => ?_, ?_⟩⟩
  · obtain ⟨value, hvalue⟩ := h.1 field hmem
    obtain ⟨uri, huri⟩ := h.2 field hmem value (nonBlank?_eq_some.1 hvalue).1
    exact ⟨value, uri, hvalue, huri⟩
  · exact (h field hmem).holds
  · intro field hmem value hset
    obtain ⟨found, uri, hfound, huri⟩ := h field hmem
    have hsame : found = value := Option.some.inj ((nonBlank?_eq_some.1 hfound).1 ▸ hset)
    exact ⟨uri, hsame ▸ huri⟩

/-- What a consent request is made of, whenever there is one. -/
theorem authorizationUrl_eq_ok {p : Provider} {state : String} {u : Uri} :
    p.authorizationUrl state = .ok u ↔
      ∃ code endpoint clientId redirectUri,
        (nonBlank? p.codePath = some code ∧ Uri.parse code = .ok endpoint) ∧
        nonBlank? p.clientId = some clientId ∧
        (nonBlank? p.redirectUri = some redirectUri ∧ ∃ uri, Uri.parse redirectUri = .ok uri) ∧
        endpoint.appendPairs (p.consentParams clientId redirectUri state) = u := by
  simp only [authorizationUrl, bind_eq_ok, requireUri_eq_ok, require_eq_ok, parseUri_eq_ok, text?,
    pure, Except.pure, Except.ok.injEq]
  constructor
  · intro h
    obtain ⟨endpoint, ⟨code, hcode, hparse⟩, clientId, hid, h⟩ := h
    obtain ⟨redirectUri, hredirect, uri, huri, hu⟩ := h
    exact ⟨code, endpoint, clientId, redirectUri, ⟨hcode, hparse⟩, hid, ⟨hredirect, uri, huri⟩, hu⟩
  · intro h
    obtain ⟨code, endpoint, clientId, redirectUri, h⟩ := h
    obtain ⟨⟨hcode, hparse⟩, hid, ⟨hredirect, uri, huri⟩, hu⟩ := h
    exact ⟨endpoint, ⟨code, hcode, hparse⟩, clientId, hid, redirectUri, hredirect, uri, huri, hu⟩

/-- A consent request needs the endpoint, the client id and the redirect URI. -/
theorem exists_authorizationUrl_iff {p : Provider} {state : String} :
    (∃ u, p.authorizationUrl state = .ok u) ↔
      p.HoldsUri .codePath ∧ p.Holds .clientId ∧ p.HoldsUri .redirectUri := by
  simp only [authorizationUrl_eq_ok]
  constructor
  · intro h
    obtain ⟨_, code, endpoint, clientId, redirectUri, hcode, hid, ⟨hredirect, uri, huri⟩, _⟩ := h
    exact ⟨⟨code, endpoint, hcode⟩, ⟨clientId, hid⟩, ⟨redirectUri, uri, hredirect, huri⟩⟩
  · intro h
    obtain ⟨⟨code, endpoint, hcode⟩, ⟨clientId, hid⟩, ⟨redirectUri, uri, hredirect, huri⟩⟩ := h
    exact ⟨_, code, endpoint, clientId, redirectUri, hcode, hid, ⟨hredirect, uri, huri⟩, rfl⟩

/-- What the exchange of a code is made of, whenever there is one. -/
theorem tokenRequest_eq_ok {p : Provider} {code : String} {r : TokenRequest} :
    p.tokenRequest code = .ok r ↔
      ∃ path endpoint clientId,
        (nonBlank? p.tokenPath = some path ∧ Uri.parse path = .ok endpoint) ∧
        nonBlank? p.clientId = some clientId ∧
        (∀ redirectUri, nonBlank? p.redirectUri = some redirectUri →
          ∃ uri, Uri.parse redirectUri = .ok uri) ∧
        r = {
          endpoint
          form := [("grant_type", "authorization_code"), ("code", code), ("client_id", clientId)] ++
            p.usableSecret?.toList.map (fun secret => ("client_secret", secret)) ++
            (nonBlank? p.redirectUri).toList.map fun uri => ("redirect_uri", uri) } := by
  simp only [tokenRequest, bind_eq_ok, requireUri_eq_ok, require_eq_ok, text?, pure, Except.pure]
  constructor
  · intro h
    obtain ⟨endpoint, ⟨path, hpath, hparse⟩, clientId, hid, hr⟩ := h
    refine ⟨path, endpoint, clientId, ⟨hpath, hparse⟩, hid, ?_⟩
    cases hset : nonBlank? p.redirectUri with
    | none =>
      rw [hset] at hr
      cases hr
      exact ⟨fun found hfound => absurd hfound (by simp), rfl⟩
    | some redirectUri =>
      rw [hset] at hr
      obtain ⟨uri, huri, hform⟩ := bind_eq_ok.1 hr
      cases hform
      refine ⟨fun found hfound => ?_, rfl⟩
      cases hfound
      exact ⟨uri, parseUri_eq_ok.1 huri⟩
  · intro h
    obtain ⟨path, endpoint, clientId, ⟨hpath, hparse⟩, hid, hredirect, rfl⟩ := h
    refine ⟨endpoint, ⟨path, hpath, hparse⟩, clientId, hid, ?_⟩
    cases hset : nonBlank? p.redirectUri with
    | none => rfl
    | some redirectUri =>
      obtain ⟨uri, huri⟩ := hredirect redirectUri hset
      exact bind_eq_ok.2 ⟨uri, parseUri_eq_ok.2 huri, rfl⟩

/-- What the exchange of a code takes from a provider besides its secret. -/
structure ExchangeParts where
  endpoint : Uri
  clientId : String
  redirectUri : Option String

/-- The exchange of a code with a secret, if there is one. -/
def ExchangeParts.request (parts : ExchangeParts) (secret : Option String) (code : String) :
    TokenRequest where
  endpoint := parts.endpoint
  form :=
    [("grant_type", "authorization_code"), ("code", code), ("client_id", parts.clientId)] ++
      secret.toList.map (fun secret => ("client_secret", secret)) ++
      parts.redirectUri.toList.map fun uri => ("redirect_uri", uri)

/-- The parts of an exchange that a provider configures. -/
def exchangeParts (p : Provider) : Except ConfigError ExchangeParts := do
  let endpoint ← p.requireUri .tokenPath
  let clientId ← p.require .clientId
  match nonBlank? p.redirectUri with
  | some uri => (parseUri .redirectUri uri).map fun _ => ⟨endpoint, clientId, some uri⟩
  | none => return ⟨endpoint, clientId, none⟩

/-- Whether there is a token request, and which error there is else, is decided before the secret
and the code come in. -/
theorem tokenRequest_eq (p : Provider) (code : String) :
    p.tokenRequest code = p.exchangeParts.map fun parts => parts.request p.usableSecret? code := by
  rw [tokenRequest, exchangeParts]
  cases p.requireUri .tokenPath with
  | error e => rfl
  | ok endpoint =>
    cases p.require .clientId with
    | error e => rfl
    | ok clientId =>
      cases nonBlank? p.redirectUri with
      | none => rfl
      | some uri =>
        cases hparse : parseUri .redirectUri uri with
        | error e => simp [hparse, bind, Except.bind, Except.map]
        | ok _ =>
          simp [hparse, bind, Except.bind, Except.map, ExchangeParts.request, pure, Except.pure]

/-- The exchange of a code needs the endpoint and the client id, and a redirect URI that parses
unless it is unset or blank. -/
theorem exists_tokenRequest_iff {p : Provider} {code : String} :
    (∃ r, p.tokenRequest code = .ok r) ↔
      p.HoldsUri .tokenPath ∧ p.Holds .clientId ∧
        (p.Holds .redirectUri → p.HoldsUri .redirectUri) := by
  simp only [tokenRequest_eq_ok]
  constructor
  · intro h
    obtain ⟨_, path, endpoint, clientId, hpath, hid, hredirect, _⟩ := h
    refine ⟨⟨path, endpoint, hpath⟩, ⟨clientId, hid⟩, ?_⟩
    intro h
    obtain ⟨redirectUri, hset⟩ := h
    obtain ⟨uri, huri⟩ := hredirect redirectUri hset
    exact ⟨redirectUri, uri, hset, huri⟩
  · intro h
    obtain ⟨⟨path, endpoint, hpath⟩, ⟨clientId, hid⟩, hredirect⟩ := h
    refine ⟨_, path, endpoint, clientId, hpath, hid, fun redirectUri hset => ?_, rfl⟩
    obtain ⟨found, uri, hfound, huri⟩ := hredirect ⟨redirectUri, hset⟩
    cases hset.symm.trans hfound
    exact ⟨uri, huri⟩

/-- The question for the profile needs its endpoint alone. -/
theorem exists_userInfoRequest_iff {p : Provider} {token : String} :
    (∃ r, p.userInfoRequest token = .ok r) ↔ p.HoldsUri .userInfoPath := by
  simp only [userInfoRequest, bind_eq_ok, requireUri_eq_ok, pure, Except.pure]
  constructor
  · intro h
    obtain ⟨_, endpoint, ⟨value, hvalue, huri⟩, _⟩ := h
    exact ⟨value, endpoint, hvalue, huri⟩
  · intro h
    obtain ⟨value, endpoint, hvalue, huri⟩ := h
    exact ⟨_, endpoint, ⟨value, hvalue, huri⟩, rfl⟩

/-- A provider is valid exactly when all three requests can be made, whatever the state, the code
and the token are. -/
theorem validate_iff_requests (p : Provider) (state code token : String) :
    p.validate = .ok () ↔
      (∃ u, p.authorizationUrl state = .ok u) ∧ (∃ r, p.tokenRequest code = .ok r) ∧
        ∃ r, p.userInfoRequest token = .ok r := by
  rw [validate_eq_ok, exists_authorizationUrl_iff, exists_tokenRequest_iff,
    exists_userInfoRequest_iff]
  simp only [Field.uris, List.forall_mem_cons]
  constructor
  · intro h
    obtain ⟨hid, hredirect, htoken, hcode, hinfo, _⟩ := h
    exact ⟨⟨hcode, hid, hredirect⟩, ⟨htoken, hid, fun _ => hredirect⟩, hinfo⟩
  · intro h
    obtain ⟨⟨hcode, hid, hredirect⟩, ⟨htoken, _, _⟩, hinfo⟩ := h
    exact ⟨hid, hredirect, htoken, hcode, hinfo, List.forall_mem_nil _⟩

end Provider

end GrantConfig
