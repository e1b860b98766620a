import GrantConfig.Proofs.Entries
import GrantConfig.Proofs.FormEncoding
import GrantConfig.Proofs.Requests

/-!
# What the exchange of a code carries

The form of a token request has its fields in a fixed order, each at most once: the code as it is
given, and the texts of the provider as they are configured, where a secret or a redirect URI that
is unset or blank is left out. Parsing decides only whether there is a request. So the redirect URI
is the very text that the consent URL carries, which is what providers compare.
-/

namespace GrantConfig

/-- The values under a name, in order. -/
def valuesOf (name : String) (pairs : List (String × String)) : List String :=
  (pairs.filter fun pair => pair.1 = name).map Prod.snd

/-- The values under a name in two lists are those of the first, then those of the second. -/
theorem valuesOf_append (name : String) (pairs more : List (String × String)) :
    valuesOf name (pairs ++ more) = valuesOf name pairs ++ valuesOf name more := by
  rw [valuesOf, List.filter_append, List.map_append]
  rfl

@[simp]
theorem valuesOf_nil (name : String) : valuesOf name [] = [] := rfl

/-- The first pair counts when it has the name. -/
theorem valuesOf_cons (name : String) (pair : String × String) (rest : List (String × String)) :
    valuesOf name (pair :: rest) =
      if pair.1 = name then pair.2 :: valuesOf name rest else valuesOf name rest := by
  rw [valuesOf, List.filter_cons]
  split <;> simp_all [valuesOf]

namespace Provider

/-- The field of a form that carries a configured text, unless that text is unset or blank. -/
def carried (p : Provider) (field : Field) (name : String) : List (String × String) :=
  match p.text? field with
  | some value => if Text.isBlank value then [] else [(name, value)]
  | none => []

/-- A field is carried as one pair when it is no blank text. -/
theorem carried_eq (p : Provider) (field : Field) (name : String) :
    p.carried field name = (nonBlank? (p.text? field)).toList.map fun value => (name, value) := by
  rw [carried]
  cases p.text? field with
  | none => rfl
  | some value => cases h : Text.isBlank value <;> simp [nonBlank?, Option.filter, h]

/-- Under its own name it has its value. -/
theorem valuesOf_carried_self (p : Provider) (field : Field) (name : String) :
    valuesOf name (p.carried field name) = (nonBlank? (p.text? field)).toList := by
  rw [carried_eq]
  cases nonBlank? (p.text? field) with
  | none => rfl
  | some value => simp [valuesOf_cons]

/-- It has none under other names. -/
theorem valuesOf_carried_of_ne (p : Provider) (field : Field) {name other : String}
    (h : name ≠ other) : valuesOf other (p.carried field name) = [] := by
  rw [carried_eq]
  cases nonBlank? (p.text? field) with
  | none => rfl
  | some value => simp [valuesOf_cons, h]

/-- The form of a token request for a client. -/
def exchangeForm (p : Provider) (code clientId : String) : List (String × String) :=
  [("grant_type", "authorization_code"), ("code", code), ("client_id", clientId)] ++
    p.carried .clientSecret "client_secret" ++ p.carried .redirectUri "redirect_uri"

/-- No field stands in a form twice. -/
theorem distinctKeys_exchangeForm (p : Provider) (code clientId : String) :
    DistinctKeys (p.exchangeForm code clientId) := by
  rw [exchangeForm, carried_eq, carried_eq]
  cases nonBlank? (p.text? .clientSecret) <;> cases nonBlank? (p.text? .redirectUri) <;> simp

/-- The form of the token request has the configured address under its name. -/
theorem valuesOf_exchangeForm (p : Provider) (code clientId : String) :
    valuesOf "redirect_uri" (p.exchangeForm code clientId) = (nonBlank? p.redirectUri).toList := by
  rw [exchangeForm, valuesOf_append, valuesOf_append, valuesOf_carried_self,
    valuesOf_carried_of_ne p .clientSecret (by decide)]
  simp [valuesOf_cons, text?]

/-- A consent request adds its redirect URI once, and an extra parameter of that name after it. -/
theorem valuesOf_consentParams (p : Provider) (clientId redirectUri state : String) :
    valuesOf "redirect_uri" (p.consentParams clientId redirectUri state) =
      redirectUri :: valuesOf "redirect_uri" p.extraParams.entries := by
  rw [consentParams, valuesOf_append, valuesOf_append]
  split <;> simp [valuesOf_cons]

/-- A token request goes to the configured endpoint with the given code and the configured texts. -/
structure CarriesExchange (p : Provider) (code : String) (r : TokenRequest) : Prop where
  endpoint : ∃ path, p.tokenPath = some path ∧ Uri.parse path = .ok r.endpoint
  form : ∃ clientId, p.clientId = some clientId ∧ r.form = p.exchangeForm code clientId
  distinct : DistinctKeys r.form

/-- A token request has the form of its parts. -/
theorem form_eq_of_tokenRequest {p : Provider} {code : String} {r : TokenRequest}
    (h : p.tokenRequest code = .ok r) :
    ∃ clientId, p.clientId = some clientId ∧ r.form = p.exchangeForm code clientId := by
  obtain ⟨_, _, clientId, _, hid, _, rfl⟩ := tokenRequest_eq_ok.mp h
  refine ⟨clientId, (nonBlank?_eq_some.mp hid).1, ?_⟩
  rw [exchangeForm, carried_eq, carried_eq]
  rfl

/-- A token request carries what is configured. -/
theorem carriesExchange_of_tokenRequest {p : Provider} {code : String} {r : TokenRequest}
    (h : p.tokenRequest code = .ok r) : CarriesExchange p code r := by
  obtain ⟨clientId, hid, hform⟩ := form_eq_of_tokenRequest h
  constructor
  case endpoint =>
    obtain ⟨path, endpoint, _, ⟨hpath, hparse⟩, _, _, rfl⟩ := tokenRequest_eq_ok.mp h
    exact ⟨path, (nonBlank?_eq_some.mp hpath).1, hparse⟩
  case form => exact ⟨clientId, hid, hform⟩
  case distinct =>
    rw [hform]
    exact distinctKeys_exchangeForm p code clientId

/-- A token request and a consent URL of a provider carry the same redirect URI, which is the
configured text. The consent URL has it between those that the endpoint has itself and those that
are extra parameters. -/
def SharesRedirect (p : Provider) (r : TokenRequest) (u : Uri) : Prop :=
  ∃ redirectUri endpoint, p.redirectUri = some redirectUri ∧ p.requireUri .codePath = .ok endpoint ∧
    valuesOf "redirect_uri" r.form = [redirectUri] ∧
    valuesOf "redirect_uri" u.queryPairs =
      valuesOf "redirect_uri" endpoint.queryPairs ++
        redirectUri :: valuesOf "redirect_uri" p.extraParams.entries

/-- A token request and a consent page carry the same address to come back to. -/
theorem sharesRedirect_of_requests {p : Provider} {code state : String} {r : TokenRequest} {u : Uri}
    (hr : p.tokenRequest code = .ok r) (hu : p.authorizationUrl state = .ok u) :
    SharesRedirect p r u := by
  obtain ⟨path, endpoint, clientId, redirectUri, hpath, _, ⟨hredirect, _⟩, rfl⟩ :=
    authorizationUrl_eq_ok.mp hu
  obtain ⟨_, _, hform⟩ := form_eq_of_tokenRequest hr
  refine ⟨redirectUri, endpoint, (nonBlank?_eq_some.mp hredirect).1,
    requireUri_eq_ok.mpr ⟨path, hpath⟩, ?_, ?_⟩
  · rw [hform, valuesOf_exchangeForm, hredirect]
    rfl
  · rw [Uri.queryPairs_appendPairs, valuesOf_append, valuesOf_consentParams]

/-- A token request is made exactly when the endpoint, the client id and the redirect URI allow it.
It carries the code and the configured texts, and its redirect URI is that of every consent URL. -/
theorem tokenRequest_carries_configured (p : Provider) (code : String) :
    ((∃ r, p.tokenRequest code = .ok r) ↔
        p.HoldsUri .tokenPath ∧ p.Holds .clientId ∧
          (p.Holds .redirectUri → p.HoldsUri .redirectUri)) ∧
      ∀ r, p.tokenRequest code = .ok r →
        CarriesExchange p code r ∧
          ∀ state u, p.authorizationUrl state = .ok u → SharesRedirect p r u := by
  refine ⟨exists_tokenRequest_iff, fun r hr => ⟨carriesExchange_of_tokenRequest hr, ?_⟩⟩
  intro state u hu
  exact sharesRedirect_of_requests hr hu

/-- A provider whose redirect URI parsing would change, and whose endpoint has one of its own. -/
def unnormalizedProvider : Provider where
  clientId := some "a&b"
  clientSecret := some "\t"
  redirectUri := some " HTTP://App.Example:80/%7e?q=ä "
  tokenPath := some "https://p.example/token"
  codePath := some "https://p.example/authorize?redirect_uri=own"

/-- The redirect URI is sent as it is configured, and a blank secret is not sent. -/
theorem tokenRequest_carries_configured_unnormalized :
    ∃ r u, unnormalizedProvider.tokenRequest "x y" = .ok r ∧
      unnormalizedProvider.authorizationUrl "s" = .ok u ∧
      r.form =
        [ ("grant_type", "authorization_code"), ("code", "x y"), ("client_id", "a&b"),
          ("redirect_uri", " HTTP://App.Example:80/%7e?q=ä ") ] ∧
      valuesOf "redirect_uri" u.queryPairs = ["own", " HTTP://App.Example:80/%7e?q=ä "] := by
  obtain ⟨hmade, hcarries⟩ := tokenRequest_carries_configured unnormalizedProvider "x y"
  obtain ⟨r, hr⟩ := hmade.mpr (by decide +kernel)
  have hurl : ∃ u, unnormalizedProvider.authorizationUrl "s" = .ok u :=
    exists_authorizationUrl_iff.mpr (by decide +kernel)
  obtain ⟨u, hu⟩ := hurl
  obtain ⟨⟨_, ⟨clientId, hid, hform⟩, _⟩, hshares⟩ := hcarries r hr
  obtain ⟨redirectUri, endpoint, hredirect, hendpoint, _, hvalues⟩ := hshares "s" u hu
  cases hid
  cases hredirect
  have hown : (unnormalizedProvider.requireUri .codePath).toOption.map
      (fun endpoint => valuesOf "redirect_uri" endpoint.queryPairs) = some ["own"] := by
    decide +kernel
  rw [hendpoint] at hown
  have hvalue : valuesOf "redirect_uri" endpoint.queryPairs = ["own"] := Option.some.inj hown
  rw [hvalue] at hvalues
  exact ⟨r, u, hr, hu, hform, hvalues⟩

end Provider

end GrantConfig
