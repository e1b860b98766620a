import GrantConfig.Proofs.FormEncoding
import GrantConfig.Proofs.Requests

/-!
# What a consent URL carries

Whoever reads the query of a consent URL finds the pairs that the endpoint had itself, then the
parameters of the request with their configured values, and nothing else. Every other component is
that of the endpoint. No value can therefore break out of its parameter, whatever characters it
holds.
-/

namespace GrantConfig

open Text

/-- A URI is an endpoint with the parameters of a consent request behind the pairs of its query. -/
structure CarriesConsent (p : Provider) (state : String) (endpoint u : Uri) : Prop where
  /-- The query reads as the pairs of the endpoint followed by the parameters. -/
  pairs : ∃ clientId redirectUri,
    p.clientId = some clientId ∧ p.redirectUri = some redirectUri ∧
    u.queryPairs =
      endpoint.queryPairs ++
        [ ("response_type", "code"), ("client_id", clientId), ("redirect_uri", redirectUri),
          ("state", state) ] ++
        (if p.scopes = [] then [] else [("scope", " ".intercalate p.scopes)]) ++
        p.extraParams.entries
  /-- The further parameters stand in the byte order of their names. -/
  byteOrder : p.extraParams.entries.Pairwise fun a b =>
    Utf8.encode a.1.toList < Utf8.encode b.1.toList
  scheme : u.scheme = endpoint.scheme
  username : u.username = endpoint.username
  password : u.password = endpoint.password
  host : u.host = endpoint.host
  port : u.port = endpoint.port
  path : u.path = endpoint.path
  fragment : u.fragment = endpoint.fragment

namespace Provider

/-- The names of a map ascend in byte order. -/
theorem pairwise_encode_lt {α : Type} (m : SortedMap α) :
    m.entries.Pairwise fun a b => Utf8.encode a.1.toList < Utf8.encode b.1.toList :=
  m.ascending.imp Utf8.encode_toList_lt

/-- Every consent URL is the configured endpoint with the configured parameters behind its query. -/
theorem authorizationUrl_carries (p : Provider) (state : String) (u : Uri)
    (h : p.authorizationUrl state = .ok u) :
    ∃ code endpoint, p.codePath = some code ∧ Uri.parse code = .ok endpoint ∧
      CarriesConsent p state endpoint u := by
  obtain ⟨code, endpoint, clientId, redirectUri, ⟨hcode, hparse⟩, hid, ⟨hredirect, _⟩, rfl⟩ :=
    authorizationUrl_eq_ok.mp h
  refine ⟨code, endpoint, (nonBlank?_eq_some.mp hcode).1, hparse, ?_⟩
  constructor
  case pairs =>
    refine ⟨clientId, redirectUri, (nonBlank?_eq_some.mp hid).1,
      (nonBlank?_eq_some.mp hredirect).1, ?_⟩
    rw [Uri.queryPairs_appendPairs, consentParams, joinedScopes]
    simp only [List.isEmpty_iff, List.append_assoc]
    rfl
  case byteOrder => exact pairwise_encode_lt p.extraParams
  all_goals rfl

/-- A provider whose values hold what separates the parts of a query. -/
def separatorsProvider : Provider where
  clientId := some "a&b=c"
  redirectUri := some "http://localhost:8080/cb?x=1"
  codePath := some "https://u@p.example/authorize?prompt=none&#top"
  scopes := ["profile", "e+m%20ail"]
  extraParams := SortedMap.ofList [("ü#", "ß &"), ("hd", "?")]

/-- The endpoint of `separatorsProvider` with its parameters. -/
def separatorsUrl : Uri where
  scheme := "https"
  username := "u"
  password := none
  host := .name "p.example"
  port := none
  path := "/authorize"
  query := some ("prompt=none&&response_type=code&client_id=a%26b%3Dc" ++
    "&redirect_uri=http%3A%2F%2Flocalhost%3A8080%2Fcb%3Fx%3D1&state=s%23%F0%9F%91%8D" ++
    "&scope=profile+e%2Bm%2520ail&hd=%3F&%C3%BC%23=%C3%9F+%26")
  fragment := some "top"

/-- Separators in values are carried like any other character. -/
theorem authorizationUrl_carries_separators :
    separatorsProvider.authorizationUrl "s#👍" = .ok separatorsUrl ∧
      ∃ code endpoint, separatorsProvider.codePath = some code ∧ Uri.parse code = .ok endpoint ∧
        CarriesConsent separatorsProvider "s#👍" endpoint separatorsUrl := by
  have hurl : separatorsProvider.authorizationUrl "s#👍" = .ok separatorsUrl :=
    eq_ok_of_toOption (by decide +kernel)
  exact ⟨hurl, authorizationUrl_carries _ _ _ hurl⟩

end Provider

end GrantConfig
