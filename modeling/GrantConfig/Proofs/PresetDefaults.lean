import GrantConfig.Proofs.OverlayChecks

/-!
# What a preset leaves to configure

A preset knows the endpoints of its provider and nothing of the client. So what can still be missing
under a preset is the client id and the redirect URI, and besides these two only an endpoint that
somebody has configured to be something else than a URI can be wrong.
-/

namespace GrantConfig

namespace Provider

/-- The fields that hold the endpoints of a provider, in order. -/
def Field.endpoints : List Field := [tokenPath, codePath, userInfoPath]

/-- The required fields are those of the client and the endpoints. -/
theorem Field.required_eq : required = [clientId, redirectUri] ++ endpoints := rfl

/-- The addresses are the one to come back to and the endpoints. -/
theorem Field.uris_eq : uris = redirectUri :: endpoints := rfl

end Provider

open Provider

namespace Preset

/-- Every endpoint that a preset knows is an absolute URI with a host. -/
theorem holdsUri_defaults (preset : Preset) :
    ∀ field ∈ Field.endpoints, preset.defaults.HoldsUri field := by
  cases preset <;> decide +kernel

/-- No preset knows anything of the client. -/
theorem not_holds_defaults (preset : Preset) :
    ∀ field ∈ [Field.clientId, .redirectUri], ¬preset.defaults.Holds field := by
  cases preset <;> decide

end Preset

namespace Provider

variable {p : Provider} {preset : Preset} {field : Field}

/-- What the client configures is all there is of it under a preset. -/
theorem holds_withPreset_client_iff (h : field ∈ [Field.clientId, .redirectUri]) :
    (p.withPreset preset).Holds field ↔ p.Holds field := by
  rw [withPreset, holds_overlay_iff]
  exact or_iff_left (preset.not_holds_defaults field h)

/-- A preset does not touch the address to come back to. -/
theorem holdsUri_withPreset_redirectUri_iff :
    (p.withPreset preset).HoldsUri .redirectUri ↔ p.HoldsUri .redirectUri := by
  have hnone := preset.not_holds_defaults .redirectUri (by decide)
  rw [withPreset, holdsUri_overlay_iff]
  exact or_iff_left fun h => hnone h.2.holds

/-- No endpoint is missing under a preset. -/
theorem holds_withPreset_endpoint (h : field ∈ Field.endpoints) :
    (p.withPreset preset).Holds field :=
  holds_overlay_iff.mpr (.inr (preset.holdsUri_defaults field h).holds)

/-- An endpoint is wrong under a preset only where it is configured and wrong. -/
theorem holdsUri_withPreset_endpoint_iff (h : field ∈ Field.endpoints) :
    (p.withPreset preset).HoldsUri field ↔ (p.Holds field → p.HoldsUri field) := by
  rw [withPreset, holdsUri_overlay_iff, and_iff_left (preset.holdsUri_defaults field h)]
  constructor
  · intro hor hset
    exact hor.resolve_right fun hunset => hunset hset
  · intro himp
    by_cases hset : p.Holds field
    · exact .inl (himp hset)
    · exact .inr hset

/-- With a preset, only fields of the client can be missing. -/
theorem missingFields_withPreset (p : Provider) (preset : Preset) :
    (p.withPreset preset).missingFields =
      [Field.clientId, .redirectUri].filter fun field => ¬p.Holds field := by
  have hendpoints :
      (Field.endpoints.filter fun field => ¬(p.withPreset preset).Holds field) = [] := by
    refine List.filter_eq_nil_iff.mpr fun field hfield => ?_
    simpa using holds_withPreset_endpoint hfield
  rw [missingFields_eq, Field.required_eq, List.filter_append, hendpoints, List.append_nil]
  refine List.filter_congr fun field hfield => ?_
  rw [decide_eq_decide, holds_withPreset_client_iff hfield]

/-- With a preset, a provider is valid exactly when its own fields are. -/
theorem validate_withPreset_iff :
    (p.withPreset preset).validate = .ok () ↔
      p.Holds .clientId ∧ p.HoldsUri .redirectUri ∧
        ∀ field ∈ Field.endpoints, p.Holds field → p.HoldsUri field := by
  rw [validate_eq_ok, Field.uris_eq, List.forall_mem_cons,
    holds_withPreset_client_iff (by decide), holdsUri_withPreset_redirectUri_iff]
  refine and_congr_right fun _ => and_congr_right fun _ => ?_
  exact forall₂_congr fun _ hfield => holdsUri_withPreset_endpoint_iff hfield

/-- Under a preset nothing but the client id and the redirect URI can be missing, and validity asks
for these two and for endpoints that are URIs as far as they are configured. So it is enough to
configure the two, and endpoints that become blank spoil nothing. -/
theorem withPreset_leaves_client_fields (p : Provider) (preset : Preset) :
    (p.withPreset preset).missingFields =
        [Field.clientId, .redirectUri].filter (fun field => ¬p.Holds field) ∧
      ((p.withPreset preset).validate = .ok () ↔
        p.Holds .clientId ∧ p.HoldsUri .redirectUri ∧
          ∀ field ∈ Field.endpoints, p.Holds field → p.HoldsUri field) ∧
      (p.Holds .clientId → p.HoldsUri .redirectUri → (∀ field ∈ Field.endpoints, ¬p.Holds field) →
        (p.withPreset preset).validate = .ok ()) ∧
      ∀ q : Provider,
        (∀ field ∈ [Field.clientId, .redirectUri], q.text? field = p.text? field) →
        (∀ field ∈ Field.endpoints, q.text? field = p.text? field ∨ ¬q.Holds field) →
        (p.withPreset preset).validate = .ok () → (q.withPreset preset).validate = .ok () := by
  refine ⟨missingFields_withPreset p preset, validate_withPreset_iff, ?_, ?_⟩
  · intro hid hredirect hblank
    refine validate_withPreset_iff.mpr ⟨hid, hredirect, fun field hfield hset => ?_⟩
    exact absurd hset (hblank field hfield)
  · intro q hclient hendpoints hvalid
    obtain ⟨hid, hredirect, huris⟩ := validate_withPreset_iff.mp hvalid
    refine validate_withPreset_iff.mpr ⟨?_, ?_, ?_⟩
    · rwa [Holds, hclient .clientId (by decide)]
    · rwa [HoldsUri, hclient .redirectUri (by decide)]
    · intro field hfield hset
      rcases hendpoints field hfield with hsame | hblank
      · rw [Holds, hsame] at hset
        rw [HoldsUri, hsame]
        exact huris field hfield hset
      · exact absurd hset hblank

/-- A provider with a client id, a redirect URI and blank endpoints. -/
def blankEndpointsProvider : Provider where
  clientId := some "a"
  redirectUri := some "https://app.example/cb"
  tokenPath := some ""
  codePath := some "\u3000 "

/-- Blank endpoints give way to those of a preset. One that is no URI does not, and neither does
a blank redirect URI. -/
theorem withPreset_leaves_client_fields_blank :
    (blankEndpointsProvider.withPreset .naver).validate = .ok () ∧
      ({ blankEndpointsProvider with userInfoPath := some "\n" }.withPreset .naver).validate =
        .ok () ∧
      ({ blankEndpointsProvider with codePath := some "authorize" }.withPreset .naver).validate ≠
        .ok () ∧
      ({ blankEndpointsProvider with redirectUri := some " " }.withPreset .google).missingFields =
        [.redirectUri] := by
  obtain ⟨_, _, hvalid, hblank⟩ := withPreset_leaves_client_fields blankEndpointsProvider .naver
  have hgiven := hvalid (by decide) (by decide +kernel) (by decide)
  refine ⟨hgiven, hblank _ (by decide) (by decide) hgiven, fun hok => ?_, ?_⟩
  · have huris := ((withPreset_leaves_client_fields _ _).2.1.mp hok).2.2
    exact absurd (huris .codePath (by decide) (by decide)) (by decide +kernel)
  · rw [(withPreset_leaves_client_fields _ _).1]
    decide

end Provider

end GrantConfig
