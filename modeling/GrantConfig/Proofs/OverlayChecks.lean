import GrantConfig.Proofs.Overlay
import GrantConfig.Proofs.Requests

/-!
# Checks and requests of an overlay

A field of an overlay is missing where it is missing in both layers, and its secret can be used
where that of a layer can. So a valid provider stays valid over every base, whatever the base holds,
and its requests stay the same but for a secret that it lacks and the base has.
-/

namespace GrantConfig.Provider

variable {p : Provider} {field : Field}

/-! ## What an overlay keeps -/

/-- A text of the result is picked from both sides. -/
theorem text?_overlay (p base : Provider) (field : Field) :
    (p.overlay base).text? field = pick (p.text? field) (base.text? field) := by
  cases field <;> rfl

/-- A text of an overlay is blank only where both texts are. -/
theorem nonBlank?_text?_overlay (p base : Provider) (field : Field) :
    nonBlank? ((p.overlay base).text? field) =
      (nonBlank? (p.text? field)).or (nonBlank? (base.text? field)) := by
  rw [text?_overlay, nonBlank?_pick]

/-- A text that is not blank is that of the overlay as well. -/
theorem Holds.nonBlank?_overlay (h : p.Holds field) (base : Provider) :
    nonBlank? ((p.overlay base).text? field) = nonBlank? (p.text? field) := by
  obtain ⟨value, hvalue⟩ := h
  rw [nonBlank?_text?_overlay, hvalue, Option.some_or]

/-- A field of an overlay holds a text where a field of either layer does. -/
theorem holds_overlay_iff {base : Provider} :
    (p.overlay base).Holds field ↔ p.Holds field ∨ base.Holds field := by
  simp only [Holds, ← Option.isSome_iff_exists, nonBlank?_text?_overlay, Option.isSome_or,
    Bool.or_eq_true]

/-- A field of an overlay holds a URI where that of the upper layer does, or where nothing but
blanks hides that of the base. -/
theorem holdsUri_overlay_iff {base : Provider} :
    (p.overlay base).HoldsUri field ↔
      p.HoldsUri field ∨ ¬p.Holds field ∧ base.HoldsUri field := by
  rw [not_holds_iff]
  simp only [HoldsUri, nonBlank?_text?_overlay]
  cases nonBlank? (p.text? field) with
  | none => simp
  | some value => simp

/-- What a provider holds it still holds over another one. -/
theorem Holds.overlay (h : p.Holds field) (base : Provider) : (p.overlay base).Holds field :=
  holds_overlay_iff.mpr (.inl h)

/-- So it is with a well-formed address. -/
theorem HoldsUri.overlay (h : p.HoldsUri field) (base : Provider) :
    (p.overlay base).HoldsUri field :=
  holdsUri_overlay_iff.mpr (.inl h)

/-! ## Missing fields -/

/-- A field is missing exactly when it is required and blank. -/
theorem mem_missingFields :
    field ∈ p.missingFields ↔ field ∈ Field.required ∧ nonBlank? (p.text? field) = none := by
  rw [missingFields, List.mem_filter, Option.isNone_iff_eq_none]

/-- What an overlay lacks is what both layers lack. -/
theorem mem_missingFields_overlay (p base : Provider) :
    field ∈ (p.overlay base).missingFields ↔
      field ∈ p.missingFields ∧ field ∈ base.missingFields := by
  simp only [mem_missingFields, nonBlank?_text?_overlay, Option.or_eq_none_iff]
  constructor
  · intro h
    exact ⟨⟨h.1, h.2.1⟩, ⟨h.1, h.2.2⟩⟩
  · intro h
    exact ⟨h.1.1, h.1.2, h.2.2⟩

/-- Missing fields stand in the order of their declaration. -/
theorem missingFields_eq_filter (p : Provider) :
    p.missingFields = Field.all.filter fun field => field ∈ p.missingFields := by
  -- Missing fields are picked from the required ones, which are picked from all fields in order.
  have hrequired : Field.required = Field.all.filter fun field => field ∈ Field.required := by
    decide
  conv_lhs => rw [missingFields, hrequired, List.filter_filter]
  refine List.filter_congr fun field _ => ?_
  rw [Bool.eq_iff_iff, Bool.and_eq_true, decide_eq_true_eq, decide_eq_true_eq, mem_missingFields,
    Option.isNone_iff_eq_none, and_comm]

/-! ## The secret -/

/-- The secret of an overlay that can be used is that of the upper layer, or else that of the base. -/
theorem usableSecret?_overlay (p base : Provider) :
    (p.overlay base).usableSecret? = p.usableSecret?.or base.usableSecret? :=
  nonBlank?_pick _ _

/-- The result has a secret when one of the two has. -/
theorem hasClientSecret_overlay (p base : Provider) :
    (p.overlay base).hasClientSecret = (p.hasClientSecret || base.hasClientSecret) := by
  rw [hasClientSecret, usableSecret?_overlay, Option.isSome_or]
  rfl

/-- A provider keeps a secret of its own. -/
theorem clientSecret_overlay (h : p.hasClientSecret = true) (base : Provider) :
    (p.overlay base).clientSecret = p.clientSecret := by
  obtain ⟨secret, hsecret⟩ := Option.isSome_iff_exists.mp h
  rw [usableSecret?] at hsecret
  have hpick : (p.overlay base).clientSecret = (nonBlank? p.clientSecret).or base.clientSecret :=
    pick_eq _ _
  rw [hpick, hsecret, Option.some_or, (nonBlank?_eq_some.mp hsecret).1]

/-! ## Validation and requests -/

/-- A valid provider is valid over every base. -/
theorem validate_overlay (h : p.validate = .ok ()) (base : Provider) :
    (p.overlay base).validate = .ok () := by
  rw [validate_eq_ok] at h ⊢
  exact ⟨h.1.overlay base, fun field hfield => (h.2 field hfield).overlay base⟩

/-- What a provider holds is required with the same result. -/
theorem require_overlay (h : p.Holds field) (base : Provider) :
    (p.overlay base).require field = p.require field := by
  rw [require, require, h.nonBlank?_overlay base]

/-- So is an address that it holds. -/
theorem requireUri_overlay (h : p.Holds field) (base : Provider) :
    (p.overlay base).requireUri field = p.requireUri field := by
  rw [requireUri, requireUri, require_overlay h]

/-- So is the request for the user's profile. -/
theorem userInfoRequest_overlay (h : p.Holds .userInfoPath) (base : Provider) (token : String) :
    (p.overlay base).userInfoRequest token = p.userInfoRequest token := by
  rw [userInfoRequest, userInfoRequest, requireUri_overlay h]

/-- All that the exchange of a code takes from a valid provider besides its secret is kept. -/
theorem exchangeParts_overlay (htoken : p.Holds .tokenPath) (hid : p.Holds .clientId)
    (hredirect : p.Holds .redirectUri) (base : Provider) :
    (p.overlay base).exchangeParts = p.exchangeParts := by
  have huri : nonBlank? (p.overlay base).redirectUri = nonBlank? p.redirectUri :=
    hredirect.nonBlank?_overlay base
  rw [exchangeParts, exchangeParts, requireUri_overlay htoken, require_overlay hid, huri]

/-- A valid provider has all parts of the token request. -/
theorem exists_exchangeParts (h : p.validate = .ok ()) : ∃ parts, p.exchangeParts = .ok parts := by
  obtain ⟨hid, huris⟩ := validate_eq_ok.mp h
  have hrequest : ∃ r, p.tokenRequest "" = .ok r := by
    refine exists_tokenRequest_iff.mpr ⟨huris .tokenPath (by decide), hid, fun _ => ?_⟩
    exact huris .redirectUri (by decide)
  obtain ⟨r, hr⟩ := hrequest
  rw [tokenRequest_eq] at hr
  obtain ⟨parts, hparts, _⟩ := map_eq_ok.mp hr
  exact ⟨parts, hparts⟩

/-- Overlays fit together with the checks: what is missing in both layers is missing, a secret that
either layer can use can be used, and a valid provider stays valid with the same requests, but for
the secret of the base where it has none to use itself. -/
theorem overlay_fits_checks (p base : Provider) :
    (p.overlay base).missingFields =
        Field.all.filter (fun field => field ∈ p.missingFields ∧ field ∈ base.missingFields) ∧
      ((p.overlay base).hasClientSecret = true ↔
        p.hasClientSecret = true ∨ base.hasClientSecret = true) ∧
      (p.hasClientSecret = true → (p.overlay base).clientSecret = p.clientSecret) ∧
      (p.validate = .ok () →
        (p.overlay base).validate = .ok () ∧
        (∀ token, (p.overlay base).userInfoRequest token = p.userInfoRequest token) ∧
        ∀ code, ∃ parts : ExchangeParts,
          p.tokenRequest code = .ok (parts.request p.usableSecret? code) ∧
          (p.overlay base).tokenRequest code =
            .ok (parts.request (p.usableSecret?.or base.usableSecret?) code)) := by
  refine ⟨?_, ?_, fun h => clientSecret_overlay h base, fun h => ⟨validate_overlay h base, ?_, ?_⟩⟩
  · rw [missingFields_eq_filter]
    simp only [mem_missingFields_overlay]
  · rw [hasClientSecret_overlay, Bool.or_eq_true]
  · obtain ⟨_, huris⟩ := validate_eq_ok.mp h
    exact userInfoRequest_overlay (huris .userInfoPath (by decide)).holds base
  · intro code
    obtain ⟨hid, huris⟩ := validate_eq_ok.mp h
    obtain ⟨parts, hparts⟩ := exists_exchangeParts h
    have hkept := exchangeParts_overlay (huris .tokenPath (by decide)).holds hid
      (huris .redirectUri (by decide)).holds base
    refine ⟨parts, ?_, ?_⟩
    · rw [tokenRequest_eq, hparts]
      rfl
    · rw [tokenRequest_eq, hkept, hparts, usableSecret?_overlay]
      rfl

/-- A valid provider with a blank secret. -/
def blankSecretProvider : Provider where
  clientId := some "a"
  clientSecret := some " "
  redirectUri := some "https://app.example/cb"
  tokenPath := some "https://p.example/token"
  codePath := some "https://p.example/authorize"
  userInfoPath := some "https://p.example/me"

/-- A base that has a secret and whose URIs are none. -/
def garbledBase : Provider where
  clientId := some "b"
  clientSecret := some "s"
  redirectUri := some "localhost"
  tokenPath := some "/token"

/-- Over a base without a single good URI only the secret comes in, and the base keeps its own over
the provider. -/
theorem overlay_fits_checks_garbled :
    blankSecretProvider.validate = .ok () ∧
      (blankSecretProvider.overlay garbledBase).validate = .ok () ∧
      (blankSecretProvider.overlay garbledBase).userInfoRequest "t" =
        blankSecretProvider.userInfoRequest "t" ∧
      (∃ parts : ExchangeParts,
        blankSecretProvider.tokenRequest "x" = .ok (parts.request none "x") ∧
        (blankSecretProvider.overlay garbledBase).tokenRequest "x" =
          .ok (parts.request (some "s") "x")) ∧
      garbledBase.hasClientSecret = true ∧
      (garbledBase.overlay blankSecretProvider).clientSecret = some "s" := by
  have hvalid : blankSecretProvider.validate = .ok () := eq_ok_of_toOption (by decide +kernel)
  have hsecret : garbledBase.hasClientSecret = true := by decide
  obtain ⟨_, _, _, hkept⟩ := overlay_fits_checks blankSecretProvider garbledBase
  obtain ⟨_, _, hown, _⟩ := overlay_fits_checks garbledBase blankSecretProvider
  obtain ⟨hoverlaid, hprofile, hexchange⟩ := hkept hvalid
  exact ⟨hvalid, hoverlaid, hprofile "t", hexchange "x", hsecret, hown hsecret⟩

end GrantConfig.Provider
