import GrantConfig.Proofs.Entries
import GrantConfig.Provider.Preset
import Mathlib.Data.List.Induction

/-!
# The algebra of overlays

Laying one provider over another is associative and idempotent, and the provider that has nothing
configured leaves its base as it is. As a base that provider adds nothing either, but then blank
texts are unset and scopes are kept once. So a stack of providers gives the same result however its
layers are grouped, and a layer that is laid over the same base twice counts once.
-/

namespace GrantConfig.Provider

/-! ## Texts -/

/-- A text is picked unless it is blank. -/
theorem pick_eq (text base : Option String) : pick text base = (nonBlank? text).or base :=
  Option.orElse_eq_or

/-- What is not blank stays so. -/
theorem nonBlank?_nonBlank? (text : Option String) :
    nonBlank? (nonBlank? text) = nonBlank? text := by
  simp only [nonBlank?, Option.filter_filter, Bool.and_self]

/-- A picked text is blank where both texts are. -/
theorem nonBlank?_pick (text base : Option String) :
    nonBlank? (pick text base) = (nonBlank? text).or (nonBlank? base) := by
  rw [pick_eq]
  cases h : nonBlank? text with
  | none => rfl
  | some s =>
    have hagain := nonBlank?_nonBlank? text
    rw [h] at hagain
    exact hagain

/-- It does not matter in which groups texts are picked. -/
theorem pick_assoc (text middle base : Option String) :
    pick (pick text middle) base = pick text (pick middle base) := by
  rw [pick_eq, nonBlank?_pick, Option.or_assoc, pick_eq text, pick_eq middle]

/-- A text that is picked over itself stays what it is. -/
theorem pick_self (text : Option String) : pick text text = text := by
  rw [pick_eq, nonBlank?]
  cases text with
  | none => rfl
  | some s => cases h : Text.isBlank s <;> simp [Option.filter, h]

/-- Over nothing, a text is picked unless it is blank. -/
theorem pick_none (text : Option String) : pick text none = nonBlank? text := by
  rw [pick_eq, Option.or_none]

/-! ## Scopes -/

/-- Scopes may be added in two portions. -/
theorem appendScopes_append (base scopes more : List String) :
    appendScopes base (scopes ++ more) = appendScopes (appendScopes base scopes) more :=
  List.foldl_append

/-- A scope is added unless it is there. -/
theorem appendScopes_singleton (base : List String) (scope : String) :
    appendScopes base [scope] = if scope ∈ base then base else base ++ [scope] := rfl

/-- The scopes behind those of a base are there, and nothing else is. -/
theorem mem_appendScopes {base scopes : List String} {scope : String} :
    scope ∈ appendScopes base scopes ↔ scope ∈ base ∨ scope ∈ scopes := by
  induction scopes using List.reverseRecOn with
  | nil => simp [appendScopes]
  | append_singleton scopes last ih =>
    rw [appendScopes_append, appendScopes_singleton]
    split
    · next hmem =>
      rw [List.mem_append, ← or_assoc, ← ih, List.mem_singleton]
      exact (or_iff_left_of_imp fun heq => heq ▸ hmem).symm
    · rw [List.mem_append, ih, List.mem_append, or_assoc]

/-- Scopes that are all there add nothing. -/
theorem appendScopes_of_subset {base scopes : List String} (h : scopes ⊆ base) :
    appendScopes base scopes = base := by
  induction scopes with
  | nil => rfl
  | cons first rest ih =>
    have hrest := List.cons_subset.mp h
    rw [← List.singleton_append, appendScopes_append, appendScopes_singleton, if_pos hrest.1]
    exact ih hrest.2

/-- Behind nothing, each scope stays where it stands first. -/
theorem appendScopes_nil (scopes : List String) : appendScopes [] scopes = scopes.eraseDups := by
  induction scopes using List.reverseRecOn with
  | nil => rfl
  | append_singleton scopes last ih =>
    rw [appendScopes_append, ih, appendScopes_singleton, List.eraseDups_append]
    by_cases h : last ∈ scopes
    · simp [List.removeAll, h]
    · simp [List.removeAll, List.eraseDups_cons, h]

/-- Scopes behind scopes behind a base give the same in either grouping. -/
theorem appendScopes_assoc (base middle scopes : List String) :
    appendScopes base (appendScopes middle scopes) =
      appendScopes (appendScopes base middle) scopes := by
  induction scopes using List.reverseRecOn with
  | nil => rfl
  | append_singleton scopes last ih =>
    rw [appendScopes_append, appendScopes_singleton, appendScopes_append, ← ih]
    split
    · -- A scope of the middle is behind the base by then, so both sides skip it.
      next hmem =>
      rw [appendScopes_singleton, if_pos (mem_appendScopes.mpr (.inr hmem))]
    · exact appendScopes_append base (appendScopes middle scopes) [last]

/-! ## Providers -/

/-- A provider whose blank texts are unset and whose scopes stand where they stand first. -/
def normalized (p : Provider) : Provider where
  clientId := nonBlank? p.clientId
  clientSecret := nonBlank? p.clientSecret
  redirectUri := nonBlank? p.redirectUri
  tokenPath := nonBlank? p.tokenPath
  codePath := nonBlank? p.codePath
  userInfoPath := nonBlank? p.userInfoPath
  scopes := p.scopes.eraseDups
  extraParams := p.extraParams

/-- Three layers give the same in either grouping. -/
theorem overlay_overlay (p middle base : Provider) :
    (p.overlay middle).overlay base = p.overlay (middle.overlay base) := by
  simp only [overlay, pick_assoc, appendScopes_assoc, SortedMap.overlay_assoc]

/-- A provider laid over itself stays what it is. -/
theorem overlay_same (p : Provider) : p.overlay p = p := by
  simp only [overlay, pick_self, appendScopes_of_subset (List.Subset.refl _),
    SortedMap.overlay_self]

/-- An empty provider changes nothing. -/
theorem default_overlay (base : Provider) : overlay {} base = base := rfl

/-- Over an empty provider, a provider takes its normal form. -/
theorem overlay_default (p : Provider) : p.overlay {} = p.normalized := by
  simp only [overlay, normalized, pick_none, appendScopes_nil, SortedMap.overlay_empty]

/-- Providers that are laid over one another in some grouping. -/
inductive Layering where
  | single (p : Provider)
  | overlaid (upper lower : Layering)

namespace Layering

/-- The provider that a layering gives. -/
def result : Layering → Provider
  | single p => p
  | overlaid upper lower => upper.result.overlay lower.result

/-- The providers of a layering, the uppermost one first. -/
def providers : Layering → List Provider
  | single p => [p]
  | overlaid upper lower => upper.providers ++ lower.providers

/-- A provider laid over a layering is laid over one layer after the other. -/
theorem overlay_result (layers : Layering) (p : Provider) :
    p.overlay layers.result = layers.providers.foldl overlay p := by
  induction layers generalizing p with
  | single q => rfl
  | overlaid upper lower ihUpper ihLower =>
    rw [result, providers, List.foldl_append, ← ihUpper, ← ihLower, overlay_overlay]

/-- The grouping of a layering does not matter. -/
theorem result_eq_foldl (layers : Layering) :
    layers.result = layers.providers.foldl overlay {} := layers.overlay_result {}

end Layering

/-- Overlays are associative and idempotent; the provider with nothing configured is neutral on top,
and as a base it only normalizes. So neither the grouping of layers matters nor whether a layer is
laid over its base once more. -/
theorem overlay_regroups_and_absorbs :
    (∀ a b c : Provider, (a.overlay b).overlay c = a.overlay (b.overlay c)) ∧
      (∀ a : Provider, a.overlay a = a) ∧
      (∀ b : Provider, overlay {} b = b) ∧
      (∀ a : Provider, a.overlay {} = a.normalized) ∧
      (∀ l m : Layering, l.providers = m.providers → l.result = m.result) ∧
      ∀ a b : Provider, (a.overlay b).overlay b = a.overlay b ∧
        a.overlay (a.overlay b) = a.overlay b := by
  refine ⟨overlay_overlay, overlay_same, default_overlay, overlay_default, ?_, ?_⟩
  · intro l m h
    rw [l.result_eq_foldl, m.result_eq_foldl, h]
  · intro a b
    constructor
    · rw [overlay_overlay, overlay_same]
    · rw [← overlay_overlay, overlay_same]

end GrantConfig.Provider
