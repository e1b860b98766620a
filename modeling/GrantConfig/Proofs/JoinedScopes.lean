import GrantConfig.Proofs.FieldValues

/-!
# Scopes in one text

Scopes that are joined by a delimiter and split again are what they were exactly when none of them
is empty or holds a comma or white space, and it does not matter which delimiter joins them. The
scopes of any text are of this kind, so joining them and splitting once more changes nothing.
-/

namespace GrantConfig

namespace Scopes

/-- A scope that one text can hold beside others. -/
structure IsWord (scope : String) : Prop where
  ne_empty : scope ≠ ""
  comma_not_mem : ',' ∉ scope.toList
  not_space : ∀ c ∈ scope.toList, Text.isSpace c = false

/-- A word is a text that has characters, none of which separates. -/
theorem isWord_iff {scope : String} :
    IsWord scope ↔ scope ≠ "" ∧ ∀ c ∈ scope.toList, isSeparator c = false := by
  constructor
  · intro h
    refine ⟨h.ne_empty, fun c hc => ?_⟩
    have hcomma : c ≠ ',' := fun heq => h.comma_not_mem (heq ▸ hc)
    simp [isSeparator, hcomma, h.not_space c hc]
  · intro h
    obtain ⟨hne, hplain⟩ := h
    refine ⟨hne, fun hmem => ?_, fun c hc => ?_⟩
    · exact absurd (hplain ',' hmem) (by decide)
    · exact (Bool.or_eq_false_iff.mp (hplain c hc)).2

/-- A word has characters. -/
theorem IsWord.toList_isEmpty {scope : String} (h : IsWord scope) :
    scope.toList.isEmpty = false := by
  simpa using h.ne_empty

/-- Every delimiter is one character that separates scopes. -/
theorem exists_separator (delimiter : Delimiter) :
    ∃ c, delimiter.text.toList = [c] ∧ isSeparator c = true := by
  cases delimiter with
  | space => exact ⟨' ', by decide⟩
  | comma => exact ⟨',', by decide⟩

/-- To split scopes is to split at every separator and leave out what is empty. -/
theorem split_eq_splitOnP (s : String) :
    split s = ((s.toList.splitOnP isSeparator).filter fun piece => !piece.isEmpty).map
      String.ofList := by
  rw [split, Text.pieces_eq_splitOnP]

/-- A text without separators is a scope of its own. -/
theorem split_of_isWord {scope : String} (h : IsWord scope) : split scope = [scope] := by
  rw [split_eq_splitOnP, List.splitOnP_eq_singleton (isWord_iff.mp h).2]
  simp [h.toList_isEmpty]

/-- A scope in front of a delimiter is the first scope of the text. -/
theorem split_append {scope : String} (h : IsWord scope) (delimiter : Delimiter) (rest : String) :
    split (scope ++ delimiter.text ++ rest) = scope :: split rest := by
  obtain ⟨c, htext, hc⟩ := exists_separator delimiter
  have hlist : (scope ++ delimiter.text ++ rest).toList = scope.toList ++ c :: rest.toList := by
    rw [String.toList_append, String.toList_append, htext, List.append_assoc, List.singleton_append]
  rw [split_eq_splitOnP, hlist,
    List.splitOnP_append_cons_of_forall_mem (isWord_iff.mp h).2 c hc, split_eq_splitOnP,
    List.filter_cons_of_pos (by simp [h.toList_isEmpty]), List.map_cons, String.ofList_toList]

/-- Scopes of which one text can hold each are there again after joining and splitting. -/
theorem split_join (delimiter : Delimiter) {scopes : List String}
    (h : ∀ scope ∈ scopes, IsWord scope) :
    split (Text.join delimiter.text scopes) = scopes := by
  induction scopes with
  | nil => rfl
  | cons scope rest ih =>
    obtain ⟨hscope, hrest⟩ := List.forall_mem_cons.mp h
    rw [Text.join] at ih ⊢
    cases rest with
    | nil => rw [String.intercalate_singleton, split_of_isWord hscope]
    | cons next rest =>
      rw [String.intercalate_cons_cons, split_append hscope, ih hrest]

/-- No text has other scopes than words. -/
theorem isWord_of_mem_split {s scope : String} (h : scope ∈ split s) : IsWord scope := by
  obtain ⟨piece, hpiece, rfl⟩ := List.mem_map.mp h
  obtain ⟨hpieces, hne⟩ := List.mem_filter.mp hpiece
  rw [isWord_iff, String.toList_ofList]
  refine ⟨?_, Text.not_cut_of_mem_pieces hpieces⟩
  simpa using hne

/-- Scopes are read back from their joined text exactly when they are words. -/
theorem split_join_eq_self_iff {delimiter : Delimiter} {scopes : List String} :
    split (Text.join delimiter.text scopes) = scopes ↔ ∀ scope ∈ scopes, IsWord scope := by
  constructor
  · intro h scope hscope
    rw [← h] at hscope
    exact isWord_of_mem_split hscope
  · exact split_join delimiter

end Scopes

namespace Provider

open Scopes

/-- One text binds to the scopes that it is split into. -/
theorem bindAlone_string_eq_ok_iff {s : String} {scopes : List String} :
    Field.scopes.bindAlone (.string s) = .ok scopes ↔ split s = scopes := by
  rw [Field.bindAlone_eq]
  exact ⟨Except.ok.inj, congrArg Except.ok⟩

/-- Scopes bind from the text that joins them to what they were exactly when each of them is a word,
and those of any text are words that joining and binding keeps. -/
theorem joined_scopes_bind_back :
    (∀ (p : Provider) (delimiter : Delimiter),
      Field.scopes.bindAlone (.string (p.joinedScopes delimiter)) = .ok p.scopes ↔
        ∀ scope ∈ p.scopes, IsWord scope) ∧
      ∀ s : String, ∃ scopes : List String, Field.scopes.bindAlone (.string s) = .ok scopes ∧
        (∀ scope ∈ scopes, IsWord scope) ∧
        ∀ (p : Provider) (delimiter : Delimiter),
          Field.scopes.bindAlone (.string ({ p with scopes }.joinedScopes delimiter)) =
            .ok scopes := by
  constructor
  · intro p delimiter
    rw [bindAlone_string_eq_ok_iff]
    exact split_join_eq_self_iff
  · intro s
    have hwords : ∀ scope ∈ split s, IsWord scope := fun _ => isWord_of_mem_split
    refine ⟨split s, bindAlone_string_eq_ok_iff.mpr rfl, hwords, fun p delimiter => ?_⟩
    rw [bindAlone_string_eq_ok_iff]
    exact split_join delimiter hwords

/-- A no-break space ends a scope and a zero-width space does not. -/
example : split "a\u00a0b,,c\u200bd " = ["a", "b", "c\u200bd"] := by
  decide +kernel

end Provider

end GrantConfig
