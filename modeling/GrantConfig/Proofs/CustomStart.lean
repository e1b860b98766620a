import GrantConfig.Proofs.Writes

/-!
# Variables that begin with something else

Another beginning may be asked for than the usual one. It is kept in the key paths, while the
providers are always looked for behind the same root key. So unless the other beginning is that root
key in some letter case, none of its variables is seen, and if it is, they work as usual.
-/

namespace GrantConfig

open Layer Unicode

namespace Layer.Environment

open Settings

/-- What may begin the names of variables: no two underscores in a row, none at the end, and none of
the characters that lead on in a path. Letters, digits and single underscores are such. -/
structure IsStart (start : String) : Prop where
  single : hasPair '_' start.toList = false
  last : start.toList.getLast? ≠ some '_'
  point : '.' ∉ start.toList
  bracket : '[' ∉ start.toList

/-- The default prefix is one of those that are considered. -/
theorem isStart_defaultStart : IsStart defaultStart :=
  ⟨by decide, by decide, by decide, by decide⟩

/-! ## Cutting and lowercase -/

/-- In front of a text, what has no underscore makes no pair of them. -/
theorem hasPair_append {image : List Char} (h : '_' ∉ image) (rest : List Char) :
    hasPair '_' (image ++ rest) = hasPair '_' rest := by
  induction image with
  | nil => rfl
  | cons c image ih =>
    rw [List.mem_cons, not_or] at h
    rw [List.cons_append, hasPair, ih h.2]
    simp [Ne.symm h.1]

/-- Lowercase begins with an underscore exactly when the text does. -/
theorem head?_lowercaseAfter (before cs : List Char) :
    (lowercaseAfter before cs).head? = some '_' ↔ cs.head? = some '_' := by
  cases cs with
  | nil => exact Iff.rfl
  | cons c rest =>
    obtain ⟨image, heq, hne, hself, hother⟩ := lowercaseAfter_cons before c rest
    obtain ⟨d, more, rfl⟩ := List.exists_cons_of_ne_nil hne
    rw [heq]
    by_cases hc : c = '_'
    · obtain ⟨rfl, _⟩ := List.cons.inj (hself hc)
      simp [hc]
    · have hd : d ≠ '_' := fun hd => hother hc (hd ▸ List.mem_cons_self)
      simp [hc, hd]

/-- In lowercase there are no further pairs of underscores. -/
theorem hasPair_lowercaseAfter (before cs : List Char) :
    hasPair '_' (lowercaseAfter before cs) = hasPair '_' cs := by
  induction cs generalizing before with
  | nil => rfl
  | cons c rest ih =>
    obtain ⟨image, heq, _, hself, hother⟩ := lowercaseAfter_cons before c rest
    rw [heq]
    by_cases hc : c = '_'
    · rw [hself hc, List.singleton_append, hasPair, hasPair, ih, hc]
      simp [head?_lowercaseAfter]
    · rw [hasPair_append (hother hc), ih, hasPair]
      simp [hc]

/-- No text ends in an underscore in lowercase only. -/
theorem getLast?_lowercaseAfter {before cs : List Char} (h : cs.getLast? ≠ some '_') :
    (lowercaseAfter before cs).getLast? ≠ some '_' := by
  induction cs generalizing before with
  | nil => exact h
  | cons c rest ih =>
    obtain ⟨image, heq, hne, _, hother⟩ := lowercaseAfter_cons before c rest
    rw [heq, List.getLast?_append]
    cases rest with
    | nil =>
      have hc : c ≠ '_' := fun hc => h (by rw [hc]; rfl)
      intro hlast
      exact hother hc (List.mem_of_getLast? hlast)
    | cons d rest =>
      rw [List.getLast?_cons_cons] at h
      obtain ⟨image', heq', hne', _⟩ := lowercaseAfter_cons (c :: before) d rest
      have hmore : lowercaseAfter (c :: before) (d :: rest) ≠ [] := by
        rw [heq']
        exact List.append_ne_nil_of_left_ne_nil hne' _
      rw [List.getLast?_eq_some_getLast hmore, Option.some_or, ← List.getLast?_eq_some_getLast hmore]
      exact ih h

variable {start : String}

/-- A beginning is one in lowercase as well. -/
theorem IsStart.lower (h : IsStart start) : IsStart (lowercase start) where
  single := by
    rw [lowercase, String.toList_ofList, hasPair_lowercaseAfter]
    exact h.single
  last := by
    rw [lowercase, String.toList_ofList]
    exact getLast?_lowercaseAfter h.last
  point hmem := h.point (mem_of_mem_lowercase (by decide) (.inl (by decide)) hmem)
  bracket hmem := h.bracket (mem_of_mem_lowercase (by decide) (.inr (by decide)) hmem)

/-! ## Variables that are not seen -/

/-- A variable leads behind the root key only when that begins it, in some letter case. -/
theorem IsStart.lowercase_ofKey_ne (h : IsStart start) (hne : lowercase start ≠ rootKey)
    {name : String} (hstart : hasStart start name = true) :
    lowercase (KeyPath.ofKey (keyPath name)).name ≠ rootKey := by
  have hlower := h.lower
  obtain ⟨rest, hrest⟩ := exists_keyPath_eq hlower.single hlower.last hstart
  rcases KeyPath.ofKey_cases hlower.point hlower.bracket hrest with hself | hpath
  · have hpoint : '.' ∈ (lowercase (keyPath name)).toList := by
      rw [lowercase, String.toList_ofList, hrest]
      exact point_mem_lowercaseAfter (List.mem_append_right _ List.mem_cons_self) _
    rw [hself]
    intro heq
    rw [heq] at hpoint
    exact absurd hpoint (by decide)
  · obtain ⟨hname, steps, _, hpath⟩ := hpath
    rw [hpath, lowercase_eq_of_isName hname fun c hc => toLower_of_mem_lowercase hc]
    exact hne

/-! ## Variables by what follows -/

/-- The name of a variable by what begins it and what follows. -/
def behind (start rest : String) : String := start ++ separator ++ rest

/-- A prefix and the rest of a name stand with two underscores between them. -/
theorem toList_behind (start rest : String) :
    (behind start rest).toList = start.toList ++ '_' :: '_' :: rest.toList := by
  simp [behind, separator]

/-- Variables are in the order of what follows. -/
theorem behind_lt_behind (start : String) {rest other : String} (h : rest < other) :
    behind start rest < behind start other := by
  rw [String.lt_iff] at h ⊢
  simp only [behind, String.toList_append]
  exact List.append_left_lt h

/-- What is put behind a prefix belongs to it. -/
theorem hasStart_behind (start rest : String) : hasStart start (behind start rest) = true := by
  have hstart := lowercase_append_pair start ""
  have hbehind := lowercase_append_pair start rest
  rw [String.append_empty] at hstart
  rw [hasStart, List.isPrefixOf_iff_prefix]
  refine ⟨(lowercase rest).toList, ?_⟩
  rw [behind, separator, hstart, hbehind, List.append_assoc]
  rfl

/-- What follows in a variable, with hyphens in the part that names a field. -/
def normalizeRest (rest : String) : String :=
  String.ofList <|
    List.intercalate separator.toList ((parts rest.toList).modify (fieldPart - 1) hyphenated)

/-- What begins a variable is a part of its own, and no field. -/
theorem IsStart.normalizeName_behind (h : IsStart start) (rest : String) :
    normalizeName (behind start rest) = behind start (normalizeRest rest) := by
  have hne : (parts rest.toList).modify (fieldPart - 1) hyphenated ≠ [] := by
    rw [ne_eq, ← List.length_eq_zero_iff, List.length_modify, List.length_eq_zero_iff]
    exact parts_ne_nil _
  obtain ⟨second, more, hparts⟩ := List.exists_cons_of_ne_nil hne
  have hmodify : (start.toList :: parts rest.toList).modify fieldPart hyphenated =
      start.toList :: (parts rest.toList).modify (fieldPart - 1) hyphenated := rfl
  rw [← String.toList_inj, normalizeName, String.toList_ofList, toList_behind, toList_behind,
    parts_append h.single h.last, hmodify, normalizeRest, String.toList_ofList, hparts,
    List.intercalate_cons_cons, List.append_assoc]
  rfl

/-- What begins a variable stands before its key path in lowercase. -/
theorem IsStart.keyPath_behind (h : IsStart start) (rest : String) :
    keyPath (behind start rest) = lowercase start ++ "." ++ keyPath rest := by
  obtain ⟨second, more, hparts⟩ :=
    List.exists_cons_of_ne_nil (parts_ne_nil (lowercase rest).toList)
  have hbehind : (keyPath (behind start rest)).toList =
      (lowercase start).toList ++ ['.'] ++ (keyPath rest).toList := by
    rw [keyPath, String.toList_ofList, behind, separator, lowercase_append_pair,
      parts_append h.lower.single h.lower.last, keyPath, String.toList_ofList, hparts,
      List.intercalate_cons_cons]
  rw [← String.toList_inj, hbehind, String.toList_append, String.toList_append]
  rfl

/-- Variables that all begin with the same are all kept. -/
theorem rekeyed_behind {α β : Type} {m : SortedMap α} {given : List (String × α)}
    (h : m.entries = given.map fun entry => (behind start entry.1, entry.2)) (f : String → String)
    (g : α → β) :
    m.rekeyed (hasStart start) f g =
      given.map fun entry => (f (behind start entry.1), g entry.2) := by
  have hkept : ∀ entry ∈ m.entries, hasStart start entry.1 = true := by
    intro entry hentry
    rw [h] at hentry
    obtain ⟨_, _, rfl⟩ := List.mem_map.mp hentry
    exact hasStart_behind start _
  rw [SortedMap.rekeyed, List.filter_eq_self.mpr hkept, h, List.map_map]
  rfl

/-- Variables by what follows, each with its value. -/
def variablesBehind (start : String) (given : List (String × String)) : SortedMap String :=
  SortedMap.ofList (given.map fun entry => (behind start entry.1, entry.2))

/-- The source only depends on what begins the variables in lowercase, and on what follows. -/
theorem IsStart.source_variablesBehind (h : IsStart start) (given : List (String × String)) :
    source start (variablesBehind start given) =
      insertEach []
        ((insertEach [] ((insertEach [] given).map fun entry => (normalizeRest entry.1, entry.2))).map
          fun entry => (lowercase start ++ "." ++ keyPath entry.1, written entry.2)) := by
  have hentries : (variablesBehind start given).entries =
      (insertEach [] given).map fun entry => (behind start entry.1, entry.2) := by
    rw [variablesBehind, SortedMap.entries_ofList, map_insertEach fun _ _ => behind_lt_behind start]
    rfl
  have hnormal : (normalize start (variablesBehind start given)).entries =
      (insertEach [] ((insertEach [] given).map fun entry => (normalizeRest entry.1, entry.2))).map
        fun entry => (behind start entry.1, entry.2) := by
    rw [entries_normalize, rekeyed_behind hentries, map_insertEach fun _ _ => behind_lt_behind start,
      List.map_map]
    simp only [h.normalizeName_behind]
    rfl
  rw [source_eq, rekeyed_behind hnormal]
  simp only [h.keyPath_behind]

end Layer.Environment

namespace Settings

open Environment

variable {start : String}

/-- No variable that begins with something else than the root key changes the section. -/
theorem section?_merged_of_ne (h : IsStart start) (hne : lowercase start ≠ rootKey)
    (documents : List Entries) (vars : SortedMap String) :
    (section? (merged documents start vars)) = section? (mergeSources documents) := by
  refine section?_congr ?_
  have hstays : ∀ entry ∈ source start vars, ∀ v, assignBelow v entry = v := by
    intro entry hentry v
    obtain ⟨var, _, _, hstart, rfl⟩ := exists_of_mem_source hentry
    have hname := h.lowercase_ofKey_ne hne hstart
    simp only [assignBelow, if_neg hname]
  rw [merged_eq, lookup_mergeSource leaf_of_mem_source,
    List.foldl_ext _ (fun v _ => v) _ fun v entry hentry => hstays entry hentry v,
    List.foldl_fixed]

/-- Such variables are as good as none. -/
theorem load_eq_of_ne (h : IsStart start) (hne : lowercase start ≠ rootKey) (files : Files)
    (sources : List Source) (vars : SortedMap String) :
    load files sources start vars = load files sources defaultStart ∅ := by
  refine load_congr (fun documents => ?_) files sources
  have hsource : source defaultStart ∅ = [] := rfl
  rw [section?_merged_of_ne h hne, merged_eq, hsource]
  rfl

/-- A value for a field of a provider. -/
structure FieldValue where
  name : String
  field : Provider.Field
  value : String

/-- The variables of values for fields, when `start` begins their names. -/
def fieldVariables (start : String) (given : List FieldValue) : SortedMap String :=
  SortedMap.ofList (given.map fun v => (variableName start v.name v.field, v.value))

/-- The variables of fields are put behind the prefix. -/
theorem fieldVariables_eq (start : String) (given : List FieldValue) :
    fieldVariables start given = variablesBehind start (given.map fun v =>
      ("PROVIDERS" ++ separator ++ v.name ++ separator ++
        String.ofList (v.field.snakeKey.toList.map Char.toUpper), v.value)) := by
  rw [fieldVariables, variablesBehind, List.map_map]
  refine congrArg _ (List.map_congr_left fun v _ => Prod.ext ?_ rfl)
  simp only [variableName, behind, Function.comp_apply, String.append_assoc]

/-- The letter case of what begins variables does not matter. -/
theorem source_fieldVariables_congr {start start' : String} (h : IsStart start)
    (h' : IsStart start') (hlower : lowercase start = lowercase start') (given : List FieldValue) :
    source start (fieldVariables start given) = source start' (fieldVariables start' given) := by
  rw [fieldVariables_eq, fieldVariables_eq, h.source_variablesBehind, h'.source_variablesBehind,
    hlower]

/-- A client id of a provider. -/
def kakaoId : FieldValue := ⟨"KAKAO", .clientId, "from-env"⟩

/-- With the default prefix, the variable configures its provider. -/
theorem names_load_kakaoId :
    (load ∅ [] defaultStart (fieldVariables defaultStart [kakaoId])).value.toOption.map
      Settings.names = some ["kakao"] := by
  decide +kernel

/-- Variables that begin with something else are as good as none, unless it is the root key in some
letter case. Only then does everything load as with the usual beginning. -/
theorem custom_start_seen_iff (h : IsStart start) :
    (lowercase start ≠ rootKey → ∀ files sources vars,
      load files sources start vars = load files sources defaultStart ∅) ∧
    ((∀ files sources given, load files sources start (fieldVariables start given) =
        load files sources defaultStart (fieldVariables defaultStart given)) ↔
      lowercase start = rootKey) := by
  refine ⟨fun hne files sources vars => load_eq_of_ne h hne files sources vars, ?_, ?_⟩
  · intro halike
    by_contra hne
    have hload := (load_eq_of_ne h hne ∅ [] _).symm.trans (halike ∅ [] [kakaoId])
    have hnone : (load ∅ [] defaultStart ∅).value.toOption.map Settings.names = some [] := rfl
    rw [hload, names_load_kakaoId] at hnone
    cases hnone
  · intro hroot files sources given
    refine load_congr (fun documents => ?_) files sources
    have hdefault : lowercase defaultStart = rootKey := by decide
    rw [merged_eq, merged_eq,
      source_fieldVariables_congr h isStart_defaultStart (hroot.trans hdefault.symm)]

/-- The prefix of the example is one of those that are considered. -/
theorem isStart_app : IsStart "APP" := ⟨by decide, by decide, by decide, by decide⟩

/-- A name of its own hides all variables. -/
theorem custom_start_seen_iff_app :
    IsStart "APP" ∧
      (∀ files sources vars, load files sources "APP" vars = load files sources defaultStart ∅) ∧
      ∃ files sources given, load files sources "APP" (fieldVariables "APP" given) ≠
        load files sources defaultStart (fieldVariables defaultStart given) := by
  have hne : lowercase "APP" ≠ rootKey := by decide
  obtain ⟨hunseen, halike⟩ := custom_start_seen_iff isStart_app
  refine ⟨isStart_app, hunseen hne, ?_⟩
  by_contra hnone
  simp only [not_exists, not_not] at hnone
  exact hne (halike.mp hnone)

/-- A text that gives a provider another client id. -/
def fileIdSource : Source := .text "[oauth.providers.kakao]\nclient-id = \"file\"\n" .toml

/-- The client id of a provider after loading. -/
def loadedId? (loaded : Logged (Except ConfigError Settings)) (name : String) : Option String :=
  loaded.value.toOption.bind fun s => (s.provider? name).bind (·.clientId)

/-- The variable overrides the text when it begins as usual, and otherwise it is dropped. -/
theorem custom_start_drops_variable :
    IsStart "APP" ∧
      loadedId? (load ∅ [fileIdSource] defaultStart (fieldVariables defaultStart [kakaoId]))
        "kakao" = some "from-env" ∧
      loadedId? (load ∅ [fileIdSource] "APP" (fieldVariables "APP" [kakaoId])) "kakao" =
        some "file" := by
  refine ⟨isStart_app, ?_, ?_⟩ <;> decide +kernel

end Settings

end GrantConfig
